import Mathlib.Data.Nat.Digits.Lemmas
import UiMarkup.Reading

namespace UiMarkup

namespace Color

-- `c` is the digit `d`, in either letter case.
def IsHexDigit (c : Char) (d : Nat) : Prop :=
  d < 16 ∧ (c = d.digitChar ∨ c = d.digitChar.toUpper)

instance {c : Char} {d : Nat} : Decidable (IsHexDigit c d) :=
  inferInstanceAs (Decidable (_ ∧ _))

-- `s` is made of `count` digits, which spell `n`.
def Spells (s : String) (count n : Nat) : Prop :=
  ∃ ds, List.Forall₂ IsHexDigit s.toList ds ∧ ds.length = count ∧ Nat.ofDigits 16 ds.reverse = n

section Digits

variable {c : Char} {d n : Nat} {cs : List Char} {ds : List Nat}

theorem hexDigit?_of_isHexDigit (h : IsHexDigit c d) : hexDigit? c = some d := by
  have hlower : ∀ d < 16, hexDigit? d.digitChar = some d := by decide
  have hupper : ∀ d < 16, hexDigit? d.digitChar.toUpper = some d := by decide
  obtain ⟨hd, rfl | rfl⟩ := h
  · exact hlower d hd
  · exact hupper d hd

theorem isHexDigit_of_hexDigit? (h : hexDigit? c = some d) : IsHexDigit c d := by
  have hall : ∀ n < 128, ∀ d ∈ hexDigit? (Char.ofNat n), IsHexDigit (Char.ofNat n) d := by decide
  have hc : c.toNat < 128 := by
    by_contra hbeyond
    have hnot (x : Char) (hx : x.toNat < 128) : ¬c ≤ x := fun hle =>
      hbeyond (Nat.lt_of_le_of_lt (Char.le_def.mp hle) hx)
    simp [hexDigit?, hnot '9' (by decide), hnot 'f' (by decide), hnot 'F' (by decide)] at h
  simpa using hall c.toNat hc d (by simpa using h)

theorem hexDigit?_eq_some_iff : hexDigit? c = some d ↔ IsHexDigit c d :=
  ⟨isHexDigit_of_hexDigit?, hexDigit?_of_isHexDigit⟩

theorem mapM_hexDigit?_eq_some_iff :
    cs.mapM hexDigit? = some ds ↔ List.Forall₂ IsHexDigit cs ds := by
  induction cs generalizing ds
  case nil => simp [eq_comm]
  case cons c cs hi =>
    cases ds <;> simp [List.mapM_cons, Option.bind_eq_some_iff, hi, hexDigit?_eq_some_iff]

theorem hexValue_eq (ds : List Nat) : hexValue ds = Nat.ofDigits 16 ds.reverse := by
  simp [hexValue, Nat.ofDigits_eq_foldr, Nat.mul_comm, Nat.add_comm]

theorem lt_of_isHexDigit (h : List.Forall₂ IsHexDigit cs ds) : ∀ d ∈ ds, d < 16 := by
  induction h
  case nil => simp
  case cons hd _ hi => exact List.forall_mem_cons.mpr ⟨hd.1, hi⟩

theorem lt_of_spells {s : String} {count : Nat} (h : Spells s count n) : n < 16 ^ count := by
  obtain ⟨ds, hds, rfl, rfl⟩ := h
  have hlt : ∀ d ∈ ds.reverse, d < 16 := by simpa using lt_of_isHexDigit hds
  simpa using Nat.ofDigits_lt_base_pow_length (by decide) hlt

theorem exists_spells {count : Nat} (h : n < 16 ^ count) : ∃ s, Spells s count n := by
  induction count generalizing n
  case zero => exact ⟨"", [], .nil, rfl, (Nat.lt_one_iff.mp h).symm⟩
  case succ count hi =>
    have ⟨s, ds, hds, hlength, hn⟩ := hi (Nat.div_lt_of_lt_mul (Nat.pow_succ' ▸ h))
    have hdigit : IsHexDigit (n % 16).digitChar (n % 16) := ⟨Nat.mod_lt n (by decide), .inl rfl⟩
    refine ⟨s.push (n % 16).digitChar, ds ++ [n % 16], ?digits, by simp [hlength], ?number⟩
    case digits => simpa using List.rel_append hds (.cons hdigit .nil)
    case number => simp [Nat.ofDigits_cons, hn, Nat.mod_add_div]

end Digits

theorem parts_lt (c : Color) :
    c.red.toNat < 2 ^ 8 ∧ c.green.toNat < 2 ^ 8 ∧ c.blue.toNat < 2 ^ 8 :=
  ⟨c.red.toNat_lt, c.green.toNat_lt, c.blue.toNat_lt⟩

theorem toHex_ofHex {n : Nat} (h : n < 16 ^ 6) : (ofHex n).toHex = n := by
  simp only [toHex, ofHex, UInt8.toNat_ofNat']
  omega

theorem ofHex_toHex (c : Color) : ofHex c.toHex = c := by
  have ⟨hred, hgreen, hblue⟩ := c.parts_lt
  obtain ⟨red, green, blue⟩ := c
  simp only [ofHex, toHex, Color.mk.injEq, ← UInt8.toNat_inj, UInt8.toNat_ofNat'] at *
  omega

theorem toHex_lt (c : Color) : c.toHex < 16 ^ 6 := by
  have ⟨hred, hgreen, hblue⟩ := c.parts_lt
  unfold toHex
  omega

theorem ofHex_doubled {g b : Nat} (r : Nat) (hg : g < 16) (hb : b < 16) :
    ofHex (hexValue [r, r, g, g, b, b]) =
      ⟨.ofNat (r * 17), .ofNat (g * 17), .ofNat (b * 17)⟩ := by
  have hvalue : hexValue [r, r, g, g, b, b] = (r * 17 * 256 + g * 17) * 256 + b * 17 := by
    simp only [hexValue, List.foldl_cons, List.foldl_nil]
    omega
  have hupper : hexValue [r, r, g, g, b, b] / 256 = r * 17 * 256 + g * 17 := by omega
  have hred : hexValue [r, r, g, g, b, b] / 65536 = r * 17 := by omega
  rw [ofHex, hred, hupper, hvalue]
  simp only [Color.mk.injEq, ← UInt8.toNat_inj, UInt8.toNat_ofNat', true_and]
  omega

-- The same in machine words: parts are shifted into their places, and cut off or masked out.

def byte (w : BitVec 32) : UInt8 :=
  ⟨w.setWidth 8⟩

def ofWord (w : BitVec 32) : Color :=
  ⟨byte (w >>> 16), byte (w >>> 8), byte w⟩

def toWord (c : Color) : BitVec 32 :=
  c.red.toBitVec.setWidth 32 <<< 16 ||| c.green.toBitVec.setWidth 32 <<< 8 |||
    c.blue.toBitVec.setWidth 32

def doubled (w : BitVec 32) : UInt8 :=
  byte ((w &&& 0xf) * 0x11)

def ofShortWord (w : BitVec 32) : Color :=
  ⟨doubled (w >>> 8), doubled (w >>> 4), doubled w⟩

theorem toNat_byte (w : BitVec 32) : (byte w).toNat = w.toNat % 256 :=
  BitVec.toNat_setWidth ..

theorem doubled_eq {w : BitVec 32} {d : Nat} (hd : w.toNat % 16 = d) :
    doubled w = .ofNat (d * 17) := by
  have hmask : w.toNat &&& 15 = d := (Nat.and_two_pow_sub_one_eq_mod w.toNat 4).trans hd
  rw [← UInt8.toNat_inj, doubled, toNat_byte, BitVec.toNat_mul, BitVec.toNat_and]
  simp [hmask]

theorem ofWord_ofNat (n : Nat) : ofWord (.ofNat 32 n) = ofHex n := by
  simp only [ofWord, ofHex, Color.mk.injEq, ← UInt8.toNat_inj, UInt8.toNat_ofNat', toNat_byte,
    BitVec.toNat_ushiftRight, BitVec.toNat_ofNat, Nat.shiftRight_eq_div_pow]
  omega

theorem ofShortWord_ofNat {r g b : Nat} (hr : r < 16) (hg : g < 16) (hb : b < 16) :
    ofShortWord (.ofNat 32 (hexValue [r, g, b])) =
      ⟨.ofNat (r * 17), .ofNat (g * 17), .ofNat (b * 17)⟩ := by
  have hvalue : (BitVec.ofNat 32 (hexValue [r, g, b])).toNat = (r * 16 + g) * 16 + b := by
    simp only [hexValue, List.foldl_cons, List.foldl_nil, BitVec.toNat_ofNat]
    omega
  simp only [ofShortWord, Color.mk.injEq]
  refine ⟨doubled_eq ?_, doubled_eq ?_, doubled_eq ?_⟩
  all_goals
    simp only [BitVec.toNat_ushiftRight, Nat.shiftRight_eq_div_pow, hvalue]
    omega

theorem toNat_toWord (c : Color) : c.toWord.toNat = c.toHex := by
  have ⟨hred, hgreen, hblue⟩ := c.parts_lt
  have hupper : 2 ^ 16 * c.red.toNat ||| 2 ^ 8 * c.green.toNat =
      2 ^ 16 * c.red.toNat + 2 ^ 8 * c.green.toNat :=
    (Nat.two_pow_add_eq_or_of_lt (by omega) _).symm
  have hlower : 2 ^ 8 * (2 ^ 8 * c.red.toNat + c.green.toNat) ||| c.blue.toNat =
      2 ^ 8 * (2 ^ 8 * c.red.toNat + c.green.toNat) + c.blue.toNat :=
    (Nat.two_pow_add_eq_or_of_lt hblue _).symm
  have hword : c.toWord.toNat =
      2 ^ 16 * c.red.toNat ||| 2 ^ 8 * c.green.toNat ||| c.blue.toNat := by
    simp only [toWord, BitVec.toNat_or, BitVec.toNat_shiftLeft, BitVec.toNat_setWidth,
      UInt8.toNat_toBitVec, Nat.shiftLeft_eq]
    congr 1
    · congr 1 <;> omega
    · omega
  have hsum : 2 ^ 16 * c.red.toNat + 2 ^ 8 * c.green.toNat =
      2 ^ 8 * (2 ^ 8 * c.red.toNat + c.green.toNat) := by omega
  rw [hword, hupper, hsum, hlower, toHex]
  omega

section Reads

variable {s : String} {n : Nat} {c : Color}

theorem ofDigits?_of_six (h : Spells s 6 n) : ofDigits? s = some (ofHex n) := by
  obtain ⟨ds, hds, hlength, rfl⟩ := h
  rw [ofDigits?, mapM_hexDigit?_eq_some_iff.mpr hds, ← hexValue_eq]
  match ds, hlength with
  | [_, _, _, _, _, _], _ => rfl

theorem ofDigits?_of_three (h : Spells s 3 n) :
    ofDigits? s = some (ofShortWord (.ofNat 32 n)) := by
  obtain ⟨ds, hds, hlength, rfl⟩ := h
  rw [ofDigits?, mapM_hexDigit?_eq_some_iff.mpr hds, ← hexValue_eq]
  match ds, hlength with
  | [r, g, b], _ =>
    have hlt := lt_of_isHexDigit hds
    rw [ofShortWord_ofNat (hlt r (by simp)) (hlt g (by simp)) (hlt b (by simp))]

def IsLiteral (s : String) : Prop :=
  ∃ n, Spells s 3 n ∨ Spells s 6 n

theorem isLiteral_of_ofDigits? (h : ofDigits? s = some c) : IsLiteral s := by
  unfold ofDigits? at h
  split at h
  case h_1 hds => exact ⟨_, .inl ⟨_, mapM_hexDigit?_eq_some_iff.mp hds, rfl, rfl⟩⟩
  case h_2 hds => exact ⟨_, .inr ⟨_, mapM_hexDigit?_eq_some_iff.mp hds, rfl, rfl⟩⟩
  case h_3     => cases h

theorem isSome_ofDigits?_iff : (ofDigits? s).isSome ↔ IsLiteral s := by
  constructor
  case mp =>
    intro h
    exact isLiteral_of_ofDigits? (Option.eq_some_of_isSome h)
  case mpr =>
    rintro ⟨n, hthree | hsix⟩
    · rw [ofDigits?_of_three hthree, Option.isSome_some]
    · rw [ofDigits?_of_six hsix, Option.isSome_some]

theorem ofDigits?_doubled (x y z : Char) :
    ofDigits? (.ofList [x, y, z]) = ofDigits? (.ofList [x, x, y, y, z, z]) := by
  simp only [ofDigits?, String.toList_ofList, List.mapM_cons, List.mapM_nil]
  cases hx : hexDigit? x
  case none => rfl
  case some r =>
    cases hy : hexDigit? y
    case none => rfl
    case some g =>
      cases hz : hexDigit? z
      case none => rfl
      case some b =>
        have hg : g < 16 := (isHexDigit_of_hexDigit? hy).1
        have hb : b < 16 := (isHexDigit_of_hexDigit? hz).1
        exact congrArg some (ofHex_doubled r hg hb).symm

-- A way to read colours off hexadecimal digits.
structure ReadsHex (read : String → Option Color) : Prop where
  accepts : ∀ s, (read s).isSome ↔ IsLiteral s
  number  : ∀ s n, Spells s 6 n → (read s).map toHex = some n
  doubles : ∀ x y z, read (.ofList [x, y, z]) = read (.ofList [x, x, y, y, z, z])

theorem readsHex_ofDigits? : ReadsHex ofDigits? where
  accepts _      := isSome_ofDigits?_iff
  number  _ _ hn := by rw [ofDigits?_of_six hn, Option.map_some, toHex_ofHex (lt_of_spells hn)]
  doubles        := ofDigits?_doubled

end Reads

end Color

namespace Reading

open Color (Spells IsLiteral ReadsHex)

def marks : List String :=
  ["#", "0x", "0X"]

theorem named?_mark {mark : String} (hm : mark ∈ marks) (s : String) :
    Color.named? (mark ++ s) = none := by
  have hpalette : ∀ e ∈ Color.palette, ∀ mark ∈ marks, ¬mark.toList <+: e.1.toList := by decide
  refine Assoc.get?_of_forall_ne fun e he heq => hpalette e he mark hm ?_
  rw [heq, String.toList_append]
  exact List.prefix_append ..

theorem colorDigits_mark {mark : String} (hm : mark ∈ marks) (s : String) :
    colorDigits (mark ++ s) = s := by
  simp only [marks, List.mem_cons, List.not_mem_nil, or_false] at hm
  rcases hm with rfl | rfl | rfl <;> simp [colorDigits, Text.after?, Text.after]

theorem color_mark {mark s : String} {c : Color} (hm : mark ∈ marks) (h : Spells s 6 c.toHex) :
    color (mark ++ s) = pure c := by
  rw [color, named?_mark hm, colorDigits_mark hm, Color.ofDigits?_of_six h, Color.ofHex_toHex]
  rfl

theorem isColorLiteral_iff {s : String} :
    isColorLiteral s ↔ ∃ t, s = "#" ++ t ∧ IsLiteral t := by
  simp only [← Color.isSome_ofDigits?_iff, isColorLiteral]
  constructor
  case mp =>
    intro h
    obtain ⟨c, hc⟩ := Option.isSome_iff_exists.mp h
    obtain ⟨t, ht, hread⟩ := Option.bind_eq_some_iff.mp hc
    exact ⟨t, Text.eq_append_of_after? ht, hread ▸ rfl⟩
  case mpr =>
    rintro ⟨t, rfl, ht⟩
    rwa [Text.after?_append, Option.bind_some]

theorem color_literals_read :
    ReadsHex Color.ofDigits? ∧
    (∀ s, isColorLiteral s ↔ ∃ t, s = "#" ++ t ∧ IsLiteral t) ∧
    (∀ c : Color, ∃ s, Spells s 6 c.toHex) ∧
    (∀ (c : Color) s, Spells s 6 c.toHex → ∀ mark ∈ marks, color (mark ++ s) = pure c) ∧
    (∀ s n, Spells s 6 n → Color.ofDigits? s = some (.ofWord (.ofNat 32 n))) ∧
    (∀ s n, Spells s 3 n → Color.ofDigits? s = some (.ofShortWord (.ofNat 32 n))) ∧
    ∀ c : Color, c.toWord.toNat = c.toHex := by
  refine ⟨Color.readsHex_ofDigits?, fun _ => isColorLiteral_iff,
    fun c => Color.exists_spells c.toHex_lt, fun _ _ h _ hm => color_mark hm h,
    fun s n h => ?_, fun _ _ => Color.ofDigits?_of_three, Color.toNat_toWord⟩
  rw [Color.ofDigits?_of_six h, Color.ofWord_ofNat]

theorem color_literals_read_orange :
    Spells "Ff8800" 6 (Color.toHex ⟨255, 136, 0⟩) ∧ Spells "f80" 3 0xf80 ∧
    (∃ mark ∈ marks, mark ++ "Ff8800" = "0XFf8800") ∧
    color "0XFf8800" = pure ⟨255, 136, 0⟩ ∧
    Color.ofDigits? "Ff8800" = some (.ofWord 0xff8800) ∧
    Color.ofDigits? "f80" = some (.ofShortWord 0xf80) := by
  have hsix : Spells "Ff8800" 6 (Color.toHex ⟨255, 136, 0⟩) :=
    ⟨[15, 15, 8, 8, 0, 0], by decide, rfl, by decide⟩
  have hthree : Spells "f80" 3 0xf80 := ⟨[15, 8, 0], by decide, rfl, by decide⟩
  have hmark : "0X" ∈ marks := by decide
  obtain ⟨-, -, -, hcolor, hword, hshort, -⟩ := color_literals_read
  exact ⟨hsix, hthree, ⟨"0X", hmark, rfl⟩, hcolor _ _ hsix _ hmark, hword _ _ hsix,
    hshort _ _ hthree⟩

end Reading

end UiMarkup
