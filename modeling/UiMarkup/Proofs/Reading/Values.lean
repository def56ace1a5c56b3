import UiMarkup.Proofs.Numeric.Saturation
import UiMarkup.Proofs.Reading.ColorLiterals

namespace UiMarkup

namespace Color

inductive IsWritten : String → Color → Prop
  | six {s : String} {c : Color} (h : Spells s 6 c.toHex) : IsWritten s c
  | three {x y z : Char} {c : Color} (h : Spells (.ofList [x, x, y, y, z, z]) 6 c.toHex) :
    IsWritten (.ofList [x, y, z]) c

variable {s : String} {c : Color} {count n : Nat}

theorem length_of_spells (h : Spells s count n) : s.toList.length = count := by
  obtain ⟨ds, hds, hlength, -⟩ := h
  exact hds.length_eq.trans hlength

theorem spells_of_ofDigits? (h : ofDigits? s = some c) (hs : s.toList.length = 6) :
    Spells s 6 c.toHex := by
  obtain ⟨n, hthree | hsix⟩ := isLiteral_of_ofDigits? h
  · have hlength := length_of_spells hthree
    omega
  · rw [ofDigits?_of_six hsix] at h
    cases h
    rwa [toHex_ofHex (lt_of_spells hsix)]

theorem ofDigits?_eq_some_iff : ofDigits? s = some c ↔ IsWritten s c := by
  constructor
  case mp =>
    intro h
    obtain ⟨n, hthree | hsix⟩ := isLiteral_of_ofDigits? h
    · obtain ⟨x, y, z, hs⟩ := List.length_eq_three.mp (length_of_spells hthree)
      rw [← String.ofList_toList (s := s), hs] at h ⊢
      rw [ofDigits?_doubled] at h
      exact .three (spells_of_ofDigits? h (by simp))
    · exact .six (spells_of_ofDigits? h (length_of_spells hsix))
  case mpr =>
    intro h
    cases h
    case six h   => rw [ofDigits?_of_six h, ofHex_toHex]
    case three h => rw [ofDigits?_doubled, ofDigits?_of_six h, ofHex_toHex]

theorem named?_eq_some_iff : named? s = some c ↔ (s, c) ∈ palette := by
  have hpalette : ∀ e ∈ palette, named? e.1 = some e.2 := by decide
  exact ⟨Assoc.mem_of_get?, hpalette (s, c)⟩

theorem named?_of_isWritten (h : IsWritten s c) : named? s = none := by
  have hpalette : ∀ e ∈ palette, ofDigits? e.1 = none := by decide
  refine Assoc.get?_of_forall_ne fun e he hs => ?_
  have hnone := hpalette e he
  rw [hs, ofDigits?_eq_some_iff.mpr h] at hnone
  cases hnone

end Color

namespace Reading

open Color (IsWritten)
open Decimal (Numeral maxInt minInt)

-- What texts say, in the terms of the texts: each kind of value has its forms, and numbers stop at
-- the ends of their range.

def SaysInt (s : String) (n : Int) : Prop :=
  ∃ m : Numeral s.toList, n = max minInt (min maxInt m.value)

inductive Said {α : Type} (means : String → α → Prop) (absent : α) : Option String → α → Prop
  | given {s : String} {a : α} (h : means s a) : Said means absent (some s) a
  | absent : Said means absent none absent

inductive SaysSize : String → Coord → Prop
  | content : SaysSize "content" Coord.content
  | percent {p : String} {n : Int} (h : SaysInt p n) (hn : 0 ≤ n) :
    SaysSize (p ++ "%") (Coord.mark + min n Coord.maxPercent)
  | negative {p : String} {n : Int} (h : SaysInt p n) (hn : n < 0) :
    SaysSize (p ++ "%") (Coord.mark + Coord.maxPercent + min (-n) Coord.maxPercent)
  | pixels {s : String} {n : Int} (hc : s ≠ "content") (hp : ∀ p, s ≠ p ++ "%")
    (h : SaysInt s n) : SaysSize s n

def SaysPoint (s : String) (p : Point) : Prop :=
  let words := ((s.toList.splitOnP Text.isBlank).filter (!·.isEmpty)).map String.ofList
  Said SaysSize 0 words[0]? p.1 ∧ Said SaysSize 0 words[1]? p.2

inductive SaysLevel : String → UInt8 → Prop
  | percent {p : String} {n : Int} {v : UInt8} (h : SaysInt p n)
    (hv : v.toNat = max 0 (min 100 n) * 255 / 100) : SaysLevel (p ++ "%") v
  | plain {s : String} {n : Int} {v : UInt8} (hp : ∀ p, s ≠ p ++ "%") (h : SaysInt s n)
    (hv : v.toNat = max 0 (min 255 n)) : SaysLevel s v

inductive SaysOpacity : String → Opacity → Prop
  | cover  : SaysOpacity "cover" 255
  | transp : SaysOpacity "transp" 0
  | level {s : String} {v : Opacity} (hc : s ≠ "cover") (ht : s ≠ "transp") (h : SaysLevel s v) :
    SaysOpacity s v

-- A mark may be in front of digits, but not of a name; any other text says black.
inductive SaysColor : String → Color → Prop
  | named {s : String} {c : Color} (h : (s, c) ∈ Color.palette) : SaysColor s c
  | digits {mark t : String} {c : Color} (hm : mark ∈ "" :: marks) (h : IsWritten t c) :
    SaysColor (mark ++ t) c
  | unknown {s : String} (hn : ∀ c, (s, c) ∉ Color.palette)
    (hd : ∀ mark ∈ "" :: marks, ∀ t c, s = mark ++ t → ¬IsWritten t c) : SaysColor s .black

-- The reader answers what a text says, and every text says one thing.
structure Answers {α : Type} (read : String → α) (means : String → α → Prop) : Prop where
  sound    : ∀ s, means s (read s)
  complete : ∀ {s a}, means s a → read s = a

namespace Answers

variable {α : Type} {read : String → α} {means : String → α → Prop}

theorem said_iff (h : Answers read means) {absent : α} {text : Option String} {a : α} :
    Said means absent text a ↔ (text.map read).getD absent = a := by
  constructor
  case mp =>
    intro ha
    cases ha
    case given ha => exact h.complete ha
    case absent   => rfl
  case mpr =>
    rintro rfl
    cases text
    case none   => exact .absent
    case some s => exact .given (h.sound s)

end Answers

theorem clamp_eq {lo hi : Int} (h : lo ≤ hi) (n : Int) : clamp lo hi n = max lo (min hi n) := by
  unfold clamp
  omega

theorem before?_eq_none {tail s : String} (h : ∀ p, s ≠ p ++ tail) : Text.before? tail s = none :=
  Option.eq_none_iff_forall_ne_some.mpr fun p hp => h p (Text.eq_append_of_before? hp)

theorem ne_append_of_before? {tail s : String} (h : Text.before? tail s = none) (p : String) :
    s ≠ p ++ tail := by
  rintro rfl
  rw [Text.before?_append] at h
  cases h

theorem answers_int : Answers int SaysInt where
  sound s := by
    have ⟨m⟩ := Decimal.exists_numeral s.toList
    exact ⟨m, (Decimal.leading_eq m).trans (clamp_eq (by decide) _)⟩
  complete := by
    rintro s _ ⟨m, rfl⟩
    exact (Decimal.leading_eq m).trans (clamp_eq (by decide) _)

theorem percent_of_nonneg {n : Int} (h : 0 ≤ n) :
    Coord.percent n = Coord.mark + min n Coord.maxPercent := by
  grind [Coord.percent]

theorem percent_of_neg {n : Int} (h : n < 0) :
    Coord.percent n = Coord.mark + Coord.maxPercent + min (-n) Coord.maxPercent := by
  grind [Coord.percent]

theorem size_percent (p : String) : size (p ++ "%") = Coord.percent (int p) := by
  have hne : p ++ "%" ≠ "content" := fun h => by
    have := congrArg (fun s => s.toList.getLast?) h
    simp at this
  rw [size, if_neg hne, Text.before?_append]

theorem answers_size : Answers size SaysSize where
  sound s := by
    by_cases hc : s = "content"
    case pos =>
      rw [hc]
      exact .content
    case neg =>
      cases hp : Text.before? "%" s
      case some p =>
        rw [Text.eq_append_of_before? hp, size_percent]
        by_cases hn : 0 ≤ int p
        case pos => exact percent_of_nonneg hn ▸ .percent (answers_int.sound p) hn
        case neg =>
          have hn := Int.not_le.mp hn
          exact percent_of_neg hn ▸ .negative (answers_int.sound p) hn
      case none =>
        rw [size, if_neg hc, hp]
        exact .pixels hc (ne_append_of_before? hp) (answers_int.sound s)
  complete := by
    intro s c h
    cases h
    case content          => rfl
    case percent p n h hn => rw [size_percent, answers_int.complete h, percent_of_nonneg hn]
    case negative p n h hn => rw [size_percent, answers_int.complete h, percent_of_neg hn]
    case pixels hc hp h   =>
      rw [size, if_neg hc, before?_eq_none hp]
      exact answers_int.complete h

theorem words_eq (s : String) : Text.words s =
    ((s.toList.splitOnP Text.isBlank).filter (!·.isEmpty)).map String.ofList := by
  rw [Text.words, Text.runs_eq_splitOnP]

theorem point_eq (s : String) : point s =
    (((Text.words s)[0]?.map size).getD 0, ((Text.words s)[1]?.map size).getD 0) := by
  unfold point
  match Text.words s with
  | []          => rfl
  | [_]         => rfl
  | _ :: _ :: _ => rfl

theorem answers_point : Answers point SaysPoint where
  sound s := by
    rw [SaysPoint, ← words_eq, point_eq]
    exact ⟨answers_size.said_iff.mpr rfl, answers_size.said_iff.mpr rfl⟩
  complete := by
    intro s p h
    rw [SaysPoint, ← words_eq] at h
    rw [point_eq, answers_size.said_iff.mp h.1, answers_size.said_iff.mp h.2]

theorem ofInt_eq_iff {n : Int} {v : UInt8} (h₀ : 0 ≤ n) (h₁ : n < 256) :
    UInt8.ofInt n = v ↔ v.toNat = n := by
  rw [← UInt8.toNat_inj, UInt8.ofInt, UInt8.toNat_ofNat']
  omega

theorem level_percent_iff {p : String} {v : UInt8} :
    level (p ++ "%") = v ↔ v.toNat = max 0 (min 100 (int p)) * 255 / 100 := by
  rw [← ofInt_eq_iff (by omega) (by omega), level, Text.before?_append]
  dsimp only
  rw [clamp_eq (by decide)]

theorem level_plain_iff {s : String} {v : UInt8} (hp : ∀ p, s ≠ p ++ "%") :
    level s = v ↔ v.toNat = max 0 (min 255 (int s)) := by
  rw [level, before?_eq_none hp, ← ofInt_eq_iff (by omega) (by omega)]
  rw [clamp_eq (by decide)]

theorem answers_level : Answers level SaysLevel where
  sound s := by
    cases hp : Text.before? "%" s
    case some p =>
      rw [Text.eq_append_of_before? hp]
      exact .percent (answers_int.sound p) (level_percent_iff.mp rfl)
    case none =>
      have hp := ne_append_of_before? hp
      exact .plain hp (answers_int.sound s) ((level_plain_iff hp).mp rfl)
  complete := by
    intro s v h
    cases h
    case percent h hv => exact level_percent_iff.mpr (answers_int.complete h ▸ hv)
    case plain hp h hv => exact (level_plain_iff hp).mpr (answers_int.complete h ▸ hv)

theorem answers_opacity : Answers opacity SaysOpacity where
  sound s := by
    unfold opacity
    split
    case isTrue hc => exact hc ▸ .cover
    case isFalse hc =>
      split
      case isTrue ht  => exact ht ▸ .transp
      case isFalse ht => exact .level hc ht (answers_level.sound s)
  complete := by
    intro s v h
    cases h
    case cover         => rfl
    case transp        => rfl
    case level hc ht h => rw [opacity, if_neg hc, if_neg ht, answers_level.complete h]

theorem eq_append_colorDigits (s : String) :
    ∃ mark ∈ "" :: marks, s = mark ++ colorDigits s := by
  unfold colorDigits
  cases h₁ : Text.after? "#" s
  case some t => exact ⟨"#", by decide, Text.eq_append_of_after? h₁⟩
  case none =>
    cases h₂ : Text.after? "0x" s
    case some t => exact ⟨"0x", by decide, Text.eq_append_of_after? h₂⟩
    case none =>
      cases h₃ : Text.after? "0X" s
      case some t => exact ⟨"0X", by decide, Text.eq_append_of_after? h₃⟩
      case none   => exact ⟨"", by decide, (String.empty_append).symm⟩

theorem ofDigits?_mark {mark : String} (hm : mark ∈ marks) (s : String) :
    Color.ofDigits? (mark ++ s) = none := by
  have hsharp : Color.hexDigit? '#' = none := by decide
  have hzero : Color.hexDigit? '0' = some 0 := by decide
  have hlower : Color.hexDigit? 'x' = none := by decide
  have hupper : Color.hexDigit? 'X' = none := by decide
  simp only [marks, List.mem_cons, List.not_mem_nil, or_false] at hm
  rcases hm with rfl | rfl | rfl <;>
    simp [Color.ofDigits?, List.mapM_cons, hsharp, hzero, hlower, hupper]

theorem colorDigits_of_isWritten {mark t : String} {c : Color} (hm : mark ∈ "" :: marks)
    (h : IsWritten t c) : colorDigits (mark ++ t) = t := by
  cases hm
  case tail hm => exact colorDigits_mark hm t
  case head    =>
    rw [String.empty_append]
    obtain ⟨mark, hm, ht⟩ := eq_append_colorDigits t
    cases hm
    case head => rw [String.empty_append] at ht; exact ht.symm
    case tail hm =>
      have hnone := ofDigits?_mark hm (colorDigits t)
      rw [← ht, Color.ofDigits?_eq_some_iff.mpr h] at hnone
      cases hnone

theorem value_color (s : String) :
    (color s).value = ((Color.named? s).or (Color.ofDigits? (colorDigits s))).getD .black := by
  unfold color
  cases (Color.named? s).or (Color.ofDigits? (colorDigits s)) <;> rfl

theorem named?_of_mark {mark t : String} {c : Color} (hm : mark ∈ "" :: marks)
    (h : IsWritten t c) : Color.named? (mark ++ t) = none := by
  cases hm
  case head    => rw [String.empty_append]; exact Color.named?_of_isWritten h
  case tail hm => exact named?_mark hm t

theorem answers_color : Answers (fun s => (color s).value) SaysColor where
  sound s := by
    rw [value_color]
    cases hn : Color.named? s
    case some c => exact .named (Color.named?_eq_some_iff.mp hn)
    case none =>
      cases hd : Color.ofDigits? (colorDigits s)
      case some c =>
        obtain ⟨mark, hm, hs⟩ := eq_append_colorDigits s
        have h : SaysColor (mark ++ colorDigits s) c :=
          .digits hm (Color.ofDigits?_eq_some_iff.mp hd)
        rwa [← hs] at h
      case none =>
        refine .unknown (fun c hc => ?named) (fun mark hm t c hs ht => ?digits)
        case named => cases hn.symm.trans (Color.named?_eq_some_iff.mpr hc)
        case digits =>
          rw [hs, colorDigits_of_isWritten hm ht, Color.ofDigits?_eq_some_iff.mpr ht] at hd
          cases hd
  complete := by
    intro s c h
    rw [value_color]
    cases h
    case named h => rw [Color.named?_eq_some_iff.mpr h]; rfl
    case digits hm h =>
      rw [named?_of_mark hm h, colorDigits_of_isWritten hm h, Color.ofDigits?_eq_some_iff.mpr h]
      rfl
    case unknown hn hd =>
      have hnamed : Color.named? s = none :=
        Option.eq_none_iff_forall_ne_some.mpr fun c hc => hn c (Color.named?_eq_some_iff.mp hc)
      have hdigits : Color.ofDigits? (colorDigits s) = none := by
        obtain ⟨mark, hm, hs⟩ := eq_append_colorDigits s
        exact Option.eq_none_iff_forall_ne_some.mpr fun c hc =>
          hd mark hm _ c hs (Color.ofDigits?_eq_some_iff.mp hc)
      rw [hnamed, hdigits]
      rfl

end Reading

end UiMarkup
