import UiMarkup.Proofs.Numeric.Words
import UiMarkup.Reading

namespace UiMarkup.Decimal

open Text (Longest)

-- The parts of a text that begins with a number: blanks, a sign if there is one, and digits, each
-- as far as they go. Every part may be empty.
structure Numeral (s : List Char) where
  blanks   : List Char
  sign     : List Char
  digits   : List Char
  rest     : List Char
  text_eq  : s = blanks ++ (sign ++ (digits ++ rest))
  blank    : Longest Text.isBlank blanks (sign ++ (digits ++ rest))
  signed   : sign = [] ∨ sign = ['+'] ∨ sign = ['-']
  unsigned : sign = [] → ∀ c ∈ (digits ++ rest).head?, c ≠ '+' ∧ c ≠ '-'
  decimal  : Longest Char.isDigit digits rest

def Numeral.value {s : List Char} (m : Numeral s) : Int :=
  let n := Nat.ofDigitChars 10 m.digits 0
  if m.sign = ['-'] then -n else n

section Parts

variable {s r : List Char}

theorem sign_of_unsigned (h : ∀ c ∈ r.head?, c ≠ '+' ∧ c ≠ '-') : sign r = (false, r) := by
  unfold sign
  split
  case h_1 => exact absurd rfl (h '-' rfl).2
  case h_2 => exact absurd rfl (h '+' rfl).1
  case h_3 => rfl

theorem exists_numeral (s : List Char) : Nonempty (Numeral s) := by
  have of_sign {sgn r : List Char} (hs : s.dropWhile Text.isBlank = sgn ++ r)
      (signed : sgn = [] ∨ sgn = ['+'] ∨ sgn = ['-'])
      (unsigned : sgn = [] → ∀ c ∈ r.head?, c ≠ '+' ∧ c ≠ '-') : Nonempty (Numeral s) := by
    refine ⟨⟨s.takeWhile Text.isBlank, sgn, r.takeWhile Char.isDigit, r.dropWhile Char.isDigit,
      ?_, ?_, signed, ?_, Text.longest_takeWhile Char.isDigit r⟩⟩
    all_goals rw [List.takeWhile_append_dropWhile]
    · rw [← hs, List.takeWhile_append_dropWhile]
    · rw [← hs]
      exact Text.longest_takeWhile Text.isBlank s
    · exact unsigned
  cases hs : s.dropWhile Text.isBlank
  case nil => exact of_sign (r := []) hs (.inl rfl) (by simp)
  case cons c r =>
    by_cases hplus : c = '+'
    case pos => exact of_sign (hplus ▸ hs) (.inr (.inl rfl)) (by simp)
    case neg =>
      by_cases hminus : c = '-'
      case pos => exact of_sign (hminus ▸ hs) (.inr (.inr rfl)) (by simp)
      case neg => exact of_sign (r := c :: r) hs (.inl rfl) (by simp [hplus, hminus])

theorem sign_numeral (m : Numeral s) :
    sign (Text.trimStart s) = (decide (m.sign = ['-']), m.digits ++ m.rest) := by
  have hs : Text.trimStart s = m.sign ++ (m.digits ++ m.rest) := by
    rw [Text.trimStart, congrArg (List.dropWhile Text.isBlank) m.text_eq, m.blank.dropWhile_eq]
  rw [hs]
  rcases m.signed with hnone | hplus | hminus
  · rw [hnone]
    exact sign_of_unsigned (m.unsigned hnone)
  · rw [hplus]
    rfl
  · rw [hminus]
    rfl

end Parts

-- What exceeds the ceiling exceeds it with every further digit.
theorem foldl_magnitude (digits : List Char) (n : Nat) :
    digits.foldl (fun n c => min (n * 10 + digit c) ceiling) (min n ceiling) =
      min (Nat.ofDigitChars 10 digits n) ceiling := by
  induction digits generalizing n
  case nil => simp
  case cons c cs hi =>
    have hstep : min (min n ceiling * 10 + digit c) ceiling =
        min (10 * n + digit c) ceiling := by
      simp only [ceiling]
      omega
    rw [List.foldl_cons, hstep, hi, Nat.ofDigitChars_cons]
    rfl

theorem magnitude_eq (digits : List Char) :
    magnitude digits = min (Nat.ofDigitChars 10 digits 0) ceiling :=
  foldl_magnitude digits 0

theorem leading_eq {s : List Char} (m : Numeral s) : leading s = saturate m.value := by
  have hleading : leading s =
      saturate (if m.sign = ['-'] then -(magnitude m.digits : Int) else magnitude m.digits) := by
    simp only [leading, sign_numeral m, m.decimal.takeWhile_eq, decide_eq_true_eq]
  rw [hleading, magnitude_eq, Numeral.value]
  simp only [saturate, clamp, minInt, maxInt, ceiling]
  split <;> omega

-- The same in machine words: digits are gathered in 64 bits, and the answer has 32.

def gather? (n : BitVec 64) (c : Char) : Option (BitVec 64) := do
  let tens ← Word.mul? n (.ofInt 64 10)
  let sum ← Word.add? tens (.ofInt 64 (digit c))
  return Word.min sum (.ofInt 64 ceiling)

def leadingWord? (s : List Char) : Option (BitVec 32) := do
  let (negative, rest) := sign (Text.trimStart s)
  let n ← (rest.takeWhile Char.isDigit).foldlM gather? (.ofInt 64 0)
  let n ← (if negative then Word.neg? n else some n)
  return (Word.clamp (.ofInt 64 minInt) (.ofInt 64 maxInt) n).setWidth 32

section Words

open Word (Fits Yields)

theorem digit_le {c : Char} (hc : c.isDigit) : digit c ≤ 9 := by
  have hle : c.toNat ≤ '9'.toNat := (Char.isDigit_iff_toNat.mp hc).2
  exact Nat.sub_le_sub_right hle '0'.toNat

theorem magnitude_le (digits : List Char) : magnitude digits ≤ ceiling :=
  magnitude_eq digits ▸ Nat.min_le_right ..

theorem yields_gather? {v : BitVec 64} {n : Nat} {c : Char} (hv : v.toInt = n) (hn : n ≤ ceiling)
    (hc : c.isDigit) : Yields (gather? v c) (min (n * 10 + digit c) ceiling : Nat) := by
  have hn : n ≤ 2147483648 := hn
  have hdigit : digit c ≤ 9 := digit_le hc
  have htens : Fits 64 (n * 10) := ⟨by omega, by omega⟩
  have hsum : Fits 64 (n * 10 + digit c) := ⟨by omega, by omega⟩
  have hc : (BitVec.ofInt 64 (digit c)).toInt = digit c :=
    Word.toInt_ofInt (by decide) ⟨by omega, by omega⟩
  refine .bind (.mul hv (by decide) htens) fun tens ht => ?_
  refine .bind (.add ht hc hsum) fun sum hs => .some ?_
  have hceiling : (BitVec.ofInt 64 ceiling).toInt = ceiling := by decide
  rw [Word.toInt_min, hs, hceiling]
  omega

theorem yields_foldlM_gather? {digits : List Char} (hdigits : ∀ c ∈ digits, c.isDigit)
    {v : BitVec 64} {n : Nat} (hv : v.toInt = n) (hn : n ≤ ceiling) :
    Yields (digits.foldlM gather? v)
      (digits.foldl (fun n c => min (n * 10 + digit c) ceiling) n : Nat) := by
  induction digits generalizing v n
  case nil => exact .some hv
  case cons c cs hi =>
    obtain ⟨hc, hcs⟩ := List.forall_mem_cons.mp hdigits
    rw [List.foldlM_cons]
    exact .bind (yields_gather? hv hn hc) fun v hv => hi hcs hv (Nat.min_le_right ..)

theorem fits_saturate (n : Int) : Fits 32 (saturate n) := by
  simp only [saturate, clamp, minInt, maxInt]
  exact ⟨by omega, by omega⟩

theorem yields_leadingWord? (s : List Char) : Yields (leadingWord? s) (leading s) := by
  rw [leadingWord?, leading]
  generalize sign (Text.trimStart s) = parts
  obtain ⟨negative, rest⟩ := parts
  let n : Int := magnitude (rest.takeWhile Char.isDigit)
  have hbound : n ≤ 2147483648 := Int.ofNat_le.mpr (magnitude_le _)
  have hgathered : Yields ((rest.takeWhile Char.isDigit).foldlM gather? (.ofInt 64 0)) n :=
    yields_foldlM_gather? (Text.longest_takeWhile Char.isDigit rest).inside rfl (Nat.zero_le _)
  refine .bind hgathered fun v hv => ?_
  have hsigned : Yields (if negative then Word.neg? v else some v)
      (if negative then -n else n) := by
    split
    case isTrue  => exact .neg hv ⟨by omega, by omega⟩
    case isFalse => exact .some hv
  refine .bind hsigned fun v hv => .some ?_
  have hclamp : (Word.clamp (.ofInt 64 minInt) (.ofInt 64 maxInt) v).toInt =
      saturate (if negative then -n else n) := by
    have hlower : (BitVec.ofInt 64 minInt).toInt = minInt := by decide
    have hupper : (BitVec.ofInt 64 maxInt).toInt = maxInt := by decide
    rw [Word.toInt_clamp, hlower, hupper, hv, saturate]
  exact (Word.toInt_setWidth (by decide) (by decide) (hclamp ▸ fits_saturate _)).trans hclamp

end Words

end UiMarkup.Decimal

namespace UiMarkup.Reading

open Decimal (Numeral maxInt minInt)

theorem int_saturates (s : String) :
    Nonempty (Numeral s.toList) ∧
    (∀ m : Numeral s.toList, int s = clamp minInt maxInt m.value) ∧
    Word.Yields (Decimal.leadingWord? s.toList) (int s) :=
  ⟨Decimal.exists_numeral s.toList, Decimal.leading_eq, Decimal.yields_leadingWord? s.toList⟩

end UiMarkup.Reading
