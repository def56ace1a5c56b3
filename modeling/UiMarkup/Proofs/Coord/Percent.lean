import UiMarkup.Proofs.Coord.Pixels
import UiMarkup.Proofs.Numeric.Words

namespace UiMarkup.Coord

structure IsPercentage (n : Int) : Prop where
  lower : -maxPercent ≤ n
  upper : n ≤ maxPercent

def nearestPercentage (n : Int) : Int :=
  clamp (-maxPercent) maxPercent n

-- What is stored of a percentage beside the mark: negative ones go above all others.
def folded (n : Int) : Int :=
  if n < 0 then maxPercent - n else n

variable {n : Int}

theorem isPercentage_nearestPercentage (n : Int) : IsPercentage (nearestPercentage n) := by
  unfold nearestPercentage clamp
  split
  case isTrue => exact ⟨Int.le_refl _, by decide⟩
  case isFalse hlower =>
    split
    case isTrue => exact ⟨by decide, Int.le_refl _⟩
    case isFalse hupper => exact ⟨Int.not_lt.mp hlower, Int.not_lt.mp hupper⟩

theorem nearestPercentage_of_neg (h : n < 0) :
    nearestPercentage n = if n < -maxPercent then -maxPercent else n := by
  have hupper : ¬maxPercent < n := Int.not_lt.mpr (Int.le_trans (Int.le_of_lt h) (by decide))
  rw [nearestPercentage, clamp, if_neg hupper]

theorem nearestPercentage_of_nonneg (h : 0 ≤ n) :
    nearestPercentage n = if maxPercent < n then maxPercent else n := by
  have hlower : ¬n < -maxPercent := Int.not_lt.mpr (Int.le_trans (by decide) h)
  rw [nearestPercentage, clamp, if_neg hlower]

theorem nearestPercentage_neg_iff : nearestPercentage n < 0 ↔ n < 0 := by
  by_cases h : n < 0
  case pos =>
    rw [nearestPercentage_of_neg h]
    split
    case isTrue  => exact iff_of_true (by decide) h
    case isFalse => exact Iff.rfl
  case neg =>
    rw [nearestPercentage_of_nonneg (Int.not_lt.mp h)]
    split
    case isTrue  => exact iff_of_false (by decide) h
    case isFalse => exact Iff.rfl

theorem percent_eq (n : Int) : percent n = mark + folded (nearestPercentage n) := by
  unfold percent folded
  by_cases h : n < 0
  case pos =>
    rw [if_pos h, if_pos (nearestPercentage_neg_iff.mpr h), nearestPercentage_of_neg h]
  case neg =>
    rw [if_neg h, if_neg (mt nearestPercentage_neg_iff.mp h),
      nearestPercentage_of_nonneg (Int.not_lt.mp h)]

namespace IsPercentage

variable (h : IsPercentage n)
include h

theorem nearestPercentage_eq : nearestPercentage n = n := by
  rw [nearestPercentage, clamp, if_neg (Int.not_lt.mpr h.lower), if_neg (Int.not_lt.mpr h.upper)]

theorem folded_nonneg : (0 : Int) ≤ folded n := by
  have hupper : n ≤ 268435455 := h.upper
  unfold folded
  split
  case isTrue  => exact Int.sub_nonneg_of_le h.upper
  case isFalse => omega

theorem folded_lt : folded n < maxPixels := by
  have hlower : -268435455 ≤ n := h.lower
  have hupper : n ≤ 268435455 := h.upper
  unfold folded
  split
  case isTrue  => exact show (268435455 : Int) - n < 536870911 by omega
  case isFalse => exact show (n : Int) < 536870911 by omega

theorem isPercent_mark : isPercent (mark + folded n) := by
  have hlower : (0 : Int) ≤ folded n := h.folded_nonneg
  have hupper : folded n < (536870911 : Int) := h.folded_lt
  have hmarked : isMarked (mark + folded n) :=
    isMarked_iff.mpr (show (536870912 + folded n : Int) / 536870912 % 2 = 1 by omega)
  have hcontent : mark + folded n ≠ content :=
    show (536870912 + folded n : Int) ≠ 1073741823 by omega
  simp [isPercent, hmarked, hcontent]

theorem percentOf_mark : percentOf (mark + folded n) = n := by
  have hstored : mark + folded n - mark = folded n := by rw [Int.add_comm, Int.add_sub_cancel]
  rw [percentOf, if_pos h.isPercent_mark, hstored]
  by_cases hn : n < 0
  case pos =>
    have habove : maxPercent < maxPercent - n := show (268435455 : Int) < 268435455 - n by omega
    rw [folded, if_pos hn, if_pos habove, Int.sub_sub_self]
  case neg =>
    rw [folded, if_neg hn]
    exact if_neg (Int.not_lt.mpr h.upper)

end IsPercentage

theorem isPercent_percent (n : Int) : isPercent (percent n) :=
  percent_eq n ▸ (isPercentage_nearestPercentage n).isPercent_mark

theorem percent_ne_content (n : Int) : percent n ≠ content := by
  have h := isPercent_percent n
  rw [isPercent, Bool.and_eq_true_iff, bne_iff_ne] at h
  exact h.2

theorem percentOf_percent (n : Int) : percentOf (percent n) = nearestPercentage n :=
  percent_eq n ▸ (isPercentage_nearestPercentage n).percentOf_mark

theorem percent_injOn {m n : Int} (hm : IsPercentage m) (hn : IsPercentage n)
    (h : percent m = percent n) : m = n := by
  rw [← hm.nearestPercentage_eq, ← percentOf_percent, h, percentOf_percent, hn.nearestPercentage_eq]

section Words

open Word (Fits Yields)

def markWord : BitVec 32 := .ofInt 32 mark
def mostWord : BitVec 32 := .ofInt 32 maxPercent

def percentWord? (n : BitVec 32) : Option (BitVec 32) := do
  let least ← Word.neg? mostWord
  let stored ← (
    if n.slt 0 then Word.sub? mostWord (if n.slt least then least else n)
    else some (if mostWord.slt n then mostWord else n))
  return stored ||| markWord

def isPercentWord (c : BitVec 32) : Bool :=
  c &&& markWord != 0 && c != .ofInt 32 content

def percentOfWord? (c : BitVec 32) : Option (BitVec 32) :=
  if isPercentWord c then
    let stored := c &&& ~~~markWord
    if mostWord.slt stored then Word.sub? mostWord stored else some stored
  else some c

variable {a : BitVec 32}

theorem markWord_eq : markWord = .twoPow 32 29 := by decide
theorem toInt_markWord : markWord.toInt = mark := by decide
theorem toInt_mostWord : mostWord.toInt = maxPercent := by decide

theorem isMarked_toInt (a : BitVec 32) : isMarked a.toInt = a.getLsbD 29 := by
  rw [isMarked_eq_getLsbD, BitVec.ofInt_toInt]

theorem and_markWord (a : BitVec 32) :
    a &&& markWord = if isMarked a.toInt then markWord else 0 := by
  rw [markWord_eq, BitVec.and_twoPow, isMarked_toInt]
  rfl

theorem toInt_or_markWord (hlower : 0 ≤ a.toInt) (hupper : a.toInt < mark) :
    (a ||| markWord).toInt = a.toInt + mark := by
  have hmarked : isMarked a.toInt = false := by
    have hupper : a.toInt < 536870912 := hupper
    refine Bool.eq_false_iff.mpr (mt isMarked_iff.mp ?_)
    omega
  have hand : a &&& markWord = 0 := by
    rw [and_markWord, hmarked]
    rfl
  have hfits : Fits 32 (a.toInt + markWord.toInt) := by
    have hupper : a.toInt < 536870912 := hupper
    rw [toInt_markWord]
    exact ⟨show (-2147483648 : Int) ≤ a.toInt + 536870912 by omega,
      show a.toInt + 536870912 < (2147483648 : Int) by omega⟩
  rw [← BitVec.add_eq_or_of_and_eq_zero a markWord hand,
    BitVec.toInt_add_of_not_saddOverflow (Word.not_saddOverflow hfits), toInt_markWord]

theorem and_not_markWord (h : isMarked a.toInt) : a &&& ~~~markWord = a - markWord := by
  have hmark : a &&& markWord = markWord := by rw [and_markWord, if_pos h]
  have hdisjoint : (a &&& ~~~markWord) &&& markWord = 0 := by
    rw [BitVec.and_assoc, BitVec.not_and_self]
    exact BitVec.and_zero
  have hjoined : (a &&& ~~~markWord) ||| markWord = a := calc
    _ = (a &&& ~~~markWord) ||| (a &&& markWord) := by rw [hmark]
    _ = a &&& (~~~markWord ||| markWord) := BitVec.and_or_distrib_left.symm
    _ = a := by rw [BitVec.or_comm, BitVec.or_not_self, BitVec.and_allOnes]
  rw [BitVec.eq_sub_iff_add_eq, BitVec.add_eq_or_of_and_eq_zero _ _ hdisjoint, hjoined]

theorem toInt_and_not_markWord (h : isMarked a.toInt) :
    (a &&& ~~~markWord).toInt = a.toInt - mark := by
  have hfits : Fits 32 (a.toInt - markWord.toInt) := by
    have hlower := a.le_toInt
    have hupper := a.toInt_lt
    have hbit := isMarked_iff.mp h
    rw [toInt_markWord]
    exact ⟨show (-2147483648 : Int) ≤ a.toInt - 536870912 by omega,
      show a.toInt - 536870912 < (2147483648 : Int) by omega⟩
  rw [and_not_markWord h, BitVec.toInt_sub_of_not_ssubOverflow (Word.not_ssubOverflow hfits),
    toInt_markWord]

theorem isPercentWord_eq (c : BitVec 32) : isPercentWord c = isPercent c.toInt := by
  have hmark : (c &&& markWord != 0) = isMarked c.toInt := by
    rw [and_markWord]
    cases isMarked c.toInt <;> decide
  have hcontent : (c != .ofInt 32 content) = (c.toInt != content) := by
    have hword : (BitVec.ofInt 32 content).toInt = content := by decide
    rw [Bool.eq_iff_iff, bne_iff_ne, bne_iff_ne, Ne, ← BitVec.toInt_inj, hword]
  rw [isPercentWord, isPercent, hmark, hcontent]

theorem yields_percentWord? (n : BitVec 32) : Yields (percentWord? n) (percent n.toInt) := by
  let k := nearestPercentage n.toInt
  have hk : IsPercentage k := isPercentage_nearestPercentage n.toInt
  refine .bind (.neg toInt_mostWord ⟨by decide, by decide⟩) fun least hleast => ?_
  have hstored : Yields (
      if n.slt 0 then Word.sub? mostWord (if n.slt least then least else n)
      else some (if mostWord.slt n then mostWord else n)) (folded k) := by
    have hzero : (0 : BitVec 32).toInt = 0 := by decide
    simp only [BitVec.slt_iff_toInt_lt, hzero, hleast, toInt_mostWord]
    split
    case isTrue hn =>
      have hword : (if n.toInt < -maxPercent then least else n).toInt = k := by
        rw [apply_ite BitVec.toInt, hleast]
        exact (nearestPercentage_of_neg hn).symm
      have hfolded : folded k = maxPercent - k := if_pos (nearestPercentage_neg_iff.mpr hn)
      have hlower : (0 : Int) ≤ folded k := hk.folded_nonneg
      have hupper : folded k < (536870911 : Int) := hk.folded_lt
      exact hfolded ▸ .sub toInt_mostWord hword (hfolded ▸ ⟨by omega, by omega⟩)
    case isFalse hn =>
      have hfolded : folded k = k := if_neg (mt nearestPercentage_neg_iff.mp hn)
      refine .some ?_
      rw [apply_ite BitVec.toInt, toInt_mostWord, hfolded]
      exact (nearestPercentage_of_nonneg (Int.not_lt.mp hn)).symm
  refine .bind hstored fun a ha => .some ?_
  rw [toInt_or_markWord, ha, percent_eq, Int.add_comm]
  · exact ha ▸ hk.folded_nonneg
  · exact ha ▸ Int.lt_trans hk.folded_lt (by decide)

theorem yields_percentOfWord? (c : BitVec 32) :
    Yields (percentOfWord? c) (percentOf c.toInt) := by
  rw [percentOfWord?, percentOf, isPercentWord_eq]
  split
  case isFalse => exact .some rfl
  case isTrue h =>
    have hmarked : isMarked c.toInt := (Bool.and_eq_true_iff.mp h).1
    have hstored := toInt_and_not_markWord hmarked
    simp only [BitVec.slt_iff_toInt_lt, toInt_mostWord, hstored]
    split
    case isFalse => exact .some hstored
    case isTrue habove =>
      have hlower : 268435455 < c.toInt - 536870912 := habove
      have hupper := c.toInt_lt
      refine .sub toInt_mostWord hstored ⟨?_, ?_⟩
      · exact show (-2147483648 : Int) ≤ 268435455 - (c.toInt - 536870912) by omega
      · exact show (268435455 - (c.toInt - 536870912) : Int) < 2147483648 by omega

end Words

end UiMarkup.Coord

namespace UiMarkup.Reading

theorem size_of_percent (s : String) : size (s ++ "%") = Coord.percent (int s) := by
  have hcontent : s ++ "%" ≠ "content" := by
    intro he
    have hlast := congrArg (·.toList.getLast?) he
    simp at hlast
  rw [size, if_neg hcontent, Text.before?_append]

end UiMarkup.Reading

namespace UiMarkup.Coord

open Reading (int size)
open Word (Yields)

-- The functions on words are the encoding and the decoding as they run.
theorem percentages_kept :
    (∀ n, isPercent (percent n) ∧ percent n ≠ content ∧
      percentOf (percent n) = clamp (-maxPercent) maxPercent n) ∧
    (∀ n : BitVec 32, Yields (percentWord? n) (percent n.toInt)) ∧
    (∀ c : BitVec 32, isPercentWord c = isPercent c.toInt ∧
      Yields (percentOfWord? c) (percentOf c.toInt)) ∧
    (∀ s : String, isPercent (size (s ++ "%")) ∧
      percentOf (size (s ++ "%")) = clamp (-maxPercent) maxPercent (int s)) ∧
    ∀ m n, IsPercentage m → IsPercentage n → percent m = percent n → m = n := by
  refine ⟨fun n => ⟨isPercent_percent n, percent_ne_content n, percentOf_percent n⟩,
    yields_percentWord?, fun c => ⟨isPercentWord_eq c, yields_percentOfWord? c⟩, fun s => ?_,
    fun m n hm hn => percent_injOn hm hn⟩
  rw [Reading.size_of_percent]
  exact ⟨isPercent_percent (int s), percentOf_percent (int s)⟩

theorem percentages_kept_at_ends :
    IsPercentage maxPercent ∧ IsPercentage (-maxPercent) ∧
    percent maxPercent ≠ percent (-maxPercent) ∧
    percentOf (size "-25%") = -25 ∧ percentOf (size "999999999999%") = maxPercent ∧
    Yields (percentWord? (.intMin 32)) (percent (-maxPercent)) := by
  obtain ⟨-, hword, -, htext, hinj⟩ := percentages_kept
  have hupper : IsPercentage maxPercent := ⟨by decide, by decide⟩
  have hlower : IsPercentage (-maxPercent) := ⟨by decide, by decide⟩
  have hne : percent maxPercent ≠ percent (-maxPercent) :=
    fun h => absurd (hinj _ _ hupper hlower h) (by decide)
  have hinside : percentOf (size "-25%") = -25 :=
    (htext "-25").2.trans (by decide +kernel)
  have hbeyond : percentOf (size "999999999999%") = maxPercent :=
    (htext "999999999999").2.trans (by decide +kernel)
  exact ⟨hupper, hlower, hne, hinside, hbeyond, hword (.intMin 32)⟩

end UiMarkup.Coord
