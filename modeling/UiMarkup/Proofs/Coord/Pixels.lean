import UiMarkup.Reading

namespace UiMarkup.Coord

variable {n : Int}

theorem isMarked_iff : isMarked n ↔ n / 536870912 % 2 = 1 :=
  beq_iff_eq

-- The mark is a bit of the two's complement, in which negative numbers have it for their sign.
theorem isMarked_eq_getLsbD (n : Int) : isMarked n = (BitVec.ofInt 32 n).getLsbD 29 := by
  have hbits : (BitVec.ofInt 32 n).toNat = (n % 4294967296).toNat := BitVec.toNat_ofInt n
  rw [Bool.eq_iff_iff, isMarked_iff, BitVec.getLsbD, Nat.testBit_eq_decide_div_mod_eq, hbits,
    decide_eq_true_iff]
  omega

structure IsPixels (n : Coord) : Prop where
  lower : -maxPixels ≤ n
  upper : n ≤ maxPixels

namespace IsPixels

variable (h : IsPixels n)
include h

theorem isMarked_iff : isMarked n ↔ n < 0 := by
  have hlower : -536870911 ≤ n := h.lower
  have hupper : n ≤ 536870911 := h.upper
  rw [Coord.isMarked_iff]
  omega

theorem isPercent_iff : isPercent n ↔ n < 0 := by
  have hcontent : n ≠ content := fun he => absurd (he ▸ h.upper) (by decide)
  simp [isPercent, h.isMarked_iff, hcontent]

theorem percentOf_of_nonneg (hn : 0 ≤ n) : percentOf n = n :=
  if_neg fun hp => absurd (h.isPercent_iff.mp hp) (Int.not_lt.mpr hn)

theorem percentOf_of_neg (hn : n < 0) : percentOf n = n - mark := by
  have hstored : ¬maxPercent < n - mark := fun hp =>
    absurd (Int.lt_trans (show (0 : Int) < maxPercent by decide) hp)
      (show ¬(0 : Int) < n - 536870912 by omega)
  rw [percentOf, if_pos (h.isPercent_iff.mpr hn)]
  exact if_neg hstored

end IsPixels

end UiMarkup.Coord

namespace UiMarkup.Reading

theorem size_of_pixels {s : String} (hcontent : s ≠ "content") (hpercent : ¬['%'] <:+ s.toList) :
    size s = int s := by
  have hnone : Text.before? "%" s = none := Text.before?_eq_none_iff.mpr hpercent
  rw [size, if_neg hcontent, hnone]

end UiMarkup.Reading

namespace UiMarkup.Coord

-- Whether pixels are passed through as what they are, and what becomes of them if not. A text that
-- is neither `content` nor a percentage is read as pixels.
theorem pixels_kept_iff {n : Coord} (h : IsPixels n) :
    (isPercent n = false ∧ percentOf n = n ↔ 0 ≤ n) ∧
    (n < 0 → isPercent n ∧ percentOf n = n - mark) ∧
    ∀ s : String, s ≠ "content" → ¬['%'] <:+ s.toList → Reading.int s = n → Reading.size s = n := by
  refine ⟨⟨fun hkept => ?only, fun hn => ?kept⟩, fun hn => ?taken,
    fun s hcontent hpercent hs => ?read⟩
  case only =>
    refine Int.not_lt.mp fun hn => ?_
    exact absurd (h.isPercent_iff.mpr hn) (by simp [hkept.1])
  case kept =>
    have hn' : ¬n < 0 := Int.not_lt.mpr hn
    exact ⟨Bool.eq_false_iff.mpr (mt h.isPercent_iff.mp hn'), h.percentOf_of_nonneg hn⟩
  case taken => exact ⟨h.isPercent_iff.mpr hn, h.percentOf_of_neg hn⟩
  case read => exact (Reading.size_of_pixels hcontent hpercent).trans hs

theorem pixels_kept_iff_margin :
    IsPixels (-20) ∧ Reading.int "-20px" = -20 ∧ Reading.size "-20px" = -20 ∧
      isPercent (-20) ∧ percentOf (-20) = -536870932 := by
  have h : IsPixels (-20) := ⟨by decide, by decide⟩
  have hint : Reading.int "-20px" = -20 := by decide +kernel
  obtain ⟨-, htaken, hread⟩ := pixels_kept_iff h
  exact ⟨h, hint, hread "-20px" (by decide) (by decide +kernel) hint, htaken (by decide)⟩

theorem negative_pixel_not_kept :
    IsPixels (-1) ∧ Reading.size "-1" = -1 ∧ isPercent (-1) ∧ percentOf (-1) ≠ -1 :=
  ⟨⟨by decide, by decide⟩, by decide +kernel, by decide, by decide⟩

end UiMarkup.Coord
