import Mathlib.Algebra.Group.Int.Defs
import UiMarkup.Numeric.Decimal

namespace UiMarkup.Word

variable {w : Nat} {a b : BitVec w} {m n : Int}

structure Fits (w : Nat) (n : Int) : Prop where
  lower : -2 ^ (w - 1) ≤ n
  upper : n < 2 ^ (w - 1)

def add? (a b : BitVec w) : Option (BitVec w) :=
  if a.saddOverflow b then none else some (a + b)

def sub? (a b : BitVec w) : Option (BitVec w) :=
  if a.ssubOverflow b then none else some (a - b)

def mul? (a b : BitVec w) : Option (BitVec w) :=
  if a.smulOverflow b then none else some (a * b)

def neg? (a : BitVec w) : Option (BitVec w) :=
  if a.negOverflow then none else some (-a)

def min (a b : BitVec w) : BitVec w :=
  if b.slt a then b else a

def clamp (lo hi a : BitVec w) : BitVec w :=
  if a.slt lo then lo else if hi.slt a then hi else a

theorem toInt_ofInt (hw : 0 < w) (h : Fits w n) : (BitVec.ofInt w n).toInt = n :=
  BitVec.toInt_ofInt_eq_self hw h.lower h.upper

theorem Fits.not_beyond (h : Fits w n) : ¬(n ≥ 2 ^ (w - 1) ∨ n < -2 ^ (w - 1)) :=
  not_or.mpr ⟨Int.not_le.mpr h.upper, Int.not_lt.mpr h.lower⟩

theorem not_saddOverflow (h : Fits w (a.toInt + b.toInt)) : ¬a.saddOverflow b := by
  simpa only [BitVec.saddOverflow, Bool.or_eq_true, decide_eq_true_eq] using h.not_beyond

theorem not_ssubOverflow (h : Fits w (a.toInt - b.toInt)) : ¬a.ssubOverflow b := by
  simpa only [BitVec.ssubOverflow, Bool.or_eq_true, decide_eq_true_eq] using h.not_beyond

theorem not_smulOverflow (h : Fits w (a.toInt * b.toInt)) : ¬a.smulOverflow b := by
  simpa only [BitVec.smulOverflow, Bool.or_eq_true, decide_eq_true_eq] using h.not_beyond

theorem not_negOverflow (h : Fits w (-a.toInt)) : ¬a.negOverflow := by
  intro hover
  have hmin : a.toInt = -2 ^ (w - 1) := by simpa [BitVec.negOverflow] using hover
  exact absurd h.upper (by rw [hmin, Int.neg_neg]; exact Int.lt_irrefl _)

theorem toInt_min (a b : BitVec w) : (min a b).toInt = Min.min a.toInt b.toInt := by
  simp only [min, BitVec.slt_iff_toInt_lt, apply_ite BitVec.toInt]
  omega

theorem toInt_clamp (lo hi a : BitVec w) :
    (clamp lo hi a).toInt = UiMarkup.clamp lo.toInt hi.toInt a.toInt := by
  simp only [clamp, UiMarkup.clamp, BitVec.slt_iff_toInt_lt, apply_ite BitVec.toInt]

theorem toInt_setWidth {v : Nat} (hw : v ≤ w) (hv : 0 < v) (h : Fits v a.toInt) :
    (a.setWidth v).toInt = a.toInt := by
  rw [← BitVec.signExtend_eq_setWidth_of_le a hw, BitVec.signExtend, toInt_ofInt hv h]

-- The computation goes through, and its result stands for `n`.
def Yields (x : Option (BitVec w)) (n : Int) : Prop :=
  ∃ a, x = some a ∧ a.toInt = n

namespace Yields

theorem some (h : a.toInt = n) : Yields (.some a) n :=
  ⟨a, rfl, h⟩

theorem bind {v : Nat} {x : Option (BitVec v)} {f : BitVec v → Option (BitVec w)}
    (hx : Yields x m) (hf : ∀ a, a.toInt = m → Yields (f a) n) : Yields (x >>= f) n := by
  obtain ⟨a, rfl, ha⟩ := hx
  exact hf a ha

variable (ha : a.toInt = m) (hb : b.toInt = n)
include ha

theorem neg (h : Fits w (-m)) : Yields (neg? a) (-m) := by
  subst ha
  have hfits := not_negOverflow h
  exact ⟨-a, if_neg hfits, BitVec.toInt_neg_of_not_negOverflow hfits⟩

include hb

theorem add (h : Fits w (m + n)) : Yields (add? a b) (m + n) := by
  subst ha hb
  have hfits := not_saddOverflow h
  exact ⟨a + b, if_neg hfits, BitVec.toInt_add_of_not_saddOverflow hfits⟩

theorem sub (h : Fits w (m - n)) : Yields (sub? a b) (m - n) := by
  subst ha hb
  have hfits := not_ssubOverflow h
  exact ⟨a - b, if_neg hfits, BitVec.toInt_sub_of_not_ssubOverflow hfits⟩

theorem mul (h : Fits w (m * n)) : Yields (mul? a b) (m * n) := by
  subst ha hb
  have hfits := not_smulOverflow h
  exact ⟨a * b, if_neg hfits, BitVec.toInt_mul_of_not_smulOverflow hfits⟩

end Yields

end UiMarkup.Word
