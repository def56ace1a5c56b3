import UiMarkup.Proofs.Loader.Run
import UiMarkup.Proofs.Widget.Lookups
import UiMarkup.Scene.Trigger

namespace UiMarkup

namespace Decimal

variable {n : Int}

structure InRange (n : Int) : Prop where
  lower : minInt ≤ n
  upper : n ≤ maxInt

instance : Decidable (InRange n) :=
  decidable_of_iff (minInt ≤ n ∧ n ≤ maxInt) ⟨fun h => ⟨h.1, h.2⟩, fun h => ⟨h.lower, h.upper⟩⟩

theorem saturate_of_inRange (h : InRange n) : saturate n = n := by
  simp [saturate, clamp, Int.not_lt.mpr h.lower, Int.not_lt.mpr h.upper]

theorem saturate_of_maxInt_lt (h : maxInt < n) : saturate n = maxInt := by
  have hmin : ¬n < minInt := Int.not_lt.mpr (Int.le_trans (by decide) (Int.le_of_lt h))
  simp [saturate, clamp, hmin, h]

theorem saturate_of_lt_minInt (h : n < minInt) : saturate n = minInt := by
  simp [saturate, clamp, h]

theorem inRange_saturate (n : Int) : InRange (saturate n) := by
  by_cases hmax : maxInt < n
  case pos => exact saturate_of_maxInt_lt hmax ▸ by decide
  case neg =>
    by_cases hmin : n < minInt
    case pos => exact saturate_of_lt_minInt hmin ▸ by decide
    case neg =>
      have h : InRange n := ⟨Int.not_lt.mp hmin, Int.not_lt.mp hmax⟩
      exact (saturate_of_inRange h).symm ▸ h

end Decimal

open Decimal (InRange minInt maxInt saturate)

theorem Reading.inRange_intAttr {absent : Int} (h : InRange absent) (attrs : Attrs)
    (name : String) : InRange (intAttr attrs name absent) := by
  unfold intAttr
  cases attrs.get? name
  case none   => exact h
  case some s => exact Decimal.inRange_saturate _

-- The number after a step, with no end to the range of numbers.
def exactlyStepped (n step min max : Int) (rollover : Bool) : Int :=
  if max < n + step then (if rollover then min else max)
  else if n + step < min then (if rollover then max else min)
  else n + step

-- A sum beyond a bound that is the end of the range, so that the sum that is kept does not pass it,
-- though the other bound lies elsewhere.
inductive Withheld (sum min max : Int) : Prop
  | above (beyond : maxInt < sum) (bound : max = maxInt) (other : min ≠ maxInt)
  | below (beyond : sum < minInt) (bound : min = minInt) (other : max ≠ minInt)

namespace Withheld

variable {sum min max : Int}

theorem iff_of_above (h : maxInt < sum) : Withheld sum min max ↔ max = maxInt ∧ min ≠ maxInt := by
  constructor
  case mp =>
    intro hw
    cases hw
    case above hbound hother => exact ⟨hbound, hother⟩
    case below hbelow _ _ =>
      exact absurd (Int.lt_trans hbelow (by decide)) (Int.not_lt.mpr (Int.le_of_lt h))
  case mpr => exact fun hw => .above h hw.1 hw.2

theorem iff_of_below (h : sum < minInt) : Withheld sum min max ↔ min = minInt ∧ max ≠ minInt := by
  constructor
  case mp =>
    intro hw
    cases hw
    case above habove _ _ =>
      exact absurd (Int.lt_trans h (by decide)) (Int.not_lt.mpr (Int.le_of_lt habove))
    case below hbound hother => exact ⟨hbound, hother⟩
  case mpr => exact fun hw => .below h hw.1 hw.2

theorem not_of_inRange (h : InRange sum) : ¬Withheld sum min max := by
  intro hw
  cases hw
  case above habove _ _ => exact Int.not_lt.mpr h.upper habove
  case below hbelow _ _ => exact Int.not_lt.mpr h.lower hbelow

end Withheld

section Step

variable {n step min max : Int} {rollover : Bool}

theorem stepped_of_inRange (h : InRange (n + step)) :
    stepped n step min max rollover = exactlyStepped n step min max rollover := by
  simp only [stepped, exactlyStepped, Decimal.saturate_of_inRange h]

-- From beyond the range only bounds that lie within it are noticed.

theorem stepped_of_above (h : maxInt < n + step) (hmin : InRange min) :
    stepped n step min max rollover =
      if max < maxInt then (if rollover then min else max) else maxInt := by
  simp [stepped, Decimal.saturate_of_maxInt_lt h, Int.not_lt.mpr hmin.upper]

theorem stepped_of_below (h : n + step < minInt) (hmax : InRange max) :
    stepped n step min max rollover =
      if minInt < min then (if rollover then max else min) else minInt := by
  simp [stepped, Decimal.saturate_of_lt_minInt h, Int.not_lt.mpr hmax.lower]

theorem exactlyStepped_of_above (h : maxInt < n + step) (hmax : InRange max) :
    exactlyStepped n step min max rollover = if rollover then min else max := by
  simp [exactlyStepped, Int.lt_of_le_of_lt hmax.upper h]

theorem exactlyStepped_of_below (h : n + step < minInt) (hmin : InRange min) (hmax : InRange max) :
    exactlyStepped n step min max rollover = if rollover then max else min := by
  have hlow : ¬max < n + step := Int.not_lt.mpr (Int.le_trans (Int.le_of_lt h) hmax.lower)
  simp [exactlyStepped, hlow, Int.lt_of_lt_of_le h hmin.lower]

theorem stepped_eq_exactlyStepped_iff (hmin : InRange min) (hmax : InRange max) :
    stepped n step min max rollover = exactlyStepped n step min max rollover ↔
      ¬(rollover ∧ Withheld (n + step) min max) := by
  by_cases habove : maxInt < n + step
  case pos =>
    rw [stepped_of_above habove hmin, exactlyStepped_of_above habove hmax,
      Withheld.iff_of_above habove]
    split
    case isTrue hlt => simp [Int.ne_of_lt hlt]
    case isFalse hend =>
      have hbound : max = maxInt := Int.le_antisymm hmax.upper (Int.not_lt.mp hend)
      cases rollover <;> simp [hbound, eq_comm]
  case neg =>
    by_cases hbelow : n + step < minInt
    case pos =>
      rw [stepped_of_below hbelow hmax, exactlyStepped_of_below hbelow hmin hmax,
        Withheld.iff_of_below hbelow]
      split
      case isTrue hlt => simp [Int.ne_of_gt hlt]
      case isFalse hend =>
        have hbound : min = minInt := Int.le_antisymm (Int.not_lt.mp hend) hmin.lower
        cases rollover <;> simp [hbound, eq_comm]
    case neg =>
      have hsum : InRange (n + step) := ⟨Int.not_lt.mp hbelow, Int.not_lt.mp habove⟩
      simp [stepped_of_inRange hsum, Withheld.not_of_inRange hsum]

theorem stepped_of_withheld (h : Withheld (n + step) min max) (hmin : InRange min)
    (hmax : InRange max) : stepped n step min max rollover = saturate (n + step) := by
  cases h
  case above habove hbound _ =>
    simp [stepped_of_above habove hmin, Decimal.saturate_of_maxInt_lt habove, hbound]
  case below hbelow hbound _ =>
    simp [stepped_of_below hbelow hmax, Decimal.saturate_of_lt_minInt hbelow, hbound]

end Step

namespace Modifier

variable {env : Env} {attrs : Attrs}

-- The numbers that an element hooks are of 32 bits; without bounds of its own it has the ends of
-- the range.
structure Increments (env : Env) (attrs : Attrs) (id : SubjectId) (step min max : Int)
    (rollover : Bool) : Prop where
  subject  : (attrs.get? "subject").bind env.subject? = some id
  step     : InRange step ∧ step = ((attrs.get? "step").map Reading.int).getD 1
  min      : InRange min ∧ min = ((attrs.get? "min_value").map Reading.int).getD minInt
  max      : InRange max ∧ max = ((attrs.get? "max_value").map Reading.int).getD maxInt
  rollover : rollover = (Reading.boolAttr attrs "rollover").value

theorem action_increment {a : Action} (h : (action env attrs .increment).value = some a) :
    ∃ id step min max rollover, a = .increment id step min max rollover ∧
      Increments env attrs id step min max rollover := by
  rw [action, Noted.value_bind, value_subject] at h
  cases hid : (attrs.get? "subject").bind env.subject?
  case none => simp [hid] at h
  case some id =>
    rw [hid] at h
    cases h
    exact ⟨id, _, _, _, _, rfl, {
      subject  := hid
      step     := ⟨Reading.inRange_intAttr (by decide) attrs "step", rfl⟩
      min      := ⟨Reading.inRange_intAttr (by decide) attrs "min_value", rfl⟩
      max      := ⟨Reading.inRange_intAttr (by decide) attrs "max_value", rfl⟩
      rollover := rfl }⟩

end Modifier

namespace Scene

variable {s : Scene} {id : SubjectId} {n : Int}

theorem subject?_increment (h : s.subject? id = some (.int n)) (target : ObjId) (code : EventCode)
    (step min max : Int) (rollover : Bool) :
    (Scene.run target code s (.increment id step min max rollover)).2.subject? id =
      some (.int (stepped n step min max rollover)) := by
  have hget : s.subjects[id.index]? = some (.int n) := h
  simp [subject?, Scene.run, Action.subject?, Array.getElem?_modify, hget, Action.update]

theorem increment_exact_iff (h : s.subject? id = some (.int n)) {min max : Int}
    (hmin : InRange min) (hmax : InRange max) (step : Int) (rollover : Bool) (target : ObjId)
    (code : EventCode) :
    let after := (Scene.run target code s (.increment id step min max rollover)).2.subject? id
    (after = some (.int (exactlyStepped n step min max rollover)) ↔
      ¬(rollover ∧ Withheld (n + step) min max)) ∧
    (Withheld (n + step) min max → after = some (.int (saturate (n + step)))) ∧
    ∀ env attrs, ∀ a ∈ (Modifier.action env attrs .increment).value,
      ∃ id step min max rollover, a = .increment id step min max rollover ∧
        Modifier.Increments env attrs id step min max rollover := by
  intro after
  have hafter : after = some (.int (stepped n step min max rollover)) :=
    subject?_increment h target code step min max rollover
  refine ⟨?exact, fun hw => ?withheld, fun env attrs a ha => Modifier.action_increment ha⟩
  case exact    => simpa [hafter] using stepped_eq_exactlyStepped_iff hmin hmax
  case withheld => rw [hafter, stepped_of_withheld hw hmin hmax]

theorem increment_exact_iff_ten :
    let s : Scene := { subjects := #[.int 10, .int maxInt] }
    let after (id : SubjectId) (min max : Int) :=
      (Scene.run ⟨0⟩ .clicked s (.increment id 1 min max true)).2.subject? id
    after ⟨0⟩ 0 10 = some (.int 0) ∧ after ⟨1⟩ minInt maxInt = some (.int maxInt) := by
  intro s after
  have hzero : ¬(true ∧ Withheld (10 + 1) 0 10) := fun h =>
    Withheld.not_of_inRange (by decide) h.2
  have hend : Withheld (maxInt + 1) minInt maxInt := .above (by decide) rfl (by decide)
  have hten : s.subject? ⟨0⟩ = some (.int 10) := rfl
  have hmax : s.subject? ⟨1⟩ = some (.int maxInt) := rfl
  have hbounds : InRange 0 ∧ InRange 10 ∧ InRange minInt ∧ InRange maxInt := by decide
  exact ⟨(increment_exact_iff hten hbounds.1 hbounds.2.1 1 true ⟨0⟩ .clicked).1.mpr hzero,
    (increment_exact_iff hmax hbounds.2.2.1 hbounds.2.2.2 1 true ⟨0⟩ .clicked).2.1 hend⟩

end Scene

namespace Loader

theorem count_stays_at_end :
    let globals := Call.loadGlobals
      "<globals><subjects><int name='count' value='2147483647'/></subjects></globals>"
    let view := Call.loadView none
      "<view extends='button'><subject_increment_event subject='count' rollover='true'/></view>"
    let l := globals.run {} .empty
    let s := (view.run l.1 l.2).2
    s.subject? ⟨0⟩ = some (.int maxInt) ∧
      s.actions ⟨0⟩ .clicked = [.increment ⟨0⟩ 1 minInt maxInt true] ∧
      exactlyStepped maxInt 1 minInt maxInt true = minInt ∧
      (s.send ⟨0⟩ .clicked).2.subject? ⟨0⟩ = some (.int maxInt) := by
  decide +kernel

end Loader

end UiMarkup
