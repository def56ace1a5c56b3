import UiMarkup.Style.Basic

namespace UiMarkup

namespace Style

def keys (s : Style) : List StyleProp :=
  Assoc.keys s.props

section Keys

variable {s : Style} {p : StyleProp} {v : StyleValue}

theorem mem_keys_iff : p ∈ s.keys ↔ (s.get? p).isSome :=
  Assoc.mem_keys_iff

theorem keys_set_of_mem (h : p ∈ s.keys) : (s.set p v).keys = s.keys :=
  Assoc.keys_set_of_mem v h

theorem keys_set_of_not_mem (h : p ∉ s.keys) : (s.set p v).keys = s.keys ++ [p] :=
  Assoc.keys_set_of_not_mem v h

theorem keys_remove : (s.remove p).1.keys = s.keys.filter (· ≠ p) :=
  Assoc.keys_erase ..

theorem nodup_keys_set (h : s.keys.Nodup) : (s.set p v).keys.Nodup :=
  Assoc.nodup_keys_set p v h

theorem snd_remove : (s.remove p).2 ↔ p ∈ s.keys := by
  have hlength : (s.remove p).2 ↔ (s.keys.filter (· ≠ p)).length ≠ s.keys.length := by
    rw [← keys_remove]
    simp [remove, keys, Assoc.keys]
  rw [hlength, Ne, List.length_filter_eq_length_iff]
  simp

end Keys

inductive Call
  | set (p : StyleProp) (v : StyleValue)
  | remove (p : StyleProp)
deriving DecidableEq

namespace Call

def run (s : Style) : Call → Style
  | set p v  => s.set p v
  | remove p => (s.remove p).1

def value? (p : StyleProp) : Call → Option StyleValue
  | set q v  => if q = p then some v else none
  | remove _ => none

def sets (p : StyleProp) (c : Call) : Bool :=
  (c.value? p).isSome

end Call

abbrev History := List Call

namespace History

def style : History → Style
  | []           => .empty
  | c :: earlier => c.run (style earlier)

-- The calls since `p` was last removed.
def since (h : History) (p : StyleProp) : History :=
  h.takeWhile (· ≠ .remove p)

def value? (h : History) (p : StyleProp) : Option StyleValue :=
  (h.since p).findSome? (Call.value? p)

-- The number of the call that was the first one to set `p` since then. Calls are numbered from the
-- earliest one on, so the numbers of earlier calls stay when there are more.
def place? (h : History) (p : StyleProp) : Option Nat :=
  ((h.since p).reverse.findIdx? (Call.sets p)).map (h.length - (h.since p).length + ·)

variable {h : History} {p q : StyleProp} {v : StyleValue}

@[simp] theorem since_set : since (.set q v :: h) p = .set q v :: h.since p := by
  simp [since]

@[simp] theorem since_remove :
    since (.remove q :: h) p = if q = p then [] else .remove q :: h.since p := by
  by_cases hq : q = p <;> simp [since, hq]

theorem length_since_le : (h.since p).length ≤ h.length :=
  (List.takeWhile_prefix _).length_le

theorem value?_set : value? (.set q v :: h) p = if q = p then some v else h.value? p := by
  by_cases hq : q = p <;> simp [value?, Call.value?, hq]

theorem value?_remove : value? (.remove q :: h) p = if q = p then none else h.value? p := by
  by_cases hq : q = p <;> simp [value?, List.findSome?_cons, Call.value?, hq]

theorem place?_set : place? (.set q v :: h) p =
    if q = p then (h.place? p).or (some h.length) else h.place? p := by
  have hlength := length_since_le (h := h) (p := p)
  by_cases hq : q = p
  case pos =>
    simp only [place?, since_set, List.reverse_cons, List.findIdx?_append]
    cases (h.since p).reverse.findIdx? (Call.sets p) <;>
      simp [Call.sets, Call.value?, hq, hlength]
  case neg => simp [place?, List.findIdx?_append, Call.sets, Call.value?, hq]

theorem place?_remove : place? (.remove q :: h) p = if q = p then none else h.place? p := by
  by_cases hq : q = p <;> simp [place?, List.findIdx?_append, Call.sets, Call.value?, hq]

theorem lt_length_of_place? {i : Nat} (hi : h.place? p = some i) : i < h.length := by
  have hlength := length_since_le (h := h) (p := p)
  obtain ⟨j, hj, rfl⟩ := Option.map_eq_some_iff.mp hi
  have hj := (List.findIdx?_eq_some_iff_findIdx_eq.mp hj).1
  rw [List.length_reverse] at hj
  omega

theorem isSome_place? : (h.place? p).isSome ↔ (h.value? p).isSome := by
  simp [place?, value?, Call.sets, List.findIdx?_isSome, List.findSome?_isSome_iff]

-- `p` got its place before `q` did.
def Precedes (h : History) (p q : StyleProp) : Prop :=
  ∃ i ∈ h.place? p, ∃ j ∈ h.place? q, i < j

theorem mem_place?_set {i : Nat} (hi : i ∈ h.place? p) : i ∈ place? (.set q v :: h) p := by
  by_cases hq : q = p <;> simp_all [place?_set]

theorem Precedes.set {a b : StyleProp} (hab : h.Precedes a b) : Precedes (.set q v :: h) a b := by
  have ⟨i, hi, j, hj, hij⟩ := hab
  exact ⟨i, mem_place?_set hi, j, mem_place?_set hj, hij⟩

theorem Precedes.remove {a b : StyleProp} (hab : h.Precedes a b) (ha : a ≠ q) (hb : b ≠ q) :
    Precedes (.remove q :: h) a b := by
  simpa [Precedes, place?_remove, ha.symm, hb.symm] using hab

theorem precedes_set_self (hp : (h.place? p).isSome) (hq : h.place? q = none) :
    Precedes (.set q v :: h) p q := by
  have ⟨i, hi⟩ := Option.isSome_iff_exists.mp hp
  exact ⟨i, mem_place?_set hi, h.length, by simp [place?_set, hq], lt_length_of_place? hi⟩

structure Recorded (h : History) (s : Style) : Prop where
  once    : s.keys.Nodup
  value   : ∀ p, s.get? p = h.value? p
  placed  : ∀ p, p ∈ s.keys ↔ (h.place? p).isSome
  order   : s.keys.Pairwise h.Precedes
  removal : ∀ p, (s.remove p).2 ↔ p ∈ s.keys

namespace Recorded

variable {s : Style}

-- Which properties there are, and what removing one answers, comes with the values.
theorem of_value (once : s.keys.Nodup) (value : ∀ p, s.get? p = h.value? p)
    (order : s.keys.Pairwise h.Precedes) : h.Recorded s where
  once    := once
  value   := value
  placed  := fun p => by rw [mem_keys_iff, value, isSome_place?]
  order   := order
  removal := fun _ => snd_remove

theorem empty : Recorded [] .empty :=
  .of_value .nil (fun _ => rfl) .nil

theorem set (hs : h.Recorded s) (q : StyleProp) (v : StyleValue) :
    Recorded (.set q v :: h) (s.set q v) := by
  refine .of_value (nodup_keys_set hs.once) (fun p => ?value) ?order
  case value =>
    rw [value?_set, ← hs.value]
    by_cases hq : q = p
    case pos => simp [hq]
    case neg => simp [hq, get?_set_of_ne s v hq]
  case order =>
    have hkept : s.keys.Pairwise (Precedes (.set q v :: h)) := hs.order.imp .set
    by_cases hq : q ∈ s.keys
    case pos => rwa [keys_set_of_mem hq]
    case neg =>
      have hnone : h.place? q = none := by simpa [hs.placed] using hq
      rw [keys_set_of_not_mem hq, List.pairwise_append]
      refine ⟨hkept, List.pairwise_singleton .., fun p hp q' hq' => ?_⟩
      rw [List.mem_singleton.mp hq']
      exact precedes_set_self ((hs.placed p).mp hp) hnone

theorem remove (hs : h.Recorded s) (q : StyleProp) :
    Recorded (.remove q :: h) (s.remove q).1 := by
  refine .of_value ?once (fun p => ?value) ?order
  case once => exact keys_remove ▸ hs.once.filter _
  case value =>
    rw [value?_remove, ← hs.value]
    by_cases hq : q = p
    case pos => simp [hq, Style.remove]
    case neg => simp [hq, Style.remove, get?_erase_of_ne s hq]
  case order =>
    rw [keys_remove]
    refine (hs.order.filter _).imp_of_mem fun ha hb hab => ?_
    simp only [List.mem_filter, decide_eq_true_eq] at ha hb
    exact hab.remove ha.2 hb.2

theorem run (hs : h.Recorded s) (c : Call) : Recorded (c :: h) (c.run s) := by
  cases c
  case set q v  => exact hs.set q v
  case remove q => exact hs.remove q

end Recorded

theorem style_recorded (h : History) : h.Recorded h.style := by
  induction h
  case nil            => exact .empty
  case cons c h hrest => exact hrest.run c

-- A property that is set again keeps its place; one that was removed in between goes to the end.
example (u v w : StyleValue) :
    (style [.set .radius w, .remove .radius, .set .radius v, .set .width u, .set .radius u]).props =
      [(.width, u), (.radius, w)] := by
  rfl

end History

end Style

end UiMarkup
