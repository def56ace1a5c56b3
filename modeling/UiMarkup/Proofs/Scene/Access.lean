import UiMarkup.Scene.Basic

namespace UiMarkup.Scene

variable {s : Scene} {id i : ObjId}

theorem has_iff : s.has id ↔ id.index < s.size := by
  simp [has]

theorem has_iff_obj? : s.has id ↔ ∃ o, s.obj? id = some o := by
  rw [has_iff]
  constructor
  case mp  => exact fun h => ⟨_, Array.getElem?_eq_getElem h⟩
  case mpr => exact fun ⟨_, h⟩ => Array.getElem?_eq_some_iff.mp h |>.1

theorem has_of_obj? {o : Obj} (h : s.obj? id = some o) : s.has id :=
  has_iff_obj?.mpr ⟨o, h⟩

@[simp] theorem objects_visit : (s.visit id).objects = s.objects := by
  unfold visit; split <;> rfl

@[simp] theorem obj?_visit : (s.visit id).obj? i = s.obj? i := by
  simp [obj?]

@[simp] theorem size_visit : (s.visit id).size = s.size := by
  simp [size]

@[simp] theorem has_visit : (s.visit id).has i = s.has i := by
  simp [has]

theorem visit_of_has (h : s.has id) : s.visit id = s := by
  simp [visit, h]

@[simp] theorem size_modify {f : Obj → Obj} : (s.modify id f).size = s.size := by
  simp [size, modify]

@[simp] theorem has_modify {f : Obj → Obj} : (s.modify id f).has i = s.has i := by
  simp [has]

theorem obj?_modify {f : Obj → Obj} :
    (s.modify id f).obj? i = if i = id then (s.obj? i).map f else s.obj? i := by
  simp only [obj?, modify, Array.getElem?_modify]
  by_cases h : i = id
  case pos => simp [h]
  case neg =>
    have hi : id.index ≠ i.index := fun hi => h (by cases i; cases id; simp_all)
    simp [h, hi]

theorem obj?_modify_of_ne {f : Obj → Obj} (h : i ≠ id) : (s.modify id f).obj? i = s.obj? i := by
  simp [obj?_modify, h]

theorem strays_modify {f : Obj → Obj} (h : s.has id) : (s.modify id f).strays = s.strays := by
  simp [modify, visit_of_has h]

def next (s : Scene) : ObjId :=
  ⟨s.size⟩

theorem not_has_next : ¬s.has s.next := by
  simp [has_iff, next]

theorem ne_next (h : s.has id) : id ≠ s.next :=
  fun he => not_has_next (he ▸ h)

def added (s : Scene) (o : Obj) : Scene :=
  { s with objects := s.objects.push o }

@[simp] theorem size_added {o : Obj} : (s.added o).size = s.size + 1 := by
  simp [added, size]

theorem obj?_added {o : Obj} : (s.added o).obj? i = if i = s.next then some o else s.obj? i := by
  have hn : i.index = s.objects.size ↔ i = s.next := by
    cases i; simp [next, size]
  simp [added, obj?, Array.getElem?_push, hn]

-- The children of the parent grow, and nothing else of the older objects changes.
def grown (s : Scene) (parent : Option ObjId) (i : ObjId) (o : Obj) : Obj :=
  if parent = some i then { o with children := o.children ++ [s.next] } else o

theorem grown_self :
    s.grown (some i) i = fun o => { o with children := o.children ++ [s.next] } := by
  funext o
  simp [grown]

theorem grown_of_ne {parent : Option ObjId} (h : parent ≠ some i) :
    s.grown parent i = fun o => o := by
  funext o
  simp [grown, h]

section Push

variable {kind : WidgetKind} {parent : Option ObjId}

@[simp] theorem fst_push : (s.push kind parent).1 = s.next := by
  cases parent <;> rfl

theorem push_none : (s.push kind none).2 = s.added { kind, parent := none } := rfl

theorem push_some {p : ObjId} : (s.push kind (some p)).2 =
    ((s.visit p).added { kind, parent := some p }).modify p
      fun o => { o with children := o.children ++ [s.next] } := rfl

@[simp] theorem size_push : (s.push kind parent).2.size = s.size + 1 := by
  cases parent
  case none => simp [push_none]
  case some => simp [push_some]

theorem has_push : (s.push kind parent).2.has id ↔ s.has id ∨ id = s.next := by
  simp only [has_iff, size_push, next]
  cases id
  simp only [ObjId.mk.injEq]
  omega

theorem has_push_of_has (h : s.has id) : (s.push kind parent).2.has id :=
  has_push.mpr (.inl h)

theorem has_next_push : (s.push kind parent).2.has s.next :=
  has_push.mpr (.inr rfl)

theorem obj?_push (h : ∀ p ∈ parent, s.has p) :
    (s.push kind parent).2.obj? i =
      if i = s.next then some { kind, parent } else (s.obj? i).map (s.grown parent i) := by
  cases parent
  case none => simp [push_none, obj?_added, grown_of_ne]
  case some p =>
    have hp := h p rfl
    rw [push_some, visit_of_has hp, obj?_modify, obj?_added]
    by_cases hi : i = p
    case pos => simp [hi, ne_next hp, grown_self]
    case neg =>
      have hp' : some p ≠ some i := fun h => hi (Option.some.inj h).symm
      simp [hi, grown_of_ne hp']

theorem obj?_push_next (h : ∀ p ∈ parent, s.has p) :
    (s.push kind parent).2.obj? s.next = some { kind, parent } := by
  simp [obj?_push h]

theorem obj?_push_of_has (h : ∀ p ∈ parent, s.has p) {o : Obj} (ho : s.obj? i = some o) :
    (s.push kind parent).2.obj? i = some (s.grown parent i o) := by
  simp [obj?_push h, ne_next (has_of_obj? ho), ho]

theorem strays_push (h : ∀ p ∈ parent, s.has p) :
    (s.push kind parent).2.strays = s.strays := by
  cases parent
  case none => rfl
  case some p =>
    have hp := h p rfl
    rw [push_some, visit_of_has hp, strays_modify]
    · rfl
    · rw [has_iff] at hp ⊢
      rw [size_added]
      omega

@[simp] theorem kind_grown {o : Obj} : (s.grown parent i o).kind = o.kind := by
  unfold grown; split <;> rfl

@[simp] theorem parent_grown {o : Obj} : (s.grown parent i o).parent = o.parent := by
  unfold grown; split <;> rfl

@[simp] theorem tabBar_grown {o : Obj} : (s.grown parent i o).tabBar = o.tabBar := by
  unfold grown; split <;> rfl

@[simp] theorem tabs_grown {o : Obj} : (s.grown parent i o).tabs = o.tabs := by
  unfold grown; split <;> rfl

@[simp] theorem tabButtons_grown {o : Obj} : (s.grown parent i o).tabButtons = o.tabButtons := by
  unfold grown; split <;> rfl

@[simp] theorem list_grown {o : Obj} : (s.grown parent i o).list = o.list := by
  unfold grown; split <;> rfl

@[simp] theorem localStyles_grown {o : Obj} : (s.grown parent i o).localStyles = o.localStyles := by
  unfold grown; split <;> rfl

end Push

end UiMarkup.Scene
