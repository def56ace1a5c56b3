import UiMarkup.Proofs.Scene.Request

namespace UiMarkup

-- What no request takes from an object again: its class, its place, and its list once it has one.
structure Obj.Lasts (o o' : Obj) : Prop where
  kind   : o'.kind = o.kind
  parent : o'.parent = o.parent
  list   : ∀ l ∈ o.list, o'.list = some l

theorem Obj.Lasts.refl {o : Obj} : o.Lasts o :=
  ⟨rfl, rfl, fun _ hl => hl⟩

theorem Obj.Lasts.trans {o₁ o₂ o₃ : Obj} (h₁ : o₁.Lasts o₂) (h₂ : o₂.Lasts o₃) : o₁.Lasts o₃ where
  kind   := h₂.kind.trans h₁.kind
  parent := h₂.parent.trans h₁.parent
  list   := fun l hl => h₂.list l (h₁.list l hl)

namespace Scene

def Under (s : Scene) (id : ObjId) (parent : Option ObjId) : Prop :=
  ∃ o, s.obj? id = some o ∧ o.parent = parent

def IsLoose (s : Scene) (id : ObjId) : Prop :=
  ∃ o, s.obj? id = some o ∧ o.kind = .obj ∧ o.parent = none

def Keeps (s s' : Scene) : Prop :=
  ∀ ⦃id o⦄, s.obj? id = some o → ∃ o', s'.obj? id = some o' ∧ o.Lasts o'

namespace Keeps

variable {s s₁ s₂ s' : Scene} {id : ObjId}

theorem refl : s.Keeps s :=
  fun _ o ho => ⟨o, ho, .refl⟩

theorem trans (h₁ : s.Keeps s₁) (h₂ : s₁.Keeps s₂) : s.Keeps s₂ := by
  intro id o ho
  obtain ⟨o₁, ho₁, hl₁⟩ := h₁ ho
  obtain ⟨o₂, ho₂, hl₂⟩ := h₂ ho₁
  exact ⟨o₂, ho₂, hl₁.trans hl₂⟩

theorem under {parent : Option ObjId} (h : s.Keeps s') : s.Under id parent → s'.Under id parent
  | ⟨_, ho, hp⟩ => let ⟨o', ho', hl⟩ := h ho; ⟨o', ho', hl.parent.trans hp⟩

theorem isLoose (h : s.Keeps s') : s.IsLoose id → s'.IsLoose id
  | ⟨_, ho, hk, hp⟩ => let ⟨o', ho', hl⟩ := h ho; ⟨o', ho', hl.kind.trans hk, hl.parent.trans hp⟩

end Keeps

theorem Under.has {s : Scene} {id : ObjId} {parent : Option ObjId} : s.Under id parent → s.has id
  | ⟨_, ho, _⟩ => has_of_obj? ho

end Scene

-- What an object under `id` records about others is so.
structure Obj.Tied (s : Scene) (id : ObjId) (o : Obj) : Prop where
  paired  : o.tabs.length = o.tabButtons.length
  pages   : ∀ t ∈ o.tabs, s.Under t (some id)
  buttons : ∀ b ∈ o.tabButtons, s.Under b o.tabBar
  bar     : ∀ b ∈ o.tabBar, s.Under b (some id)
  list    : ∀ l ∈ o.list, o.kind = .dropdown ∧ s.IsLoose l
  locals  : o.localStyles.keys.Nodup

namespace Obj.Tied

variable {s s' : Scene} {id : ObjId} {o : Obj}

theorem mono (h : o.Tied s id) (hs : s.Keeps s') : o.Tied s' id where
  paired  := h.paired
  pages   := fun t ht => hs.under (h.pages t ht)
  buttons := fun b hb => hs.under (h.buttons b hb)
  bar     := fun b hb => hs.under (h.bar b hb)
  list    := fun l hl => ⟨(h.list l hl).1, hs.isLoose (h.list l hl).2⟩
  locals  := h.locals

theorem grown {s₀ : Scene} {parent : Option ObjId} {i : ObjId} (h : o.Tied s id) :
    (s₀.grown parent i o).Tied s id := by
  unfold Scene.grown
  split
  · exact ⟨h.paired, h.pages, h.buttons, h.bar, h.list, h.locals⟩
  · exact h

theorem new {kind : WidgetKind} {parent : Option ObjId} : Obj.Tied s id { kind, parent } where
  paired  := rfl
  pages   := by simp
  buttons := by simp
  bar     := by simp
  list    := by simp
  locals  := List.nodup_nil

theorem withBar {b : ObjId} (h : o.Tied s id) (ho : o.tabButtons = []) (hb : s.Under b (some id)) :
    Obj.Tied s id { o with tabBar := some b } where
  paired  := h.paired
  pages   := h.pages
  buttons := by simp [ho]
  bar     := by simpa using hb
  list    := h.list
  locals  := h.locals

theorem withTab {b t : ObjId} (h : o.Tied s id) (hb : s.Under b o.tabBar)
    (ht : s.Under t (some id)) :
    Obj.Tied s id { o with tabButtons := o.tabButtons ++ [b], tabs := o.tabs ++ [t] } where
  paired  := by simp [h.paired]
  pages   := by simpa [or_imp, forall_and] using ⟨h.pages, ht⟩
  buttons := by simpa [or_imp, forall_and] using ⟨h.buttons, hb⟩
  bar     := h.bar
  list    := h.list
  locals  := h.locals

theorem withList {l : ObjId} (h : o.Tied s id) (hk : o.kind = .dropdown) (hl : s.IsLoose l) :
    Obj.Tied s id { o with list := some l } where
  paired  := h.paired
  pages   := h.pages
  buttons := h.buttons
  bar     := h.bar
  list    := by simpa [hk] using hl
  locals  := h.locals

theorem edit (h : o.Tied s id) (e : Edit) : (o.edit e).Tied s id where
  paired  := h.paired
  pages   := h.pages
  buttons := h.buttons
  bar     := h.bar
  list    := h.list
  locals  := by
    cases e
    case localStyle => exact Assoc.nodup_keys_set _ _ h.locals
    all_goals exact h.locals

end Obj.Tied

namespace Scene

structure WellTied (s : Scene) : Prop where
  children : ∀ {p o c}, s.obj? p = some o → (c ∈ o.children ↔ s.Under c (some p))
  older    : ∀ {c p}, s.Under c (some p) → p.index < c.index
  sorted   : ∀ {p o}, s.obj? p = some o → o.children.Pairwise (·.index < ·.index)
  tied     : ∀ {id o}, s.obj? id = some o → o.Tied s id
  unshared : ∀ {i j o o' l}, s.obj? i = some o → s.obj? j = some o' →
    o.list = some l → o'.list = some l → i = j

theorem wellTied_empty : empty.WellTied where
  children := by simp [obj?, empty]
  older    := by simp [Under, obj?, empty]
  sorted   := by simp [obj?, empty]
  tied     := by simp [obj?, empty]
  unshared := by simp [obj?, empty]

section Modify

variable {s : Scene} {id i : ObjId} {f : Obj → Obj}

theorem eq_of_obj?_modify {o' : Obj} (h : (s.modify id f).obj? i = some o') :
    ∃ o, s.obj? i = some o ∧ o' = if i = id then f o else o := by
  rw [obj?_modify] at h
  split at h
  case isTrue hi =>
    obtain ⟨o, ho, hf⟩ := Option.map_eq_some_iff.mp h
    exact ⟨o, ho, by rw [if_pos hi]; exact hf.symm⟩
  case isFalse hi => exact ⟨o', h, by simp [hi]⟩

theorem keeps_modify (hf : ∀ o, s.obj? id = some o → o.Lasts (f o)) :
    s.Keeps (s.modify id f) := by
  intro i o ho
  by_cases hi : i = id
  case pos => exact ⟨f o, by simp [obj?_modify, hi ▸ ho, hi], hf o (hi ▸ ho)⟩
  case neg => exact ⟨o, by rw [obj?_modify_of_ne hi, ho], .refl⟩

theorem under_of_modify {parent : Option ObjId} (hf : ∀ o, s.obj? id = some o → o.Lasts (f o)) :
    (s.modify id f).Under i parent → s.Under i parent
  | ⟨o', ho', h⟩ => by
    obtain ⟨o, ho, he⟩ := eq_of_obj?_modify ho'
    refine ⟨o, ho, ?_⟩
    rw [← h, he]
    split
    case isTrue hi => exact (hf o (hi ▸ ho)).parent.symm
    case isFalse   => rfl

theorem WellTied.modify (h : s.WellTied) (hf : ∀ o, s.obj? id = some o → o.Lasts (f o))
    (hc : ∀ o, (f o).children = o.children)
    (ht : ∀ o, s.obj? id = some o → (f o).Tied s id)
    (hl : ∀ {o j x l}, s.obj? id = some o → (f o).list = some l → s.obj? j = some x →
      x.list = some l → j = id) : (s.modify id f).WellTied := by
  have hkeep : s.Keeps (s.modify id f) := keeps_modify hf
  have hchildren {p o'} (ho' : (s.modify id f).obj? p = some o') :
      ∃ o, s.obj? p = some o ∧ o'.children = o.children := by
    obtain ⟨o, ho, he⟩ := eq_of_obj?_modify ho'
    refine ⟨o, ho, ?_⟩
    rw [he]
    split
    · exact hc o
    · rfl
  constructor
  case children =>
    intro p o' c ho'
    obtain ⟨o, ho, he⟩ := hchildren ho'
    rw [he, h.children ho]
    exact ⟨hkeep.under, under_of_modify hf⟩
  case older => exact fun hu => h.older (under_of_modify hf hu)
  case sorted =>
    intro p o' ho'
    obtain ⟨o, ho, he⟩ := hchildren ho'
    exact he ▸ h.sorted ho
  case tied =>
    intro i o' ho'
    obtain ⟨o, ho, he⟩ := eq_of_obj?_modify ho'
    split at he
    case isTrue hi => exact he ▸ hi ▸ (ht o (hi ▸ ho)).mono hkeep
    case isFalse   => exact he ▸ (h.tied ho).mono hkeep
  case unshared =>
    intro i j o' x' l hi hj hol hxl
    obtain ⟨o, ho, heo⟩ := eq_of_obj?_modify hi
    obtain ⟨x, hx, hex⟩ := eq_of_obj?_modify hj
    split at heo <;> split at hex
    case isTrue.isTrue hi' hj'   => rw [hi', hj']
    case isTrue.isFalse hi' hj'  =>
      subst hi' heo hex
      exact (hl ho hol hx hxl).symm
    case isFalse.isTrue hi' hj'  =>
      subst hj' heo hex
      exact hl hx hxl ho hol
    case isFalse.isFalse hi' hj' => exact h.unshared ho hx (heo ▸ hol) (hex ▸ hxl)

theorem keeps_edit (e : Edit) : s.Keeps (s.edit id e) :=
  keeps_modify fun _ _ => ⟨rfl, rfl, fun _ hl => hl⟩

theorem WellTied.edit (h : s.WellTied) (e : Edit) : (s.edit id e).WellTied :=
  h.modify (fun _ _ => ⟨rfl, rfl, fun _ hl => hl⟩) (fun _ => rfl) (fun _ ho => (h.tied ho).edit e)
    (fun ho hl hj hx => h.unshared hj ho hx hl)

end Modify

section Push

variable {s : Scene} {kind : WidgetKind} {parent : Option ObjId}

theorem eq_of_obj?_push (hp : ∀ p ∈ parent, s.has p) {i : ObjId} {o' : Obj}
    (h : (s.push kind parent).2.obj? i = some o') :
    (i = s.next ∧ o' = { kind, parent }) ∨ ∃ o, s.obj? i = some o ∧ o' = s.grown parent i o := by
  rw [obj?_push hp] at h
  split at h
  case isTrue hi  => exact .inl ⟨hi, (Option.some.inj h).symm⟩
  case isFalse    =>
    obtain ⟨o, ho, he⟩ := Option.map_eq_some_iff.mp h
    exact .inr ⟨o, ho, he.symm⟩

theorem keeps_push (hp : ∀ p ∈ parent, s.has p) : s.Keeps (s.push kind parent).2 :=
  fun _ _ ho =>
    ⟨_, obj?_push_of_has hp ho, kind_grown, parent_grown, fun _ hl => list_grown.trans hl⟩

theorem under_push (hp : ∀ p ∈ parent, s.has p) {i : ObjId} {q : Option ObjId} :
    (s.push kind parent).2.Under i q ↔ s.Under i q ∨ (i = s.next ∧ q = parent) := by
  constructor
  case mp =>
    intro ⟨o', ho', hq⟩
    cases eq_of_obj?_push hp ho'
    case inl h => exact .inr ⟨h.1, hq ▸ h.2 ▸ rfl⟩
    case inr h =>
      obtain ⟨o, ho, he⟩ := h
      exact .inl ⟨o, ho, by rw [← hq, he, parent_grown]⟩
  case mpr =>
    intro h
    cases h
    case inl h => exact (keeps_push hp).under h
    case inr h => exact ⟨_, h.1 ▸ obj?_push_next hp, h.2.symm⟩

theorem isLoose_push_next : (s.push .obj none).2.IsLoose s.next :=
  ⟨_, obj?_push_next (by simp), rfl, rfl⟩

theorem WellTied.lt_next_of_child (h : s.WellTied) {p c : ObjId} {o : Obj}
    (ho : s.obj? p = some o) (hc : c ∈ o.children) : c.index < s.size :=
  has_iff.mp ((h.children ho).mp hc).has

theorem WellTied.push (h : s.WellTied) (hp : ∀ p ∈ parent, s.has p) :
    (s.push kind parent).2.WellTied := by
  constructor
  case children =>
    intro p o' c ho'
    rw [under_push hp]
    cases eq_of_obj?_push hp ho'
    case inl hn =>
      -- The new object has no children, and nothing can stand in it yet.
      have h₁ : ¬s.Under c (some p) := fun hu => by
        have := h.older hu
        have := has_iff.mp hu.has
        simp only [hn.1, next] at *
        omega
      have h₂ : some p ≠ parent := fun he => not_has_next (hn.1 ▸ hp p he.symm)
      simp [hn.2, h₁, h₂]
    case inr ho =>
      obtain ⟨o, ho, he⟩ := ho
      by_cases hpar : parent = some p
      case pos =>
        rw [he, ← h.children ho, hpar, grown_self]
        simp
      case neg =>
        rw [he, ← h.children ho, grown_of_ne hpar]
        simp [Ne.symm hpar]
  case older =>
    intro c p hu
    cases (under_push hp).mp hu
    case inl hu => exact h.older hu
    case inr hn => exact hn.1 ▸ has_iff.mp (hp p hn.2.symm)
  case sorted =>
    intro p o' ho'
    cases eq_of_obj?_push hp ho'
    case inl hn => simp [hn.2]
    case inr ho =>
      obtain ⟨o, ho, he⟩ := ho
      have hlt : ∀ c ∈ o.children, c.index < s.size := fun c hc => h.lt_next_of_child ho hc
      by_cases hpar : parent = some p
      case pos =>
        rw [he, hpar, grown_self, List.pairwise_append]
        exact ⟨h.sorted ho, List.pairwise_singleton .., by simpa [next] using hlt⟩
      case neg => exact he ▸ (grown_of_ne hpar ▸ h.sorted ho)
  case tied =>
    intro i o' ho'
    cases eq_of_obj?_push hp ho'
    case inl hn => exact hn.2 ▸ .new
    case inr ho =>
      obtain ⟨o, ho, he⟩ := ho
      exact he ▸ ((h.tied ho).mono (keeps_push hp)).grown
  case unshared =>
    intro i j o' x' l hi hj hol hxl
    cases eq_of_obj?_push hp hi <;> cases eq_of_obj?_push hp hj
    case inl.inl hn _ => simp [hn.2] at hol
    case inl.inr hn _ => simp [hn.2] at hol
    case inr.inl _ hn => simp [hn.2] at hxl
    case inr.inr ho hx =>
      obtain ⟨o, ho, heo⟩ := ho
      obtain ⟨x, hx, hex⟩ := hx
      exact h.unshared ho hx (by simpa [heo] using hol) (by simpa [hex] using hxl)

end Push

end Scene

end UiMarkup
