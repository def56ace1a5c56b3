import UiMarkup.Proofs.Scene.Access

namespace UiMarkup.Scene

inductive Request
  | createWidget (kind : WidgetKind) (parent : Option ObjId)
  | edit (id : ObjId) (e : Edit)                    -- new sections and new spans are edits as well
  | look (id : ObjId)                               -- at the tab bar, the tabs or a tab button
  | dropdownList (id : ObjId)
  | addTab (id : ObjId) (title : String)
  | addHeader (calendar : ObjId)
  | createSubject (initial : SubjectValue)
  | subjectKind (id : SubjectId)
  | loadFont (source : FontSource)
  | createTimeline
  | addStep (id : TimelineId) (step : TimelineStep)

namespace Request

def named : Request → List ObjId
  | createWidget _ parent => parent.toList
  | edit id _             => [id]
  | look id               => [id]
  | dropdownList id       => [id]
  | addTab id _           => [id]
  | addHeader calendar    => [calendar]
  | _                     => []

def run (s : Scene) : Request → Scene
  | createWidget kind parent => (s.createWidget kind parent).2
  | edit id e                => s.edit id e
  | look id                  => s.visit id
  | dropdownList id          => (s.dropdownList id).2
  | addTab id title          => (s.addTab id title).2
  | addHeader calendar       => (s.push .obj (some calendar)).2
  | createSubject initial    => (s.createSubject initial).2
  | subjectKind _            => s
  | loadFont source          => (s.loadFont source).2
  | createTimeline           => s.createTimeline.2
  | addStep id step          => s.addStep id step

def Admissible (s : Scene) (r : Request) : Prop :=
  ∀ id ∈ r.named, s.has id

end Request

-- The second scene comes out of the first one by requests that name existing objects.
inductive Leads (s : Scene) : Scene → Prop
  | refl : Leads s s
  | call {s' : Scene} : Leads s s' → (r : Request) → r.Admissible s' → Leads s (r.run s')

namespace Leads

variable {s₁ s₂ s₃ : Scene}

theorem single (r : Request) (h : r.Admissible s₁) : Leads s₁ (r.run s₁) :=
  .call .refl r h

theorem trans (h₁ : Leads s₁ s₂) (h₂ : Leads s₂ s₃) : Leads s₁ s₃ := by
  induction h₂
  case refl         => exact h₁
  case call r ok hi => exact .call hi r ok

end Leads

section Compound

variable {s : Scene} {id : ObjId}

theorem createWidget_of_ne {kind : WidgetKind} {parent : Option ObjId} (h : kind ≠ .tabview) :
    s.createWidget kind parent = s.push kind parent := by
  simp only [createWidget, h, if_false]

theorem createWidget_tabview {parent : Option ObjId} :
    s.createWidget .tabview parent =
      let s₁ := (s.push .tabview parent).2
      (s.next, (s₁.push .obj (some s.next)).2.modify s.next
        fun o => { o with tabBar := some s₁.next }) := by
  simp [createWidget]

@[simp] theorem fst_createWidget {kind : WidgetKind} {parent : Option ObjId} :
    (s.createWidget kind parent).1 = s.next := by
  by_cases h : kind = .tabview
  case pos => rw [h, createWidget_tabview]
  case neg => rw [createWidget_of_ne h, fst_push]

theorem dropdownList_of_kind_ne {o : Obj} (ho : s.obj? id = some o) (hk : o.kind ≠ .dropdown) :
    s.dropdownList id = (none, s) := by
  simp [dropdownList, ho, hk]

theorem dropdownList_of_list {o : Obj} {l : ObjId} (ho : s.obj? id = some o)
    (hk : o.kind = .dropdown) (hl : o.list = some l) : s.dropdownList id = (some l, s) := by
  simp [dropdownList, ho, hk, hl]

theorem dropdownList_of_no_list {o : Obj} (ho : s.obj? id = some o) (hk : o.kind = .dropdown)
    (hl : o.list = none) : s.dropdownList id =
      (some s.next, (s.push .obj none).2.modify id fun o => { o with list := some s.next }) := by
  simp [dropdownList, ho, hk, hl]

theorem dropdownList_cases {P : Scene → Prop} {o : Obj} (ho : s.obj? id = some o) (same : P s)
    (new : o.kind = .dropdown → o.list = none →
      P ((s.push .obj none).2.modify id fun o => { o with list := some s.next })) :
    P (s.dropdownList id).2 := by
  by_cases hk : o.kind = .dropdown
  case neg => exact dropdownList_of_kind_ne ho hk ▸ same
  case pos =>
    cases hl : o.list
    case some l => exact dropdownList_of_list ho hk hl ▸ same
    case none   => exact dropdownList_of_no_list ho hk hl ▸ new hk hl

def withButton (s : Scene) (id : ObjId) (title : String) : Scene :=
  (s.push .button (s.tabBar? id)).2.edit s.next (.prop (.text title))

def withTab (s : Scene) (id : ObjId) (title : String) : Scene :=
  ((s.withButton id title).push .obj (some id)).2

theorem addTab_of_has {title : String} (h : s.has id) :
    s.addTab id title = (⟨s.size + 1⟩, (s.withTab id title).modify id fun o =>
      { o with tabButtons := o.tabButtons ++ [s.next], tabs := o.tabs ++ [⟨s.size + 1⟩] }) := by
  simp [addTab, withTab, withButton, visit_of_has h, next, edit]

theorem next_withButton {title : String} : (s.withButton id title).next = ⟨s.size + 1⟩ := by
  simp [withButton, next, edit]

theorem has_withButton {title : String} (h : s.has id) : (s.withButton id title).has id := by
  rw [withButton, edit, has_modify]
  exact has_push_of_has h

theorem obj?_withButton {title : String} {o : Obj} (hb : ∀ b ∈ s.tabBar? id, s.has b)
    (ho : s.obj? id = some o) :
    (s.withButton id title).obj? id = some (s.grown (s.tabBar? id) id o) := by
  rw [withButton, edit, obj?_modify_of_ne (ne_next (has_of_obj? ho))]
  exact obj?_push_of_has hb ho

end Compound

@[simp] theorem size_edit {s : Scene} {id : ObjId} {e : Edit} : (s.edit id e).size = s.size :=
  size_modify

theorem size_createWidget_gt {s : Scene} {kind : WidgetKind} {parent : Option ObjId} :
    s.size < (s.createWidget kind parent).2.size := by
  by_cases h : kind = .tabview
  case pos =>
    simp only [h, createWidget_tabview, size_modify, size_push]
    omega
  case neg =>
    rw [createWidget_of_ne h, size_push]
    omega

theorem size_dropdownList_ge {s : Scene} {id : ObjId} : s.size ≤ (s.dropdownList id).2.size := by
  unfold dropdownList
  split
  · simp
  · split
    · exact Nat.le_refl _
    · split <;> simp

theorem size_addTab_ge {s : Scene} {id : ObjId} {title : String} :
    s.size ≤ (s.addTab id title).2.size := by
  simp only [addTab, size_modify, size_push, size_edit, size_visit]
  omega

theorem Request.size_le_run {s : Scene} {r : Request} : s.size ≤ (r.run s).size := by
  cases r
  case createWidget => exact Nat.le_of_lt size_createWidget_gt
  case dropdownList => exact size_dropdownList_ge
  case addTab       => exact size_addTab_ge
  case addHeader    => simp [run]
  case look         => simp [run]
  case edit         => simp [run]
  case loadFont     => simp only [run, Scene.loadFont]; split <;> exact Nat.le_refl _
  all_goals exact Nat.le_refl _

theorem Leads.size_le {s s' : Scene} (h : s.Leads s') : s.size ≤ s'.size := by
  induction h
  case refl    => exact Nat.le_refl _
  case call hi => exact Nat.le_trans hi Request.size_le_run

theorem Leads.has {s s' : Scene} {id : ObjId} (h : s.Leads s') (hi : s.has id) : s'.has id :=
  has_iff.mpr <| Nat.lt_of_lt_of_le (has_iff.mp hi) h.size_le

end UiMarkup.Scene
