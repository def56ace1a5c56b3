import UiMarkup.Proofs.Build.Orders
import UiMarkup.Proofs.Widget.Reach

namespace UiMarkup

namespace Scene

variable {s : Scene} {id : ObjId}

theorem size_createWidget_le {kind : WidgetKind} {parent : Option ObjId} :
    (s.createWidget kind parent).2.size ≤ s.size + 2 := by
  by_cases h : kind = .tabview
  case pos => simp [h, createWidget_tabview]
  case neg => simp [createWidget_of_ne h]

theorem size_dropdownList_le : (s.dropdownList id).2.size ≤ s.size + 1 := by
  unfold dropdownList
  split
  case h_1 => simp
  case h_2 =>
    split
    case isTrue  => exact Nat.le_succ _
    case isFalse => split <;> simp

theorem size_addTab_le {title : String} : (s.addTab id title).2.size ≤ s.size + 2 := by
  simp [addTab]

end Scene

theorem Processor.size_create_le (p : Processor) {env : Env} {parent : Option ObjId} {attrs : Attrs}
    {s : Scene} : (p.create env parent attrs s).value.2.size ≤ s.size + 2 := by
  have hkept : s.size ≤ s.size + 2 := Nat.le_add_right ..
  cases p
  case widget => exact Scene.size_createWidget_le
  case custom kind =>
    cases kind
    case none   => exact hkept
    case some _ => exact Scene.size_createWidget_le
  case tableColumn => exact hkept
  case tableCell   => exact hkept
  case modifier    => exact hkept
  all_goals
    cases parent
    case none => exact hkept
  case dropdownList.some q =>
    have hlist : (s.dropdownList q).2.size ≤ s.size + 1 := Scene.size_dropdownList_le
    simp only [create]
    split
    case h_1 he => rw [he] at hlist; exact Nat.le_succ_of_le hlist
    case h_2 he => rw [he] at hlist; exact Nat.le_succ_of_le hlist
  case calendarHeader.some q => simp [create]
  case tabBar.some q => simp [create]
  case tab.some q => exact Scene.size_addTab_le
  case tabButton.some q => simp [create]
  case scaleSection.some q => simp [create, Scene.addSection]
  case span.some q => simp [create, Scene.addSpan]
  case imageSlice.some q =>
    simp only [create, Noted.value_map]
    obtain ⟨_, _, he⟩ := exists_makeImageSlice
    rw [he, Scene.size_edit]
    exact hkept

namespace Build

variable {setup : Setup} {inst : Instantiate} {b : Build} {o : Order}

theorem size_make_le (p : Processor) (attrs : Attrs) :
    (b.make p attrs).2.scene.size ≤ b.scene.size + 2 :=
  p.size_create_le

theorem size_fill_le (h : o.component? setup = none) :
    (o.fill setup inst).2.scene.size ≤ o.build.scene.size + 2 := by
  unfold Order.fill createElement
  dsimp only
  split
  case h_1 p _ =>
    have hmake := size_make_le (b := o.build) p o.attrs
    split
    case h_1 he      => rwa [he] at hmake
    case h_2 he =>
      rw [he] at hmake
      exact Nat.le_trans (Nat.le_of_eq (size_apply ..)) hmake
  case h_2 htag =>
    rw [Order.component?, htag] at h
    dsimp only at h
    rw [h]
    exact Nat.le_add_right ..

theorem scene_createElement {tag : String} {id : ScopeId} (htag : setup.widgets.get? tag = none)
    (hid : b.registry.componentScope? tag = some id) (attrs : Attrs) :
    (createElement setup inst b tag attrs).2.scene = (inst b id attrs).2.scene := by
  unfold createElement
  rw [htag]
  dsimp only
  rw [hid]
  dsimp only
  split
  case h_1 he => rw [he]
  case h_2 he => rw [he]; rfl

theorem scene_fill {id : ScopeId} (h : o.component? setup = some id) :
    (o.fill setup inst).2.scene = (inst o.build id o.attrs).2.scene :=
  have ⟨htag, hid⟩ := Order.component?_eq_some.mp h
  scene_createElement htag hid o.attrs

end Build

namespace Event

def isOpening : Event → Bool
  | opening .. => true
  | closing _  => false

end Event

namespace Build

variable {setup : Setup} {inst : Instantiate} {b : Build}

def openings (events : List Event) : Nat :=
  events.countP Event.isOpening

theorem openings_cons (e : Event) (events : List Event) :
    openings (e :: events) = openings [e] + openings events := by
  simp [openings, List.countP_cons, Nat.add_comm]

-- Every order of a replay comes from an element of its own, and finds the components as they were.

theorem length_orders_le (events : List Event) :
    (orders setup inst b events).length ≤ openings events := by
  induction events generalizing b
  case nil => exact Nat.le_refl _
  case cons e events hi =>
    have hone : (b.order? setup e).toList.length ≤ openings [e] := by
      cases e
      case closing => exact Nat.le_refl _
      case opening => exact Option.length_toList_le
    rw [orders, List.length_append, openings_cons]
    exact Nat.add_le_add hone hi

theorem component?_of_mem_orders (hinst : inst.Resumes) {events : List Event} {o : Order}
    (h : o ∈ orders setup inst b events) (id : ScopeId) :
    o.build.registry.component? id = b.registry.component? id := by
  induction events generalizing b
  case nil => cases h
  case cons e events hi =>
    cases List.mem_append.mp h
    case inl h => rw [(build_of_order? (Option.mem_toList.mp h)).1]
    case inr h => exact (hi h).trans (component?_step hinst e id)

section Replay

variable {bill : Order → List Nat} {m : Nat}

theorem size_step_le {e : Event} (h : ∀ o ∈ b.order? setup e, ∀ id ∈ o.component? setup,
    (inst o.build id o.attrs).2.scene.size ≤ o.build.scene.size + m * (bill o).length) :
    (step setup inst b e).scene.size ≤
      b.scene.size + 2 * openings [e] + m * ((b.order? setup e).toList.flatMap bill).length := by
  cases ho : b.order? setup e
  case none =>
    have hsize : (step setup inst b e).scene.size = b.scene.size :=
      congrArg Array.size (spares_step ho).objects
    omega
  case some o =>
    obtain ⟨f, hstep⟩ := step_of_order? ho
    have ⟨_, hscene, _⟩ := build_of_order? ho
    have hopening : openings [e] = 1 := by
      cases e
      case closing => cases ho
      case opening => rfl
    have hsize : (o.fill setup inst).2.scene.size ≤ b.scene.size + 2 + m * (bill o).length := by
      rw [← hscene]
      cases hid : o.component? setup
      case none    => exact Nat.le_add_right_of_le (size_fill_le hid)
      case some id =>
        have hid₁ := h o ho id hid
        rw [scene_fill hid]
        omega
    rw [hstep, hopening, Option.toList_some, List.flatMap_singleton]
    exact hsize

theorem size_replay_le {events : List Event} (h : ∀ o ∈ orders setup inst b events,
    ∀ id ∈ o.component? setup,
      (inst o.build id o.attrs).2.scene.size ≤ o.build.scene.size + m * (bill o).length) :
    (replay setup inst b events).scene.size ≤
      b.scene.size + 2 * openings events +
        m * ((orders setup inst b events).flatMap bill).length := by
  induction events generalizing b
  case nil => exact Nat.le_add_right ..
  case cons e events hi =>
    have hstep := size_step_le fun o ho => h o (List.mem_append_left _ (Option.mem_toList.mpr ho))
    have hrest := hi fun o ho => h o (List.mem_append_right _ ho)
    rw [orders, List.flatMap_append, List.length_append, Nat.mul_add, openings_cons]
    exact Nat.le_trans hrest (by omega)

end Replay

-- The nestings of the documents that ask for the instances which an instance starts, itself
-- included, when it is asked for at `nesting` and `levels` more are left.
def starts (setup : Setup) :
    (levels : Nat) → (nesting : Nat) → Build → ScopeId → Attrs → List Nat
  | 0, _, _, _, _ => []
  | levels + 1, nesting, b, scope, attrs =>
    let view := ((b.registry.component? scope).map (·.view)).getD []
    let asked := orders setup (instantiate setup levels) (b.inside scope attrs) view
    nesting :: asked.flatMap fun o => match o.component? setup with
      | none    => []
      | some id => starts setup levels (nesting + 1) o.build id o.attrs

def Order.starts (setup : Setup) (levels nesting : Nat) (o : Order) : List Nat :=
  match o.component? setup with
  | none    => []
  | some id => Build.starts setup levels nesting o.build id o.attrs

theorem starts_of_component? {scope : ScopeId} {c : Component}
    (hc : b.registry.component? scope = some c) (levels nesting : Nat) (attrs : Attrs) :
    starts setup (levels + 1) nesting b scope attrs = nesting ::
      (orders setup (instantiate setup levels) (b.inside scope attrs) c.view).flatMap
        (Order.starts setup levels (nesting + 1)) := by
  rw [starts, hc]
  rfl

theorem nesting_of_mem_starts {levels nesting : Nat} {scope : ScopeId} {attrs : Attrs} {n : Nat}
    (h : n ∈ starts setup levels nesting b scope attrs) : n < nesting + levels := by
  induction levels generalizing nesting b scope attrs
  case zero => cases h
  case succ levels hi =>
    cases h
    case head   => omega
    case tail h =>
      obtain ⟨o, _, ho⟩ := List.mem_flatMap.mp h
      split at ho
      case h_1 => cases ho
      case h_2 =>
        have hn := hi ho
        omega

-- 1 + k + k ^ 2 + …, with a summand for each level: the nodes of the full tree of that many levels
-- in which every inner node has `k` children.
def treeSize (k : Nat) : (levels : Nat) → Nat
  | 0          => 0
  | levels + 1 => treeSize k levels + Nat.pow k levels

theorem treeSize_succ (k levels : Nat) : treeSize k (levels + 1) = 1 + k * treeSize k levels := by
  have hpow (n : Nat) : Nat.pow k (n + 1) = k * Nat.pow k n := Nat.pow_succ'
  induction levels
  case zero => rfl
  case succ levels hi =>
    calc treeSize k (levels + 2)
      _ = treeSize k (levels + 1) + Nat.pow k (levels + 1) := rfl
      _ = 1 + k * treeSize k levels + k * Nat.pow k levels := by rw [hi, hpow]
      _ = 1 + k * (treeSize k levels + Nat.pow k levels)   := by rw [Nat.mul_add, Nat.add_assoc]
      _ = 1 + k * treeSize k (levels + 1)                  := rfl

theorem length_flatMap_le {α β : Type} {l : List α} {f : α → List β} {n : Nat}
    (h : ∀ a ∈ l, (f a).length ≤ n) : (l.flatMap f).length ≤ l.length * n := by
  induction l
  case nil => exact Nat.le_of_eq (Nat.zero_mul n).symm
  case cons a l hi =>
    have hhead := h a (.head _)
    have htail := hi fun a ha => h a (.tail _ ha)
    rw [List.flatMap_cons, List.length_append, List.length_cons, Nat.succ_mul]
    omega

-- No recorded view has more elements than that.
def Bounded (b : Build) (k : Nat) : Prop :=
  ∀ id c, b.registry.component? id = some c → openings c.view ≤ k

section Bounded

variable {k : Nat}

theorem Bounded.of_mem_orders {levels : Nat} {scope : ScopeId} {attrs : Attrs} {view : List Event}
    {o : Order} (h : b.Bounded k)
    (ho : o ∈ orders setup (instantiate setup levels) (b.inside scope attrs) view) :
    o.build.Bounded k := by
  intro id c hc
  have hsame := component?_of_mem_orders (Instantiate.resumes_instantiate setup levels) ho id
  exact h id c (hsame.symm.trans hc)

theorem length_starts_le (h : b.Bounded k) (levels nesting : Nat) (scope : ScopeId)
    (attrs : Attrs) : (starts setup levels nesting b scope attrs).length ≤ treeSize k levels := by
  induction levels generalizing nesting b scope attrs
  case zero => exact Nat.zero_le _
  case succ levels hi =>
    let view := ((b.registry.component? scope).map (·.view)).getD []
    let asked := orders setup (instantiate setup levels) (b.inside scope attrs) view
    have hcount : asked.length ≤ k := by
      refine Nat.le_trans (length_orders_le view) ?_
      unfold view
      cases hc : b.registry.component? scope
      case none   => exact Nat.zero_le _
      case some c => exact h scope c hc
    have heach : ∀ o ∈ asked, (o.starts setup levels (nesting + 1)).length ≤ treeSize k levels := by
      intro o ho
      unfold Order.starts
      split
      case h_1 => exact Nat.zero_le _
      case h_2 => exact hi (h.of_mem_orders ho) _ _ _
    rw [treeSize_succ]
    calc (starts setup (levels + 1) nesting b scope attrs).length
      _ = 1 + (asked.flatMap (Order.starts setup levels (nesting + 1))).length := Nat.add_comm ..
      _ ≤ 1 + asked.length * treeSize k levels := Nat.add_le_add_left (length_flatMap_le heach) 1
      _ ≤ 1 + k * treeSize k levels := Nat.add_le_add_left (Nat.mul_le_mul_right _ hcount) 1

theorem size_instantiate_le (h : b.Bounded k) (levels nesting : Nat) (scope : ScopeId)
    (attrs : Attrs) :
    (instantiate setup levels b scope attrs).2.scene.size ≤
      b.scene.size + 2 * k * (starts setup levels nesting b scope attrs).length := by
  induction levels generalizing nesting b scope attrs
  case zero => exact Nat.le_add_right ..
  case succ levels hi =>
    cases hc : b.registry.component? scope
    case none =>
      rw [instantiate, hc]
      exact Nat.le_add_right ..
    case some c =>
      let inside := b.inside scope attrs
      let started := (orders setup (instantiate setup levels) inside c.view).flatMap
        (Order.starts setup levels (nesting + 1))
      have hreplay : (replay setup (instantiate setup levels) inside c.view).scene.size ≤
          b.scene.size + 2 * openings c.view + 2 * k * started.length := by
        refine size_replay_le fun o ho id hid => ?_
        rw [Order.starts, hid]
        exact hi (h.of_mem_orders ho) _ _ _
      have hview : openings c.view ≤ k := h scope c hc
      rw [(instantiate_of_component? levels hc attrs).2, starts_of_component? hc, List.length_cons]
      calc (replay setup (instantiate setup levels) inside c.view).scene.size
        _ ≤ b.scene.size + 2 * openings c.view + 2 * k * started.length := hreplay
        _ ≤ b.scene.size + 2 * k + 2 * k * started.length               := by omega
        _ = b.scene.size + 2 * k * (started.length + 1)                 := by
          rw [Nat.mul_add_one]
          omega

end Bounded

end Build

end UiMarkup
