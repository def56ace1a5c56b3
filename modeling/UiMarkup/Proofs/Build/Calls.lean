import UiMarkup.Proofs.Build.Starts

namespace UiMarkup.Build

open Markup

structure Call where
  levels : Nat
  build  : Build
  scope  : ScopeId
  attrs  : Attrs

-- The calls of a run, the first one included: a component that is ordered is called for.
def calls (setup : Setup) : (levels : Nat) → Build → ScopeId → Attrs → List Call
  | 0, _, _, _ => []
  | levels + 1, b, scope, attrs =>
    let view := ((b.registry.component? scope).map (·.view)).getD []
    let asked := orders setup (instantiate setup levels) (b.inside scope attrs) view
    ⟨levels + 1, b, scope, attrs⟩ :: asked.flatMap fun o => match o.component? setup with
      | none    => []
      | some id => calls setup levels o.build id o.attrs

def instantiateBy (setup : Setup) (inst : Instantiate) (b : Build) (scope : ScopeId)
    (attrs : Attrs) : Option ObjId × Build :=
  match b.registry.component? scope with
  | none => (none, b)
  | some c =>
    let name := b.registry.scopeName scope
    let inner := replay setup inst (b.inside scope attrs) c.view
    let outer := { inner with doc := b.doc }
    match inner.doc.view with
    | none      => (none, outer.note (.componentWithoutRoot name))
    | some root =>
      let rest := attrs.filter fun a => !(b.registry.params scope).contains a.1
      (some root,
        (applyRest setup outer name c root rest).note (.componentInstantiated name))

variable {setup : Setup} {inst : Instantiate} {b : Build} {o : Order}

theorem instantiate_succ (levels : Nat) :
    instantiate setup (levels + 1) = instantiateBy setup (instantiate setup levels) := by
  rfl

theorem starts_eq_map_calls (levels nesting : Nat) (b : Build) (scope : ScopeId) (attrs : Attrs) :
    starts setup levels nesting b scope attrs =
      (calls setup levels b scope attrs).map fun c => nesting + levels - c.levels := by
  induction levels generalizing nesting b scope attrs
  case zero => rfl
  case succ levels hi =>
    simp only [starts, calls, List.map_cons, Nat.add_sub_cancel, List.map_flatMap]
    congr 2
    funext o
    cases o.component? setup
    case none    => rfl
    case some id =>
      dsimp only
      rw [hi]
      simp only [Nat.add_assoc, Nat.add_comm 1]

theorem calls_of_mem_orders {levels : Nat} {scope : ScopeId} {attrs : Attrs} {c : Component}
    {id : ScopeId} (hc : b.registry.component? scope = some c)
    (ho : o ∈ orders setup (instantiate setup levels) (b.inside scope attrs) c.view)
    (hid : id ∈ o.component? setup)
    {call : Call} (h : call ∈ calls setup levels o.build id o.attrs) :
    call ∈ calls setup (levels + 1) b scope attrs := by
  refine List.mem_cons_of_mem _ (List.mem_flatMap.mpr ⟨o, ?_, ?_⟩)
  · rwa [hc]
  · rwa [Option.mem_def.mp hid]

-- Whatever does as `instantiate` in the calls of a run does so in the run, and what it does
-- elsewhere does not matter; so there are no other calls. None of them is at the limit, where an
-- instance is refused.
theorem instantiate_of_calls {family : Nat → Instantiate} {levels : Nat} {scope : ScopeId}
    {attrs : Attrs} (hlimit : family 0 = instantiate setup 0)
    (h : ∀ c ∈ calls setup levels b scope attrs, family c.levels c.build c.scope c.attrs =
      instantiateBy setup (family (c.levels - 1)) c.build c.scope c.attrs) :
    family levels b scope attrs = instantiate setup levels b scope attrs := by
  induction levels generalizing b scope attrs
  case zero => rw [hlimit]
  case succ levels hi =>
    rw [h ⟨levels + 1, b, scope, attrs⟩ (.head _), instantiate_succ]
    unfold instantiateBy
    cases hc : b.registry.component? scope
    case none   => rfl
    case some c =>
      have hsame : replay setup (instantiate setup levels) (b.inside scope attrs) c.view =
          replay setup (family levels) (b.inside scope attrs) c.view :=
        replay_congr fun o ho id hid =>
          (hi fun call hcall => h call (calls_of_mem_orders hc ho hid hcall)).symm
      simp only [Nat.add_sub_cancel, hsame]

theorem fill_of_component? (inst : Instantiate) {id : ScopeId}
    (h : o.component? setup = some id) :
    ∃ f : DocState → DocState,
      (o.fill setup inst).2 = (inst o.build id o.attrs).2.modifyDoc f := by
  have ⟨htag, hid⟩ := Order.component?_eq_some.mp h
  unfold Order.fill createElement
  rw [htag]
  dsimp only
  rw [hid]
  dsimp only
  split
  case h_1 he      => exact ⟨fun d => d, by rw [he]; rfl⟩
  case h_2 view _ he => exact ⟨fun d => { d with item := some (.obj view) }, by rw [he]; rfl⟩

-- The call for an order is made when the element that asks for it is opened.
theorem called_of_mem_orders {events : List Event} {id : ScopeId}
    (ho : o ∈ orders setup inst b events) (hid : o.component? setup = some id) :
    ∃ front e back, events = front ++ e :: back ∧ ∃ f : DocState → DocState,
      replay setup inst b (front ++ [e]) = (inst o.build id o.attrs).2.modifyDoc f := by
  induction events generalizing b
  case nil => cases ho
  case cons e events hi =>
    cases List.mem_append.mp ho
    case inl ho =>
      obtain ⟨f, hstep⟩ := step_of_order? (Option.mem_toList.mp ho)
      obtain ⟨g, hfill⟩ := fill_of_component? inst hid
      refine ⟨[], e, events, rfl, fun d => f (o.fill setup inst).1 (g d), (hstep inst).trans ?_⟩
      rw [hfill]
      rfl
    case inr ho =>
      obtain ⟨front, e', back, rfl, f, hreplay⟩ := hi ho
      exact ⟨e :: front, e', back, rfl, f, hreplay⟩

end UiMarkup.Build
