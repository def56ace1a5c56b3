import UiMarkup.Proofs.Build.Failures
import UiMarkup.Proofs.Loader.Heeded
import UiMarkup.Proofs.Loader.Placement

namespace UiMarkup

def Registry.OneViewEach (r : Registry) : Prop :=
  ∀ id c, r.component? id = some c → ∃ attrs body, c = .ofView attrs body

theorem Build.component?_deliver {config : Config} {b : Build} (ds : List Build.Delivery)
    (id : ScopeId) :
    (Build.deliver config b ds).registry.component? id = b.registry.component? id := by
  induction ds generalizing b
  case nil          => rfl
  case cons d ds hi => exact hi.trans ((Build.keeps_run d).toFiles.spares.components id)

namespace Registry

variable {r r' : Registry}

theorem OneViewEach.ensureScope (hr : r.OneViewEach) (name : String) :
    (r.ensureScope name).2.OneViewEach := by
  intro id c hc
  cases hid : r.scopeByName? name
  case some _ => rw [ensureScope_of_some hid] at hc; exact hr id c hc
  case none =>
    rw [Registry.ensureScope, hid, component?, scope?, Array.getElem?_push] at hc
    split at hc
    case isTrue  => cases hc
    case isFalse => exact hr id c hc

theorem OneViewEach.setComponent {own : ScopeId} {attrs : Attrs} {body : Markup.Forest}
    (hr : r.OneViewEach) (h : r.setComponent own (.ofView attrs body) = .ok r') :
    r'.OneViewEach := by
  obtain ⟨-, rfl⟩ := modifyScope_eq_ok h
  intro id c hc
  rw [component?, scope?, scope?_modify] at hc
  split at hc
  case isFalse => exact hr id c hc
  case isTrue =>
    obtain ⟨s, hs, hset⟩ := Option.bind_eq_some_iff.mp hc
    obtain ⟨_, -, rfl⟩ := Option.map_eq_some_iff.mp hs
    cases hset
    exact ⟨attrs, body, rfl⟩

end Registry

theorem Loader.oneViewEach_registerComponent {l : Loader} (hl : l.registry.OneViewEach)
    {attrs : Attrs} {body f f' : Markup.Forest} (hv : Markup.Forest.PlacesView attrs body f f')
    (hf : f.HasBlocks) {text : String} (hread : Markup.read text = (f'.events, none))
    (s : Scene) (name : String) :
    (l.registerComponent s name text).loader.registry.OneViewEach := by
  obtain ⟨registry, hset, hout⟩ := registerComponent_of_placesView hv hf hread l s name
  have hentries : (l.handOverTo s name f).registry.OneViewEach := by
    intro id c hc
    rw [handOverTo, handOver, Build.component?_deliver] at hc
    exact hl.ensureScope name id c hc
  rw [hout]
  exact hentries.setComponent hset

namespace Build

variable {setup : Setup} {levels : Nat} {b : Build} {scope : ScopeId} {attrs given : Attrs}
  {c : Component} {tag tag' : String} {p p' : Processor} {root root' : ObjId} {o : Order}

-- What an instance orders first, which is to be its root.
def rootOrder? (setup : Setup) (b : Build) (scope : ScopeId) (given : Attrs) : Option Order := do
  let c ← b.registry.component? scope
  let e ← c.view.head?
  (b.inside scope given).order? setup e

-- The processor of `tag` creates the root of an instance: it is what the instance orders first, or
-- else the root of the instance that this one orders.
inductive Roots (setup : Setup) (tag : String) (p : Processor) (root : ObjId) :
    Build → ScopeId → Attrs → Prop
  | widget {b : Build} {scope : ScopeId} {given : Attrs} {o : Order} :
    b.rootOrder? setup scope given = some o → o.tag = tag → setup.widgets.get? tag = some p →
    (o.build.make p o.attrs).1 = some (.obj root) → Roots setup tag p root b scope given
  | component {b : Build} {scope : ScopeId} {given : Attrs} {o : Order} {next : ScopeId} :
    b.rootOrder? setup scope given = some o → o.component? setup = some next →
    Roots setup tag p root o.build next o.attrs → Roots setup tag p root b scope given

theorem Roots.unique (h : Roots setup tag p root b scope given)
    (h' : Roots setup tag' p' root' b scope given) : tag' = tag ∧ p' = p ∧ root' = root := by
  induction h
  case widget ho htag hp hmade =>
    subst htag
    cases h'
    case widget htag' hp' hmade' ho' =>
      cases ho.symm.trans ho'
      subst htag'
      cases hp.symm.trans hp'
      cases hmade.symm.trans hmade'
      exact ⟨rfl, rfl, rfl⟩
    case component hnext _ ho' =>
      cases ho.symm.trans ho'
      cases hp.symm.trans (Order.component?_eq_some.mp hnext).1
  case component ho hnext _ hi =>
    cases h'
    case widget htag' hp' _ ho' =>
      cases ho.symm.trans ho'
      subst htag'
      cases hp'.symm.trans (Order.component?_eq_some.mp hnext).1
    case component hnext' h' ho' =>
      cases ho.symm.trans ho'
      cases hnext.symm.trans hnext'
      exact hi h'

theorem rootOrder?_ofView {body : Markup.Forest}
    (hc : b.registry.component? scope = some (.ofView attrs body)) (given : Attrs) :
    b.rootOrder? setup scope given =
      some (.of (b.inside scope given).enterView attrs.base attrs.ofBase) := by
  have hview : (b.inside scope given).order? setup (.opening "view" attrs) = some _ :=
    order?_view rfl rfl attrs
  unfold rootOrder?
  rw [hc]
  exact hview

theorem view_of_instantiate (hc : b.registry.component? scope = some c)
    (h : (instantiate setup (levels + 1) b scope given).1 = some root) :
    (replay setup (instantiate setup levels) (b.inside scope given) c.view).doc.view =
      some root := by
  rw [instantiate_inside levels hc] at h
  dsimp only at h
  split at h
  case h_1       => cases h
  case h_2 hview => cases h; exact hview

theorem snd_instantiate (hc : b.registry.component? scope = some c)
    (h : (instantiate setup (levels + 1) b scope given).1 = some root) :
    let inner := replay setup (instantiate setup levels) (b.inside scope given) c.view
    let rest := given.filter fun a => !(b.registry.params scope).contains a.1
    (instantiate setup (levels + 1) b scope given).2 =
      (applyRest setup { inner with doc := b.doc } (b.registry.scopeName scope) c root rest).note
        (.componentInstantiated (b.registry.scopeName scope)) := by
  have hview := view_of_instantiate hc h
  rw [instantiate_inside levels hc]
  dsimp only
  rw [hview]

theorem view_inside {body : Markup.Forest} (levels : Nat) (attrs given : Attrs) :
    (replay setup (instantiate setup levels) (b.inside scope given)
      (Component.ofView attrs body).view).doc.view =
      (Order.fill setup (instantiate setup levels)
        (.of (b.inside scope given).enterView attrs.base attrs.ofBase)).1 :=
  view_replay_view (b := b.inside scope given) (Instantiate.resumes_instantiate setup levels) rfl
    rfl attrs body

-- An order that comes to an object is for a widget, which makes the object, or for a component, of
-- which it is the root.
theorem fill_eq_some {inst : Instantiate} (h : (o.fill setup inst).1 = some root) :
    (∃ p, setup.widgets.get? o.tag = some p ∧ (o.build.make p o.attrs).1 = some (.obj root)) ∨
    ∃ next, o.component? setup = some next ∧ (inst o.build next o.attrs).1 = some root := by
  obtain ⟨item, hitem, hroot⟩ : ∃ item,
      (createElement setup inst o.build o.tag o.attrs).1 = some item ∧ item.obj? = some root :=
    Option.bind_eq_some_iff.mp h
  obtain rfl : item = .obj root := by
    cases item <;> cases hroot
    rfl
  unfold createElement at hitem
  cases hp : setup.widgets.get? o.tag
  case some p =>
    rw [hp] at hitem
    dsimp only at hitem
    split at hitem
    case h_1       => cases hitem
    case h_2 hmade =>
      cases hitem
      exact .inl ⟨p, rfl, congrArg Prod.fst hmade⟩
  case none =>
    rw [hp] at hitem
    dsimp only at hitem
    split at hitem
    case h_1             => cases hitem
    case h_2 next hscope =>
      split at hitem
      case h_1       => cases hitem
      case h_2 hinst =>
        cases hitem
        exact .inr ⟨next, Order.component?_eq_some.mpr ⟨hp, hscope⟩, congrArg Prod.fst hinst⟩

theorem baseWidget_of_component? {widgets : WidgetTable} {r : Registry} {next : ScopeId}
    (hnone : widgets.get? tag = none) (hscope : r.componentScope? tag = some next)
    (hc : r.component? next = some c) (steps : Nat) :
    baseWidget widgets r (steps + 1) tag = baseWidget widgets r steps c.base := by
  rw [baseWidget, hnone, hscope, Option.bind_some, hc]
  rfl

-- By induction on how deep instances may be nested. The walk along the components goes down by one
-- level with each of them, as their instances do; so it ends where they end if it may take as many
-- steps, or one less, because it begins at what the first component extends.
theorem roots_instantiate (setup : Setup) (levels : Nat) (hviews : b.registry.OneViewEach)
    (h : (instantiate setup levels b scope given).1 = some root) :
    ∃ c tag p, b.registry.component? scope = some c ∧ setup.widgets.get? tag = some p ∧
      Roots setup tag p root b scope given ∧
      ∀ steps, levels ≤ steps + 1 → baseWidget setup.widgets b.registry steps c.base = tag := by
  induction levels generalizing b scope given
  case zero => cases h
  case succ levels hi =>
    cases hc : b.registry.component? scope
    case none => rw [instantiate, hc] at h; cases h
    case some c =>
      obtain ⟨attrs, body, rfl⟩ := hviews scope c hc
      let o := Order.of (b.inside scope given).enterView attrs.base attrs.ofBase
      have ho : b.rootOrder? setup scope given = some o := rootOrder?_ofView hc given
      have hfill : (o.fill setup (instantiate setup levels)).1 = some root :=
        (view_inside levels attrs given).symm.trans (view_of_instantiate hc h)
      obtain ⟨p, hp, hmade⟩ | ⟨next, hnext, hinst⟩ := fill_eq_some hfill
      case inl =>
        exact ⟨_, attrs.base, p, rfl, hp, .widget ho rfl hp hmade,
          fun steps _ => baseWidget_of_isSome (hp ▸ rfl) _ steps⟩
      case inr =>
        obtain ⟨hnone, hscope⟩ := Order.component?_eq_some.mp hnext
        obtain ⟨c, tag, p, hc', hp, hroots, hbase⟩ := hi (b := o.build) hviews hinst
        refine ⟨_, tag, p, rfl, hp, .component ho hnext hroots, fun steps hsteps => ?_⟩
        cases levels
        case zero => cases hinst
        case succ levels =>
          obtain ⟨steps, rfl⟩ := Nat.exists_eq_succ_of_ne_zero (n := steps) (by omega)
          have hstep := baseWidget_of_component? hnone hscope hc' steps
          exact hstep.trans (hbase steps (by omega))

theorem applyRest_of_processor (hp : restProcessor? setup b.registry c = some p) (name : String)
    (root : ObjId) (rest : Attrs) :
    applyRest setup b name c root rest =
      if rest.isEmpty then b else (b.setItem (some (.obj root))).apply p rest := by
  unfold restProcessor? at hp
  unfold applyRest
  dsimp only
  rw [hp]

-- The fallback on a plain object is never needed, and no attributes are dropped.
theorem rest_applied_by_maker (hlevels : levels ≤ setup.config.maxDepth)
    (hviews : b.registry.OneViewEach)
    (h : (instantiate setup levels b scope given).1 = some root) :
    ∃ c p, b.registry.component? scope = some c ∧
      let base := baseWidget setup.widgets b.registry setup.config.maxDepth c.base
      let inner := replay setup (instantiate setup (levels - 1)) (b.inside scope given) c.view
      let outer := { inner with doc := b.doc }
      let rest := given.filter fun a => !(b.registry.params scope).contains a.1
      setup.widgets.get? base = some p ∧ Roots setup base p root b scope given ∧
      (∀ tag' p' root', Roots setup tag' p' root' b scope given →
        tag' = base ∧ p' = p ∧ root' = root) ∧
      (instantiate setup levels b scope given).2 =
        (if rest.isEmpty then outer else (outer.setItem (some (.obj root))).apply p rest).note
          (.componentInstantiated (b.registry.scopeName scope)) := by
  obtain ⟨c, tag, p, hc, hp, hroots, hbase⟩ := roots_instantiate setup levels hviews h
  have hend : baseWidget setup.widgets b.registry setup.config.maxDepth c.base = tag :=
    hbase _ (by omega)
  refine ⟨c, p, hc, ?_⟩
  intro base inner outer rest
  rw [show base = tag from hend]
  refine ⟨hp, hroots, fun _ _ _ h' => hroots.unique h', ?_⟩
  cases levels
  case zero => cases h
  case succ levels =>
    have hrest : restProcessor? setup outer.registry c = some p := by
      refine (restProcessor?_replay (b := b.inside scope given) levels c.view).trans ?_
      show (setup.widgets.get? base).or _ = some p
      rw [show base = tag from hend, hp]
      rfl
    rw [snd_instantiate hc h]
    exact congrArg (note · (.componentInstantiated (b.registry.scopeName scope)))
      (applyRest_of_processor hrest _ root rest)

theorem text_of_card_applied_by_label :
    let scope (name base : String) : Scope :=
      { name, component := some (.ofView [("extends", base)] .empty) }
    let b : Build := { registry := { scopes := #[{ name := "globals" }, scope "label" "loop",
      scope "card" "label", scope "wide_card" "card", scope "loop" "loop"] } }
    let out := instance? {} b ⟨3⟩ [("text", "hi")]
    Roots {} "label" (.widget .label) ⟨0⟩ b ⟨3⟩ [("text", "hi")] ∧
    (out.2.scene.obj? ⟨0⟩).map (·.props) = some [.text "hi"] := by
  intro scope b out
  have hviews : b.registry.OneViewEach := by
    rintro ⟨i⟩ c hc
    match i, hc with
    | 1, hc | 2, hc | 3, hc | 4, hc => cases hc; exact ⟨_, _, rfl⟩
  have hroot : out.1 = some ⟨0⟩ := by decide +kernel
  have hlevels : 64 ≤ ({} : Setup).config.maxDepth := Nat.le_refl _
  obtain ⟨c, p, hc, hp, hroots, -⟩ := rest_applied_by_maker hlevels hviews hroot
  cases hc
  have hbase : baseWidget .builtin b.registry 64
      (Component.ofView [("extends", "card")] .empty).base = "label" := by decide +kernel
  dsimp only at hp hroots
  rw [hbase] at hp hroots
  cases hp
  exact ⟨hroots, by decide +kernel⟩

end Build

end UiMarkup
