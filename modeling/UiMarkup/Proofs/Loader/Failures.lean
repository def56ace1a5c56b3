import UiMarkup.Proofs.Build.Failures
import UiMarkup.Proofs.Loader.Confinement

namespace UiMarkup

instance Except.decidableEq {ε α : Type} [DecidableEq ε] [DecidableEq α] :
    DecidableEq (Except ε α)
  | .error e, .error e' => decidable_of_iff (e = e') (by simp)
  | .ok a, .ok a'       => decidable_of_iff (a = a') (by simp)
  | .error _, .ok _     => .isFalse nofun
  | .ok _, .error _     => .isFalse nofun

namespace Scene

variable {s : Scene} {q id : ObjId}

theorem eq_of_below_of_not_has (hq : ¬s.has q) (h : s.Below q id) : id = q := by
  induction h
  case self       => rfl
  case part hm hi =>
    obtain ⟨o, ho, -⟩ := mem_parts.mp hm
    exact absurd (hi ▸ has_of_obj? ho) hq

theorem confined_createWidget_none (kind : WidgetKind) :
    s.Confined s.next [] (s.createWidget kind none).2 := by
  have hnone : ∀ p ∈ (none : Option ObjId), s.has p := nofun
  have hpush : s.Confined s.next [s.next] (s.push kind none).2 := Confined.refl.push_none kind
  have hself : s.Confined s.next [] (s.push kind none).2 :=
    { hpush with found := fun hid => (hpush.found hid).imp_right fun h =>
        .inl <| h.elim id fun hl => List.mem_singleton.mp hl ▸ .self }
  by_cases hk : kind = .tabview
  case neg => exact createWidget_of_ne hk ▸ hself
  case pos =>
    subst hk
    rw [createWidget_tabview]
    have hn : ∀ i ∈ some s.next, (s.push .tabview none).2.has i :=
      fun i hi => Option.some.inj hi ▸ has_next_push
    have hbar := hself.push has_next_push .self .obj
    refine hbar.modify (fun hs => absurd hs not_has_next) ?kept ?new nofun
    case kept =>
      intro o ho i hi
      rw [obj?_push_of_has hn (obj?_push_next hnone)] at ho
      have hbar : o.tabBar = none := by rw [← Option.some.inj ho, tabBar_grown]
      rw [Obj.mem_parts] at hi ⊢
      grind
    case new =>
      intro o ho i hi
      have hnot : ¬s.has (s.push .tabview none).2.next := fun hs => not_has_next (hself.has hs)
      rw [Obj.mem_parts] at hi ⊢
      grind

end Scene

theorem Processor.create_none (p : Processor) (env : Env) (attrs : Attrs) (s : Scene) :
    (p.create env none attrs s).value = (none, s) ∨ ∃ kind,
      (p.create env none attrs s).value = (some (.obj s.next), (s.createWidget kind none).2) := by
  cases p
  case widget kind => exact .inr ⟨kind, by simp [create]⟩
  case custom kind =>
    cases kind
    case none      => exact .inl rfl
    case some kind => exact .inr ⟨kind, by simp [create]⟩
  all_goals exact .inl rfl

-- The objects of the first scene are as they were, and elements are placed where none of them is.
def apart (s₀ : Scene) : Condition where
  holds _ s     := s.WellTied ∧ ∀ id, s₀.has id → s.obj? id = s₀.obj? id
  home s parent := ∀ q ∈ parent, s.has q ∧ ∀ id, s₀.has id → ¬s.Below q id

namespace Scene

variable {s₀ s s' : Scene} {r : Registry} {q : ObjId}

theorem has_of_apart (h : (apart s₀).holds r s) {id : ObjId} (hid : s₀.has id) : s.has id := by
  obtain ⟨o, ho⟩ := has_iff_obj?.mp hid
  exact has_of_obj? ((h.2 id hid).trans ho)

theorem apart_of_confined (h : (apart s₀).holds r s) (hq : ∀ id, s₀.has id → ¬s.Below q id)
    (hs : s'.WellTied) (hc : s.Confined q [] s') : (apart s₀).Carries s r s' where
  holds := ⟨hs, fun id hid => (hc.spared (has_of_apart h hid) (hq id hid)).trans (h.2 id hid)⟩
  homes := fun hhome p hp => ⟨hc.has (hhome p hp).1, fun id hid hb =>
    (hhome p hp).2 id hid (hc.below_of_has hb (has_of_apart h hid))⟩

theorem apart_edits (h : (apart s₀).holds r s) {edits : List (ObjId × Edit)}
    (he : ∀ e ∈ edits, (apart s₀).home s (some e.1)) :
    (apart s₀).Carries s r (edits.foldl (fun s (id, e) => s.edit id e) s) := by
  induction edits generalizing s
  case nil => exact ⟨h, id⟩
  case cons e edits hi =>
    have hedit : (apart s₀).Carries s r (s.edit e.1 e.2) :=
      apart_of_confined h (he e (.head _) e.1 rfl).2 (h.1.edit e.2)
        (Confined.refl.edit (fun _ => .self) e.2)
    have hrest := hi hedit.holds fun e' hm => hedit.homes (he e' (.tail _ hm))
    exact ⟨hrest.holds, fun hhome => hrest.homes (hedit.homes hhome)⟩

theorem apart_createWidget (h : (apart s₀).holds r s) (kind : WidgetKind) :
    let s' := (s.createWidget kind none).2
    (apart s₀).Carries s r s' ∧ (apart s₀).home s' (some s.next) := by
  have hc := confined_createWidget_none (s := s) kind
  have hold {id : ObjId} (hid : s₀.has id) : ¬s.Below s.next id := fun hb =>
    ne_next (has_of_apart h hid) (eq_of_below_of_not_has not_has_next hb)
  refine ⟨apart_of_confined h (fun _ => hold) (h.1.createWidget nofun) hc, ?_⟩
  intro q hq
  cases hq
  exact ⟨has_iff.mpr size_createWidget_gt, fun id hid hb =>
    hold hid (hc.below_of_has hb (has_of_apart h hid))⟩

end Scene

theorem invariant_apart (s₀ : Scene) : (apart s₀).Invariant := by
  constructor
  case entry =>
    intro r s h scope e
    have hc : ∀ q, s.Confined q [] (e.scene s) := fun q => .of_objects e.objects_scene
    refine ⟨⟨h.1.of_objects e.objects_scene, fun id hid => ?_⟩, fun hhome p hp => ?_⟩
    · rw [← h.2 id hid, Scene.obj?, Scene.obj?, e.objects_scene]
    · exact ⟨(hc p).has (hhome p hp).1, fun id hid hb => (hhome p hp).2 id hid <|
        (hc p).below_of_has hb (Scene.has_of_apart h hid)⟩
  case element =>
    intro c s parent h hp p attrs
    have hhas : ∀ q ∈ parent, s.has q := fun q hq => (hp q hq).1
    obtain ⟨hleads, hmade⟩ := Context.leads_perform (c := c) hhas h.1 p attrs
    cases parent
    case some q =>
      obtain ⟨hconfined, hbelow⟩ := Context.confined_perform (c := c) h.1 (hhas q rfl) p attrs
      have hcarry := Scene.apart_of_confined h (hp q rfl).2 (hleads.wellTied h.1) hconfined
      refine ⟨hcarry, fun id hid i hi => ?_⟩
      cases hi
      exact ⟨hmade id hid, fun old hold hb =>
        (hcarry.homes hp q rfl).2 old hold ((hbelow id hid).trans hb)⟩
    case none =>
      unfold Context.perform
      rcases p.create_none (c.env s) attrs s with hcreate | ⟨kind, hcreate⟩
      · rw [hcreate]
        refine ⟨⟨h, id⟩, ?_⟩
        intro id hid
        cases hid
      · let s₁ := (s.createWidget kind none).2
        obtain ⟨hwidget, hnext⟩ := Scene.apart_createWidget h kind
        have htarget : ∀ e ∈ (p.apply (c.env s₁) none (some (.obj s.next)) attrs).value,
            (apart s₀).home s₁ (some e.1) := by
          intro e he
          cases p.target_of_apply he
          case inl hnone => cases hnone
          case inr hitem => exact Option.some.inj hitem ▸ hnext
        have hedits := Scene.apart_edits hwidget.holds htarget
        rw [hcreate]
        refine ⟨⟨hedits.holds, fun hhome => hedits.homes (hwidget.homes hhome)⟩, ?_⟩
        intro id hid
        cases hid
        exact hedits.homes hnext
  case adorn =>
    intro c s parent id h hp hid p attrs
    refine Scene.apart_edits h fun e he => ?_
    cases p.target_of_apply he
    case inl hparent => exact hparent ▸ hp
    case inr hitem   => exact hitem ▸ hid
  case ensureScope  => exact fun h _ => h
  case setComponent => exact fun h _ _ _ _ => h

namespace Loader

variable {l : Loader} {s : Scene}

theorem unchanged_without_parent (hs : s.WellTied) {c : Call} (hc : c.parent? = none) {id : ObjId}
    (hid : s.has id) : (c.run l s).2.obj? id = s.obj? id :=
  (carries_run (l := l) (invariant_apart s) ⟨hs, fun _ _ => rfl⟩ (hc ▸ nofun)).holds.2 id hid

theorem unchanged_of_not_below (hs : s.WellTied) {c : Call} (hc : ∀ p ∈ c.parent?, s.has p)
    {id : ObjId} (hid : s.has id) (hb : ∀ p ∈ c.parent?, ¬s.Below p id) :
    (c.run l s).2.obj? id = s.obj? id := by
  cases hparent : c.parent?
  case none   => exact unchanged_without_parent hs hparent hid
  case some p => exact (confined_run hs hparent (hc p hparent)).spared hid (hb p hparent)

theorem objects_of_noView {name : String}
    (hhollow : ∀ scope ∈ l.registry.componentScope? name,
      Build.HollowFrom l.setup.widgets l.registry none scope)
    (h : (l.createScreen s name).result = .error (.noView name)) :
    (l.createScreen s name).scene.objects = s.objects := by
  unfold createScreen at h ⊢
  dsimp only at h ⊢
  cases hscope : l.registry.componentScope? name
  case none       => rw [hscope] at h; cases h
  case some scope =>
    have hmiss := Build.Instantiate.misses_instantiate l.setup l.setup.config.maxDepth
      (l.begin s (.begin .globals none)) scope [] (hhollow scope hscope)
    rw [hscope] at h
    unfold Build.instance? at h ⊢
    dsimp only at h ⊢
    generalize Build.instantiate _ _ _ scope [] = out at h hmiss
    obtain ⟨root, b⟩ := out
    cases root
    case none   => exact (hmiss rfl).objects_eq
    case some _ => cases h

theorem objects_of_create_none {parent : Option ObjId} {tag : String} {attrs : Attrs}
    (hhollow : l.setup.widgets.get? tag = none → ∀ scope ∈ l.registry.componentScope? tag,
      Build.HollowFrom l.setup.widgets l.registry parent scope)
    (h : (l.create s parent tag attrs).result = none) :
    (l.create s parent tag attrs).scene.objects = s.objects := by
  let b := l.begin s (.begin .globals parent)
  let read := b.noteAll (b.resolveAttrs attrs).notes
  have hparent : read.doc.parent? = parent := by
    simp [read, b, Build.noteAll, begin, DocState.begin, DocState.parent?]
  have hmiss := Build.objects_createElement_of_none (b := read)
    (Build.Instantiate.misses_instantiate l.setup l.setup.config.maxDepth)
    (by rw [hparent]; exact hhollow) (b.resolveAttrs attrs).value
  dsimp only [Loader.create, Build.create, Build.instance?, Build.take] at h ⊢
  generalize Build.createElement l.setup _ read tag (b.resolveAttrs attrs).value = out at h hmiss
  obtain ⟨item, b₁⟩ := out
  cases item
  case none   => exact hmiss rfl
  case some _ => cases h

-- What a failed call leaves behind are at most objects of its own, and it is none if the view of
-- the component, and those of the components that it extends, are hollow.
theorem failed_calls_leave_nothing (hs : s.Arises) :
    (∀ name, (l.createScreen s name).result = .error (.noView name) →
      (∀ id, s.has id → (l.createScreen s name).scene.obj? id = s.obj? id) ∧
      ((∀ scope ∈ l.registry.componentScope? name,
          Build.HollowFrom l.setup.widgets l.registry none scope) →
        (l.createScreen s name).scene.objects = s.objects)) ∧
    ∀ parent tag attrs, (∀ p ∈ parent, s.has p) → (l.create s parent tag attrs).result = none →
      (∀ id, s.has id → (∀ p ∈ parent, ¬s.Below p id) →
        (l.create s parent tag attrs).scene.obj? id = s.obj? id) ∧
      ((l.setup.widgets.get? tag = none → ∀ scope ∈ l.registry.componentScope? tag,
          Build.HollowFrom l.setup.widgets l.registry parent scope) →
        (l.create s parent tag attrs).scene.objects = s.objects) := by
  constructor
  case left =>
    intro name h
    exact ⟨fun _ => unchanged_without_parent (l := l) hs.wellTied (c := .createScreen name) rfl,
      fun hhollow => objects_of_noView hhollow h⟩
  case right =>
    intro parent tag attrs hp h
    exact ⟨fun _ => unchanged_of_not_below (l := l) hs.wellTied (c := .create parent tag attrs) hp,
      fun hhollow => objects_of_create_none hhollow h⟩

theorem nothing_left_of_card :
    let base := Call.registerComponent "base" "<component><view extends='gadget'/></component>"
    let card := Call.registerComponent "card"
      "<component><view extends='base'><gizmo/></view></component>"
    let l := (card.run (base.run {} .empty).1 .empty).1
    let s := (Scene.empty.createWidget .obj none).2
    let out := l.create s (some ⟨0⟩) "card" []
    s.has ⟨0⟩ ∧ out.result = none ∧ out.scene.objects = s.objects := by
  intro base card l s out
  have hs : s.Arises := .request .empty (.createWidget .obj none) (by decide)
  have hbase : l.registry.component? ⟨1⟩ = some ⟨"gadget",
      [.opening "view" [("extends", "gadget")], .closing "view"]⟩ := by decide +kernel
  have hcard : l.registry.component? ⟨2⟩ = some ⟨"base",
      [.opening "view" [("extends", "base")], .opening "gizmo" [], .closing "gizmo",
        .closing "view"]⟩ := by decide +kernel
  have hextends : l.registry.componentScope? "base" = some ⟨1⟩ ∧
      l.registry.componentScope? "gadget" = none := by decide +kernel
  have hidle : Build.Idle l.setup.widgets l.registry (some ⟨0⟩) "gizmo" := by
    have hunknown : l.setup.widgets.get? "gizmo" = none ∧
        l.registry.componentScope? "gizmo" = none := by decide +kernel
    unfold Build.Idle
    rw [hunknown.1]
    exact hunknown.2
  have hroots : l.setup.widgets.get? "gadget" = none ∧ l.setup.widgets.get? "base" = none := by
    decide +kernel
  have hhollow : Build.HollowFrom l.setup.widgets l.registry (some ⟨0⟩) ⟨2⟩ := by
    refine Build.hollowFrom_of_closed [⟨1⟩, ⟨2⟩] (by simp) ?next ?hollow
    case next =>
      intro i hi j ⟨c, attrs, events, hc, hview, _, hj⟩
      obtain rfl | rfl : i = ⟨1⟩ ∨ i = ⟨2⟩ := by simpa using hi
      · rw [hbase] at hc
        cases hc
        cases hview
        cases hextends.2.symm.trans hj
      · rw [hcard] at hc
        cases hc
        cases hview
        cases hextends.1.symm.trans hj
        simp
    case hollow =>
      intro i hi c hc
      obtain rfl | rfl : i = ⟨1⟩ ∨ i = ⟨2⟩ := by simpa using hi
      · rw [hbase] at hc
        cases hc
        exact .inr ⟨[("extends", "gadget")], true, .empty, rfl, trivial,
          fun p hp => nomatch hroots.1.symm.trans hp⟩
      · rw [hcard] at hc
        cases hc
        exact .inr ⟨[("extends", "base")], false, .element "gizmo" [] true .empty .empty, rfl,
          ⟨hidle, trivial, trivial⟩, fun p hp => nomatch hroots.2.symm.trans hp⟩
  have hresult : out.result = none := by decide +kernel
  have hp : ∀ p ∈ some (⟨0⟩ : ObjId), s.has p := by decide
  have hscope : l.registry.componentScope? "card" = some ⟨2⟩ := by decide +kernel
  have hleft := ((failed_calls_leave_nothing (l := l) hs).2 (some ⟨0⟩) "card" [] hp hresult).2
  exact ⟨by decide, hresult,
    hleft fun _ scope hm => Option.some.inj (hscope.symm.trans hm) ▸ hhollow⟩

-- Why inner elements matter: a label is made although the view that it is in has no root.
theorem label_left_of_failed_screen :
    let card := Call.registerComponent "card"
      "<component><view extends='gadget'><label/></view></component>"
    let l := (card.run {} .empty).1
    let screen := l.createScreen .empty "card"
    screen.result = .error (.noView "card") ∧ screen.scene.objects.toList.map (·.kind) = [.label] ∧
      screen.scene.objects ≠ Scene.empty.objects := by
  decide +kernel

end Loader

end UiMarkup
