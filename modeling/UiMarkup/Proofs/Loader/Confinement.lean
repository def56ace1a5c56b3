import UiMarkup.Proofs.Loader.Run

namespace UiMarkup

theorem Scene.confined_edits {s : Scene} {p : ObjId} {edits : List (ObjId × Edit)}
    (hs : ∀ e ∈ edits, s.Below p e.1) :
    s.Confined p [] (edits.foldl (fun s (id, e) => s.edit id e) s) := by
  induction edits generalizing s
  case nil => exact .refl
  case cons e edits hi =>
    have hedit : s.Confined p [] (s.edit e.1 e.2) :=
      Confined.refl.edit (fun _ => hs e (.head _)) e.2
    exact hedit.trans <| hi fun e' he => hedit.below (hs e' (.tail _ he))

theorem Processor.confined_create (p : Processor) {env : Env} {attrs : Attrs} {s : Scene}
    {q : ObjId} (hs : s.WellTied) (hq : s.has q) :
    s.Confined q [] (p.create env (some q) attrs s).value.2 := by
  have hcreate : (p.create env (some q) attrs s).value.2 = s ∨ _ := p.exists_request (some q)
  cases hcreate
  case inl he =>
    rw [he]
    exact .refl
  case inr hr =>
    have ⟨r, hnamed, _, he⟩ := hr
    rw [he]
    exact hs.confined_run hq hnamed

namespace Context

variable {c : Context} {s : Scene}

-- The item of an element may be no object; its attributes then go to the parent.
theorem confined_apply {p q : ObjId} {item : Option Item} (hq : s.Below p q)
    (hi : ∀ id ∈ item.bind Item.obj?, s.Below p id) (proc : Processor) (attrs : Attrs) :
    let edits := (proc.apply (c.env s) (some q) item attrs).value
    s.Confined p [] (edits.foldl (fun s (id, e) => s.edit id e) s) := by
  refine Scene.confined_edits fun e he => ?_
  cases proc.target_of_apply he
  case inl h => exact Option.some.inj h ▸ hq
  case inr h => exact hi e.1 h

theorem confined_perform (hs : s.WellTied) {q : ObjId} (hq : s.has q) (p : Processor)
    (attrs : Attrs) :
    let out := c.perform p (some q) attrs s
    s.Confined q [] out.2 ∧ ∀ id ∈ out.1.bind Item.obj?, out.2.Below q id := by
  have hcreate : s.Confined q [] (p.create (c.env s) (some q) attrs s).value.2 :=
    p.confined_create hs hq
  unfold perform
  generalize hmade : (p.create (c.env s) (some q) attrs s).value = made at hcreate
  obtain ⟨item, s₁⟩ := made
  cases item
  case none => exact ⟨hcreate, nofun⟩
  case some item =>
    have hitem : ∀ id ∈ (some item).bind Item.obj?, s₁.Below q id := by
      intro id hid
      cases item
      case obj i =>
        cases hid
        have hbelow := p.below_of_create hq (congrArg Prod.fst hmade)
        rwa [hmade] at hbelow
      all_goals cases hid
    have happly := confined_apply (c := c) .self hitem p attrs
    exact ⟨hcreate.trans happly, fun id hid => happly.below (hitem id hid)⟩

end Context

-- All that happened to the scene since the first one is confined to an object, and elements are
-- placed within it.
def confinement (s₀ : Scene) (p : ObjId) : Condition where
  holds _ s := s.WellTied ∧ s₀.Confined p [] s
  home s parent := ∃ q, parent = some q ∧ s.has q ∧ s.Below p q

theorem invariant_confinement (s₀ : Scene) (p : ObjId) : (confinement s₀ p).Invariant := by
  have hconfined {r : Registry} {s s' : Scene} (h₀ : s₀.Confined p [] s) (hs' : s'.WellTied)
      (h : s.Confined p [] s') : (confinement s₀ p).Carries s r s' :=
    ⟨⟨hs', h₀.trans h⟩, fun ⟨q, hq, hhas, hbelow⟩ => ⟨q, hq, h.has hhas, h.below hbelow⟩⟩
  constructor
  case entry =>
    intro r s ⟨hs, h₀⟩ scope e
    exact hconfined h₀ (hs.of_objects e.objects_scene) (.of_objects e.objects_scene)
  case element =>
    intro c s parent ⟨hs, h₀⟩ ⟨q, hparent, hq, hbelow⟩ proc attrs
    subst hparent
    have hp : ∀ i ∈ some q, s.has i := fun i hi => Option.some.inj hi ▸ hq
    have ⟨hleads, hhas⟩ := Context.leads_perform (c := c) hp hs proc attrs
    have ⟨hout, hmade⟩ := Context.confined_perform (c := c) hs hq proc attrs
    refine ⟨hconfined h₀ (hleads.wellTied hs) (hout.above hbelow), fun id hid => ?_⟩
    exact ⟨id, rfl, hhas id hid, (hout.below hbelow).trans (hmade id hid)⟩
  case adorn =>
    intro c s parent id ⟨hs, h₀⟩ ⟨q, hparent, hq, hbelow⟩ ⟨i, hi, hid, hroot⟩ proc attrs
    subst hparent
    cases hi
    have hp : ∀ i ∈ some q, s.has i := fun i hi => Option.some.inj hi ▸ hq
    have hhas : ∀ i ∈ (some (Item.obj id)).bind Item.obj?, s.has i :=
      fun i hi => Option.some.inj hi ▸ hid
    have hbelows : ∀ i ∈ (some (Item.obj id)).bind Item.obj?, s.Below p i :=
      fun i hi => Option.some.inj hi ▸ hroot
    have hleads := Context.leads_apply (c := c) hp hhas proc attrs
    exact hconfined h₀ (hleads.wellTied hs) (Context.confined_apply hbelow hbelows proc attrs)
  case ensureScope  => exact fun h _ => h
  case setComponent => exact fun h _ _ _ _ => h

namespace Loader

theorem confined_run {l : Loader} {s : Scene} (hs : s.WellTied) {c : Call} {p : ObjId}
    (hc : c.parent? = some p) (hp : s.has p) : s.Confined p [] (c.run l s).2 := by
  have hholds : (confinement s p).holds l.registry s := ⟨hs, .refl⟩
  have hhome : (confinement s p).home s c.parent? := ⟨p, hc, hp, .self⟩
  exact (carries_run (invariant_confinement s p) hholds hhome).holds.2

theorem unchanged_outside_parent {l : Loader} {s : Scene} (hs : s.Arises) {c : Call} {p : ObjId}
    (hc : c.parent? = some p) (hp : s.has p) :
    (∀ id, s.has id → ¬s.Below p id → (c.run l s).2.obj? id = s.obj? id) ∧
      ∀ id, (c.run l s).2.has id → ¬s.has id → (c.run l s).2.Below p id := by
  have hconfined : s.Confined p [] (c.run l s).2 := confined_run hs.wellTied hc hp
  constructor
  case left  => exact fun _ => hconfined.spared
  case right =>
    intro id hid hnew
    have hfound := (hconfined.found hid).resolve_left hnew
    exact hfound.resolve_right List.not_mem_nil

theorem unchanged_beside_tabview :
    let s := ((Scene.empty.createWidget .obj none).2.createWidget .tabview none).2
    let c := Call.loadView (some ⟨1⟩) "<view extends='tabview-tab' text='A'><label/></view>"
    let s' := (c.run {} s).2
    s.size = 3 ∧ s'.size = 6 ∧
      (∀ id, s.has id → ¬s.Below ⟨1⟩ id → s'.obj? id = s.obj? id) ∧
      ∀ id, s'.has id → ¬s.has id → s'.Below ⟨1⟩ id := by
  intro s c s'
  have hobj : (Scene.empty.createWidget .obj none).2.Arises :=
    .request .empty (.createWidget .obj none) (by decide)
  have hs : s.Arises := .request hobj (.createWidget .tabview none) (by decide)
  exact ⟨by decide +kernel, by decide +kernel, unchanged_outside_parent hs rfl (by decide +kernel)⟩

end Loader

end UiMarkup
