import UiMarkup.Proofs.Build.Invariant
import UiMarkup.Proofs.Registry.Bounds
import UiMarkup.Proofs.Widget.Reach

namespace UiMarkup

theorem Registry.Sound.run {r : Registry} (h : r.Sound) (c : Registry.Call) : (c.run r).Sound := by
  cases c
  case ensureScope name => exact h.ensureScope name
  case register given _ _ _ => exact Call.run.settle_cases h fun _ hr => h.register given hr
  case registerParam => exact Call.run.settle_cases h fun _ hr => h.registerParam hr
  case setComponent  => exact Call.run.settle_cases h fun _ hr => h.setComponent hr
  case registerStyle scope attrs =>
    refine Call.run.settle_cases h fun r' hr => ?_
    generalize hreg : (r.registerStyle scope attrs).value = result at hr
    cases result
    case error => cases hr
    case ok    => cases hr; exact h.registerStyle hreg

namespace Entry

variable (e : Entry) {s : Scene}

theorem registry_induction {motive : Registry → Prop} {scope : ScopeId} {r : Registry}
    (idle : motive r) (call : ∀ c ∈ e.call? scope s, motive (c.run r)) :
    motive (e.registry scope r s) := by
  unfold registry
  cases h : e.call? scope s
  case none   => exact idle
  case some c => exact call c h

theorem leads_scene : s.Leads (e.scene s) := by
  unfold scene
  cases h : e.request?
  case none   => exact .refl
  case some r => exact .single r fun _ hi => by simp [named_request h] at hi

end Entry

namespace Scene

theorem leads_edits {s : Scene} {edits : List (ObjId × Edit)} (hs : ∀ e ∈ edits, s.has e.1) :
    s.Leads (edits.foldl (fun s (id, e) => s.edit id e) s) := by
  induction edits generalizing s
  case nil => exact .refl
  case cons e edits hi =>
    have hedit : s.Leads (s.edit e.1 e.2) :=
      .single (.edit e.1 e.2) fun id hid => hs e (.head _) |> (List.mem_singleton.mp hid ▸ ·)
    exact hedit.trans <| hi fun e' he => hedit.has (hs e' (.tail _ he))

end Scene

namespace Context

variable {c : Context} {s : Scene} {parent : Option ObjId} (hp : ∀ q ∈ parent, s.has q)
include hp

theorem leads_apply {item : Option Item} (hi : ∀ id ∈ item.bind Item.obj?, s.has id) (p : Processor)
    (attrs : Attrs) :
    let edits := (p.apply (c.env s) parent item attrs).value
    s.Leads (edits.foldl (fun s (id, e) => s.edit id e) s) := by
  refine Scene.leads_edits fun e he => ?_
  cases p.target_of_apply he
  case inl h => exact hp e.1 h
  case inr h => exact hi e.1 h

theorem leads_perform (hs : s.WellTied) (p : Processor) (attrs : Attrs) :
    let out := c.perform p parent attrs s
    s.Leads out.2 ∧ ∀ id ∈ out.1.bind Item.obj?, out.2.has id := by
  have hcreate : s.Leads (p.create (c.env s) parent attrs s).value.2 := p.leads_create hp
  unfold perform
  generalize hmade : (p.create (c.env s) parent attrs s).value = made at hcreate
  obtain ⟨item, s₁⟩ := made
  cases item
  case none => exact ⟨hcreate, nofun⟩
  case some item =>
    have hitem : ∀ id ∈ (some item).bind Item.obj?, s₁.has id := by
      intro id hid
      cases item
      case obj i =>
        cases hid
        have hhas := p.has_of_create hs hp (congrArg Prod.fst hmade)
        rwa [hmade] at hhas
      all_goals cases hid
    have happly := leads_apply (c := c) (fun q hq => hcreate.has (hp q hq)) hitem p attrs
    exact ⟨hcreate.trans happly, fun id hid => happly.has (hitem id hid)⟩

end Context

-- The registry never changes a style that it does not have, and the scene comes out of the first
-- one by requests to objects that exist.
def soundness (s₀ : Scene) : Condition where
  holds r s := r.Sound ∧ s.WellTied ∧ s₀.Leads s
  home s parent := ∀ p ∈ parent, s.has p

theorem invariant_soundness (s₀ : Scene) : (soundness s₀).Invariant := by
  have hlead {r : Registry} {s s' : Scene} (hr : r.Sound) (hs : s.WellTied) (h₀ : s₀.Leads s)
      (h : s.Leads s') : (soundness s₀).Carries s r s' :=
    ⟨⟨hr, h.wellTied hs, h₀.trans h⟩, fun hp p hm => h.has (hp p hm)⟩
  constructor
  case entry =>
    intro r s ⟨hr, hs, h₀⟩ scope e
    exact hlead (e.registry_induction hr fun c _ => hr.run c) hs h₀ e.leads_scene
  case element =>
    intro c s parent ⟨hr, hs, h₀⟩ hp p attrs
    have ⟨hleads, hhas⟩ := Context.leads_perform (c := c) hp hs p attrs
    exact ⟨hlead hr hs h₀ hleads, fun id hid i hi => Option.some.inj hi ▸ hhas id hid⟩
  case adorn =>
    intro c s parent id ⟨hr, hs, h₀⟩ hp hid p attrs
    have hroot : ∀ i ∈ (some (Item.obj id)).bind Item.obj?, s.has i := hid
    exact hlead hr hs h₀ (Context.leads_apply hp hroot p attrs)
  case ensureScope  => exact fun h name => ⟨h.1.ensureScope name, h.2⟩
  case setComponent => exact fun h _ _ _ hr => ⟨h.1.setComponent hr, h.2⟩

end UiMarkup
