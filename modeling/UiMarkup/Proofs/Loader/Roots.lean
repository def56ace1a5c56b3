import UiMarkup.Proofs.Loader.Run
import UiMarkup.Proofs.Scene.Roots
import UiMarkup.Proofs.Loader.Confinement

namespace UiMarkup

def arising : Condition where
  holds _ s     := s.Arises
  home s parent := ∀ p ∈ parent, s.has p

theorem invariant_arising : arising.Invariant := by
  have hlead {r : Registry} {s s' : Scene} (hs : s.Arises) (h : s.Leads s') :
      arising.Carries s r s' :=
    ⟨hs.leads h, fun hp p hm => h.has (hp p hm)⟩
  constructor
  case entry => exact fun hs _ e => hlead hs e.leads_scene
  case element =>
    intro c s parent hs hp p attrs
    have ⟨hleads, hhas⟩ := Context.leads_perform (c := c) hp hs.wellTied p attrs
    exact ⟨hlead hs hleads, fun id hid i hi => Option.some.inj hi ▸ hhas id hid⟩
  case adorn =>
    intro c s parent id hs hp hid p attrs
    have hroot : ∀ i ∈ (some (Item.obj id)).bind Item.obj?, s.has i := hid
    exact hlead hs (Context.leads_apply hp hroot p attrs)
  case ensureScope  => exact fun hs _ => hs
  case setComponent => exact fun hs _ _ _ _ => hs

namespace Loader

variable {l : Loader} {s : Scene} {c : Call} {p : ObjId}

theorem arises_run (hs : s.Arises) (hc : ∀ p ∈ c.parent?, s.has p) : (c.run l s).2.Arises :=
  (carries_run (l := l) invariant_arising hs hc).holds

-- All that is new is a part of something, since it is below the object.
theorem new_root_iff (hs : s.Arises) (hc : c.parent? = some p) (hp : s.has p) {id : ObjId}
    (hid : (c.run l s).2.has id) (hnew : ¬s.has id) :
    id ∈ (c.run l s).2.roots ↔ (c.run l s).2.IsList id ∨ (c.run l s).2.IsStrayButton id := by
  have hafter : (c.run l s).2.Arises := arises_run hs (by simpa [hc] using hp)
  rw [Scene.mem_roots_iff]
  refine ⟨fun hu => ?_, hafter.under_none⟩
  have hbelow : (c.run l s).2.Below p id :=
    (((confined_run hs.wellTied hc hp).found hid).resolve_left hnew).resolve_right
      List.not_mem_nil
  cases hbelow
  case self          => exact absurd hp hnew
  case part v _ hpart => exact hafter.loose_part hpart hu

theorem root_of_dropdown_list :
    let s := (Scene.empty.createWidget .obj none).2
    let c := Call.loadView (some ⟨0⟩) "<view><dropdown><dropdown-list/></dropdown></view>"
    let s' := (c.run {} s).2
    s.roots = [⟨0⟩] ∧ s'.roots = [⟨0⟩, ⟨3⟩] ∧
      (⟨3⟩ ∈ s'.roots ↔ s'.IsList ⟨3⟩ ∨ s'.IsStrayButton ⟨3⟩) := by
  intro s c s'
  have hs : s.Arises := .request .empty (.createWidget .obj none) (by decide)
  exact ⟨by decide +kernel, by decide +kernel,
    new_root_iff hs (p := ⟨0⟩) rfl (by decide +kernel) (by decide +kernel) (by decide +kernel)⟩

-- A tab in a label, which has no bar: its button becomes a root although there is no dropdown.
theorem root_of_misplaced_tab :
    let s := (Scene.empty.createWidget .label none).2
    let c := Call.create (some ⟨0⟩) "tabview-tab" [("text", "A")]
    let s' := (c.run {} s).2
    s.Arises ∧ s.has ⟨0⟩ ∧ s'.has ⟨1⟩ ∧ ¬s.has ⟨1⟩ ∧ s'.Under ⟨1⟩ none ∧ ¬s'.IsList ⟨1⟩ ∧
      s.roots = [⟨0⟩] ∧ s'.roots = [⟨0⟩, ⟨1⟩] := by
  intro s c s'
  have hs : s.Arises := .request .empty (.createWidget .label none) (by decide)
  have hroots : s'.roots = [⟨0⟩, ⟨1⟩] := by decide +kernel
  have hlist : ¬s'.IsList ⟨1⟩ := by
    intro ⟨d, o, ho, hk, _⟩
    have hkinds : ∀ o ∈ s'.objects, o.kind ≠ .dropdown := by decide +kernel
    exact hkinds o (Array.mem_of_getElem? ho) hk
  exact ⟨hs, by decide +kernel, by decide +kernel, by decide +kernel,
    Scene.mem_roots_iff.mp (by rw [hroots]; simp), hlist, by decide +kernel, hroots⟩

end Loader

end UiMarkup
