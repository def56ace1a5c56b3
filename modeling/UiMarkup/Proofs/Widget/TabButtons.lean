import UiMarkup.Proofs.Scene.Below
import UiMarkup.Widget.Processor

namespace UiMarkup

-- The page of a tab is the object after its button: they were added together.
def Obj.InStep (o : Obj) : Prop :=
  o.tabs = o.tabButtons.map fun button => ⟨button.index + 1⟩

namespace Scene

def InStep (s : Scene) : Prop :=
  ∀ ⦃id o⦄, s.obj? id = some o → o.InStep

section Steps

variable {s : Scene} {id : ObjId}

theorem InStep.of_objects {s' : Scene} (h : s.InStep) (he : s'.objects = s.objects) : s'.InStep :=
  fun id _ ho => h <| (congrArg (·[id.index]?) he).symm.trans ho

theorem InStep.modify {f : Obj → Obj} (h : s.InStep)
    (hf : ∀ o, s.obj? id = some o → (f o).InStep) : (s.modify id f).InStep := by
  intro i o' ho'
  obtain ⟨o, ho, he⟩ := eq_of_obj?_modify ho'
  split at he
  case isTrue hi => exact he ▸ hf o (hi ▸ ho)
  case isFalse   => exact he ▸ h ho

theorem InStep.edit (h : s.InStep) (e : Edit) : (s.edit id e).InStep :=
  h.modify fun o ho => (h ho : o.InStep)

theorem InStep.push {kind : WidgetKind} {parent : Option ObjId} (h : s.InStep)
    (hp : ∀ p ∈ parent, s.has p) : (s.push kind parent).2.InStep := by
  intro i o' ho'
  cases eq_of_obj?_push hp ho'
  case inl hn =>
    rw [hn.2]
    rfl
  case inr ho =>
    obtain ⟨o, ho, he⟩ := ho
    rw [he, Obj.InStep, tabs_grown, tabButtons_grown]
    exact h ho

theorem InStep.createWidget {kind : WidgetKind} {parent : Option ObjId} (h : s.InStep)
    (hp : ∀ p ∈ parent, s.has p) : (s.createWidget kind parent).2.InStep := by
  by_cases hk : kind = .tabview
  case neg => exact createWidget_of_ne hk ▸ h.push hp
  case pos =>
    rw [hk, createWidget_tabview]
    have hn : ∀ p ∈ some s.next, (s.push .tabview parent).2.has p :=
      fun p he => Option.some.inj he ▸ has_next_push
    have hbar : ((s.push .tabview parent).2.push .obj (some s.next)).2.InStep := (h.push hp).push hn
    exact hbar.modify fun o ho => (hbar ho : o.InStep)

theorem InStep.dropdownList (h : s.InStep) (hid : s.has id) : (s.dropdownList id).2.InStep := by
  obtain ⟨o, ho⟩ := has_iff_obj?.mp hid
  have hlist : (s.push .obj none).2.InStep := h.push nofun
  exact dropdownList_cases ho h fun _ _ => hlist.modify fun o ho => (hlist ho : o.InStep)

theorem InStep.addTab (h : s.InStep) (hs : s.WellTied) (hid : s.has id) (title : String) :
    (s.addTab id title).2.InStep := by
  have hbutton : (s.withButton id title).InStep := (h.push hs.has_of_tabBar).edit _
  have hp : ∀ p ∈ some id, (s.withButton id title).has p :=
    fun p he => Option.some.inj he ▸ has_withButton hid
  have hpage : (s.withTab id title).InStep := hbutton.push hp
  rw [addTab_of_has hid]
  refine hpage.modify fun o ho => ?_
  rw [Obj.InStep, List.map_append, ← hpage ho]
  rfl

theorem InStep.run (h : s.InStep) (hs : s.WellTied) {r : Request} (hr : r.Admissible s) :
    (r.run s).InStep := by
  apply Request.run_cases hr
  case create => exact fun _ _ hp => h.createWidget hp
  case edit   => exact fun _ e _ => h.edit e
  case list   => exact fun _ hid => h.dropdownList hid
  case tab    => exact fun _ title hid => h.addTab hs hid title
  case header => exact fun _ hp => h.push hp
  case same   => exact fun _ he _ => h.of_objects he

theorem Arises.inStep (h : s.Arises) : s.InStep := by
  induction h
  case empty              => simp [InStep, obj?, Scene.empty]
  case request hs r hr hi => exact hi.run hs.wellTied hr
  case event id code hi   => exact hi.of_objects (objects_send code)

end Steps

def tabPage? (s : Scene) (id : ObjId) (index : Nat) : Option ObjId :=
  (s.obj? id).bind (·.tabs[index]?)

structure IsTab (s : Scene) (id : ObjId) (index : Nat) (button page : ObjId) : Prop where
  button_eq : s.tabButton? id index = some button
  page_eq   : s.tabPage? id index = some page
  together  : page.index = button.index + 1
  placed    : s.Under button (s.tabBar? id) ∧ s.Under page (some id)

variable {s : Scene} {v button page : ObjId} {i : Nat}

theorem exists_of_lt_tabCount (h : i < s.tabCount v) :
    ∃ o, s.obj? v = some o ∧ i < o.tabs.length := by
  cases ho : s.obj? v
  case none   => simp [tabCount, ho] at h
  case some o => exact ⟨o, rfl, by simpa [tabCount, ho] using h⟩

theorem Arises.exists_isTab (h : s.Arises) (hi : i < s.tabCount v) :
    ∃ button page, s.IsTab v i button page := by
  obtain ⟨o, ho, hi⟩ := exists_of_lt_tabCount hi
  have htied := h.wellTied.tied ho
  have hb : i < o.tabButtons.length := htied.paired ▸ hi
  have hpage : o.tabs[i]? = some ⟨o.tabButtons[i].index + 1⟩ := by
    rw [show o.tabs = _ from h.inStep ho, List.getElem?_map, List.getElem?_eq_getElem hb]
    rfl
  refine ⟨o.tabButtons[i], ⟨o.tabButtons[i].index + 1⟩, ?button, ?page, rfl, ?placed⟩
  case button => simp [tabButton?, ho, hb]
  case page   => simp [tabPage?, ho, hpage]
  case placed =>
    have hbar : s.tabBar? v = o.tabBar := by simp [tabBar?, ho]
    exact ⟨hbar ▸ htied.buttons _ (List.getElem_mem hb), htied.pages _ (List.mem_of_getElem? hpage)⟩

theorem WellTied.tabButton?_of_not_lt (hs : s.WellTied) (h : ¬i < s.tabCount v) :
    s.tabButton? v i = none := by
  cases ho : s.obj? v
  case none   => simp [tabButton?, ho]
  case some o =>
    have hlength : o.tabButtons.length ≤ i := by
      rw [← (hs.tied ho).paired]
      simpa [tabCount, ho] using h
    simp [tabButton?, ho, hlength]

end Scene

namespace Processor

open Reading (intAttr)

variable {s : Scene} {v button : ObjId} {attrs : Attrs} (hn : 0 < s.tabCount v)
include hn

theorem makeTabButton_named (hi : 0 ≤ intAttr attrs "index" 0)
    (hb : s.tabButton? v (intAttr attrs "index" 0).toNat = some button) :
    makeTabButton attrs v s = pure (some (.obj button)) := by
  simp only [makeTabButton, Nat.pos_iff_ne_zero.mp hn, Int.not_lt.mpr hi, hb, if_false]

theorem makeTabButton_first (hs : s.WellTied)
    (hi : ¬(0 ≤ intAttr attrs "index" 0 ∧ intAttr attrs "index" 0 < s.tabCount v))
    (hb : s.tabButton? v 0 = some button) : makeTabButton attrs v s =
      .because (some (.obj button)) (.tabOutOfRange (intAttr attrs "index" 0)) := by
  let i := intAttr attrs "index" 0
  have hnamed : (if i < 0 then none else s.tabButton? v i.toNat) = none := by
    split
    case isTrue  => rfl
    case isFalse => exact hs.tabButton?_of_not_lt (by omega)
  simp only [makeTabButton, Nat.pos_iff_ne_zero.mp hn, hnamed, hb, if_false, Option.map_some, i]

end Processor

-- The number of a tab may be anything, also what a text without digits or one with too many of them
-- is read as.
theorem Scene.Arises.tab_button_found {s : Scene} (h : s.Arises) {v : ObjId}
    (hn : 0 < s.tabCount v) (env : Env) (attrs : Attrs) :
    let i := Reading.intAttr attrs "index" 0
    let inside := 0 ≤ i ∧ i < s.tabCount v
    ∃ button page, s.IsTab v (if inside then i.toNat else 0) button page ∧
      Processor.tabButton.create env (some v) attrs s =
        ⟨(some (.obj button), s), if inside then [] else [.tabOutOfRange i]⟩ := by
  intro i inside
  have hv : s.visit v = s := by
    obtain ⟨o, ho, -⟩ := exists_of_lt_tabCount hn
    exact visit_of_has (has_of_obj? ho)
  have create_eq {made : Noted (Option Item)} (hmade : Processor.makeTabButton attrs v s = made) :
      Processor.tabButton.create env (some v) attrs s = (·, s) <$> made := by
    rw [Processor.create, hv, hmade]
  by_cases hi : inside
  case pos =>
    obtain ⟨button, page, htab⟩ := h.exists_isTab (v := v) (i := i.toNat) (by omega)
    refine ⟨button, page, (if_pos hi).symm ▸ htab, ?_⟩
    rw [create_eq (Processor.makeTabButton_named hn hi.1 htab.button_eq), if_pos hi]
    rfl
  case neg =>
    obtain ⟨button, page, htab⟩ := h.exists_isTab hn
    refine ⟨button, page, (if_neg hi).symm ▸ htab, ?_⟩
    rw [create_eq (Processor.makeTabButton_first hn h.wellTied hi htab.button_eq), if_neg hi]
    rfl

theorem first_tab_button_of_two :
    let s₁ := (Scene.Request.createWidget .tabview none).run .empty
    let s₂ := (Scene.Request.addTab ⟨0⟩ "a").run s₁
    let s := (Scene.Request.addTab ⟨0⟩ "b").run s₂
    let env : Env := ⟨{}, .globals, fun _ => none⟩
    s.tabCount ⟨0⟩ = 2 ∧ s.Under ⟨2⟩ (some ⟨1⟩) ∧
      Processor.tabButton.create env (some ⟨0⟩) [("index", "99999999999")] s =
        ⟨(some (.obj ⟨2⟩), s), [.tabOutOfRange 2147483647]⟩ := by
  intro s₁ s₂ s env
  have h : s.Arises :=
    .request (.request (.request .empty _ (by decide)) _ (by decide)) _ (by decide)
  have hi : Reading.intAttr [("index", "99999999999")] "index" 0 = 2147483647 := by
    decide +kernel
  have hcount : s.tabCount ⟨0⟩ = 2 := by decide
  have hfound := h.tab_button_found (v := ⟨0⟩) (by decide) env [("index", "99999999999")]
  rw [hi, hcount] at hfound
  obtain ⟨button, page, htab, hcreate⟩ := hfound
  have hbutton : button = ⟨2⟩ := Option.some.inj (htab.button_eq.symm.trans (by decide))
  have hbar : s.tabBar? ⟨0⟩ = some ⟨1⟩ := by decide
  exact ⟨hcount, hbar ▸ hbutton ▸ htab.placed.1, hbutton ▸ hcreate⟩

end UiMarkup
