import UiMarkup.Proofs.Scene.Below
import UiMarkup.Proofs.Scene.Refs
import UiMarkup.Widget.Processor

namespace UiMarkup

namespace Processor

variable {s : Scene} {env : Env} {attrs : Attrs}

theorem exists_makeImageSlice {slice : ImageSlice} {button : ObjId} :
    ∃ state source, (makeImageSlice env attrs slice button s).value =
      s.edit button (.imageSource state slice source) := by
  unfold makeImageSlice
  split <;> split <;> exact ⟨_, _, rfl⟩

-- Making an item comes down to one request at most, and what that names is the parent. Nothing is
-- referred to, since attributes are applied later.
theorem exists_request (p : Processor) (parent : Option ObjId) :
    (p.create env parent attrs s).value.2 = s ∨
      ∃ r : Scene.Request, r.named = parent.toList ∧ r.refs = [] ∧
        (p.create env parent attrs s).value.2 = r.run s := by
  cases p
  case widget kind => exact .inr ⟨.createWidget kind parent, rfl, rfl, rfl⟩
  case custom kind =>
    cases kind
    case none      => exact .inl rfl
    case some kind => exact .inr ⟨.createWidget kind parent, rfl, rfl, rfl⟩
  case dropdownList =>
    cases parent
    case none   => exact .inl rfl
    case some q =>
      refine .inr ⟨.dropdownList q, rfl, rfl, ?_⟩
      simp only [create]
      split
      case h_1 he => exact (congrArg Prod.snd he).symm
      case h_2 he => exact (congrArg Prod.snd he).symm
  case imageSlice slice =>
    cases parent
    case none   => exact .inl rfl
    case some q =>
      simp only [create, Noted.value_map]
      obtain ⟨state, source, he⟩ := exists_makeImageSlice
      exact .inr ⟨.edit q (.imageSource state slice source), rfl, rfl, he⟩
  all_goals cases parent
  case calendarHeader.some q => exact .inr ⟨.addHeader q, rfl, rfl, rfl⟩
  case tabBar.some q         => exact .inr ⟨.look q, rfl, rfl, rfl⟩
  case tab.some q            => exact .inr ⟨.addTab q _, rfl, rfl, rfl⟩
  case tabButton.some q      => exact .inr ⟨.look q, rfl, rfl, rfl⟩
  case scaleSection.some q   => exact .inr ⟨.edit q .addSection, rfl, rfl, rfl⟩
  case span.some q           => exact .inr ⟨.edit q .addSpan, rfl, rfl, rfl⟩
  all_goals exact .inl rfl

theorem leads_create (p : Processor) {parent : Option ObjId} (hp : ∀ q ∈ parent, s.has q) :
    s.Leads (p.create env parent attrs s).value.2 := by
  have hcreate : (p.create env parent attrs s).value.2 = s ∨ _ := p.exists_request parent
  cases hcreate
  case inl he =>
    rw [he]
    exact .refl
  case inr hr =>
    have ⟨r, hnamed, _, he⟩ := hr
    rw [he]
    exact .single r fun i hi => hp i (by simpa [hnamed] using hi)

section Made

variable {q id : ObjId}

theorem mem_parts_of_tabBar (h : s.tabBar? q = some id) : id ∈ s.parts q := by
  obtain ⟨o, ho, hb⟩ := Option.bind_eq_some_iff.mp h
  exact Scene.mem_parts.mpr ⟨o, ho, Obj.mem_parts.mpr <| .inr <| .inl hb⟩

theorem mem_parts_of_tabButton {i : Nat} (h : s.tabButton? q i = some id) : id ∈ s.parts q := by
  obtain ⟨o, ho, hb⟩ := Option.bind_eq_some_iff.mp h
  exact Scene.mem_parts.mpr ⟨o, ho, by simp [Obj.mem_parts, List.mem_of_getElem? hb]⟩

theorem mem_parts_of_makeTabButton (h : (makeTabButton attrs q s).value = some (.obj id)) :
    id ∈ s.parts q := by
  unfold makeTabButton at h
  split at h
  case isTrue  => cases h
  case isFalse =>
    dsimp only at h
    split at h
    case h_1 b hb =>
      split at hb
      case isTrue  => cases hb
      case isFalse =>
        cases h
        exact mem_parts_of_tabButton hb
    case h_2 =>
      obtain ⟨b, hb, he⟩ := Option.map_eq_some_iff.mp h
      cases he
      exact mem_parts_of_tabButton hb

theorem mem_parts_of_dropdownList (hq : s.has q) (h : (s.dropdownList q).1 = some id) :
    id ∈ (s.dropdownList q).2.parts q := by
  obtain ⟨o, ho⟩ := Scene.has_iff_obj?.mp hq
  by_cases hk : o.kind = .dropdown
  case neg => simp [Scene.dropdownList_of_kind_ne ho hk] at h
  case pos =>
    cases hl : o.list
    case some l =>
      rw [Scene.dropdownList_of_list ho hk hl] at h ⊢
      exact Scene.mem_parts.mpr ⟨o, ho, by simp [Obj.mem_parts, hl, Option.some.inj h]⟩
    case none =>
      rw [Scene.dropdownList_of_no_list ho hk hl] at h ⊢
      have hpush : (s.push .obj none).2.has q := Scene.has_push_of_has hq
      obtain ⟨o', ho'⟩ := Scene.has_iff_obj?.mp hpush
      rw [Scene.mem_parts_modify, if_pos rfl]
      exact ⟨o', ho', by simp [Obj.mem_parts, Option.some.inj h]⟩

theorem mem_parts_addTab (hq : s.has q) (title : String) :
    (s.addTab q title).1 ∈ (s.addTab q title).2.parts q := by
  rw [Scene.addTab_of_has hq, Scene.mem_parts_modify, if_pos rfl]
  obtain ⟨o, ho⟩ := Scene.has_iff_obj?.mp
    (show (s.withTab q title).has q from Scene.has_push_of_has (Scene.has_withButton hq))
  exact ⟨o, ho, by simp [Obj.mem_parts]⟩

theorem below_of_create (p : Processor) (hq : s.has q)
    (h : (p.create env (some q) attrs s).value.1 = some (.obj id)) :
    (p.create env (some q) attrs s).value.2.Below q id := by
  have hwidget (kind : WidgetKind) :
      (s.createWidget kind (some q)).2.Below q (s.createWidget kind (some q)).1 := by
    have hid : (s.createWidget kind (some q)).2.has s.next :=
      Scene.has_iff.mpr Scene.size_createWidget_gt
    have hfound := (Scene.confined_createWidget hq kind).found hid
    rw [Scene.fst_createWidget]
    exact (hfound.resolve_left Scene.not_has_next).resolve_right List.not_mem_nil
  cases p
  case widget kind => cases h; exact hwidget kind
  case custom kind =>
    cases kind
    case none      => cases h
    case some kind => cases h; exact hwidget kind
  case dropdownList =>
    simp only [create] at h ⊢
    split at h
    case h_1 l s' he =>
      cases h
      have hl := mem_parts_of_dropdownList hq (congrArg Prod.fst he)
      exact .part .self (by simpa [he] using hl)
    case h_2 => cases h
  case calendarHeader =>
    cases h
    exact Scene.below_next_push hq
  case tabBar =>
    obtain ⟨bar, hbar, he⟩ := Option.map_eq_some_iff.mp h
    cases he
    exact Scene.below_visit (.part .self (mem_parts_of_tabBar hbar))
  case tab =>
    cases h
    exact .part .self (mem_parts_addTab hq _)
  case tabButton => exact Scene.below_visit (.part .self (mem_parts_of_makeTabButton h))
  case imageSlice  => cases h; exact .self
  case tableColumn => cases h; exact .self
  case tableCell   => cases h; exact .self
  case modifier    => cases h; exact .self
  all_goals cases h

end Made

theorem has_of_create (p : Processor) {parent : Option ObjId} (hs : s.WellTied)
    (hp : ∀ q ∈ parent, s.has q) {id : ObjId}
    (h : (p.create env parent attrs s).value.1 = some (.obj id)) :
    (p.create env parent attrs s).value.2.has id := by
  have hleads : s.Leads (p.create env parent attrs s).value.2 := p.leads_create hp
  cases parent
  case some q =>
    have hq := hp q rfl
    exact (hleads.wellTied hs).has_of_below (hleads.has hq) (p.below_of_create hq h)
  case none =>
    have hwidget (kind : WidgetKind) :
        (s.createWidget kind none).2.has (s.createWidget kind none).1 := by
      rw [Scene.fst_createWidget]
      exact Scene.has_iff.mpr Scene.size_createWidget_gt
    cases p
    case widget kind => cases h; exact hwidget kind
    case custom kind =>
      cases kind
      case none      => cases h
      case some kind => cases h; exact hwidget kind
    all_goals cases h

-- Attributes edit the object of the element or, for a piece of the parent, the parent.
theorem mem_onto {target : Option ObjId} {edits : Edits} {e : ObjId × Edit}
    (he : e ∈ (onto target edits).value) : target = some e.1 := by
  cases target
  case none => cases he
  case some id =>
    obtain ⟨_, _, rfl⟩ := List.mem_map.mp he
    rfl

theorem target_of_apply (p : Processor) {parent : Option ObjId} {item : Option Item}
    {e : ObjId × Edit} (he : e ∈ (p.apply env parent item attrs).value) :
    parent = some e.1 ∨ item.bind Item.obj? = some e.1 := by
  cases p
  case scaleSection =>
    simp only [apply] at he
    split at he
    case h_1 => exact .inl (mem_onto he)
    case h_2 => cases he
  case span =>
    simp only [apply] at he
    split at he
    case h_1 => exact .inl (mem_onto he)
    case h_2 => cases he
  case imageSlice => cases he
  case modifier =>
    simp only [apply] at he
    split at he
    case h_1 => exact .inr (mem_onto he)
    case h_2 => cases he
  all_goals exact .inr (mem_onto he)

end Processor

end UiMarkup
