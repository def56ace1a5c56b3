import UiMarkup.Proofs.Scene.Ties
import UiMarkup.Scene.Tree

namespace UiMarkup

namespace Scene

section Compound

variable {s : Scene} {id : ObjId}

theorem WellTied.createWidget (h : s.WellTied) {kind : WidgetKind} {parent : Option ObjId}
    (hp : ∀ p ∈ parent, s.has p) : (s.createWidget kind parent).2.WellTied := by
  by_cases hk : kind = .tabview
  case neg => exact createWidget_of_ne hk ▸ h.push hp
  case pos =>
    rw [hk, createWidget_tabview]
    let s₁ := (s.push .tabview parent).2
    have hn : ∀ p ∈ some s.next, s₁.has p := fun p he => Option.some.inj he ▸ has_next_push
    have h₂ : (s₁.push .obj (some s.next)).2.WellTied := (h.push hp).push hn
    refine h₂.modify (fun _ _ => ⟨rfl, rfl, fun _ hl => hl⟩) (fun _ => rfl) ?bar ?list
    case bar =>
      intro o ho
      have htab : s₁.obj? s.next = some { kind := .tabview, parent } := obj?_push_next hp
      have hnew : o.tabButtons = [] := by
        rw [obj?_push_of_has hn htab] at ho
        simp [← Option.some.inj ho]
      exact (h₂.tied ho).withBar hnew <| (under_push hn).mpr <| .inr ⟨rfl, rfl⟩
    case list => exact fun ho hl hj hx => h₂.unshared hj ho hx hl

theorem WellTied.dropdownList (h : s.WellTied) (hid : s.has id) :
    (s.dropdownList id).2.WellTied := by
  obtain ⟨o, ho⟩ := has_iff_obj?.mp hid
  refine dropdownList_cases ho h fun hk hl => ?_
  have hp : ∀ p ∈ (none : Option ObjId), s.has p := by simp
  have h₁ : (s.push .obj none).2.WellTied := h.push hp
  have ho₁ : (s.push .obj none).2.obj? id = some o := by
    simp [obj?_push_of_has hp ho, grown]
  refine h₁.modify ?lasts (fun _ => rfl) ?list ?fresh
  case lasts =>
    intro o' ho'
    rw [← Option.some.inj (ho₁.symm.trans ho')]
    exact ⟨rfl, rfl, by simp [hl]⟩
  case list =>
    intro o' ho'
    have hk' : o'.kind = .dropdown := Option.some.inj (ho₁.symm.trans ho') ▸ hk
    exact (h₁.tied ho').withList hk' isLoose_push_next
  case fresh =>
    intro o' j x l _ hl' hx hxl
    cases eq_of_obj?_push hp hx
    case inl hn => simp [hn.2] at hxl
    case inr hx =>
      obtain ⟨x₀, hx₀, he⟩ := hx
      rw [he, list_grown] at hxl
      obtain ⟨y, hy, -⟩ := ((h.tied hx₀).list l hxl).2
      exact absurd (Option.some.inj hl' ▸ has_of_obj? hy) not_has_next

theorem WellTied.has_of_tabBar (h : s.WellTied) : ∀ b ∈ s.tabBar? id, s.has b := by
  intro b hb
  obtain ⟨o, ho, hbar⟩ := Option.bind_eq_some_iff.mp hb
  exact ((h.tied ho).bar b hbar).has

theorem WellTied.addTab (h : s.WellTied) (hid : s.has id) (title : String) :
    (s.addTab id title).2.WellTied := by
  rw [addTab_of_has hid]
  obtain ⟨o, ho⟩ := has_iff_obj?.mp hid
  have hb : ∀ b ∈ s.tabBar? id, s.has b := h.has_of_tabBar
  have hp : ∀ p ∈ some id, (s.withButton id title).has p :=
    fun p he => Option.some.inj he ▸ has_withButton hid
  have h₁ : (s.withTab id title).WellTied := ((h.push hb).edit _).push hp
  have hbutton : (s.withTab id title).Under s.next (s.tabBar? id) := by
    have hk : (s.push .button (s.tabBar? id)).2.Keeps (s.withButton id title) :=
      keeps_edit _
    exact (under_push hp).mpr <| .inl <| hk.under <| (under_push hb).mpr <| .inr ⟨rfl, rfl⟩
  have hpage : (s.withTab id title).Under ⟨s.size + 1⟩ (some id) :=
    (under_push hp).mpr <| .inr ⟨next_withButton.symm, rfl⟩
  refine h₁.modify (fun _ _ => ⟨rfl, rfl, fun _ hl => hl⟩) (fun _ => rfl) ?tab ?list
  case tab =>
    intro o' ho'
    -- Since the button was placed, the object has only got children.
    have hbar : o'.tabBar = s.tabBar? id := by
      rw [withTab, obj?_push_of_has hp (obj?_withButton hb ho)] at ho'
      simp [← Option.some.inj ho', tabBar?, ho]
    exact (h₁.tied ho').withTab (hbar ▸ hbutton) hpage
  case list => exact fun ho hl hj hx => h₁.unshared hj ho hx hl

end Compound

theorem WellTied.of_objects {s s' : Scene} (h : s.WellTied) (he : s'.objects = s.objects) :
    s'.WellTied := by
  have hobj : s'.obj? = s.obj? := by
    funext i
    simp [obj?, he]
  have hunder : s'.Under = s.Under := by
    funext i q
    simp [Under, hobj]
  constructor
  case children => rw [hobj, hunder]; exact h.children
  case older    => rw [hunder]; exact h.older
  case sorted   => rw [hobj]; exact h.sorted
  case tied     => exact fun ho => (h.tied (hobj ▸ ho)).mono fun _ _ hi => ⟨_, hobj ▸ hi, .refl⟩
  case unshared => rw [hobj]; exact h.unshared

theorem objects_loadFont {s : Scene} {source : FontSource} :
    (s.loadFont source).2.objects = s.objects := by
  unfold loadFont; split <;> rfl

section Run

variable {s : Scene} {id : ObjId}

theorem keeps_createWidget {kind : WidgetKind} {parent : Option ObjId}
    (hp : ∀ p ∈ parent, s.has p) : s.Keeps (s.createWidget kind parent).2 := by
  by_cases hk : kind = .tabview
  case neg => exact createWidget_of_ne hk ▸ keeps_push hp
  case pos =>
    rw [hk, createWidget_tabview]
    have hn : ∀ p ∈ some s.next, (s.push .tabview parent).2.has p :=
      fun p he => Option.some.inj he ▸ has_next_push
    refine (keeps_push hp).trans <| (keeps_push hn).trans <| keeps_modify ?_
    exact fun _ _ => ⟨rfl, rfl, fun _ hl => hl⟩

theorem strays_createWidget {kind : WidgetKind} {parent : Option ObjId}
    (hp : ∀ p ∈ parent, s.has p) : (s.createWidget kind parent).2.strays = s.strays := by
  by_cases hk : kind = .tabview
  case neg => exact createWidget_of_ne hk ▸ strays_push hp
  case pos =>
    rw [hk, createWidget_tabview]
    have hn : ∀ p ∈ some s.next, (s.push .tabview parent).2.has p :=
      fun p he => Option.some.inj he ▸ has_next_push
    calc
      _ = ((s.push .tabview parent).2.push .obj (some s.next)).2.strays :=
        strays_modify (has_push_of_has has_next_push)
      _ = (s.push .tabview parent).2.strays := strays_push hn
      _ = s.strays := strays_push hp

theorem keeps_dropdownList (hid : s.has id) : s.Keeps (s.dropdownList id).2 := by
  obtain ⟨o, ho⟩ := has_iff_obj?.mp hid
  refine dropdownList_cases ho .refl fun hk hl => ?_
  have hp : ∀ p ∈ (none : Option ObjId), s.has p := by simp
  refine (keeps_push hp).trans (keeps_modify fun o' ho' => ?_)
  have hl' : o'.list = none := by
    rw [obj?_push_of_has hp ho] at ho'
    rw [← Option.some.inj ho', list_grown, hl]
  exact ⟨rfl, rfl, by simp [hl']⟩

theorem strays_dropdownList (hid : s.has id) : (s.dropdownList id).2.strays = s.strays := by
  obtain ⟨o, ho⟩ := has_iff_obj?.mp hid
  refine dropdownList_cases (P := (·.strays = s.strays)) ho rfl fun _ _ => ?_
  exact (strays_modify (has_push_of_has hid)).trans (strays_push (by simp))

theorem keeps_addTab (hb : ∀ b ∈ s.tabBar? id, s.has b) (hid : s.has id) {title : String} :
    s.Keeps (s.addTab id title).2 := by
  rw [addTab_of_has hid]
  have hp : ∀ p ∈ some id, (s.withButton id title).has p :=
    fun p he => Option.some.inj he ▸ has_withButton hid
  have hbutton : s.Keeps (s.withButton id title) := (keeps_push hb).trans (keeps_edit _)
  have hpage : (s.withButton id title).Keeps (s.withTab id title) := keeps_push hp
  exact hbutton.trans <| hpage.trans <| keeps_modify fun _ _ => ⟨rfl, rfl, fun _ hl => hl⟩

theorem strays_addTab (hb : ∀ b ∈ s.tabBar? id, s.has b) (hid : s.has id) {title : String} :
    (s.addTab id title).2.strays = s.strays := by
  rw [addTab_of_has hid]
  have hp : ∀ p ∈ some id, (s.withButton id title).has p :=
    fun p he => Option.some.inj he ▸ has_withButton hid
  calc
    _ = (s.withTab id title).strays := strays_modify (has_push_of_has (has_withButton hid))
    _ = (s.withButton id title).strays := strays_push hp
    _ = (s.push .button (s.tabBar? id)).2.strays := strays_modify has_next_push
    _ = s.strays := strays_push hb

theorem Keeps.of_objects {s' : Scene} (he : s'.objects = s.objects) : s.Keeps s' :=
  fun _ o ho => ⟨o, by simpa [obj?, he] using ho, .refl⟩

theorem strays_loadFont {source : FontSource} : (s.loadFont source).2.strays = s.strays := by
  unfold loadFont; split <;> rfl

-- A request adds objects in one of four ways, edits one, or leaves them as they are.
theorem Request.run_cases {P : Scene → Prop} {r : Request} (hr : r.Admissible s)
    (create : ∀ kind parent, (∀ p ∈ parent, s.has p) → P (s.createWidget kind parent).2)
    (edit : ∀ id e, s.has id → P (s.edit id e))
    (list : ∀ id, s.has id → P (s.dropdownList id).2)
    (tab : ∀ id title, s.has id → P (s.addTab id title).2)
    (header : ∀ parent, (∀ p ∈ parent, s.has p) → P (s.push .obj parent).2)
    (same : ∀ s', s'.objects = s.objects → s'.strays = s.strays → P s') : P (r.run s) := by
  cases r
  case createWidget kind parent =>
    exact create kind parent fun p hp => hr p (by simpa [Request.named] using hp)
  case edit id e => exact edit id e <| hr id (by simp [Request.named])
  case look id =>
    exact same _ objects_visit <| congrArg strays <| visit_of_has <| hr id (by simp [Request.named])
  case dropdownList id => exact list id <| hr id (by simp [Request.named])
  case addTab id title => exact tab id title <| hr id (by simp [Request.named])
  case addHeader id =>
    exact header _ fun p hp => hr p (by simpa [Request.named, eq_comm] using hp)
  case loadFont => exact same _ objects_loadFont strays_loadFont
  all_goals exact same _ rfl rfl

theorem WellTied.run (h : s.WellTied) {r : Request} (hr : r.Admissible s) : (r.run s).WellTied := by
  apply Request.run_cases hr
  case create => exact fun _ _ hp => h.createWidget hp
  case edit   => exact fun _ e _ => h.edit e
  case list   => exact fun _ hid => h.dropdownList hid
  case tab    => exact fun _ title hid => h.addTab hid title
  case header => exact fun _ hp => h.push hp
  case same   => exact fun _ he _ => h.of_objects he

theorem WellTied.keeps_run (h : s.WellTied) {r : Request} (hr : r.Admissible s) :
    s.Keeps (r.run s) := by
  apply Request.run_cases hr
  case create => exact fun _ _ hp => keeps_createWidget hp
  case edit   => exact fun _ e _ => keeps_edit e
  case list   => exact fun _ hid => keeps_dropdownList hid
  case tab    => exact fun _ _ hid => keeps_addTab h.has_of_tabBar hid
  case header => exact fun _ hp => keeps_push hp
  case same   => exact fun _ he _ => .of_objects he

theorem WellTied.strays_run (h : s.WellTied) {r : Request} (hr : r.Admissible s) :
    (r.run s).strays = s.strays := by
  apply Request.run_cases (P := (·.strays = s.strays)) hr
  case create => exact fun _ _ hp => strays_createWidget hp
  case edit   => exact fun _ _ hid => strays_modify hid
  case list   => exact fun _ hid => strays_dropdownList hid
  case tab    => exact fun _ _ hid => strays_addTab h.has_of_tabBar hid
  case header => exact fun _ hp => strays_push hp
  case same   => exact fun _ _ he => he

end Run

namespace Leads

variable {s s' : Scene}

theorem wellTied (h : s.Leads s') (hs : s.WellTied) : s'.WellTied := by
  induction h
  case refl         => exact hs
  case call _ ok hi => exact hi.run ok

theorem keeps (h : s.Leads s') (hs : s.WellTied) : s.Keeps s' := by
  induction h
  case refl            => exact .refl
  case call hl r ok hi => exact hi.trans <| (hl.wellTied hs).keeps_run ok

theorem strays_eq (h : s.Leads s') (hs : s.WellTied) : s'.strays = s.strays := by
  induction h
  case refl            => rfl
  case call hl r ok hi => exact ((hl.wellTied hs).strays_run ok).trans hi

end Leads

theorem mem_children {s : Scene} {p c : ObjId} :
    c ∈ s.children p ↔ ∃ o, s.obj? p = some o ∧ c ∈ o.children := by
  cases h : s.obj? p
  case none => simp [children, h]
  case some => simp [children, h]

-- An object is older than what stands in it, so the parent exists, and so does its entry.
theorem WellTied.under_iff {s : Scene} (h : s.WellTied) {p c : ObjId} :
    s.Under c (some p) ↔ c ∈ s.children p := by
  rw [mem_children]
  constructor
  case mp =>
    intro hu
    have hc := has_iff.mp hu.has
    obtain ⟨o, ho⟩ := has_iff_obj?.mp (has_iff.mpr (Nat.lt_trans (h.older hu) hc))
    exact ⟨o, ho, (h.children ho).mpr hu⟩
  case mpr => exact fun ⟨_, ho, hc⟩ => (h.children ho).mp hc

theorem WellTied.sorted_children {s : Scene} (h : s.WellTied) (p : ObjId) :
    (s.children p).Pairwise (·.index < ·.index) := by
  cases ho : s.obj? p
  case none   => simp [Scene.children, ho]
  case some o => simpa [Scene.children, ho] using h.sorted ho

theorem WellTied.count_children {s : Scene} (h : s.WellTied) {p c : ObjId}
    (hc : c ∈ s.children p) : (s.children p).count c = 1 := by
  have hnodup : (s.children p).Nodup :=
    (h.sorted_children p).imp fun hlt he => Nat.ne_of_lt hlt (congrArg ObjId.index he)
  rw [hnodup.count, if_pos hc]

theorem Leads.ties_and_lists {s : Scene} (h : empty.Leads s) :
    (∀ c p, s.Under c (some p) ↔ c ∈ s.children p) ∧
    (∀ c p, c ∈ s.children p → (s.children p).count c = 1 ∧ p.index < c.index) ∧
    (∀ p, (s.children p).Pairwise (·.index < ·.index)) ∧
    (∀ id o, s.obj? id = some o → o.Tied s id) ∧
    (∀ i j o o' l, s.obj? i = some o → s.obj? j = some o' → o.list = some l → o'.list = some l →
      i = j) ∧
    ∀ s', s.Leads s' → ∀ id o l, s.obj? id = some o → o.list = some l →
      ∃ o', s'.obj? id = some o' ∧ o'.list = some l := by
  have hs := h.wellTied wellTied_empty
  refine ⟨fun _ _ => hs.under_iff, ?occurs, hs.sorted_children, fun _ _ => hs.tied,
    fun _ _ _ _ _ => hs.unshared, ?kept⟩
  case occurs => exact fun c p hc => ⟨hs.count_children hc, hs.older (hs.under_iff.mpr hc)⟩
  case kept =>
    intro s' hs' id o l ho hl
    obtain ⟨o', ho', hlasts⟩ := hs'.keeps hs ho
    exact ⟨o', ho', hlasts.list l hl⟩

instance {s : Scene} {r : Request} : Decidable (r.Admissible s) :=
  inferInstanceAs (Decidable (∀ id ∈ r.named, s.has id))

theorem tab_and_button_placed :
    let s := (Request.addTab ⟨0⟩ "a").run ((Request.createWidget .tabview none).run empty)
    s.children ⟨0⟩ = [⟨1⟩, ⟨3⟩] ∧ s.tabBar? ⟨0⟩ = some ⟨1⟩ ∧
      s.Under ⟨3⟩ (some ⟨0⟩) ∧ s.Under ⟨2⟩ (some ⟨1⟩) := by
  intro s
  have h : empty.Leads s := .call (.call .refl _ (by decide)) _ (by decide)
  have ⟨hunder, _⟩ := Leads.ties_and_lists h
  exact ⟨by decide, by decide, (hunder _ _).mpr (by decide), (hunder _ _).mpr (by decide)⟩

end Scene

end UiMarkup
