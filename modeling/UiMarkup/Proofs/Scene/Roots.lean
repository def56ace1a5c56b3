import UiMarkup.Proofs.Scene.Below

namespace UiMarkup

-- Tab views, and only these, have a bar for their tab buttons.
def Obj.Barred (o : Obj) : Prop :=
  o.kind = .tabview ↔ o.tabBar.isSome

namespace Scene

def Barred (s : Scene) : Prop :=
  ∀ ⦃id o⦄, s.obj? id = some o → o.Barred

section Barred

variable {s : Scene} {id : ObjId}

theorem Barred.of_objects {s' : Scene} (h : s.Barred) (he : s'.objects = s.objects) :
    s'.Barred :=
  fun id _ ho => h <| (congrArg (·[id.index]?) he).symm.trans ho

theorem Barred.modify {f : Obj → Obj} (h : s.Barred)
    (hf : ∀ o, (f o).kind = o.kind ∧ (f o).tabBar = o.tabBar) : (s.modify id f).Barred := by
  intro i o' ho'
  obtain ⟨o, ho, he⟩ := eq_of_obj?_modify ho'
  have ⟨hkind, hbar⟩ := hf o
  split at he
  case isTrue  => rw [he, Obj.Barred, hkind, hbar]; exact h ho
  case isFalse => exact he ▸ h ho

theorem Barred.edit (h : s.Barred) (e : Edit) : (s.edit id e).Barred :=
  h.modify fun _ => ⟨rfl, rfl⟩

theorem barred_grown {parent : Option ObjId} {i : ObjId} {o : Obj} (h : o.Barred) :
    (s.grown parent i o).Barred := by
  rw [Obj.Barred, kind_grown, tabBar_grown]
  exact h

variable {kind : WidgetKind} {parent : Option ObjId} (hp : ∀ p ∈ parent, s.has p)
include hp

theorem Barred.push (h : s.Barred) (hk : kind ≠ .tabview) : (s.push kind parent).2.Barred := by
  intro i o' ho'
  cases eq_of_obj?_push hp ho'
  case inl hn =>
    rw [hn.2]
    exact ⟨fun he => absurd he hk, nofun⟩
  case inr ho =>
    obtain ⟨o, ho, he⟩ := ho
    exact he ▸ barred_grown (h ho)

theorem Barred.createWidget (h : s.Barred) : (s.createWidget kind parent).2.Barred := by
  by_cases hk : kind = .tabview
  case neg => exact createWidget_of_ne hk ▸ h.push hp hk
  case pos =>
    rw [hk, createWidget_tabview]
    let s₁ := (s.push .tabview parent).2
    have hn : ∀ p ∈ some s.next, s₁.has p := fun p he => Option.some.inj he ▸ has_next_push
    have htab : (s₁.push .obj (some s.next)).2.obj? s.next =
        some (s₁.grown (some s.next) s.next { kind := .tabview, parent }) :=
      obj?_push_of_has hn (obj?_push_next hp)
    intro i o' ho'
    obtain ⟨o, ho, he⟩ := eq_of_obj?_modify ho'
    split at he
    case isTrue hi =>
      have hkind : o.kind = .tabview := by
        rw [hi] at ho
        rw [← Option.some.inj (htab.symm.trans ho), kind_grown]
      rw [he]
      exact ⟨fun _ => rfl, fun _ => hkind⟩
    case isFalse hi =>
      subst he
      cases eq_of_obj?_push hn ho
      case inl hbar =>
        rw [hbar.2]
        exact ⟨nofun, nofun⟩
      case inr hold =>
        obtain ⟨o₁, ho₁, rfl⟩ := hold
        obtain ⟨o₀, ho₀, rfl⟩ := (eq_of_obj?_push hp ho₁).resolve_left fun hnext => hi hnext.1
        exact barred_grown (barred_grown (h ho₀))

end Barred

variable {s : Scene} {p id : ObjId}

theorem Barred.dropdownList (h : s.Barred) (hid : s.has id) : (s.dropdownList id).2.Barred := by
  obtain ⟨o, ho⟩ := has_iff_obj?.mp hid
  have hpush : (s.push .obj none).2.Barred := h.push nofun (by decide)
  exact dropdownList_cases ho h fun _ _ => hpush.modify fun _ => ⟨rfl, rfl⟩

theorem Barred.addTab (h : s.Barred) (hs : s.WellTied) (hid : s.has id) (title : String) :
    (s.addTab id title).2.Barred := by
  have hbutton : (s.withButton id title).Barred :=
    (h.push hs.has_of_tabBar (by decide)).edit _
  have hpage : ∀ p ∈ some id, (s.withButton id title).has p :=
    fun p he => Option.some.inj he ▸ has_withButton hid
  rw [addTab_of_has hid]
  exact (hbutton.push hpage (by decide)).modify fun _ => ⟨rfl, rfl⟩

theorem Barred.run (h : s.Barred) (hs : s.WellTied) {r : Request} (hr : r.Admissible s) :
    (r.run s).Barred := by
  apply Request.run_cases hr
  case create => exact fun _ _ hp => h.createWidget hp
  case edit   => exact fun _ e _ => h.edit e
  case list   => exact fun _ hid => h.dropdownList hid
  case tab    => exact fun _ title hid => h.addTab hs hid title
  case header => exact fun _ hp => h.push hp (by decide)
  case same   => exact fun _ he _ => h.of_objects he

theorem Arises.barred (h : s.Arises) : s.Barred := by
  induction h
  case empty              => simp [Barred, obj?, Scene.empty]
  case request hs r hr hi => exact hi.run hs.wellTied hr
  case event id code hi   => exact hi.of_objects (objects_send code)

theorem Arises.leads {s' : Scene} (h : s.Arises) (hs : s.Leads s') : s'.Arises := by
  induction hs
  case refl         => exact h
  case call r ok hi => exact .request hi r ok

def IsList (s : Scene) (id : ObjId) : Prop :=
  ∃ d o, s.obj? d = some o ∧ o.kind = .dropdown ∧ o.list = some id

-- The button of a tab that an object has got which is no tab view.
def IsStrayButton (s : Scene) (id : ObjId) : Prop :=
  ∃ v o, s.obj? v = some o ∧ o.kind ≠ .tabview ∧ id ∈ o.tabButtons

theorem mem_roots_iff : id ∈ s.roots ↔ s.Under id none := by
  unfold roots Under
  rw [List.mem_filter]
  constructor
  case mp =>
    intro ⟨_, h⟩
    obtain ⟨o, ho, hparent⟩ := by simpa [Option.any_eq_true] using h
    exact ⟨o, ho, hparent⟩
  case mpr =>
    intro ⟨o, ho, hparent⟩
    refine ⟨List.mem_map.mpr ⟨id.index, ?_, rfl⟩, by simp [ho, hparent]⟩
    exact List.mem_range.mpr (has_iff.mp (has_of_obj? ho))

theorem Under.unique {parent parent' : Option ObjId} : s.Under id parent → s.Under id parent' →
    parent = parent'
  | ⟨_, ho, hp⟩, ⟨_, ho', hp'⟩ => by rw [← hp, ← hp', Option.some.inj (ho.symm.trans ho')]

theorem Arises.loose_part (h : s.Arises) (hm : id ∈ s.parts p) (hu : s.Under id none) :
    s.IsList id ∨ s.IsStrayButton id := by
  have hs := h.wellTied
  obtain ⟨o, ho, hm⟩ := mem_parts.mp hm
  have ht := hs.tied ho
  rcases Obj.mem_parts.mp hm with hc | hb | hp | hb | hl
  · cases hu.unique ((hs.children ho).mp hc)
  · cases hu.unique (ht.bar id hb)
  · cases hu.unique (ht.pages id hp)
  · have hbar : o.tabBar = none := (hu.unique (ht.buttons id hb)).symm
    refine .inr ⟨p, o, ho, fun hk => ?_, hb⟩
    have hsome := (h.barred ho).mp hk
    rw [hbar] at hsome
    cases hsome
  · exact .inl ⟨p, o, ho, (ht.list id hl).1, hl⟩

theorem Arises.under_none (h : s.Arises) (hid : s.IsList id ∨ s.IsStrayButton id) :
    s.Under id none := by
  cases hid
  case inl hlist =>
    obtain ⟨d, o, ho, -, hl⟩ := hlist
    obtain ⟨-, o', ho', -, hparent⟩ := (h.wellTied.tied ho).list id hl
    exact ⟨o', ho', hparent⟩
  case inr hbutton =>
    obtain ⟨v, o, ho, hk, hb⟩ := hbutton
    have hbar : o.tabBar = none := by
      cases hsome : o.tabBar
      case none   => rfl
      case some _ => exact absurd ((h.barred ho).mpr (by rw [hsome]; rfl)) hk
    exact hbar ▸ (h.wellTied.tied ho).buttons id hb

end Scene

end UiMarkup
