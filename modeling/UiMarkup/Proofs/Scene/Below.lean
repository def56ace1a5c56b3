import UiMarkup.Proofs.Scene.Growth
import UiMarkup.Scene.Trigger

namespace UiMarkup

def Obj.parts (o : Obj) : List ObjId :=
  o.children ++ o.tabBar.toList ++ o.tabs ++ o.tabButtons ++ o.list.toList

theorem Obj.mem_parts {o : Obj} {i : ObjId} : i ∈ o.parts ↔ i ∈ o.children ∨ o.tabBar = some i ∨
    i ∈ o.tabs ∨ i ∈ o.tabButtons ∨ o.list = some i := by
  simp [parts]

namespace Scene

def parts (s : Scene) (id : ObjId) : List ObjId :=
  ((s.obj? id).map Obj.parts).getD []

-- An object is below itself, and its parts are below whatever it is below.
inductive Below (s : Scene) (p : ObjId) : ObjId → Prop
  | self : Below s p p
  | part {id i : ObjId} : Below s p id → i ∈ s.parts id → Below s p i

variable {s s₁ s₂ s' : Scene} {p q id i : ObjId}

theorem mem_parts : i ∈ s.parts id ↔ ∃ o, s.obj? id = some o ∧ i ∈ o.parts := by
  cases h : s.obj? id <;> simp [parts, h]

theorem Below.trans (h₁ : s.Below p q) (h₂ : s.Below q id) : s.Below p id := by
  induction h₂
  case self       => exact h₁
  case part hm hi => exact .part hi hm

theorem Below.mono (h : s.Below p id) (hs : ∀ {id i}, i ∈ s.parts id → i ∈ s'.parts id) :
    s'.Below p id := by
  induction h
  case self       => exact .self
  case part hm hi => exact .part hi (hs hm)

structure Grows (s s' : Scene) : Prop where
  has   : ∀ {id}, s.has id → s'.has id
  kept  : ∀ {id i}, i ∈ s.parts id → i ∈ s'.parts id
  fresh : ∀ {id i}, i ∈ s'.parts id → s.has i → i ∈ s.parts id

namespace Grows

theorem refl : s.Grows s where
  has   := id
  kept  := id
  fresh := fun h _ => h

theorem trans (h₁ : s.Grows s₁) (h₂ : s₁.Grows s₂) : s.Grows s₂ where
  has   := fun h => h₂.has (h₁.has h)
  kept  := fun h => h₂.kept (h₁.kept h)
  fresh := fun h hi => h₁.fresh (h₂.fresh h (h₁.has hi)) hi

theorem below (h : s.Grows s') (hb : s.Below p id) : s'.Below p id :=
  hb.mono h.kept

theorem below_of_has (h : s.Grows s') (hb : s'.Below p id) (hid : s.has id) : s.Below p id := by
  induction hb
  case self       => exact .self
  case part hm hi =>
    have hpart := h.fresh hm hid
    obtain ⟨o, ho, -⟩ := mem_parts.mp hpart
    exact .part (hi (has_of_obj? ho)) hpart

end Grows

-- Nothing is changed but `p` and what is below it; new objects are below it too, or still loose.
structure Confined (s : Scene) (p : ObjId) (loose : List ObjId) (s' : Scene) : Prop
    extends Grows s s' where
  spared : ∀ {id}, s.has id → ¬s.Below p id → s'.obj? id = s.obj? id
  found  : ∀ {id}, s'.has id → s.has id ∨ s'.Below p id ∨ id ∈ loose

namespace Confined

variable {loose loose' : List ObjId}

theorem refl : s.Confined p [] s where
  toGrows := .refl
  spared  := fun _ _ => rfl
  found   := .inl

theorem trans (h₁ : s.Confined p [] s₁) (h₂ : s₁.Confined p [] s₂) : s.Confined p [] s₂ where
  toGrows := h₁.toGrows.trans h₂.toGrows
  spared := by
    intro id hid hb
    have hb₁ : ¬s₁.Below p id := fun h => hb (h₁.below_of_has h hid)
    exact (h₂.spared (h₁.has hid) hb₁).trans (h₁.spared hid hb)
  found := by
    intro id hid
    cases h₂.found hid
    case inr h => exact .inr h
    case inl h =>
      cases h₁.found h
      case inl h => exact .inl h
      case inr h =>
        have hb : s₁.Below p id := h.resolve_right (List.not_mem_nil)
        exact .inr (.inl (h₂.below hb))

theorem above (h : s.Confined q [] s') (hq : s.Below p q) : s.Confined p [] s' where
  toGrows := h.toGrows
  spared  := fun hid hb => h.spared hid fun hb' => hb (hq.trans hb')
  found   := fun hid => (h.found hid).imp_right (·.imp_left (h.below hq).trans)

theorem loosen (h : s.Confined p loose s') (hl : ∀ i ∈ loose, i ∈ loose') :
    s.Confined p loose' s' where
  toGrows := h.toGrows
  spared  := h.spared
  found   := fun hid => (h.found hid).imp_right (·.imp_right (hl _))

end Confined

section Push

variable {kind : WidgetKind} {parent : Option ObjId} (hp : ∀ p ∈ parent, s.has p)
include hp

theorem mem_parts_push :
    i ∈ (s.push kind parent).2.parts id ↔ i ∈ s.parts id ∨ parent = some id ∧ i = s.next := by
  have hnext : s.obj? s.next = none := by
    cases h : s.obj? s.next
    case none => rfl
    case some => exact absurd (has_of_obj? h) not_has_next
  rw [mem_parts, mem_parts, obj?_push hp]
  by_cases hid : id = s.next
  case pos =>
    have hne : parent ≠ some id := fun h => not_has_next (hid ▸ hp id h)
    simp [hid, hnext, Obj.parts, hid ▸ hne]
  case neg =>
    simp only [hid, if_false]
    cases ho : s.obj? id
    case none =>
      have hne : parent ≠ some id := fun h => by
        obtain ⟨o, ho'⟩ := has_iff_obj?.mp (hp id h)
        cases ho.symm.trans ho'
      simp [hne]
    case some o =>
      by_cases hpar : parent = some id
      case pos => simp [grown, hpar, Obj.parts]; grind
      case neg => simp [grown, hpar]

theorem obj?_push_of_ne (hid : s.has id) (hne : parent ≠ some id) :
    (s.push kind parent).2.obj? id = s.obj? id := by
  rw [obj?_push hp, if_neg (ne_next hid), grown_of_ne hne, Option.map_id']

theorem grows_push : s.Grows (s.push kind parent).2 where
  has   := has_push_of_has
  kept  := fun h => (mem_parts_push hp).mpr (.inl h)
  fresh := fun h hi => ((mem_parts_push hp).mp h).resolve_right fun hn => ne_next hi hn.2

end Push

theorem below_visit (h : s.Below p id) : (s.visit q).Below p id :=
  h.mono fun hm => by simpa [parts] using hm

theorem mem_parts_modify {f : Obj → Obj} :
    i ∈ (s.modify q f).parts id ↔
      if id = q then ∃ o, s.obj? q = some o ∧ i ∈ (f o).parts else i ∈ s.parts id := by
  rw [mem_parts, obj?_modify]
  split
  case isTrue h  => cases ho : s.obj? q <;> simp [h, ho]
  case isFalse h => exact mem_parts.symm

namespace Confined

variable {loose loose' : List ObjId} (h : s.Confined p loose s')
include h

theorem push (hq : s'.has q) (hb : s'.Below p q) (kind : WidgetKind) :
    s.Confined p loose (s'.push kind (some q)).2 := by
  have hp : ∀ i ∈ some q, s'.has i := fun i hi => Option.some.inj hi ▸ hq
  have hgrow : s'.Grows (s'.push kind (some q)).2 := grows_push hp
  refine ⟨h.toGrows.trans hgrow, ?spared, ?found⟩
  case spared =>
    intro id hid hn
    have hne : some q ≠ some id := fun he => hn (h.below_of_has (Option.some.inj he ▸ hb) hid)
    exact (obj?_push_of_ne hp (h.has hid) hne).trans (h.spared hid hn)
  case found =>
    intro id hid
    cases has_push.mp hid
    case inl hid => exact (h.found hid).imp_right (·.imp_left hgrow.below)
    case inr hid =>
      exact .inr <| .inl <| .part (hgrow.below hb) <| (mem_parts_push hp).mpr (.inr ⟨rfl, hid⟩)

theorem push_none (kind : WidgetKind) :
    s.Confined p (s'.next :: loose) (s'.push kind none).2 := by
  have hp : ∀ i ∈ (none : Option ObjId), s'.has i := nofun
  have hgrow : s'.Grows (s'.push kind none).2 := grows_push hp
  refine ⟨h.toGrows.trans hgrow, ?spared, ?found⟩
  case spared =>
    exact fun hid hn => (obj?_push_of_ne hp (h.has hid) nofun).trans (h.spared hid hn)
  case found =>
    intro id hid
    cases has_push.mp hid
    case inl hid => exact (h.found hid).imp_right (·.imp hgrow.below (.tail _))
    case inr hid => exact .inr <| .inr <| hid ▸ .head _

-- An object may get new objects as parts, and then these are no longer loose.
theorem modify {f : Obj → Obj} (hq : s.has q → s.Below p q)
    (hkept : ∀ o, s'.obj? q = some o → ∀ i ∈ o.parts, i ∈ (f o).parts)
    (hnew : ∀ o, s'.obj? q = some o → ∀ i ∈ (f o).parts, i ∈ o.parts ∨ ¬s.has i)
    (hloose : ∀ i ∈ loose, i ∈ loose' ∨
      s'.Below p q ∧ ∃ o, s'.obj? q = some o ∧ i ∈ (f o).parts) :
    s.Confined p loose' (s'.modify q f) := by
  have hparts {id i : ObjId} (hm : i ∈ s'.parts id) : i ∈ (s'.modify q f).parts id := by
    rw [mem_parts_modify]
    split
    case isFalse => exact hm
    case isTrue hid =>
      obtain ⟨o, ho, hi⟩ := mem_parts.mp (hid ▸ hm)
      exact ⟨o, ho, hkept o ho i hi⟩
  refine ⟨⟨fun hid => has_modify.trans (h.has hid), fun hm => hparts (h.kept hm), ?fresh⟩,
    ?spared, ?found⟩
  case fresh =>
    intro id i hm hi
    rw [mem_parts_modify] at hm
    split at hm
    case isFalse => exact h.fresh hm hi
    case isTrue hid =>
      obtain ⟨o, ho, hm⟩ := hm
      have hold := (hnew o ho i hm).resolve_right fun hn => hn hi
      exact h.fresh (mem_parts.mpr ⟨o, hid ▸ ho, hold⟩) hi
  case spared =>
    intro id hid hn
    have hne : id ≠ q := fun he => hn (he ▸ hq (he ▸ hid))
    exact (obj?_modify_of_ne hne).trans (h.spared hid hn)
  case found =>
    intro id hid
    refine (h.found (has_modify.symm.trans hid)).imp_right fun hid => ?_
    cases hid
    case inl hb => exact .inl (hb.mono hparts)
    case inr hl =>
      cases hloose id hl
      case inl hl => exact .inr hl
      case inr hl =>
        obtain ⟨hb, o, ho, hm⟩ := hl
        exact .inl <| .part (hb.mono hparts) <| mem_parts_modify.mpr <| by
          rw [if_pos rfl]
          exact ⟨o, ho, hm⟩

theorem edit (hq : s.has q → s.Below p q) (e : Edit) : s.Confined p loose (s'.edit q e) :=
  h.modify hq (fun _ _ _ hi => hi) (fun _ _ _ hi => .inl hi) fun _ => .inl

end Confined

section Requests

variable {o : Obj}

theorem below_next_push {kind : WidgetKind} (hq : s.has q) :
    (s.push kind (some q)).2.Below q s.next :=
  .part .self <| (mem_parts_push fun _ h => Option.some.inj h ▸ hq).mpr (.inr ⟨rfl, rfl⟩)

theorem confined_createWidget (hq : s.has q) (kind : WidgetKind) :
    s.Confined q [] (s.createWidget kind (some q)).2 := by
  have hpush : s.Confined q [] (s.push kind (some q)).2 := Confined.refl.push hq .self kind
  by_cases hk : kind = .tabview
  case neg => exact createWidget_of_ne hk ▸ hpush
  case pos =>
    subst hk
    rw [createWidget_tabview]
    have hn : ∀ i ∈ some s.next, (s.push .tabview (some q)).2.has i :=
      fun i hi => Option.some.inj hi ▸ has_next_push
    have hbar := hpush.push has_next_push (below_next_push hq) .obj
    refine hbar.modify (fun hs => absurd hs not_has_next) ?kept ?new nofun
    case kept =>
      intro o ho i hi
      rw [obj?_push_of_has hn (obj?_push_next fun _ h => Option.some.inj h ▸ hq)] at ho
      have hbar : o.tabBar = none := by rw [← Option.some.inj ho, tabBar_grown]
      rw [Obj.mem_parts] at hi ⊢
      grind
    case new =>
      intro o ho i hi
      have hnot : ¬s.has (s.push .tabview (some q)).2.next := fun hs => not_has_next (hpush.has hs)
      rw [Obj.mem_parts] at hi ⊢
      grind

theorem confined_dropdownList (ho : s.obj? q = some o) :
    s.Confined q [] (s.dropdownList q).2 := by
  refine dropdownList_cases ho .refl fun hk hl => ?_
  have hp : ∀ p ∈ (none : Option ObjId), s.has p := by simp
  have ho₁ : (s.push .obj none).2.obj? q = some o := by simp [obj?_push_of_has hp ho, grown]
  have hpush : s.Confined q [s.next] (s.push .obj none).2 := Confined.refl.push_none .obj
  refine hpush.modify (fun _ => .self) ?kept ?new ?loose
  case kept =>
    intro o' ho' i hi
    cases ho₁.symm.trans ho'
    rw [Obj.mem_parts] at hi ⊢
    grind
  case new =>
    intro o' _ i hi
    have hnot : ¬s.has s.next := not_has_next
    rw [Obj.mem_parts] at hi ⊢
    grind
  case loose =>
    intro i hi
    rw [List.mem_singleton.mp hi]
    exact .inr ⟨.self, o, ho₁, Obj.mem_parts.mpr (by simp)⟩

theorem confined_addTab (hs : s.WellTied) (ho : s.obj? q = some o) (title : String) :
    s.Confined q [] (s.addTab q title).2 := by
  have hq : s.has q := has_of_obj? ho
  rw [addTab_of_has hq]
  have hbutton : s.Confined q [s.next] (s.push .button (s.tabBar? q)).2 := by
    cases hb : s.tabBar? q
    case none   => exact Confined.refl.push_none .button
    case some b =>
      have hpart : b ∈ s.parts q :=
        mem_parts.mpr ⟨o, ho, Obj.mem_parts.mpr <| .inr <| .inl <| by simpa [tabBar?, ho] using hb⟩
      exact (Confined.refl.push (hs.has_of_tabBar b hb) (.part .self hpart) .button).loosen
        (List.forall_mem_nil _)
  have htitle : s.Confined q [s.next] (s.withButton q title) :=
    hbutton.edit (fun h => absurd h not_has_next) _
  have htab : s.Confined q [s.next] (s.withTab q title) :=
    htitle.push (has_withButton hq) .self .obj
  obtain ⟨o₁, ho₁⟩ := has_iff_obj?.mp (htab.has hq)
  refine htab.modify (fun _ => .self) ?kept ?new ?loose
  case kept =>
    intro o' _ i hi
    rw [Obj.mem_parts] at hi ⊢
    grind
  case new =>
    intro o' _ i hi
    have hbutton : ¬s.has s.next := not_has_next
    have hpage : ¬s.has ⟨s.size + 1⟩ := by simp [has_iff]
    rw [Obj.mem_parts] at hi ⊢
    grind
  case loose =>
    intro i hi
    rw [List.mem_singleton.mp hi]
    exact .inr ⟨.self, o₁, ho₁, Obj.mem_parts.mpr (by simp)⟩

theorem Confined.of_objects (he : s'.objects = s.objects) : s.Confined q [] s' := by
  have hobj : s'.obj? = s.obj? := by
    funext i
    simp [obj?, he]
  have hhas : s'.has = s.has := by
    funext i
    simp [has, show s'.size = s.size from congrArg Array.size he]
  have hparts : s'.parts = s.parts := by
    funext i
    rw [parts, parts, hobj]
  exact ⟨⟨fun h => hhas ▸ h, fun h => hparts ▸ h, fun h _ => hparts ▸ h⟩,
    fun _ _ => congrFun hobj _, fun h => .inl (hhas ▸ h)⟩

theorem WellTied.confined_run (h : s.WellTied) (hq : s.has q) {r : Request} (hr : r.named = [q]) :
    s.Confined q [] (r.run s) := by
  obtain ⟨o, ho⟩ := has_iff_obj?.mp hq
  cases r
  case createWidget kind parent =>
    cases parent <;> cases hr
    exact confined_createWidget hq kind
  case edit id e       => cases hr; exact Confined.refl.edit (fun _ => .self) e
  case look id         => exact .of_objects objects_visit
  case dropdownList id => cases hr; exact confined_dropdownList ho
  case addTab id title => cases hr; exact confined_addTab h ho title
  case addHeader id    => cases hr; exact Confined.refl.push hq .self .obj
  all_goals cases hr

end Requests

theorem WellTied.has_of_mem_parts (h : s.WellTied) (hi : i ∈ s.parts id) : s.has i := by
  obtain ⟨o, ho, hi⟩ := mem_parts.mp hi
  have ht := h.tied ho
  rcases Obj.mem_parts.mp hi with hc | hb | hp | hb | hl
  · exact ((h.children ho).mp hc).has
  · exact (ht.bar i hb).has
  · exact (ht.pages i hp).has
  · exact (ht.buttons i hb).has
  · obtain ⟨o', ho', -⟩ := (ht.list i hl).2
    exact has_of_obj? ho'

theorem WellTied.has_of_below (h : s.WellTied) (hp : s.has p) (hb : s.Below p id) : s.has id := by
  cases hb
  case self       => exact hp
  case part _ hm  => exact h.has_of_mem_parts hm

-- Scenes as an application can have them: from the empty one by requests to existing objects and by
-- events.
inductive Arises : Scene → Prop
  | empty : Arises .empty
  | request {s : Scene} : Arises s → (r : Request) → r.Admissible s → Arises (r.run s)
  | event {s : Scene} : Arises s → (id : ObjId) → (code : EventCode) → Arises (s.send id code).2

theorem objects_run {target : ObjId} {code : EventCode} (a : Action) :
    (Scene.run target code s a).2.objects = s.objects := by
  cases a <;> rfl

theorem objects_runAll {target : ObjId} {code : EventCode} {actions : List Action}
    {calls : List Call} :
    (actions.foldl (fun (calls, s) a =>
      let (more, s) := Scene.run target code s a
      (calls ++ more, s)) (calls, s)).2.objects = s.objects := by
  induction actions generalizing calls s
  case nil               => rfl
  case cons a actions hi => exact hi.trans (objects_run a)

theorem objects_send (code : EventCode) : (s.send id code).2.objects = s.objects :=
  objects_runAll

theorem Arises.wellTied (h : s.Arises) : s.WellTied := by
  induction h
  case empty              => exact wellTied_empty
  case request r hr hi    => exact hi.run hr
  case event id code hi   => exact hi.of_objects (objects_send code)

end Scene

end UiMarkup
