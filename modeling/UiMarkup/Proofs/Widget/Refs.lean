import UiMarkup.Proofs.Registry.Refs
import UiMarkup.Proofs.Widget.Reach

namespace UiMarkup

structure Env.Good (t : Stock) (env : Env) : Prop where
  registry : env.registry.Good t
  kind     : env.subjectKind = t.kind?

def Edits.Good (t : Stock) (edits : Edits) : Prop :=
  ∀ e ∈ edits.value, AllGood t e.refs

def Item.refs : Item → List Ref
  | obj _           => []
  | scaleSection id => [.scaleSection id]
  | textSpan id     => [.textSpan id]

variable {t : Stock}

theorem Ref.good_of_singleton {ref : Ref} (h : AllGood t [ref]) : ref.Good t :=
  h ref (.head _)

theorem Reading.kind_subjectValue (kind : SubjectKind) (text : String) :
    (Reading.subjectValue kind text).value.kind = kind := by
  cases kind <;> rfl

theorem ObjAttr.refs_of_switch? {name : String} {edit : Bool → Edit}
    (h : switch? name = some edit) (on : Bool) : (edit on).refs = [] := by
  cases Option.or_eq_some_iff.mp h
  case inl h =>
    obtain ⟨_, -, rfl⟩ := Option.map_eq_some_iff.mp h
    rfl
  case inr h =>
    obtain ⟨_, -, rfl⟩ := Option.map_eq_some_iff.mp h.2
    rfl

def Rule.Plain : Rule → Prop
  | bind binding _ => ∀ attrs id, (binding attrs).refs id = [.subject id]
  | _              => True

theorem Rule.plain_ofKind (kind : WidgetKind) : ∀ a ∈ ofKind kind, a.2.Plain := by
  cases kind <;> simp [ofKind, ofRange, int, size, str, bool, color, token, animated, bindValue,
    Plain, Binding.refs]

theorem Rule.plain_ofKindLast (kind : WidgetKind) : ∀ a ∈ ofKindLast kind, a.2.Plain := by
  cases kind <;> simp [ofKindLast, str, token, Plain]

namespace Edits.Good

theorem nil : Edits.Good t (pure []) :=
  List.forall_mem_nil _

theorem single {e : Edit} (h : AllGood t e.refs) : Edits.Good t (pure [e]) :=
  List.forall_mem_singleton.mpr h

theorem of_bind {α : Type} {x : Noted α} {f : α → Edits} (h : Edits.Good t (f x.value)) :
    Edits.Good t (x >>= f) :=
  h

theorem collect {α : Type} {f : α → Edits} {as : List α} (h : ∀ a ∈ as, Edits.Good t (f a)) :
    Edits.Good t (Noted.collect f as) := by
  intro e he
  rw [Noted.value_collect] at he
  obtain ⟨a, ha, he⟩ := List.mem_flatMap.mp he
  exact h a ha e he

theorem removal {env : Env} {attrs : Attrs} : Edits.Good t (Modifier.removal env attrs) := by
  unfold Modifier.removal
  split
  case h_1 => exact .single .nil
  case h_2 =>
    refine .of_bind ?_
    split
    case h_1 => exact .single .nil
    case h_2 => exact .nil

end Edits.Good

namespace Env.Good

variable {env : Env} (h : env.Good t)
include h

theorem subject? {name : String} {id : SubjectId} (hid : env.subject? name = some id) :
    AllGood t [.subject id] :=
  h.registry.lookup? .subject hid

theorem findStyle {name : String} {id : StyleId} (hid : (env.findStyle name).value = some id) :
    AllGood t [.style id] :=
  h.registry.findStyle hid

theorem subjectValue {id : SubjectId} (hid : AllGood t [.subject id]) (text : String) :
    AllGood t [.value id (env.subjectValue id text).value.kind] := by
  have ⟨kind, hkind⟩ := Option.isSome_iff_exists.mp (Ref.good_of_singleton hid)
  have hvalue : (env.subjectValue id text).value.kind = kind := by
    rw [Env.subjectValue, Reading.kind_subjectValue, h.kind, hkind]
    rfl
  exact List.forall_mem_singleton.mpr (hvalue ▸ hkind)

theorem bind (binding : Binding)
    (hb : ∀ id, AllGood t [.subject id] → AllGood t (binding.refs id)) (name site : String) :
    Edits.Good t (env.bind name binding site) := by
  unfold Env.bind
  split
  case h_1 id hid => exact .single (hb id (h.subject? hid))
  case h_2        => exact .nil

theorem addStyle (name : String) (selector : Selector) :
    Edits.Good t (env.addStyle name selector) := by
  unfold Env.addStyle
  refine .of_bind ?_
  split
  case h_1 => exact .nil
  case h_2 id hid =>
    split
    case h_1 entry hentry =>
      have hstyle := h.registry.styles id entry hentry
      exact .single ((h.findStyle hid).append hstyle)
    case h_2 => exact .nil

theorem localStyle (key text : String) : Edits.Good t (env.localStyle key text) := by
  unfold Env.localStyle
  dsimp only
  split
  case h_1 => exact .nil
  case h_2 =>
    refine .collect fun p _ => .of_bind ?_
    split
    case h_1 v hv => exact .single (h.registry.styleValue? hv)
    case h_2      => exact .nil

theorem objEdits (name text : String) : Edits.Good t (ObjAttr.edits env name text) := by
  unfold ObjAttr.edits
  split
  case h_1 => exact .single .nil
  case h_2 =>
    split
    case isTrue  => exact .collect fun w _ => h.addStyle _ _
    case isFalse =>
      split
      case isTrue  => exact h.bind .checked (fun _ => id) _ _
      case isFalse =>
        split
        case h_1 key _ => exact h.localStyle key text
        case h_2 =>
          split
          case h_1 edit hedit => exact .single (ObjAttr.refs_of_switch? hedit _ ▸ .nil)
          case h_2            => exact .nil

theorem objApply (attrs : Attrs) : Edits.Good t (ObjAttr.apply env attrs) :=
  .collect fun a _ => h.objEdits a.1 a.2

theorem ruleEdits {rule : Rule} (hr : rule.Plain) (attrs : Attrs) (text : String) :
    Edits.Good t (rule.edits env attrs text) := by
  cases rule
  case prop read         => exact .single .nil
  case companion         => exact .nil
  case bind binding site => exact h.bind (binding attrs) (fun id hid => hr attrs id ▸ hid) _ _
  case image wrap =>
    intro e he
    obtain ⟨i, -, rfl⟩ := Option.map_eq_some_iff.mp (Option.mem_toList.mp he)
    exact .nil

theorem kindApply (kind : WidgetKind) (attrs : Attrs) : Edits.Good t (kind.apply env attrs) := by
  unfold WidgetKind.apply
  refine .of_bind <| .of_bind <| .of_bind <| List.forall_mem_append.mpr
    ⟨List.forall_mem_append.mpr ⟨h.objApply attrs, Edits.Good.collect fun a _ => ?own⟩,
      Edits.Good.collect fun a ha => ?last⟩
  case own =>
    dsimp only
    split
    case h_1 rule hrule =>
      exact h.ruleEdits (Rule.plain_ofKind kind _ (Assoc.mem_of_get? hrule)) attrs _
    case h_2 => exact .nil
  case last =>
    dsimp only
    split
    case h_1 => exact h.ruleEdits (Rule.plain_ofKindLast kind a ha) attrs _
    case h_2 => exact .nil

variable {attrs : Attrs}

theorem modifierSubject {m : Modifier} {id : SubjectId}
    (hid : (Modifier.subject env attrs m).value = some id) : AllGood t [.subject id] := by
  unfold Modifier.subject at hid
  split at hid
  case h_1 => cases hid
  case h_2 =>
    split at hid
    case h_1 hs => cases hid; exact h.subject? hs
    case h_2    => cases hid

theorem modifierTimeline {name : String} {id : TimelineId}
    (hid : (Modifier.timeline env name).value = some id) : AllGood t [.timeline id] := by
  unfold Modifier.timeline at hid
  dsimp only at hid
  split at hid
  case h_2 => cases hid
  case h_1 found =>
    cases hid
    split at found
    case h_2 => exact h.registry.lookup? .timeline found
    case h_1 =>
      obtain ⟨_, -, hlook⟩ := Option.bind_eq_some_iff.mp found
      exact h.registry.lookup? .timeline hlook

theorem action {m : Modifier} {a : Action} (ha : (m.action env attrs).value = some a) :
    AllGood t a.refs := by
  unfold Modifier.action at ha
  split at ha
  case h_1 =>
    split at ha
    case h_1 => cases ha
    case h_2 =>
      rw [Noted.value_bind] at ha
      split at ha
      case h_1 => cases ha
      case h_2 => cases ha; exact .nil
  case h_2 =>
    obtain ⟨id, hid, rfl⟩ := Option.map_eq_some_iff.mp ha
    exact h.modifierSubject hid
  case h_3 =>
    rw [Noted.value_bind] at ha
    split at ha
    case h_1     => cases ha
    case h_2 hid => cases ha; exact h.modifierSubject hid
  case h_4 =>
    rw [Noted.value_bind] at ha
    split at ha
    case h_1     => cases ha
    case h_2 hid => cases ha; exact h.modifierSubject hid
  case h_5 =>
    split at ha
    case h_1 => cases ha
    case h_2 => split at ha <;> cases ha <;> exact .nil
  case h_6 =>
    split at ha
    case h_1 => cases ha
    case h_2 =>
      rw [Noted.value_bind] at ha
      split at ha
      case h_1     => cases ha
      case h_2 hid => cases ha; exact h.modifierTimeline hid
  case h_7 => cases ha

theorem hook (m : Modifier) : Edits.Good t (m.hook env attrs) := by
  unfold Modifier.hook
  refine .of_bind ?_
  split
  case h_1      => exact .nil
  case h_2 a ha => exact .single (h.action ha)

theorem compare (m : Modifier) {binding : SubjectValue → Binding}
    (hb : ∀ id v, (binding v).refs id = [.subject id, .value id v.kind]) :
    Edits.Good t (m.compare env attrs binding) := by
  unfold Modifier.compare
  refine .of_bind ?_
  split
  case h_1        => exact .nil
  case h_2 id hid =>
    have hsubject := h.modifierSubject hid
    refine .single ?_
    rw [Edit.refs, hb]
    exact hsubject.append (h.subjectValue hsubject _)

theorem styleBinding : Edits.Good t (Modifier.styleBinding env attrs) := by
  unfold Modifier.styleBinding
  refine .of_bind ?_
  split
  case h_1        => exact .nil
  case h_2 id hid =>
    have hsubject := h.modifierSubject hid
    dsimp only
    split
    case h_2 => exact .nil
    case h_1 =>
      refine .of_bind ?_
      split
      case h_1        => exact .nil
      case h_2 style hs =>
        exact .single <| (hsubject.append (h.findStyle hs)).append (h.subjectValue hsubject _)

theorem modifierEdits (m : Modifier) : Edits.Good t (m.edits env attrs) := by
  unfold Modifier.edits
  split
  case h_1 =>
    split
    case h_1 => exact .nil
    case h_2 => exact h.addStyle _ _
  case h_2 => exact .removal
  case h_3 => exact .single .nil
  case h_4 => exact h.styleBinding
  case h_5 =>
    split
    case h_1 => exact .nil
    case h_2 => exact h.compare _ fun _ _ => rfl
  case h_6 =>
    split
    case h_1 => exact .nil
    case h_2 => exact h.compare _ fun _ _ => rfl
  case h_7 => exact h.hook m

theorem styleEdit {edit : StyleId → Edit} (he : ∀ id, (edit id).refs = [.style id])
    (name : String) : Edits.Good t (Processor.styleEdit env name edit) := by
  intro e hm
  obtain ⟨id, hid, rfl⟩ := Option.map_eq_some_iff.mp (Option.mem_toList.mp hm)
  exact he id ▸ h.findStyle hid

theorem sectionEdits {id : SectionId} (hid : AllGood t [.scaleSection id]) :
    Edits.Good t (Processor.sectionEdits env attrs id) := by
  refine .collect fun a _ => ?_
  dsimp only
  split
  case h_1 => exact .single .nil
  case h_2 => exact .single .nil
  case h_3 => exact h.styleEdit (fun _ => rfl) _
  case h_4 => exact h.styleEdit (fun _ => rfl) _
  case h_5 => exact h.styleEdit (fun _ => rfl) _
  case h_6 => exact h.bind (.sectionMin id) (fun _ hs => hs.append hid) _ _
  case h_7 => exact h.bind (.sectionMax id) (fun _ hs => hs.append hid) _ _
  case h_8 => exact .nil

theorem spanEdits {id : SpanId} (hid : AllGood t [.textSpan id]) :
    Edits.Good t (Processor.spanEdits env attrs id) := by
  refine .collect fun a _ => ?_
  dsimp only
  split
  case h_1 => exact .single .nil
  case h_2 => exact h.styleEdit (fun _ => rfl) _
  case h_3 => exact h.bind (.spanText id _) (fun _ hs => hs.append hid) _ _
  case h_4 => exact .nil

end Env.Good

namespace Processor

variable {env : Env} {s : Scene} {attrs : Attrs} {parent : Option ObjId} {item : Option Item}

theorem refs_onto {target : Option ObjId} {edits : Edits} (h : Edits.Good t edits)
    {e : ObjId × Edit} (he : e ∈ (onto target edits).value) : AllGood t e.2.refs := by
  cases target
  case none   => cases he
  case some q =>
    obtain ⟨e, hm, rfl⟩ := List.mem_map.mp he
    exact h e hm

theorem good_columnEdits : Edits.Good t (pure (columnEdits attrs)) := by
  unfold columnEdits
  split
  case h_1 => exact .single .nil
  case h_2 => exact .nil

theorem good_cellEdits : Edits.Good t (cellEdits attrs) := by
  refine .collect fun a _ => ?_
  dsimp only
  split
  case h_1 => exact .single .nil
  case h_2 => exact .single .nil
  case h_3 => exact .nil

theorem refs_apply (h : env.Good t) (p : Processor) (hi : ∀ i ∈ item, AllGood t i.refs)
    {e : ObjId × Edit} (he : e ∈ (p.apply env parent item attrs).value) : AllGood t e.2.refs := by
  unfold apply at he
  dsimp only at he
  split at he
  case h_1 kind => exact refs_onto (h.kindApply kind attrs) he
  case h_8      => exact refs_onto good_columnEdits he
  case h_9      => exact refs_onto good_cellEdits he
  case h_10 =>
    split at he
    case h_1 id => exact refs_onto (h.sectionEdits (hi _ rfl)) he
    case h_2    => cases he
  case h_11 =>
    split at he
    case h_1 id => exact refs_onto (h.spanEdits (hi _ rfl)) he
    case h_2    => cases he
  case h_12 => cases he
  case h_13 m =>
    split at he
    case h_1 => exact refs_onto (h.modifierEdits m) he
    case h_2 => cases he
  all_goals exact refs_onto (h.objApply attrs) he

theorem obj?_of_makeTabButton {q : ObjId} {i : Item}
    (h : (makeTabButton attrs q s).value = some i) : i.refs = [] := by
  unfold makeTabButton at h
  split at h
  case isTrue  => cases h
  case isFalse =>
    dsimp only at h
    split at h
    case h_1 => cases h; rfl
    case h_2 =>
      obtain ⟨_, -, rfl⟩ := Option.map_eq_some_iff.mp h
      rfl

theorem refs_create (p : Processor) {q : ObjId} {i : Item} {s₁ : Scene} {o : Obj}
    (hmade : (p.create env (some q) attrs s).value = (some i, s₁)) (ho : s₁.obj? q = some o) :
    AllGood (t.inside o.toContent) i.refs := by
  have hi : (p.create env (some q) attrs s).value.1 = some i := congrArg Prod.fst hmade
  cases p
  case scaleSection =>
    cases hmade
    obtain ⟨o', ho', rfl⟩ := Scene.eq_of_obj?_modify ho
    simp [AllGood, Item.refs, Ref.Good, Stock.inside, Obj.edit, Edit.apply, ho']
  case span =>
    cases hmade
    obtain ⟨o', ho', rfl⟩ := Scene.eq_of_obj?_modify ho
    simp [AllGood, Item.refs, Ref.Good, Stock.inside, Obj.edit, Edit.apply, ho']
  case tabButton => exact obj?_of_makeTabButton hi ▸ .nil
  case dropdownList =>
    simp only [create] at hi
    split at hi
    case h_1 => cases hi; exact .nil
    case h_2 => cases hi
  case custom kind => cases kind <;> cases hi; exact .nil
  case tabBar =>
    obtain ⟨_, -, rfl⟩ := Option.map_eq_some_iff.mp hi
    exact .nil
  all_goals cases hi; exact .nil

end Processor

end UiMarkup
