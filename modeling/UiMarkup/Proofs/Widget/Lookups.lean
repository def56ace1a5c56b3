import UiMarkup.Proofs.Widget.Unsupported

namespace UiMarkup

inductive Reference
  | entry (kind : EntryKind)
  | style
  | timeline
  | flag
  | state
deriving DecidableEq, Repr

-- There is nothing of that name.
def Reference.Dangles (env : Env) (name : String) : Reference → Prop
  | entry kind => env.registry.lookup? kind (some env.scope) name = none
  | style      => (env.findStyle name).value = none
  | timeline   => (Modifier.timeline env name).value = none
  | flag       => ObjFlags.ofName? name = none
  | state      => States.ofName? name = none

instance {env : Env} {name : String} {ref : Reference} : Decidable (ref.Dangles env name) :=
  match ref with
  | .entry _  => inferInstanceAs (Decidable (_ = none))
  | .style    => inferInstanceAs (Decidable (_ = none))
  | .timeline => inferInstanceAs (Decidable (_ = none))
  | .flag     => inferInstanceAs (Decidable (_ = none))
  | .state    => inferInstanceAs (Decidable (_ = none))

def StyleProp.asset? (p : StyleProp) : Option EntryKind :=
  match p.kind with
  | .font     => some .font
  | .image    => some .image
  | .gradient => some .gradient
  | _         => none

namespace Processor

def sharedReferences : Assoc String Reference := [
  ("subject",  .entry .subject),
  ("src",      .entry .image),
  ("symbol",   .entry .image),
  ("callback", .entry .callback),
  ("timeline", .timeline)]

-- Removing a style is not listed: without a name it removes every style, so its name is no
-- reference that may be left out.
def ownReferences : Processor → Assoc String Reference
  | modifier .style         => [("name", .style)]
  | modifier .bindStyle     => [("name", .style)]
  | modifier (.bindFlag _)  => [("flag", .flag)]
  | modifier (.bindState _) => [("state", .state)]
  | scaleSection            =>
    [("style_main", .style), ("style_indicator", .style), ("style_items", .style)]
  | span                    => [("style", .style)]
  | _                       => []

def reference? (p : Processor) (name : String) : Option Reference :=
  (Assoc.get? (p.ownReferences ++ sharedReferences) name).or <|
    match Text.after? "style_" name with
    | some key =>
      (StyleProp.ofName? (Reading.styleSelector key).1).bind fun q => q.asset?.map .entry
    | none =>
      -- The format of a bound text is no reference.
      if Text.begins "bind_" name ∧ name ≠ "bind_text-fmt" then some (.entry .subject) else none

def plain (p : Processor) (name : String) : Bool :=
  (p.reference? name).isNone && name != "styles"

def Dangles (p : Processor) (env : Env) (a : String × String) : Prop :=
  ∃ ref, p.reference? a.1 = some ref ∧ ref.Dangles env a.2

end Processor

def Attrs.Lacks (env : Env) (attrs : Attrs) (name : String) (ref : Reference) : Prop :=
  ∀ text ∈ attrs.get? name, ref.Dangles env text

variable {env : Env} {ref : Reference} {name text : String}

theorem Registry.value_styleValue?_of_asset {r : Registry} {p : StyleProp} {kind : EntryKind}
    {scope : ScopeId} (hp : p.asset? = some kind) (h : r.lookup? kind (some scope) text = none) :
    (r.styleValue? scope p text).value = none := by
  unfold StyleProp.asset? at hp
  unfold styleValue?
  split at hp
  all_goals cases hp
  all_goals simp [*, value_find?]

theorem Env.value_bind_of_none (h : env.subject? name = none) (binding : Binding) (site : String) :
    (env.bind name binding site).value = [] := by
  rw [bind, h]
  rfl

theorem Env.value_addStyle_of_none (h : (env.findStyle name).value = none) (selector : Selector) :
    (env.addStyle name selector).value = [] := by
  simp [addStyle, h]

namespace ObjAttr

theorem edits_of_style {key : String} (h : Text.after? "style_" name = some key) :
    edits env name text = env.localStyle key text := by
  have hprops : ∀ e ∈ props, Text.after? "style_" e.1 = none := by decide +kernel
  have hne {other : String} (hother : Text.after? "style_" other = none) : other ≠ name :=
    fun he => by cases (he ▸ hother).symm.trans h
  have hget : Assoc.get? props name = none := Assoc.get?_of_forall_ne fun e he => hne (hprops e he)
  have hstyles : name ≠ "styles" := (hne (by decide +kernel)).symm
  have hchecked : name ≠ "bind_checked" := (hne (by decide +kernel)).symm
  simp [edits, hget, hstyles, hchecked, h]

theorem accepts_of_begins_bind (h : Text.begins "bind_" name)
    (hstyle : Text.after? "style_" name = none) (hchecked : name ≠ "bind_checked") :
    accepts name = false := by
  have hne {other : String} (hother : Text.begins "bind_" other = false) : other ≠ name :=
    fun he => Bool.false_ne_true (hother.symm.trans (he ▸ h))
  have hprops : ∀ e ∈ props, Text.begins "bind_" e.1 = false := by decide +kernel
  have hflags : ∀ flag ∈ ObjFlags.names, Text.begins "bind_" flag = false := by decide +kernel
  have hstates : ∀ e ∈ States.names, Text.begins "bind_" e.1 = false := by decide +kernel
  have hprop : Assoc.get? props name = none :=
    Assoc.get?_of_forall_ne fun e he => hne (hprops e he)
  have hstate : Assoc.get? States.names name = none :=
    Assoc.get?_of_forall_ne fun e he => hne (hstates e he)
  have hflag : ObjFlags.names.idxOf? name = none :=
    List.idxOf?_eq_none_iff.mpr fun hm => hne (hflags name hm) rfl
  have hstyles : name ≠ "styles" := (hne (by decide +kernel)).symm
  simp [accepts, Assoc.contains, hprop, hstyles, hchecked, Text.begins, hstyle, switch?,
    ObjFlags.ofName?, hflag, States.single?, States.ofName?, hstate]

-- Elements that take these attributes have no references of their own.
theorem value_edits_of_dangles {p : Processor} (hp : p.ownReferences = [])
    (h : p.Dangles env (name, text)) : (edits env name text).value = [] := by
  obtain ⟨ref, href, hd⟩ := h
  rw [Processor.reference?, hp, List.nil_append] at href
  have hskip (hnot : accepts name = false) : (edits env name text).value = [] := by
    rw [edits_of_not_accepts hnot]
    rfl
  obtain hshared | ⟨-, hrest⟩ := Option.or_eq_some_iff.mp href
  · have hnot : ∀ e ∈ Processor.sharedReferences, accepts e.1 = false := by decide +kernel
    exact hskip (hnot _ (Assoc.mem_of_get? hshared))
  · split at hrest
    case h_1 key hkey =>
      obtain ⟨q, hq, hasset⟩ := Option.bind_eq_some_iff.mp hrest
      obtain ⟨kind, hkind, rfl⟩ := Option.map_eq_some_iff.mp hasset
      have hvalue : (env.registry.styleValue? env.scope q text).value = none :=
        Registry.value_styleValue?_of_asset hkind hd
      rw [edits_of_style hkey, Env.localStyle]
      simp [StyleProp.targets?_of_ofName? hq, Noted.value_collect, hvalue]
    case h_2 hstyle =>
      obtain ⟨⟨hbind, -⟩, hsubject⟩ := Option.ite_none_right_eq_some.mp hrest
      cases hsubject
      by_cases hchecked : name = "bind_checked"
      case pos => rw [hchecked]; exact Env.value_bind_of_none hd _ _
      case neg => exact hskip (accepts_of_begins_bind hbind hstyle hchecked)

end ObjAttr

namespace Rule

def reference? : Rule → Option Reference
  | image _ => some (.entry .image)
  | bind .. => some (.entry .subject)
  | _       => none

theorem reference?_ofKind (kind : WidgetKind) :
    ∀ e ∈ ofKind kind, (Processor.widget kind).reference? e.1 = e.2.reference? := by
  cases kind <;> decide +kernel

theorem plain_of_mem_ofKindLast (kind : WidgetKind) :
    ∀ e ∈ ofKindLast kind, (Processor.widget kind).plain e.1 := by
  cases kind <;> decide +kernel

theorem get?_ofKind_styles (kind : WidgetKind) : Assoc.get? (ofKind kind) "styles" = none := by
  cases kind <;> rfl

theorem plain_of_mem_companion (kind : WidgetKind) (name : String)
    (h : (name, companion) ∈ ofKind kind) : (Processor.widget kind).plain name := by
  have href : (Processor.widget kind).reference? name = none := reference?_ofKind kind _ h
  have hstyles : name ≠ "styles" := by
    rintro rfl
    have hkey : Assoc.contains (ofKind kind) "styles" := Assoc.contains_of_mem h
    simp [Assoc.contains, get?_ofKind_styles] at hkey
  simp [Processor.plain, href, hstyles]

theorem value_edits_of_dangles {rule : Rule} (href : rule.reference? = some ref)
    (h : ref.Dangles env text) (attrs : Attrs) : (rule.edits env attrs text).value = [] := by
  cases rule
  case image wrap =>
    cases href
    have hnone : (env.findImage text).value = none := (Registry.value_find? ..).trans h
    simp [edits, hnone]
  case bind binding site =>
    cases href
    exact Env.value_bind_of_none h _ _
  all_goals cases href

end Rule

namespace Modifier

def references : Modifier → Assoc String Reference
  | style         => [("name", .style)]
  | removeStyle   => []
  | removeStyles  => []
  | callback      => [("callback", .entry .callback)]
  | toggle        => [("subject", .entry .subject)]
  | assign _      => [("subject", .entry .subject)]
  | increment     => [("subject", .entry .subject)]
  | bindStyle     => [("subject", .entry .subject), ("name", .style)]
  | loadScreen    => []
  | playTimeline  => [("timeline", .timeline)]
  | bindFlag _    => [("subject", .entry .subject), ("flag", .flag)]
  | bindState _   => [("subject", .entry .subject), ("state", .state)]

theorem mem_references (m : Modifier) :
    ∀ name ∈ m.attrNames, ∀ ref ∈ (Processor.modifier m).reference? name,
      (name, ref) ∈ m.references := by
  cases m
  case assign kind    => cases kind <;> decide +kernel
  case bindFlag cond  => cases cond <;> decide +kernel
  case bindState cond => cases cond <;> decide +kernel
  all_goals decide +kernel

theorem styles_not_mem_attrNames (m : Modifier) : "styles" ∉ m.attrNames := by
  cases m <;> simp [attrNames]

variable {m : Modifier} {attrs : Attrs}

theorem value_subject :
    (subject env attrs m).value = (attrs.get? "subject").bind env.subject? := by
  unfold subject
  cases attrs.get? "subject"
  case none => rfl
  case some name =>
    dsimp only [Option.bind_some]
    cases env.subject? name <;> rfl

theorem value_subject_of_lacks (h : attrs.Lacks env "subject" (.entry .subject)) :
    (subject env attrs m).value = none := by
  rw [value_subject]
  exact Option.bind_eq_none_iff.mpr h

theorem value_compare_of_lacks (h : attrs.Lacks env "subject" (.entry .subject))
    (binding : SubjectValue → Binding) : (compare env attrs m binding).value = [] := by
  simp [compare, value_subject_of_lacks h]

theorem value_hook_of_none (h : (action env attrs m).value = none) :
    (hook env attrs m).value = [] := by
  simp [hook, h]

theorem value_action_of_lacks {name : String} {ref : Reference} (hmem : (name, ref) ∈ m.references)
    (h : attrs.Lacks env name ref) : (action env attrs m).value = none := by
  cases m
  case callback =>
    obtain ⟨rfl, rfl⟩ : name = "callback" ∧ ref = .entry .callback := by
      simpa [references] using hmem
    unfold action
    cases hname : attrs.get? "callback"
    case none => rfl
    case some callback =>
      have hnone := (Registry.value_find? ..).trans (h callback hname)
      simp [hnone]
  case playTimeline =>
    obtain ⟨rfl, rfl⟩ : name = "timeline" ∧ ref = .timeline := by simpa [references] using hmem
    unfold action
    cases hname : attrs.get? "timeline"
    case none => rfl
    case some name =>
      have hnone : (timeline env name).value = none := h name hname
      simp [hnone]
  case toggle | assign | increment =>
    obtain ⟨rfl, rfl⟩ : name = "subject" ∧ ref = .entry .subject := by
      simpa [references] using hmem
    simp [action, value_subject_of_lacks h]
  case loadScreen => cases hmem
  all_goals rfl

theorem value_edits_of_lacks {name : String} {ref : Reference} (hmem : (name, ref) ∈ m.references)
    (h : attrs.Lacks env name ref) : (m.edits env attrs).value = [] := by
  cases m
  case style =>
    obtain ⟨rfl, rfl⟩ : name = "name" ∧ ref = .style := by simpa [references] using hmem
    unfold edits
    cases hname : attrs.get? "name"
    case none      => rfl
    case some name => exact Env.value_addStyle_of_none (h name hname) _
  case bindStyle =>
    simp only [references, List.mem_cons, Prod.mk.injEq, List.not_mem_nil, or_false] at hmem
    change (styleBinding env attrs).value = []
    unfold styleBinding
    obtain ⟨rfl, rfl⟩ | ⟨rfl, rfl⟩ := hmem
    case inl => simp [value_subject_of_lacks h]
    case inr =>
      rw [Noted.value_bind]
      split
      case h_1 => rfl
      case h_2 =>
        cases hname : attrs.get? "name"
        case none => rfl
        case some name =>
          have hnone : (env.findStyle name).value = none := h name hname
          simp [hnone]
  case bindFlag cond =>
    simp only [references, List.mem_cons, Prod.mk.injEq, List.not_mem_nil, or_false] at hmem
    unfold edits
    obtain ⟨rfl, rfl⟩ | ⟨rfl, rfl⟩ := hmem
    case inl =>
      cases hflag : (attrs.get? "flag").bind ObjFlags.ofName?
      case none   => rfl
      case some _ => exact value_compare_of_lacks h _
    case inr =>
      have hnone : (attrs.get? "flag").bind ObjFlags.ofName? = none := Option.bind_eq_none_iff.mpr h
      simp [hnone]
  case bindState cond =>
    simp only [references, List.mem_cons, Prod.mk.injEq, List.not_mem_nil, or_false] at hmem
    unfold edits
    obtain ⟨rfl, rfl⟩ | ⟨rfl, rfl⟩ := hmem
    case inl =>
      cases hstate : (attrs.get? "state").bind States.ofName?
      case none   => rfl
      case some _ => exact value_compare_of_lacks h _
    case inr =>
      have hnone : (attrs.get? "state").bind States.ofName? = none := Option.bind_eq_none_iff.mpr h
      simp [hnone]
  case removeStyle | removeStyles | loadScreen => cases hmem
  all_goals exact value_hook_of_none (value_action_of_lacks hmem h)

end Modifier

end UiMarkup
