import UiMarkup.Build.View

namespace UiMarkup

theorem Noted.collect_congr {α β : Type} {f g : α → Noted (List β)} {as : List α}
    (h : ∀ a ∈ as, f a = g a) : collect f as = collect g as := by
  induction as
  case nil          => rfl
  case cons a as hi => rw [collect, collect, h a (by simp), hi fun a ha => h a (by simp [ha])]

theorem Noted.collect_eq_nil {α β : Type} {f : α → Noted (List β)} {as : List α}
    (h : ∀ a, f a = pure []) : collect f as = pure [] := by
  induction as
  case nil          => rfl
  case cons a as hi => rw [collect, h, hi]; rfl

theorem Assoc.contains_of_mem {κ α : Type} [DecidableEq κ] {t : Assoc κ α} {e : κ × α}
    (h : e ∈ t) : t.contains e.1 := by
  induction t
  case nil => exact absurd h List.not_mem_nil
  case cons e' t hi =>
    by_cases hkey : e'.1 = e.1
    case pos => simp [contains, get?, hkey]
    case neg =>
      obtain rfl | ht := List.mem_cons.mp h
      · exact absurd rfl hkey
      · simpa [contains, get?, hkey] using hi ht

namespace Attrs

def only (attrs : Attrs) (p : String → Bool) : Attrs :=
  attrs.filter (p ·.1)

theorem only_cons_of_pos {p : String → Bool} {a : String × String} {attrs : Attrs} (h : p a.1) :
    only (a :: attrs) p = a :: only attrs p :=
  List.filter_cons_of_pos h

theorem only_cons_of_neg {p : String → Bool} {a : String × String} {attrs : Attrs}
    (h : p a.1 = false) : only (a :: attrs) p = only attrs p :=
  List.filter_cons_of_neg (by rw [h]; decide)

theorem collect_only {β : Type} {f g : String × String → Noted (List β)} {p : String → Bool}
    (h : ∀ a, p a.1 → f a = g a) (hskip : ∀ a, p a.1 = false → g a = pure []) (attrs : Attrs) :
    Noted.collect f (attrs.only p) = Noted.collect g attrs := by
  induction attrs
  case nil => rfl
  case cons a attrs hi =>
    cases ha : p a.1
    case true  => rw [only_cons_of_pos ha, Noted.collect, Noted.collect, hi, h a ha]
    case false =>
      rw [only_cons_of_neg ha, Noted.collect, hskip a ha, hi]
      simp

-- A reader by name that asks for such names only cannot tell the two lists apart.
def SameOn (p : String → Bool) (attrs attrs' : Attrs) : Prop :=
  ∀ name, p name → attrs.get? name = attrs'.get? name

theorem sameOn_only (p : String → Bool) (attrs : Attrs) : SameOn p (attrs.only p) attrs := by
  intro name hname
  induction attrs
  case nil => rfl
  case cons a attrs hi =>
    cases ha : p a.1
    case true =>
      rw [only_cons_of_pos ha]
      exact congrArg (fun rest => if a.1 = name then some a.2 else rest) hi
    case false =>
      have hne : a.1 ≠ name := fun he => Bool.false_ne_true (ha.symm.trans (he ▸ hname))
      rw [only_cons_of_neg ha]
      exact hi.trans (if_neg hne).symm

namespace SameOn

variable {p : String → Bool} {attrs attrs' : Attrs} (h : SameOn p attrs attrs') (name : String)
  (hname : p name)
include h hname

theorem getText : attrs.getText name = attrs'.getText name := by
  rw [Attrs.getText, Attrs.getText, h name hname]

theorem intAttr (absent : Int) :
    Reading.intAttr attrs name absent = Reading.intAttr attrs' name absent := by
  rw [Reading.intAttr, Reading.intAttr, h name hname]

theorem boolAttr : Reading.boolAttr attrs name = Reading.boolAttr attrs' name := by
  rw [Reading.boolAttr, Reading.boolAttr, h name hname]

end SameOn

end Attrs

open Attrs (SameOn)

theorem ObjAttr.edits_of_not_accepts {name : String} (h : accepts name = false) (env : Env)
    (text : String) : edits env name text = pure [] := by
  simp only [accepts, Bool.or_eq_false_iff, beq_eq_false_iff_ne, Assoc.contains,
    Option.isSome_eq_false_iff, Option.isNone_iff_eq_none, Text.begins] at h
  obtain ⟨⟨⟨⟨hprops, hstyles⟩, hchecked⟩, hstyle⟩, hswitch⟩ := h
  simp only [edits, hprops, hstyles, hchecked, hstyle, hswitch, if_false]

-- The other attributes that a rule reads are as `p` has it.
def Rule.Reads (p : String → Bool) : Rule → Prop
  | prop read      => ∀ attrs attrs', SameOn p attrs attrs' → read attrs = read attrs'
  | bind binding _ => ∀ attrs attrs', SameOn p attrs attrs' → binding attrs = binding attrs'
  | _              => True

theorem Rule.reads_animated {p : String → Bool} {companion : String} (h : p companion)
    (wrap : Int → Bool → ObjProp) : (animated wrap companion).Reads p := by
  intro attrs attrs' hsame
  funext s
  exact congrArg (wrap (Reading.int s) <$> ·) (hsame.boolAttr _ h)

theorem Rule.edits_congr {p : String → Bool} {rule : Rule} (h : rule.Reads p) {attrs attrs' : Attrs}
    (hsame : SameOn p attrs attrs') (env : Env) (text : String) :
    rule.edits env attrs text = rule.edits env attrs' text := by
  cases rule
  case prop read    => rw [edits, edits, h _ _ hsame]
  case bind binding => rw [edits, edits, h _ _ hsame]
  all_goals rfl

theorem Rule.reads_ofRange {p : String → Bool} (hvalue : p "value-animated")
    (hstart : p "start_value-animated") (what : String) : ∀ e ∈ ofRange what, e.2.Reads p := by
  simp only [ofRange, List.forall_mem_cons]
  refine ⟨reads_animated hvalue _, trivial, reads_animated hstart _, ?_⟩
  simp [int, token, bindValue, Reads]

theorem Rule.reads_ofKind {p : String → Bool} (kind : WidgetKind)
    (h : ∀ name, (name, companion) ∈ ofKind kind → p name) : ∀ e ∈ ofKind kind, e.2.Reads p := by
  cases kind
  case bar =>
    exact reads_ofRange (h _ (by simp [ofKind, ofRange])) (h _ (by simp [ofKind, ofRange])) _
  case slider =>
    exact reads_ofRange (h _ (by simp [ofKind, ofRange])) (h _ (by simp [ofKind, ofRange])) _
  case label =>
    simp only [ofKind, List.forall_mem_cons]
    refine ⟨fun _ _ _ => rfl, fun _ _ _ => rfl, fun attrs attrs' hsame => ?_, trivial, by simp⟩
    exact congrArg Binding.text (hsame "bind_text-fmt" (h _ (by simp [ofKind])))
  all_goals simp [ofKind, int, size, str, bool, color, token, bindValue, Reads]

theorem Rule.reads_ofKindLast {p : String → Bool} (kind : WidgetKind) :
    ∀ e ∈ ofKindLast kind, e.2.Reads p := by
  cases kind <;> simp [ofKindLast, str, token, Reads]

theorem ObjAttr.apply_only {p : String → Bool} (h : ∀ name, accepts name → p name) (env : Env)
    (attrs : Attrs) : apply env (attrs.only p) = apply env attrs := by
  refine Attrs.collect_only (fun _ _ => rfl) (fun a ha => ?_) attrs
  have hnot : accepts a.1 = false := by
    cases haccepts : accepts a.1
    case true  => exact absurd (h _ haccepts) (by rw [ha]; decide)
    case false => rfl
  exact edits_of_not_accepts hnot env a.2

theorem WidgetKind.accepts_ofKindLast (kind : WidgetKind) :
    ∀ e ∈ Rule.ofKindLast kind, kind.accepts e.1 := by
  intro e he
  have hkey : Assoc.contains (Rule.ofKindLast kind) e.1 := Assoc.contains_of_mem he
  simp [accepts, hkey]

theorem WidgetKind.accepts_of_companion (kind : WidgetKind) (name : String)
    (h : (name, Rule.companion) ∈ Rule.ofKind kind) : kind.accepts name := by
  have hkey : Assoc.contains (Rule.ofKind kind) name := Assoc.contains_of_mem h
  simp [accepts, hkey]

theorem WidgetKind.apply_accepted (kind : WidgetKind) (env : Env) (attrs : Attrs) :
    kind.apply env (attrs.only kind.accepts) = kind.apply env attrs := by
  have hsame := Attrs.sameOn_only kind.accepts attrs
  unfold apply
  rw [ObjAttr.apply_only fun name h => by simp [accepts, h]]
  refine bind_congr fun common =>
    (congrArg (· >>= _) ?own).trans (bind_congr fun own => congrArg (· >>= _) ?last)
  case own =>
    refine Attrs.collect_only (fun a _ => ?_) (fun a ha => ?_) attrs
    all_goals dsimp only
    case refine_1 =>
      split
      case h_1 rule hrule =>
        have hreads := Rule.reads_ofKind kind kind.accepts_of_companion _ (Assoc.mem_of_get? hrule)
        exact rule.edits_congr hreads hsame env a.2
      case h_2 => rfl
    case refine_2 =>
      split
      case h_1 rule hrule => simp [accepts, Assoc.contains, hrule] at ha
      case h_2            => rfl
  case last =>
    refine Noted.collect_congr fun e he => ?_
    dsimp only
    rw [hsame e.1 (accepts_ofKindLast kind e he)]
    split
    case h_1 text _ => exact e.2.edits_congr (Rule.reads_ofKindLast kind e he) hsame env text
    case h_2        => rfl

namespace Modifier

variable {m : Modifier} {attrs attrs' : Attrs} (h : SameOn (m.attrNames.contains ·) attrs attrs')
include h

theorem subject_congr (hname : m.attrNames.contains "subject") (env : Env) :
    subject env attrs m = subject env attrs' m := by
  rw [subject, subject, h "subject" hname]

theorem selector_congr (hname : m.attrNames.contains "selector") :
    selector attrs = selector attrs' := by
  rw [selector, selector, h "selector" hname]

theorem trigger_congr (hname : m.attrNames.contains "trigger") :
    trigger attrs = trigger attrs' := by
  rw [trigger, trigger, h "trigger" hname]

theorem compare_congr (hsubject : m.attrNames.contains "subject")
    (hvalue : m.attrNames.contains "ref_value") (env : Env) (binding : SubjectValue → Binding) :
    compare env attrs m binding = compare env attrs' m binding := by
  unfold compare
  rw [subject_congr h hsubject, h.getText "ref_value" hvalue]

theorem action_congr (env : Env) : action env attrs m = action env attrs' m := by
  unfold action
  cases m
  case callback     => dsimp only; rw [h "callback" rfl, h "user_data" rfl]
  case toggle       => dsimp only; rw [subject_congr h rfl]
  case assign       => dsimp only; rw [subject_congr h rfl, h.getText "value" rfl]
  case increment    =>
    dsimp only
    rw [subject_congr h rfl, h.intAttr "step" rfl, h.intAttr "min_value" rfl,
      h.intAttr "max_value" rfl, h.boolAttr "rollover" rfl]
  case loadScreen   =>
    dsimp only
    rw [h "screen" rfl, h "anim_type" rfl, h.intAttr "duration" rfl, h.intAttr "delay" rfl]
  case playTimeline =>
    dsimp only
    rw [h "timeline" rfl, h.intAttr "delay" rfl, h.boolAttr "reverse" rfl]
  all_goals rfl

theorem hook_congr (htrigger : m.attrNames.contains "trigger") (env : Env) :
    hook env attrs m = hook env attrs' m := by
  unfold hook
  rw [action_congr h, trigger_congr h htrigger]

theorem edits_congr (env : Env) : edits env attrs m = edits env attrs' m := by
  unfold edits
  cases m
  case style        => dsimp only; rw [h "name" rfl, selector_congr h rfl]
  case removeStyle  => dsimp only [removal]; rw [h "name" rfl, selector_congr h rfl]
  case removeStyles => rfl
  case bindStyle    =>
    dsimp only [styleBinding]
    rw [subject_congr h rfl, h "name" rfl, h.getText "ref_value" rfl, selector_congr h rfl]
  case bindFlag     => dsimp only; rw [h "flag" rfl]; simp only [compare_congr h rfl rfl]
  case bindState    => dsimp only; rw [h "state" rfl]; simp only [compare_congr h rfl rfl]
  all_goals exact hook_congr h rfl env

theorem refusal?_congr : refusal? attrs m = refusal? attrs' m := by
  unfold refusal?
  cases m
  case bindFlag  => dsimp only; rw [h "flag" rfl]
  case bindState => dsimp only; rw [h "state" rfl]
  all_goals rfl

end Modifier

namespace Processor

theorem create_accepted (p : Processor) (env : Env) (parent : Option ObjId) (attrs : Attrs)
    (s : Scene) : p.create env parent (attrs.only p.accepts) s = p.create env parent attrs s := by
  have h := Attrs.sameOn_only p.accepts attrs
  unfold create
  cases p
  case tab        => dsimp only; rw [h.getText "text" (by simp [accepts])]
  case tabButton  => dsimp only [makeTabButton]; rw [h.intAttr "index" (by simp [accepts])]
  case imageSlice => dsimp only [makeImageSlice]; rw [h "state" rfl, h "src" rfl]
  case custom kind => cases kind <;> rfl
  all_goals rfl

theorem columnEdits_congr {attrs attrs' : Attrs} (h : SameOn tableColumn.accepts attrs attrs') :
    columnEdits attrs = columnEdits attrs' := by
  unfold columnEdits tableIndex
  rw [h "width" rfl, h.intAttr "column" rfl]

theorem cellEdits_accepted (attrs : Attrs) :
    cellEdits (attrs.only tableCell.accepts) = cellEdits attrs := by
  have h := Attrs.sameOn_only tableCell.accepts attrs
  refine Attrs.collect_only (fun a _ => ?_) (fun a ha => ?_) attrs
  case refine_1 =>
    unfold tableIndex
    rw [h.intAttr "row" rfl, h.intAttr "column" rfl]
  case refine_2 =>
    dsimp only
    split
    case h_1 hname => simp [accepts, hname] at ha
    case h_2 hname => simp [accepts, hname] at ha
    case h_3       => rfl

theorem sectionEdits_accepted (env : Env) (attrs : Attrs) (id : SectionId) :
    sectionEdits env (attrs.only scaleSection.accepts) id = sectionEdits env attrs id := by
  refine Attrs.collect_only (fun a _ => rfl) (fun a ha => ?_) attrs
  dsimp only
  split
  case h_8 => rfl
  all_goals simp_all [accepts]

theorem spanEdits_accepted (env : Env) (attrs : Attrs) (id : SpanId) :
    spanEdits env (attrs.only span.accepts) id = spanEdits env attrs id := by
  have h := Attrs.sameOn_only span.accepts attrs
  refine Attrs.collect_only (fun a _ => ?_) (fun a ha => ?_) attrs
  case refine_1 => rw [h "bind_text-fmt" rfl]
  case refine_2 =>
    dsimp only
    split
    case h_4 => rfl
    all_goals simp_all [accepts]

theorem apply_accepted (p : Processor) (env : Env) (parent : Option ObjId) (item : Option Item)
    (attrs : Attrs) :
    p.apply env parent item (attrs.only p.accepts) = p.apply env parent item attrs := by
  have h := Attrs.sameOn_only p.accepts attrs
  have hobj (hall : ∀ name, ObjAttr.accepts name → p.accepts name) :
      ObjAttr.apply env (attrs.only p.accepts) = ObjAttr.apply env attrs :=
    ObjAttr.apply_only hall env attrs
  unfold apply
  cases p
  case widget kind  => exact congrArg (onto _) (kind.apply_accepted env attrs)
  case tableColumn  => exact congrArg (onto _ <| pure ·) (columnEdits_congr h)
  case tableCell    => exact congrArg (onto _) (cellEdits_accepted attrs)
  case scaleSection => dsimp only; simp only [sectionEdits_accepted]
  case span         => dsimp only; simp only [spanEdits_accepted]
  case imageSlice   => rfl
  case modifier m   => dsimp only; rw [Modifier.edits_congr h, Modifier.refusal?_congr h]
  all_goals exact congrArg (onto _) (hobj fun name hname => by simp [accepts, hname])

end Processor

namespace Build

theorem make_accepted (b : Build) (p : Processor) (attrs : Attrs) :
    b.make p (attrs.only p.accepts) = b.make p attrs := by
  rw [make, make, p.create_accepted]

theorem apply_accepted (b : Build) (p : Processor) (attrs : Attrs) :
    b.apply p (attrs.only p.accepts) = b.apply p attrs := by
  rw [apply, apply, p.apply_accepted]

theorem reportUnsupported_accepted (b : Build) (tag : String) (p : Processor) (attrs : Attrs) :
    b.reportUnsupported tag p (attrs.only p.accepts) = b := by
  have hnone : (attrs.only p.accepts).filter (!p.accepts ·.1) = [] := by
    rw [Attrs.only, List.filter_filter]
    simp
  rw [reportUnsupported, hnone]
  simp [noteAll]

-- Making and applying do not see the attributes that the processor of a tag rejects, in whatever
-- state they run; what such attributes add to an element is a report of each, in order.
theorem unsupported_inert {setup : Setup} {tag : String} {p : Processor}
    (h : setup.widgets.get? tag = some p) (attrs : Attrs) :
    let accepted := attrs.only p.accepts
    let reports := (attrs.filter (!p.accepts ·.1)).map fun a => Diagnostic.unsupportedAttribute a.1 tag
    (∀ b : Build, b.make p accepted = b.make p attrs) ∧
    (∀ b : Build, b.apply p accepted = b.apply p attrs) ∧
    ∀ inst (b : Build), createElement setup inst b tag attrs =
      match createElement setup inst b tag accepted with
      | (none, b)      => (none, b)
      | (some item, b) => (some item, b.noteAll reports) := by
  refine ⟨fun b => b.make_accepted p attrs, fun b => b.apply_accepted p attrs, fun inst b => ?_⟩
  unfold createElement
  simp only [h, make_accepted, apply_accepted, reportUnsupported_accepted]
  split
  case h_1 => rfl
  case h_2 => rfl

theorem unsupported_inert_button :
    let attrs : Attrs := [("width", "10"), ("bogus", "1"), ("x", "2"), ("bogus", "3")]
    let element := createElement {} (instance? {}) {} "button" attrs
    let accepted := createElement {} (instance? {}) {} "button" [("width", "10"), ("x", "2")]
    element.1 = some (.obj ⟨0⟩) ∧ element.2.scene.objects = accepted.2.scene.objects ∧
    element.2.log.toList =
      [.unsupportedAttribute "bogus" "button", .unsupportedAttribute "bogus" "button"] := by
  have hbutton : ({} : Setup).widgets.get? "button" = some (.widget .button) := by decide +kernel
  intro attrs element accepted
  have h : element = _ := (unsupported_inert hbutton attrs).2.2 (instance? {}) {}
  rw [h]
  decide +kernel

end Build

end UiMarkup
