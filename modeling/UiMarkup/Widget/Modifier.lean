import UiMarkup.Widget.Rule

namespace UiMarkup

inductive Modifier
  | style
  | removeStyle
  | removeStyles
  | callback
  | toggle
  | assign (kind : SubjectKind)
  | increment
  | bindStyle
  | loadScreen
  | playTimeline
  | bindFlag (cond : Comparison)
  | bindState (cond : Comparison)
deriving DecidableEq, Repr, Inhabited

namespace Modifier

def title : Modifier → String
  | .style        => "style"
  | .removeStyle  => "remove_style"
  | .removeStyles => "remove_style_all"
  | .callback     => "event_cb"
  | .toggle       => "subject_toggle_event"
  | .assign _     => "subject_set_event"
  | .increment    => "subject_increment_event"
  | .bindStyle    => "bind_style"
  | .loadScreen   => "screen_load_event"
  | .playTimeline => "play_timeline_event"
  | .bindFlag _   => "bind_flag"
  | .bindState _  => "bind_state"

def attrNames : Modifier → List String
  | .style        => ["name", "selector"]
  | .removeStyle  => ["name", "selector"]
  | .removeStyles => []
  | .callback     => ["callback", "trigger", "user_data"]
  | .toggle       => ["subject", "trigger"]
  | .assign _     => ["subject", "trigger", "value"]
  | .increment    => ["subject", "trigger", "step", "min_value", "max_value", "rollover"]
  | .bindStyle    => ["name", "selector", "subject", "ref_value"]
  | .loadScreen   => ["screen", "trigger", "anim_type", "duration", "delay"]
  | .playTimeline => ["timeline", "target", "trigger", "delay", "reverse"]
  | .bindFlag _   => ["subject", "flag", "ref_value"]
  | .bindState _  => ["subject", "state", "ref_value"]

def site (m : Modifier) : String :=
  "<" ++ m.title ++ ">"

def selector (attrs : Attrs) : Selector :=
  ((attrs.get? "selector").map (Reading.selector '|')).getD .default

-- The event that sets off an action: a click, unless another is given.
def trigger (attrs : Attrs) : Noted EventCode :=
  match attrs.get? "trigger" with
  | some s => Reading.token s
  | none   => pure .clicked

def subject (env : Env) (attrs : Attrs) (m : Modifier) : Noted (Option SubjectId) :=
  match attrs.get? "subject" with
  | none => .because none (.attributeMissing "subject" m.site)
  | some name =>
    match env.subject? name with
    | some id => pure (some id)
    | none    => .because none (.unknownSubject name m.site)

def timeline (env : Env) (name : String) : Noted (Option TimelineId) :=
  let found := match Text.cutLast? '.' name with
    | some (scope, bare) =>
      (env.registry.scopeByName? scope).bind fun id =>
        env.registry.lookup? .timeline (some id) bare
    | none => env.registry.lookup? .timeline (some env.scope) name
  match found with
  | some id => pure (some id)
  | none    => .because none (.unresolved .timeline name)

def action (env : Env) (attrs : Attrs) (m : Modifier) : Noted (Option Action) :=
  match m with
  | .callback =>
    match attrs.get? "callback" with
    | none => .because none (.attributeMissing "callback" m.site)
    | some name => do
      match ← env.registry.find? .callback env.scope name with
      | none    => return none
      | some id => return some (.call id (attrs.get? "user_data"))
  | .toggle => do
    let id ← subject env attrs m
    return id.map .toggle
  | .assign kind => do
    match ← subject env attrs m with
    | none => return none
    | some id =>
      let value ← Reading.subjectValue kind (attrs.getText "value")
      return some (.assign id value)
  | .increment => do
    match ← subject env attrs m with
    | none => return none
    | some id =>
      let step := Reading.intAttr attrs "step" 1
      let min := Reading.intAttr attrs "min_value" Decimal.minInt
      let max := Reading.intAttr attrs "max_value" Decimal.maxInt
      let rollover ← Reading.boolAttr attrs "rollover"
      return some (.increment id step min max rollover)
  | .loadScreen =>
    match attrs.get? "screen" with
    | none => .because none (.attributeMissing "screen" m.site)
    | some screen => do
      let transition ← match attrs.get? "anim_type" with
        | some s => Reading.token s
        | none   => pure .none
      let duration := Reading.intAttr attrs "duration" 0
      return some (.loadScreen screen transition duration (Reading.intAttr attrs "delay" 0))
  | .playTimeline =>
    match attrs.get? "timeline" with
    | none => .because none (.attributeMissing "timeline" m.site)
    | some name => do
      match ← timeline env name with
      | none => return none
      | some id =>
        let reverse ← Reading.boolAttr attrs "reverse"
        return some (.playTimeline id (Reading.intAttr attrs "delay" 0) reverse)
  | _ => pure none

def hook (env : Env) (attrs : Attrs) (m : Modifier) : Edits := do
  match ← action env attrs m with
  | none => return []
  | some a =>
    let code ← trigger attrs
    return [.hook code a]

def compare (env : Env) (attrs : Attrs) (m : Modifier) (binding : SubjectValue → Binding) :
    Edits := do
  match ← subject env attrs m with
  | none => return []
  | some id =>
    let reference ← env.subjectValue id (attrs.getText "ref_value")
    return [.bind id (binding reference)]

def styleBinding (env : Env) (attrs : Attrs) : Edits := do
  match ← subject env attrs .bindStyle with
  | none => return []
  | some id =>
    let style ← match attrs.get? "name" with
      | some name => env.findStyle name
      | none      => pure none
    match style with
    | none => .because [] .noUsableStyle
    | some style =>
      let reference ← env.subjectValue id (attrs.getText "ref_value")
      return [.bind id (.style style (selector attrs) reference)]

-- Removes the styles of a name that were added with the selector, or all of them. A name that
-- stands for no style removes nothing.
def removal (env : Env) (attrs : Attrs) : Edits :=
  match attrs.get? "name" with
  | none => pure [.removeStyle none (selector attrs)]
  | some name => do
    match ← env.findStyle name with
    | some id => return [.removeStyle (some id) (selector attrs)]
    | none    => return []

def refusal? (attrs : Attrs) : Modifier → Option Diagnostic
  | .bindFlag _ =>
    if ((attrs.get? "flag").bind ObjFlags.ofName?).isNone then some .noUsableFlag else none
  | .bindState _ =>
    if ((attrs.get? "state").bind States.ofName?).isNone then some .noUsableState else none
  | _ => none

def edits (env : Env) (attrs : Attrs) (m : Modifier) : Edits :=
  match m with
  | .style =>
    match attrs.get? "name" with
    | none      => .because [] (.attributeMissing "name" m.site)
    | some name => env.addStyle name (selector attrs)
  | .removeStyle  => removal env attrs
  | .removeStyles => pure [.removeStyles]
  | .bindStyle    => styleBinding env attrs
  | .bindFlag cond =>
    match (attrs.get? "flag").bind ObjFlags.ofName? with
    | none   => .because [] .noUsableFlag
    | some f => compare env attrs m (.flag f cond)
  | .bindState cond =>
    match (attrs.get? "state").bind States.ofName? with
    | none   => .because [] .noUsableState
    | some s => compare env attrs m (.state s cond)
  | m => hook env attrs m

end Modifier

end UiMarkup
