import UiMarkup.Registry.Style
import UiMarkup.Scene.Basic

namespace UiMarkup

structure Env where
  registry    : Registry
  scope       : ScopeId
  subjectKind : SubjectId → Option SubjectKind

abbrev Edits := Noted (List Edit)

namespace Env

def subject? (env : Env) (name : String) : Option SubjectId :=
  env.registry.lookup? .subject (some env.scope) name

def findStyle (env : Env) (name : String) : Noted (Option StyleId) :=
  env.registry.findStyle (some env.scope) name

def findImage (env : Env) (name : String) : Noted (Option ImageSource) :=
  env.registry.find? .image env.scope name

-- A text as a value of the subject's kind; a subject that does not exist counts as a number.
def subjectValue (env : Env) (subject : SubjectId) (text : String) : Noted SubjectValue :=
  Reading.subjectValue ((env.subjectKind subject).getD .int) text

def bind (env : Env) (name : String) (binding : Binding) (site : String) : Edits :=
  match env.subject? name with
  | some id => pure [.bind id binding]
  | none    => .because [] (.unknownSubject name site)

def addStyle (env : Env) (name : String) (selector : Selector) : Edits := do
  match ← env.findStyle name with
  | none => return []
  | some id =>
    match env.registry.style? id with
    | some entry => return [.addStyle id entry.style selector]
    | none       => return []

-- Sets the local style that a key names, a property followed by a selector.
def localStyle (env : Env) (key text : String) : Edits := do
  let (name, selector) := Reading.styleSelector key
  match StyleProp.targets? name with
  | none => .because [] (.unsupportedStyleProp name)
  | some props =>
    Noted.collect (fun p => do
      match ← env.registry.styleValue? env.scope p text with
      | some v => return [.localStyle p v selector]
      | none   => return []) props

end Env

end UiMarkup
