import UiMarkup.Reading
import UiMarkup.Registry.Scope
import UiMarkup.Style.Basic

namespace UiMarkup

structure StyleEntry where
  name     : String
  longName : String
  scope    : ScopeId
  style    : Style
deriving DecidableEq, Repr, Inhabited

structure Registry where
  scopes : Array Scope      := #[{ name := "globals" }]
  styles : Array StyleEntry := #[]
  -- The styles that were to be changed although there were none of that number.
  strays : List StyleId     := []
deriving DecidableEq, Repr

namespace Registry

def empty : Registry := {}

instance : Inhabited Registry := ⟨empty⟩

def scope? (r : Registry) (id : ScopeId) : Option Scope :=
  r.scopes[id.index]?

def scopeByName? (r : Registry) (name : String) : Option ScopeId :=
  (r.scopes.findIdx? (·.name == name)).map ScopeId.mk

def ensureScope (r : Registry) (name : String) : ScopeId × Registry :=
  match r.scopeByName? name with
  | some id => (id, r)
  | none    => (⟨r.scopes.size⟩, { r with scopes := r.scopes.push { name } })

def scopeName (r : Registry) (id : ScopeId) : String :=
  ((r.scope? id).map (·.name)).getD "?"

def component? (r : Registry) (id : ScopeId) : Option Component :=
  (r.scope? id).bind (·.component)

def componentScope? (r : Registry) (name : String) : Option ScopeId :=
  (r.scopeByName? name).filter fun id => (r.component? id).isSome

def params (r : Registry) (id : ScopeId) : Assoc String (Option String) :=
  ((r.scope? id).map (·.params)).getD []

def modifyScope (r : Registry) (id : ScopeId) (f : Scope → Scope) : Except RegistryError Registry :=
  if id.index < r.scopes.size then .ok { r with scopes := r.scopes.modify id.index f }
  else .error (.unknownScope id)

def register (r : Registry) (kind : EntryKind) (scope : Option ScopeId) (name : String)
    (value : kind.Value) : Except RegistryError Registry :=
  r.modifyScope (scope.getD .globals) (·.set kind name value)

def registerParam (r : Registry) (scope : ScopeId) (name : String) (default : Option String) :
    Except RegistryError Registry :=
  r.modifyScope scope fun s => { s with params := s.params.set name default }

def setComponent (r : Registry) (scope : ScopeId) (c : Component) : Except RegistryError Registry :=
  r.modifyScope scope fun s => { s with component := some c }

def entry? (r : Registry) (kind : EntryKind) (scope : ScopeId) (name : String) :
    Option kind.Value :=
  (r.scope? scope).bind (·.get? kind name)

-- The entry in a scope, or else in the global one.
def lookup? (r : Registry) (kind : EntryKind) (scope : Option ScopeId) (name : String) :
    Option kind.Value :=
  (r.entry? kind (scope.getD .globals) name).or (r.entry? kind .globals name)

-- A constant. The name `scope.const` is searched in that scope only.
def const? (r : Registry) (scope : Option ScopeId) (name : String) : Noted (Option String) :=
  match Text.cutLast? '.' name with
  | none => pure (r.lookup? .const scope name)
  | some (qualifier, bare) =>
    match r.scopeByName? qualifier with
    | some id => pure (r.entry? .const id bare)
    | none    => .because none (.unknownConstScope qualifier bare)

theorem value_const? (r : Registry) (given : Option ScopeId) (name : String) :
    (r.const? given name).value = match Text.cutLast? '.' name with
      | none                   => r.lookup? .const given name
      | some (qualifier, bare) => (r.scopeByName? qualifier).bind (r.entry? .const · bare) := by
  unfold const?
  cases Text.cutLast? '.' name
  case none => rfl
  case some q =>
    dsimp only
    cases r.scopeByName? q.1 <;> rfl

-- A value in which `#` refers to a constant. A text that names no constant but a colour stands
-- for itself, and so does any text without the mark.
def resolve? (r : Registry) (scope : ScopeId) (value : String) : Noted (Option String) :=
  match Text.after? "#" value with
  | none => pure (some value)
  | some name => do
    match ← r.const? (some scope) name with
    | some c => return some c
    | none =>
      if Reading.isColorLiteral value then return some value
      else .because none (.unresolved .const name)

def find? (r : Registry) (kind : EntryKind) (scope : ScopeId) (name : String) :
    Noted (Option kind.Value) :=
  match r.lookup? kind (some scope) name with
  | some v => pure (some v)
  | none   => .because none (.unresolved kind name)

theorem value_find? (r : Registry) (kind : EntryKind) (scope : ScopeId) (name : String) :
    (r.find? kind scope name).value = r.lookup? kind (some scope) name := by
  unfold find?
  cases r.lookup? kind (some scope) name <;> rfl

end Registry

end UiMarkup
