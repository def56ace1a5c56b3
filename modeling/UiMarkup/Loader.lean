import UiMarkup.Build.View
import UiMarkup.Markup.Reader

namespace UiMarkup

inductive LoadError
  | malformed (error : Markup.Error)
  | registry (error : RegistryError)
  | unknownComponent (name : String)
  | noView (name : String)
deriving DecidableEq, Repr, Inhabited

def LoadError.message : LoadError → String
  | .malformed error       => "malformed document: " ++ error.message
  | .registry error        => error.message
  | .unknownComponent name => s!"`{name}` is not a registered component"
  | .noView name           => s!"`{name}` did not produce a view"

structure Loader where
  registry : Registry := {}
  setup    : Setup    := {}

structure Outcome (α : Type) where
  result : α
  loader : Loader
  scene  : Scene
  log    : Array Diagnostic

namespace Loader

def begin (l : Loader) (scene : Scene) (doc : DocState) : Build :=
  { doc, registry := l.registry, scene }

def finish {α : Type} (l : Loader) (b : Build) (result : α) : Outcome α :=
  { result, loader := { l with registry := b.registry }, scene := b.scene, log := b.log }

def read (l : Loader) (scene : Scene) (doc : DocState) (text : String) :
    Build × Option Markup.Error :=
  let (events, error) := Markup.read text
  (events.foldl (Build.read l.setup) (l.begin scene doc), error)

def setAssetRoot (l : Loader) (root : String) : Loader :=
  { l with setup := { l.setup with config := { l.setup.config with assetRoot := some root } } }

def setWidget (l : Loader) (tag : String) (p : Processor) : Loader :=
  { l with setup := { l.setup with widgets := l.setup.widgets.set tag p } }

def loadGlobals (l : Loader) (scene : Scene) (text : String) : Outcome (Except LoadError Unit) :=
  match l.read scene (.begin .globals none) text with
  | (b, some error) => l.finish b (.error (.malformed error))
  | (b, none)       => l.finish (b.note .globalsLoaded) (.ok ())

def componentOf? : List Event → Option Component
  | .opening tag attrs :: events =>
    some { base := (attrs.get? "extends").getD "obj", view := .opening tag attrs :: events }
  | _ => none

-- The component that was recorded. Without a view it is an object that nothing is in.
def recorded (b : Build) (name : String) : Component × Build :=
  match componentOf? (b.doc.recording.getD #[]).toList with
  | some c => (c, b)
  | none   => ({ base := "obj", view := [] }, b.note (.componentWithoutView name))

-- Reads a document into the scope of a component and records its view. Registering a name again
-- replaces the view and extends the scope.
def registerComponent (l : Loader) (scene : Scene) (name text : String) :
    Outcome (Except LoadError ScopeId) :=
  let (scope, registry) := l.registry.ensureScope name
  let doc := { DocState.begin scope none with recording := some #[] }
  match { l with registry }.read scene doc text with
  | (b, some error) => l.finish b (.error (.malformed error))
  | (b, none) =>
    let (c, b) := recorded b name
    match b.registry.setComponent scope c with
    | .error error => l.finish b (.error (.registry error))
    | .ok registry =>
      l.finish ({ b with registry }.note (.componentRegistered name scope)) (.ok scope)

def create (l : Loader) (scene : Scene) (parent : Option ObjId) (tag : String) (attrs : Attrs) :
    Outcome (Option Item) :=
  let b := l.begin scene (.begin .globals parent)
  let (attrs, b) := b.take (b.resolveAttrs attrs)
  match b.create l.setup tag attrs with
  | (some item, b) => l.finish b (some item)
  | (none, b)      => l.finish (b.note (.createFailed tag)) none

def createScreen (l : Loader) (scene : Scene) (name : String) : Outcome (Except LoadError ObjId) :=
  let b := l.begin scene (.begin .globals none)
  match l.registry.componentScope? name with
  | none => l.finish b (.error (.unknownComponent name))
  | some scope =>
    match Build.instance? l.setup b scope [] with
    | (some root, b) => l.finish b (.ok root)
    | (none, b)      => l.finish b (.error (.noView name))

def loadView (l : Loader) (scene : Scene) (parent : Option ObjId) (text : String) :
    Outcome (Except LoadError (Option ObjId)) :=
  match l.read scene (.begin .globals parent) text with
  | (b, some error) => l.finish b (.error (.malformed error))
  | (b, none)       => l.finish b (.ok b.doc.view)

end Loader

end UiMarkup
