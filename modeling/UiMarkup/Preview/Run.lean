import UiMarkup.Loader
import UiMarkup.Preview.Command
import UiMarkup.Scene.Tree

namespace UiMarkup.Preview

inductive Failure
  | unreadable (path : String)
  | globals (path : String) (cause : LoadError)
  | component (name path : String) (cause : LoadError)
  | screenWithoutName
  | screen (path : String) (cause : LoadError)
  | notCreated (cause : LoadError)
deriving DecidableEq, Repr, Inhabited

namespace Failure

def message : Failure → String
  | .unreadable path         => "failed to read " ++ path
  | .globals path _          => "failed to load " ++ path
  | .component name path _   => s!"failed to register component `{name}` from {path}"
  | .screenWithoutName       => "screen path has no file name"
  | .screen path _           => "failed to load screen " ++ path
  | .notCreated cause        => cause.message

def cause? : Failure → Option LoadError
  | .globals _ cause | .component _ _ cause | .screen _ cause => some cause
  | _ => none

end Failure

-- The last name of a path, less its extension. A name that only begins with a dot has none.
def stem? (path : String) : Option String :=
  let names := (Text.split '/' path).filter fun n => !n.isEmpty && n != "."
  match names.getLast? with
  | none | some ".." => none
  | some name =>
    match Text.cutLast? '.' name with
    | some (stem, _) => some (if stem.isEmpty then name else stem)
    | none           => some name

structure Session where
  loader : Loader           := {}
  scene  : Scene            := {}
  log    : Array Diagnostic := #[]

abbrev Steps := ExceptT Failure (StateM Session)

def perform {α : Type} (op : Loader → Scene → Outcome (Except LoadError α))
    (failure : LoadError → Failure) : Steps α := do
  let s ← get
  let o := op s.loader s.scene
  set { loader := o.loader, scene := o.scene, log := s.log ++ o.log : Session }
  match o.result with
  | .ok a        => return a
  | .error cause => throw (failure cause)

def load (files : String → Option String) (path : String) : Steps String :=
  match files path with
  | some text => return text
  | none      => throw (.unreadable path)

def build (files : String → Option String) (job : Job) : Steps ObjId := do
  let text ← load files job.globals
  perform (·.loadGlobals · text) (.globals job.globals)
  for (name, path) in job.components do
    let text ← load files path
    let _ ← perform (·.registerComponent · name text) (.component name path)
  let some name := stem? job.screen | throw .screenWithoutName
  let text ← load files job.screen
  let _ ← perform (·.registerComponent · name text) (.screen job.screen)
  perform (·.createScreen · name) .notCreated

def callbacks : Assoc String CallbackId :=
  [("on_click", ⟨0⟩), ("on_change", ⟨1⟩)]

def Session.begin (job : Job) : Session :=
  let loader : Loader := { setup := { config := { assetRoot := job.assets } } }
  let registry := callbacks.foldl (fun r (name, id) =>
    (r.register .callback none name id).toOption.getD r) loader.registry
  { loader := { loader with registry } }

def run (files : String → Option String) (job : Job) : Except Failure String × Array Diagnostic :=
  let (result, s) := (build files job).run (.begin job)
  (result.map fun _ => s.scene.dump, s.log)

end UiMarkup.Preview
