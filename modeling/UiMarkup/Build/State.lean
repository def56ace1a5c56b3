import UiMarkup.Build.Block
import UiMarkup.Registry.Basic
import UiMarkup.Widget.Table

namespace UiMarkup

inductive Pending
  | gradient (name : String) (gradient : Gradient)
  | timeline (id : TimelineId)
  | custom                                            -- left to the application
deriving DecidableEq, Repr, Inhabited

structure DocState where
  scope     : ScopeId               := .globals
  block     : Block                 := .none
  -- The objects that new ones are placed in, innermost first.
  parents   : List ObjId            := []
  -- For each open element of a view, innermost first, whether it became a parent.
  frames    : List Bool             := []
  depth     : Nat                   := 0
  item      : Option Item           := none
  -- The object that the view made.
  view      : Option ObjId          := none
  pending   : Option Pending        := none
  arguments : Option Attrs          := none
  -- The boundaries of the view so far, when it is recorded instead of built.
  recording : Option (Array Event)  := none
deriving Repr, Inhabited

namespace DocState

def parent? (d : DocState) : Option ObjId :=
  d.parents.head?

def begin (scope : ScopeId) (parent : Option ObjId) : DocState :=
  { scope, parents := parent.toList }

def openFrame (d : DocState) (made : Option ObjId) : DocState :=
  { d with parents := made.toList ++ d.parents, frames := made.isSome :: d.frames }

def closeFrame (d : DocState) : DocState :=
  match d.frames with
  | []              => d
  | true :: frames  => { d with parents := d.parents.tail, frames }
  | false :: frames => { d with frames }

end DocState

structure Config where
  assetRoot : Option String := none
  -- How deep elements may be nested in a view, and instances in each other.
  maxDepth  : Nat           := 64
deriving DecidableEq, Repr, Inhabited

namespace Config

-- The path of an asset. Absolute are paths that begin with a slash or have a colon as their
-- second byte.
def assetPath (c : Config) (path : String) : String :=
  match c.assetRoot with
  | none => path
  | some root => if isAbsolute path.toList then path else root ++ path
where
  isAbsolute : List Char → Bool
    | '/' :: _      => true
    | c :: ':' :: _ => c.utf8Size == 1
    | _             => false

end Config

structure Setup where
  widgets : WidgetTable := .builtin
  config  : Config      := {}

structure Build where
  doc      : DocState         := {}
  registry : Registry         := {}
  scene    : Scene            := {}
  log      : Array Diagnostic := #[]

namespace Build

def note (b : Build) (d : Diagnostic) : Build :=
  { b with log := b.log.push d }

def noteAll (b : Build) (ds : List Diagnostic) : Build :=
  { b with log := b.log.appendList ds }

def take {α : Type} (b : Build) (n : Noted α) : α × Build :=
  (n.value, b.noteAll n.notes)

def modifyDoc (b : Build) (f : DocState → DocState) : Build :=
  { b with doc := f b.doc }

def keep (b : Build) (refused : RegistryError → Diagnostic) :
    Except RegistryError Registry → Build
  | .ok registry => { b with registry }
  | .error e     => b.note (refused e)

def env (b : Build) : Env where
  registry    := b.registry
  scope       := b.doc.scope
  subjectKind := b.scene.subjectKind?

end Build

end UiMarkup
