namespace UiMarkup

structure ObjId where
  index : Nat
deriving DecidableEq, Repr, Inhabited

structure SubjectId where
  index : Nat
deriving DecidableEq, Repr, Inhabited

structure FontId where
  index : Nat
deriving DecidableEq, Repr, Inhabited

structure TimelineId where
  index : Nat
deriving DecidableEq, Repr, Inhabited

structure StyleId where
  index : Nat
deriving DecidableEq, Repr, Inhabited

-- A section, counted within its scale.
structure SectionId where
  index : Nat
deriving DecidableEq, Repr, Inhabited

structure SpanId where
  index : Nat
deriving DecidableEq, Repr, Inhabited

structure CallbackId where
  index : Nat
deriving DecidableEq, Repr, Inhabited

structure ScopeId where
  index : Nat
deriving DecidableEq, Repr, Inhabited

namespace ScopeId

def globals : ScopeId := ⟨0⟩

def text (id : ScopeId) : String :=
  "#" ++ toString id.index

end ScopeId

inductive Item
  | obj (id : ObjId)
  | scaleSection (id : SectionId)
  | textSpan (id : SpanId)
deriving DecidableEq, Repr, Inhabited

def Item.obj? : Item → Option ObjId
  | .obj id => some id
  | _       => none

inductive ImageSource
  | path (path : String)
  | handle (handle : Nat)
deriving DecidableEq, Repr, Inhabited

end UiMarkup
