import UiMarkup.Scene.Basic

namespace UiMarkup.Scene

def children (s : Scene) (id : ObjId) : List ObjId :=
  ((s.obj? id).map (·.children)).getD []

-- The objects at and below `id` in pre-order, with their depths. Children are younger than their
-- parents, so only younger ones are followed.
def listing (s : Scene) (depth : Nat) (id : ObjId) : List (Nat × ObjId) :=
  (depth, id) :: (s.children id).flatMap fun child =>
    if id.index < child.index ∧ child.index < s.size then s.listing (depth + 1) child else []
termination_by s.size - id.index

def name? (s : Scene) (id : ObjId) : Option String :=
  (s.obj? id).bind (·.name?)

def find? (s : Scene) (root : ObjId) (name : String) : Option ObjId :=
  ((s.listing 0 root).map Prod.snd).find? fun id => s.name? id == some name

-- One line for an object: its kind, its name, and how many styles and bindings it has.
def line (o : Obj) : String :=
  Vocabulary.label o.kind ++
  (match o.name? with
   | some n => " \"" ++ n ++ "\""
   | none   => "") ++
  (if o.styles.isEmpty then "" else " styles=" ++ toString o.styles.length) ++
  (if o.bindings.isEmpty then "" else " bindings=" ++ toString o.bindings.length)

def dump (s : Scene) : String :=
  .join ((s.roots.flatMap (s.listing 0)).map entry)
where
  entry (place : Nat × ObjId) : String :=
    match s.obj? place.2 with
    | some o => .ofList (List.replicate (2 * place.1) ' ') ++ line o ++ "\n"
    | none   => ""

end UiMarkup.Scene
