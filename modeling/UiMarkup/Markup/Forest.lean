import UiMarkup.Markup.Event

namespace UiMarkup.Markup

-- Elements side by side: the first one with its body, and the ones after it. A childless element
-- that is `brief` is written as one tag.
inductive Forest
  | empty
  | element (tag : String) (attrs : Attrs) (brief : Bool) (body rest : Forest)
deriving DecidableEq, Repr, Inhabited

namespace Forest

def events : Forest → List Event
  | empty => []
  | element tag attrs _ body rest =>
    .opening tag attrs :: (body.events ++ .closing tag :: rest.events)

def Every (P : String → Attrs → Prop) : Forest → Prop
  | empty => True
  | element tag attrs _ body rest => P tag attrs ∧ body.Every P ∧ rest.Every P

instance Every.decidable {P : String → Attrs → Prop} [∀ tag attrs, Decidable (P tag attrs)] :
    (f : Forest) → Decidable (f.Every P)
  | empty => .isTrue trivial
  | element tag attrs _ body rest =>
    have := Every.decidable (P := P) body
    have := Every.decidable (P := P) rest
    inferInstanceAs (Decidable (P tag attrs ∧ body.Every P ∧ rest.Every P))

def escape (c : Char) : List Char :=
  match c with
  | '&'  => ['&', 'a', 'm', 'p', ';']
  | '<'  => ['&', 'l', 't', ';']
  | '>'  => ['&', 'g', 't', ';']
  | '"'  => ['&', 'q', 'u', 'o', 't', ';']
  | '\'' => ['&', 'a', 'p', 'o', 's', ';']
  | c    => [c]

def writeAttr (attr : String × String) : List Char :=
  ' ' :: attr.1.toList ++ '=' :: '"' :: attr.2.toList.flatMap escape ++ ['"']

def writeTag (tag : String) (attrs : Attrs) : List Char :=
  '<' :: tag.toList ++ attrs.flatMap writeAttr

def write : Forest → List Char
  | empty => []
  | element tag attrs brief body rest =>
    writeTag tag attrs ++
    (if brief ∧ body = empty then ['/', '>']
     else '>' :: body.write ++ '<' :: '/' :: tag.toList ++ ['>']) ++
    rest.write

end Forest

end UiMarkup.Markup
