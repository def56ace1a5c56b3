import UiMarkup.Assoc

namespace UiMarkup

abbrev Attrs := Assoc String String

namespace Attrs

def get? (attrs : Attrs) (name : String) : Option String :=
  Assoc.get? attrs name

def contains (attrs : Attrs) (name : String) : Bool :=
  Assoc.contains attrs name

-- Appends an attribute, whether or not the name occurs already.
def push (attrs : Attrs) (name value : String) : Attrs :=
  attrs ++ [(name, value)]

def set (attrs : Attrs) (name value : String) : Attrs :=
  Assoc.set attrs name value

def getText (attrs : Attrs) (name : String) : String :=
  (attrs.get? name).getD ""

end Attrs

end UiMarkup
