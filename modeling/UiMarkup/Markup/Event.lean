import UiMarkup.Attrs

namespace UiMarkup

inductive Event
  | opening (tag : String) (attrs : Attrs)
  | closing (tag : String)
deriving DecidableEq, Repr, Inhabited

end UiMarkup
