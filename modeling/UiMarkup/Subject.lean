import UiMarkup.Numeric.Binary32
import UiMarkup.Paint.Color

namespace UiMarkup

inductive SubjectKind
  | int | float | str | color
deriving DecidableEq, Repr, Inhabited

inductive SubjectValue
  | int (n : Int)
  | float (x : Binary32)
  | str (s : String)
  | color (c : Color)
deriving DecidableEq, Repr, Inhabited

def SubjectValue.kind : SubjectValue → SubjectKind
  | .int _   => .int
  | .float _ => .float
  | .str _   => .str
  | .color _ => .color

end UiMarkup
