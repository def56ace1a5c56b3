import UiMarkup.Coord
import UiMarkup.Paint.Color
import UiMarkup.Vocabulary.Paint

namespace UiMarkup

abbrev Point := Coord × Coord

inductive GradientExtend
  | pad | repeat | reflect
deriving DecidableEq, Repr, Inhabited

instance : Vocabulary GradientExtend where
  title := "gradient extend"
  values := [.pad, .repeat, .reflect]
  token
    | .pad     => "pad"
    | .repeat  => "repeat"
    | .reflect => "reflect"

structure GradientStop where
  color    : Color   := .black
  opacity  : Opacity := .cover
  position : UInt8   := 0
deriving DecidableEq, Repr, Inhabited

inductive GradientGeometry
  | simple
  | linear (start stop : Point)
  | radial (center : Point) (radius : Int)
  | conical (center : Point) (startAngle endAngle : Coord)
deriving DecidableEq, Repr, Inhabited

structure Gradient where
  dir      : GradientDir         := .none
  geometry : GradientGeometry    := .simple
  spread   : GradientExtend      := .pad
  stops    : List GradientStop   := []
deriving DecidableEq, Repr, Inhabited

namespace Gradient

def addStop (g : Gradient) (s : GradientStop) : Gradient :=
  { g with stops := g.stops ++ [s] }

def isDrawable (g : Gradient) : Bool :=
  2 ≤ g.stops.length

end Gradient

end UiMarkup
