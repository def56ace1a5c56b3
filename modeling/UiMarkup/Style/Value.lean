import UiMarkup.Coord
import UiMarkup.Handle
import UiMarkup.Paint.Gradient
import UiMarkup.Vocabulary.Flags
import UiMarkup.Vocabulary.Layout
import UiMarkup.Vocabulary.Paint

namespace UiMarkup

inductive StyleValue
  | int (n : Coord)
  | opacity (o : Opacity)
  | color (c : Color)
  | bool (b : Bool)
  | align (a : Align)
  | baseDirection (d : BaseDirection)
  | gradientDir (d : GradientDir)
  | gradient (g : Gradient)
  | textAlign (a : TextAlign)
  | textDecoration (d : TextDecoration)
  | borderSides (s : BorderSides)
  | blendMode (m : BlendMode)
  | blurQuality (q : BlurQuality)
  | layout (l : LayoutKind)
  | flexFlow (f : FlexFlow)
  | flexPlace (p : FlexPlace)
  | gridPlace (p : GridPlace)
  | font (f : FontId)
  | image (i : ImageSource)
  | gridTracks (tracks : List Coord)   -- closed by `Coord.lastTrack`
deriving DecidableEq, Repr, Inhabited

end UiMarkup
