import UiMarkup.Vocabulary.Basic

namespace UiMarkup

inductive TextAlign
  | auto | left | center | right
deriving DecidableEq, Repr, Inhabited

instance : Vocabulary TextAlign where
  title := "text align"
  values := [.auto, .left, .center, .right]
  token
    | .auto   => "auto"
    | .left   => "left"
    | .center => "center"
    | .right  => "right"

inductive TextDecoration
  | none | underline | strikethrough
deriving DecidableEq, Repr, Inhabited

instance : Vocabulary TextDecoration where
  title := "text decor"
  values := [.none, .underline, .strikethrough]
  token
    | .none          => "none"
    | .underline     => "underline"
    | .strikethrough => "strikethrough"

inductive BlendMode
  | normal | additive | subtractive | multiply | difference
deriving DecidableEq, Repr, Inhabited

instance : Vocabulary BlendMode where
  title := "blend mode"
  values := [.normal, .additive, .subtractive, .multiply, .difference]
  token
    | .normal      => "normal"
    | .additive    => "additive"
    | .subtractive => "subtractive"
    | .multiply    => "multiply"
    | .difference  => "difference"

inductive GradientDir
  | none | ver | hor | linear | radial | conical
deriving DecidableEq, Repr, Inhabited

instance : Vocabulary GradientDir where
  title := "gradient direction"
  values := [.none, .ver, .hor, .linear, .radial, .conical]
  token
    | .none    => "none"
    | .ver     => "ver"
    | .hor     => "hor"
    | .linear  => "linear"
    | .radial  => "radial"
    | .conical => "conical"

inductive BlurQuality
  | auto | speed | precision
deriving DecidableEq, Repr, Inhabited

instance : Vocabulary BlurQuality where
  title := "blur quality"
  values := [.auto, .speed, .precision]
  token
    | .auto      => "auto"
    | .speed     => "speed"
    | .precision => "precision"

end UiMarkup
