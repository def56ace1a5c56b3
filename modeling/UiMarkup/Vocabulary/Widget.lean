import UiMarkup.Vocabulary.Basic

namespace UiMarkup

inductive BarMode
  | normal | symmetrical | range
deriving DecidableEq, Repr, Inhabited

instance : Vocabulary BarMode where
  title := "bar mode"
  values := [.normal, .symmetrical, .range]
  token
    | .normal      => "normal"
    | .symmetrical => "symmetrical"
    | .range       => "range"

inductive ArcMode
  | normal | symmetrical | reverse
deriving DecidableEq, Repr, Inhabited

instance : Vocabulary ArcMode where
  title := "arc mode"
  values := [.normal, .symmetrical, .reverse]
  token
    | .normal      => "normal"
    | .symmetrical => "symmetrical"
    | .reverse     => "reverse"

inductive LongMode
  | wrap | dots | scroll | scrollCircular | clip
deriving DecidableEq, Repr, Inhabited

instance : Vocabulary LongMode where
  title := "long mode"
  values := [.wrap, .dots, .scroll, .scrollCircular, .clip]
  token
    | .wrap           => "wrap"
    | .dots           => "dots"
    | .scroll         => "scroll"
    | .scrollCircular => "scroll_circular"
    | .clip           => "clip"

inductive ScaleMode
  | horizontalTop | horizontalBottom | verticalLeft | verticalRight | roundInner | roundOuter
deriving DecidableEq, Repr, Inhabited

instance : Vocabulary ScaleMode where
  title := "scale mode"
  values := [.horizontalTop, .horizontalBottom, .verticalLeft, .verticalRight, .roundInner,
    .roundOuter]
  token
    | .horizontalTop    => "horizontal_top"
    | .horizontalBottom => "horizontal_bottom"
    | .verticalLeft     => "vertical_left"
    | .verticalRight    => "vertical_right"
    | .roundInner       => "round_inner"
    | .roundOuter       => "round_outer"

inductive SpanOverflow
  | clip | ellipsis
deriving DecidableEq, Repr, Inhabited

instance : Vocabulary SpanOverflow where
  title := "span overflow"
  values := [.clip, .ellipsis]
  token
    | .clip     => "clip"
    | .ellipsis => "ellipsis"

inductive ImageButtonState
  | released | pressed | disabled | checkedReleased | checkedPressed | checkedDisabled
deriving DecidableEq, Repr, Inhabited

instance : Vocabulary ImageButtonState where
  title := "imagebutton state"
  values := [.released, .pressed, .disabled, .checkedReleased, .checkedPressed, .checkedDisabled]
  token
    | .released        => "released"
    | .pressed         => "pressed"
    | .disabled        => "disabled"
    | .checkedReleased => "checked_released"
    | .checkedPressed  => "checked_pressed"
    | .checkedDisabled => "checked_disabled"

end UiMarkup
