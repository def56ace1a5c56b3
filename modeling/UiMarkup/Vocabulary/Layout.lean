import UiMarkup.Vocabulary.Basic

namespace UiMarkup

inductive Align
  | standard | topLeft | topMid | topRight | bottomLeft | bottomMid | bottomRight | leftMid
  | rightMid | center | outTopLeft | outTopMid | outTopRight | outBottomLeft | outBottomMid
  | outBottomRight | outLeftTop | outLeftMid | outLeftBottom | outRightTop | outRightMid
  | outRightBottom
deriving DecidableEq, Repr, Inhabited

instance : Vocabulary Align where
  title := "align"
  values := [.standard, .topLeft, .topMid, .topRight, .bottomLeft, .bottomMid, .bottomRight,
    .leftMid, .rightMid, .center, .outTopLeft, .outTopMid, .outTopRight, .outBottomLeft,
    .outBottomMid, .outBottomRight, .outLeftTop, .outLeftMid, .outLeftBottom, .outRightTop,
    .outRightMid, .outRightBottom]
  token
    | .standard       => "default"
    | .topLeft        => "top_left"
    | .topMid         => "top_mid"
    | .topRight       => "top_right"
    | .bottomLeft     => "bottom_left"
    | .bottomMid      => "bottom_mid"
    | .bottomRight    => "bottom_right"
    | .leftMid        => "left_mid"
    | .rightMid       => "right_mid"
    | .center         => "center"
    | .outTopLeft     => "out_top_left"
    | .outTopMid      => "out_top_mid"
    | .outTopRight    => "out_top_right"
    | .outBottomLeft  => "out_bottom_left"
    | .outBottomMid   => "out_bottom_mid"
    | .outBottomRight => "out_bottom_right"
    | .outLeftTop     => "out_left_top"
    | .outLeftMid     => "out_left_mid"
    | .outLeftBottom  => "out_left_bottom"
    | .outRightTop    => "out_right_top"
    | .outRightMid    => "out_right_mid"
    | .outRightBottom => "out_right_bottom"

inductive BaseDirection
  | ltr | rtl | auto
deriving DecidableEq, Repr, Inhabited

instance : Vocabulary BaseDirection where
  title := "base dir"
  values := [.ltr, .rtl, .auto]
  token
    | .ltr  => "ltr"
    | .rtl  => "rtl"
    | .auto => "auto"

inductive LayoutKind
  | none | flex | grid
deriving DecidableEq, Repr, Inhabited

instance : Vocabulary LayoutKind where
  title := "layout"
  values := [.none, .flex, .grid]
  token
    | .none => "none"
    | .flex => "flex"
    | .grid => "grid"

inductive FlexFlow
  | row | column | rowWrap | rowReverse | rowWrapReverse | columnWrap | columnReverse
  | columnWrapReverse
deriving DecidableEq, Repr, Inhabited

instance : Vocabulary FlexFlow where
  title := "flex flow"
  values := [.row, .column, .rowWrap, .rowReverse, .rowWrapReverse, .columnWrap, .columnReverse,
    .columnWrapReverse]
  token
    | .row               => "row"
    | .column            => "column"
    | .rowWrap           => "row_wrap"
    | .rowReverse        => "row_reverse"
    | .rowWrapReverse    => "row_wrap_reverse"
    | .columnWrap        => "column_wrap"
    | .columnReverse     => "column_reverse"
    | .columnWrapReverse => "column_wrap_reverse"

inductive FlexPlace
  | start | finish | center | spaceEvenly | spaceAround | spaceBetween
deriving DecidableEq, Repr, Inhabited

instance : Vocabulary FlexPlace where
  title := "flex align"
  values := [.start, .finish, .center, .spaceEvenly, .spaceAround, .spaceBetween]
  token
    | .start        => "start"
    | .finish       => "end"
    | .center       => "center"
    | .spaceEvenly  => "space_evenly"
    | .spaceAround  => "space_around"
    | .spaceBetween => "space_between"

inductive GridPlace
  | start | center | finish | stretch | spaceEvenly | spaceAround | spaceBetween
deriving DecidableEq, Repr, Inhabited

instance : Vocabulary GridPlace where
  title := "grid align"
  values := [.start, .center, .finish, .stretch, .spaceEvenly, .spaceAround, .spaceBetween]
  token
    | .start        => "start"
    | .center       => "center"
    | .finish       => "end"
    | .stretch      => "stretch"
    | .spaceEvenly  => "space_evenly"
    | .spaceAround  => "space_around"
    | .spaceBetween => "space_between"

inductive Direction
  | none | left | right | top | bottom | hor | ver | all
deriving DecidableEq, Repr, Inhabited

instance : Vocabulary Direction where
  title := "direction"
  values := [.none, .left, .right, .top, .bottom, .hor, .ver, .all]
  token
    | .none   => "none"
    | .left   => "left"
    | .right  => "right"
    | .top    => "top"
    | .bottom => "bottom"
    | .hor    => "hor"
    | .ver    => "ver"
    | .all    => "all"

inductive Orientation
  | auto | horizontal | vertical
deriving DecidableEq, Repr, Inhabited

instance : Vocabulary Orientation where
  title := "orientation"
  values := [.auto, .horizontal, .vertical]
  token
    | .auto       => "auto"
    | .horizontal => "horizontal"
    | .vertical   => "vertical"

end UiMarkup
