import UiMarkup.Vocabulary.Basic

namespace UiMarkup

-- What can trigger a hook; `all` stands for every event.
inductive EventCode
  | all | pressed | pressing | pressLost | shortClicked | singleClicked | doubleClicked
  | tripleClicked | longPressed | longPressedRepeat | clicked | released | scrollBegin
  | scrollEnd | scroll | gesture | key | rotary | focused | defocused | leave | hoverOver
  | hoverLeave | valueChanged | insert | refresh | ready | cancel | screenUnloadStart
  | screenLoadStart | screenLoaded | screenUnloaded | sizeChanged | styleChanged
deriving DecidableEq, Repr, Inhabited

instance : Vocabulary EventCode where
  title := "event"
  values := [.all, .pressed, .pressing, .pressLost, .shortClicked, .singleClicked, .doubleClicked,
    .tripleClicked, .longPressed, .longPressedRepeat, .clicked, .released, .scrollBegin,
    .scrollEnd, .scroll, .gesture, .key, .rotary, .focused, .defocused, .leave, .hoverOver,
    .hoverLeave, .valueChanged, .insert, .refresh, .ready, .cancel, .screenUnloadStart,
    .screenLoadStart, .screenLoaded, .screenUnloaded, .sizeChanged, .styleChanged]
  token
    | .all               => "all"
    | .pressed           => "pressed"
    | .pressing          => "pressing"
    | .pressLost         => "press_lost"
    | .shortClicked      => "short_clicked"
    | .singleClicked     => "single_clicked"
    | .doubleClicked     => "double_clicked"
    | .tripleClicked     => "triple_clicked"
    | .longPressed       => "long_pressed"
    | .longPressedRepeat => "long_pressed_repeat"
    | .clicked           => "clicked"
    | .released          => "released"
    | .scrollBegin       => "scroll_begin"
    | .scrollEnd         => "scroll_end"
    | .scroll            => "scroll"
    | .gesture           => "gesture"
    | .key               => "key"
    | .rotary            => "rotary"
    | .focused           => "focused"
    | .defocused         => "defocused"
    | .leave             => "leave"
    | .hoverOver         => "hover_over"
    | .hoverLeave        => "hover_leave"
    | .valueChanged      => "value_changed"
    | .insert            => "insert"
    | .refresh           => "refresh"
    | .ready             => "ready"
    | .cancel            => "cancel"
    | .screenUnloadStart => "screen_unload_start"
    | .screenLoadStart   => "screen_load_start"
    | .screenLoaded      => "screen_loaded"
    | .screenUnloaded    => "screen_unloaded"
    | .sizeChanged       => "size_changed"
    | .styleChanged      => "style_changed"

inductive ScreenTransition
  | none | overLeft | overRight | overTop | overBottom | moveLeft | moveRight | moveTop
  | moveBottom | fadeIn | fadeOut | outLeft | outRight | outTop | outBottom
deriving DecidableEq, Repr, Inhabited

instance : Vocabulary ScreenTransition where
  title := "screen load animation"
  values := [.none, .overLeft, .overRight, .overTop, .overBottom, .moveLeft, .moveRight, .moveTop,
    .moveBottom, .fadeIn, .fadeOut, .outLeft, .outRight, .outTop, .outBottom]
  token
    | .none       => "none"
    | .overLeft   => "over_left"
    | .overRight  => "over_right"
    | .overTop    => "over_top"
    | .overBottom => "over_bottom"
    | .moveLeft   => "move_left"
    | .moveRight  => "move_right"
    | .moveTop    => "move_top"
    | .moveBottom => "move_bottom"
    | .fadeIn     => "fade_in"
    | .fadeOut    => "fade_out"
    | .outLeft    => "out_left"
    | .outRight   => "out_right"
    | .outTop     => "out_top"
    | .outBottom  => "out_bottom"

end UiMarkup
