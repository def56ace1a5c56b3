import UiMarkup.Style.Basic
import UiMarkup.Subject
import UiMarkup.Vocabulary.Event
import UiMarkup.Vocabulary.Widget

namespace UiMarkup

inductive WidgetKind
  | obj | button | label | image | arc | bar | slider | checkbox | switch | textarea | dropdown
  | spinner | spinbox | canvas | calendar | tabview | table | scale | spangroup | imagebutton
  | qrcode
deriving DecidableEq, Repr, Inhabited

instance : Vocabulary WidgetKind where
  title := "widget"
  values := [.obj, .button, .label, .image, .arc, .bar, .slider, .checkbox, .switch, .textarea,
    .dropdown, .spinner, .spinbox, .canvas, .calendar, .tabview, .table, .scale, .spangroup,
    .imagebutton, .qrcode]
  token
    | .obj         => "obj"
    | .button      => "button"
    | .label       => "label"
    | .image       => "image"
    | .arc         => "arc"
    | .bar         => "bar"
    | .slider      => "slider"
    | .checkbox    => "checkbox"
    | .switch      => "switch"
    | .textarea    => "textarea"
    | .dropdown    => "dropdown"
    | .spinner     => "spinner"
    | .spinbox     => "spinbox"
    | .canvas      => "canvas"
    | .calendar    => "calendar"
    | .tabview     => "tabview"
    | .table       => "table"
    | .scale       => "scale"
    | .spangroup   => "spangroup"
    | .imagebutton => "imagebutton"
    | .qrcode      => "qrcode"

-- A setting of an object. Numbers are handed on as they were read.
inductive ObjProp
  | name (name : String)
  | x (c : Coord)
  | y (c : Coord)
  | width (c : Coord)
  | height (c : Coord)
  | align (a : Align)
  | value (value : Int) (animated : Bool)
  | startValue (value : Int) (animated : Bool)
  | minValue (n : Int)
  | maxValue (n : Int)
  | orientation (o : Orientation)
  | rotation (n : Int)
  | text (s : String)
  | longMode (m : LongMode)
  | src (i : ImageSource)
  | imageScale (n : Int)
  | pivotX (c : Coord)
  | pivotY (c : Coord)
  | startAngle (n : Int)
  | endAngle (n : Int)
  | bgStartAngle (n : Int)
  | bgEndAngle (n : Int)
  | arcMode (m : ArcMode)
  | barMode (m : BarMode)
  | placeholderText (s : String)
  | oneLine (b : Bool)
  | passwordMode (b : Bool)
  | maxLength (n : Int)
  | acceptedChars (s : String)
  | options (s : String)
  | selected (n : Int)
  | symbol (i : ImageSource)
  | animDuration (n : Int)
  | arcSweep (n : Int)
  | rollover (b : Bool)
  | digitCount (n : Int)
  | decPointPos (n : Int)
  | step (n : Int)
  | todayYear (n : Int)
  | todayMonth (n : Int)
  | todayDay (n : Int)
  | shownYear (n : Int)
  | shownMonth (n : Int)
  | active (n : Int)
  | tabBarPosition (d : Direction)
  | tabBarSize (c : Coord)
  | columnCount (n : Int)
  | rowCount (n : Int)
  | scaleMode (m : ScaleMode)
  | totalTickCount (n : Int)
  | majorTickEvery (n : Int)
  | labelShow (b : Bool)
  | postDraw (b : Bool)
  | drawTicksOnTop (b : Bool)
  | angleRange (n : Int)
  | overflow (o : SpanOverflow)
  | maxLines (n : Int)
  | indent (n : Int)
  | imageButtonState (s : ImageButtonState)
  | qrSize (n : Int)
  | darkColor (c : Color)
  | lightColor (c : Color)
  | qrData (s : String)
deriving DecidableEq, Repr, Inhabited

inductive SectionProp
  | minValue (n : Int)
  | maxValue (n : Int)
  | styleMain (id : StyleId)
  | styleIndicator (id : StyleId)
  | styleItems (id : StyleId)
deriving DecidableEq, Repr, Inhabited

inductive SpanProp
  | text (s : String)
  | style (id : StyleId)
deriving DecidableEq, Repr, Inhabited

inductive CellProp
  | value (s : String)
  | controls (c : CellControls)
deriving DecidableEq, Repr, Inhabited

inductive ImageSlice
  | left | mid | right
deriving DecidableEq, Repr, Inhabited

instance : Vocabulary ImageSlice where
  title := "image slice"
  values := [.left, .mid, .right]
  token
    | .left  => "left"
    | .mid   => "mid"
    | .right => "right"

inductive Comparison
  | eq | notEq | gt | ge | lt | le
deriving DecidableEq, Repr, Inhabited

instance : Vocabulary Comparison where
  title := "comparison"
  values := [.eq, .notEq, .gt, .ge, .lt, .le]
  token
    | .eq    => "eq"
    | .notEq => "not_eq"
    | .gt    => "gt"
    | .ge    => "ge"
    | .lt    => "lt"
    | .le    => "le"

inductive Binding
  | checked
  | value
  | text (format : Option String)
  | flag (flag : ObjFlags) (cond : Comparison) (reference : SubjectValue)
  | state (state : States) (cond : Comparison) (reference : SubjectValue)
  | style (style : StyleId) (selector : Selector) (reference : SubjectValue)
  | sectionMin (id : SectionId)
  | sectionMax (id : SectionId)
  | spanText (id : SpanId) (format : Option String)
deriving DecidableEq, Repr, Inhabited

inductive Action
  | call (callback : CallbackId) (userData : Option String)
  | toggle (subject : SubjectId)
  | assign (subject : SubjectId) (value : SubjectValue)
  | increment (subject : SubjectId) (step min max : Int) (rollover : Bool)
  | loadScreen (screen : String) (transition : ScreenTransition) (duration delay : Int)
  | playTimeline (timeline : TimelineId) (delay : Int) (reverse : Bool)
deriving DecidableEq, Repr, Inhabited

inductive FontKind
  | bin | tinyTtf | builtin
deriving DecidableEq, Repr, Inhabited

instance : Vocabulary FontKind where
  title := "font type"
  values := [.bin, .tinyTtf, .builtin]
  token
    | .bin     => "bin"
    | .tinyTtf => "tiny_ttf"
    | .builtin => "builtin"

structure FontSource where
  kind   : FontKind
  source : String
  size   : Int
deriving DecidableEq, Repr, Inhabited

inductive TimelineStep
  | animate (target : String) (prop : StyleProp) (start stop duration delay : Int)
  | nested (target timeline : String) (delay : Int)
deriving DecidableEq, Repr, Inhabited

end UiMarkup
