import UiMarkup.Scene.Property

namespace UiMarkup

structure Links where
  parent     : Option ObjId := none
  children   : List ObjId   := []
  tabBar     : Option ObjId := none
  tabs       : List ObjId   := []
  tabButtons : List ObjId   := []
  list       : Option ObjId := none
deriving DecidableEq, Repr, Inhabited

-- What was set on an object, each kind of setting in the order in which it was made.
structure Content where
  props        : List ObjProp                                               := []
  flags        : ObjFlags                                                   := .none
  states       : States                                                     := .none
  styles       : List (StyleId × Style × Selector)                          := []
  localStyles  : Assoc (StyleProp × Selector) StyleValue                    := []
  bindings     : List (SubjectId × Binding)                                 := []
  hooks        : List (EventCode × Action)                                  := []
  sections     : List (List SectionProp)                                    := []
  spans        : List (List SpanProp)                                       := []
  cells        : Assoc (Nat × Nat) (List CellProp)                          := []
  columnWidths : Assoc Nat Int                                              := []
  imageSources : List (ImageButtonState × ImageSlice × Option ImageSource)  := []
deriving DecidableEq, Repr, Inhabited

structure Obj extends Links, Content where
  kind : WidgetKind
deriving DecidableEq, Repr, Inhabited

inductive Edit
  | prop (p : ObjProp)
  | flag (flag : ObjFlags) (on : Bool)
  | state (state : States) (on : Bool)
  | addStyle (id : StyleId) (style : Style) (selector : Selector)
  | removeStyle (id : Option StyleId) (selector : Selector)   -- without an id, every style
  | removeStyles
  | localStyle (prop : StyleProp) (value : StyleValue) (selector : Selector)
  | bind (subject : SubjectId) (binding : Binding)
  | hook (code : EventCode) (action : Action)
  | addSection
  | sectionProp (id : SectionId) (prop : SectionProp)
  | addSpan
  | spanProp (id : SpanId) (prop : SpanProp)
  | cell (row column : Nat) (prop : CellProp)
  | columnWidth (column : Nat) (width : Int)
  | imageSource (state : ImageButtonState) (slice : ImageSlice) (source : Option ImageSource)
deriving DecidableEq, Repr, Inhabited

namespace Edit

-- Whether a style that was added with `selector'` is one that is to be removed.
def removes (id : Option StyleId) (selector : Selector) (entry : StyleId × Style × Selector) :
    Bool :=
  (match id with
   | none   => true
   | some i => i == entry.1) && entry.2.2 == selector

def apply (e : Edit) (c : Content) : Content :=
  match e with
  | .prop p             => { c with props := c.props ++ [p] }
  | .flag f on          => { c with flags := c.flags.switch f on }
  | .state s on         => { c with states := c.states.switch s on }
  | .addStyle id s sel  => { c with styles := c.styles ++ [(id, s, sel)] }
  | .removeStyle id sel => { c with styles := c.styles.filter (!removes id sel ·) }
  | .removeStyles       => { c with styles := [] }
  | .localStyle p v sel => { c with localStyles := c.localStyles.set (p, sel) v }
  | .bind id b          => { c with bindings := c.bindings ++ [(id, b)] }
  | .hook code a        => { c with hooks := c.hooks ++ [(code, a)] }
  | .addSection         => { c with sections := c.sections ++ [[]] }
  | .sectionProp id p   => { c with sections := c.sections.modify id.index (· ++ [p]) }
  | .addSpan            => { c with spans := c.spans ++ [[]] }
  | .spanProp id p      => { c with spans := c.spans.modify id.index (· ++ [p]) }
  | .cell row column p  =>
    let earlier := (c.cells.get? (row, column)).getD []
    { c with cells := c.cells.insert precedes (row, column) (earlier ++ [p]) }
  | .columnWidth i w    => { c with columnWidths := c.columnWidths.insert (· < ·) i w }
  | .imageSource st sl src => { c with imageSources := c.imageSources ++ [(st, sl, src)] }
where
  precedes (a b : Nat × Nat) : Bool :=
    a.1 < b.1 || (a.1 == b.1 && a.2 < b.2)

end Edit

namespace Obj

def name? (o : Obj) : Option String :=
  o.props.reverse.findSome? fun
    | .name n => some n
    | _       => none

def edit (o : Obj) (e : Edit) : Obj :=
  { o with toContent := e.apply o.toContent }

@[simp] theorem toLinks_edit (o : Obj) (e : Edit) : (o.edit e).toLinks = o.toLinks := rfl
@[simp] theorem kind_edit (o : Obj) (e : Edit) : (o.edit e).kind = o.kind := rfl

end Obj

end UiMarkup
