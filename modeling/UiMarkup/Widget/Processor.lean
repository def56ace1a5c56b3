import UiMarkup.Widget.Modifier

namespace UiMarkup

inductive Processor
  | widget (kind : WidgetKind)
  | dropdownList
  | calendarHeader
  | tabBar
  | tab
  | tabButton
  | tableColumn
  | tableCell
  | scaleSection
  | span
  | imageSlice (slice : ImageSlice)
  | modifier (m : Modifier)
  -- Under a tag of the application's choice; only for processors of an application that make one
  -- fresh widget, or nothing at all, and treat it as any object.
  | custom (kind : Option WidgetKind)
deriving DecidableEq, Repr, Inhabited

namespace Processor

def accepts (p : Processor) (name : String) : Bool :=
  match p with
  | .widget kind    => kind.accepts name
  | .dropdownList   => ObjAttr.accepts name
  | .calendarHeader => ObjAttr.accepts name
  | .tabBar         => ObjAttr.accepts name
  | .tab            => ObjAttr.accepts name || name == "text"
  | .tabButton      => ObjAttr.accepts name || name == "index"
  | .tableColumn    => ["column", "width"].contains name
  | .tableCell      => ["row", "column", "value", "ctrl"].contains name
  | .scaleSection   =>
    ["min_value", "max_value", "style_main", "style_indicator", "style_items",
     "bind_min_value", "bind_max_value"].contains name
  | .span           => ["text", "style", "bind_text", "bind_text-fmt"].contains name
  | .imageSlice _   => ["state", "src"].contains name
  | .modifier m     => m.attrNames.contains name
  | .custom _       => true

def onParent (parent : Option ObjId) (missing : Diagnostic) : Noted (Option Item) :=
  match parent with
  | some p => pure (some (.obj p))
  | none   => .because none missing

-- The button of the tab that `index` names, or else the first one.
def makeTabButton (attrs : Attrs) (tabview : ObjId) (s : Scene) : Noted (Option Item) :=
  if s.tabCount tabview = 0 then .because none .noTabs
  else
    let index := Reading.intAttr attrs "index" 0
    let named := if index < 0 then none else s.tabButton? tabview index.toNat
    match named with
    | some b => pure (some (.obj b))
    | none   => .because ((s.tabButton? tabview 0).map .obj) (.tabOutOfRange index)

def makeImageSlice (env : Env) (attrs : Attrs) (slice : ImageSlice) (button : ObjId) (s : Scene) :
    Noted Scene := do
  let state ← match attrs.get? "state" with
    | some t => Reading.token t
    | none   => pure .released
  let source ← match attrs.get? "src" with
    | some name => env.findImage name
    | none      => pure none
  return s.edit button (.imageSource state slice source)

def create (p : Processor) (env : Env) (parent : Option ObjId) (attrs : Attrs) (s : Scene) :
    Noted (Option Item × Scene) :=
  match p with
  | .widget kind =>
    let (id, s) := s.createWidget kind parent
    pure (some (.obj id), s)
  | .custom none => pure (none, s)
  | .custom (some kind) =>
    let (id, s) := s.createWidget kind parent
    pure (some (.obj id), s)
  | .dropdownList =>
    match parent with
    | none => pure (none, s)
    | some dropdown =>
      match s.dropdownList dropdown with
      | (some list, s) => pure (some (.obj list), s)
      | (none, s) => .because (none, s) (.misplaced "<dropdown-list>" "a <dropdown>")
  | .calendarHeader =>
    match parent with
    | none => .because (none, s) .headerWithoutCalendar
    | some calendar =>
      let (id, s) := s.push .obj (some calendar)
      pure (some (.obj id), s)
  | .tabBar =>
    match parent with
    | none => pure (none, s)
    | some tabview => pure ((s.tabBar? tabview).map .obj, s.visit tabview)
  | .tab =>
    match parent with
    | none => pure (none, s)
    | some tabview =>
      let (page, s) := s.addTab tabview (attrs.getText "text")
      pure (some (.obj page), s)
  | .tabButton =>
    match parent with
    | none => pure (none, s)
    | some tabview => (·, s.visit tabview) <$> makeTabButton attrs tabview s
  | .tableColumn => (·, s) <$> onParent parent (.misplaced "<table-column>" "a <table>")
  | .tableCell => (·, s) <$> onParent parent (.misplaced "<table-cell>" "a <table>")
  | .scaleSection =>
    match parent with
    | none => .because (none, s) (.misplaced "<scale-section>" "a <scale>")
    | some scale =>
      let (id, s) := s.addSection scale
      pure (some (.scaleSection id), s)
  | .span =>
    match parent with
    | none => .because (none, s) (.misplaced "<spangroup-span>" "a <spangroup>")
    | some group =>
      let (id, s) := s.addSpan group
      pure (some (.textSpan id), s)
  | .imageSlice slice =>
    match parent with
    | none => .because (none, s) (.misplaced "Image button sources" "an <imagebutton>")
    | some button => (some (.obj button), ·) <$> makeImageSlice env attrs slice button s
  | .modifier m => (·, s) <$> onParent parent (.parentMissing m.title)

def tableIndex (attrs : Attrs) (name : String) : Nat :=
  (Reading.intAttr attrs name 0).toNat

def columnEdits (attrs : Attrs) : List Edit :=
  match attrs.get? "width" with
  | some w => [.columnWidth (tableIndex attrs "column") (Reading.int w)]
  | none   => []

def cellEdits (attrs : Attrs) : Edits :=
  Noted.collect (fun (name, text) =>
    let cell := Edit.cell (tableIndex attrs "row") (tableIndex attrs "column")
    match name with
    | "value" => pure [cell (.value text)]
    | "ctrl"  => (fun c => [cell (.controls c)]) <$> Reading.cellControls text
    | _       => pure []) attrs

def styleEdit (env : Env) (name : String) (edit : StyleId → Edit) : Edits :=
  (fun id => (id.map edit).toList) <$> env.findStyle name

def sectionEdits (env : Env) (attrs : Attrs) (id : SectionId) : Edits :=
  Noted.collect (fun (name, text) =>
    match name with
    | "min_value"       => pure [.sectionProp id (.minValue (Reading.int text))]
    | "max_value"       => pure [.sectionProp id (.maxValue (Reading.int text))]
    | "style_main"      => styleEdit env text fun s => .sectionProp id (.styleMain s)
    | "style_indicator" => styleEdit env text fun s => .sectionProp id (.styleIndicator s)
    | "style_items"     => styleEdit env text fun s => .sectionProp id (.styleItems s)
    | "bind_min_value"  => env.bind text (.sectionMin id) "scale section's bind_min_value"
    | "bind_max_value"  => env.bind text (.sectionMax id) "scale section's bind_max_value"
    | _                 => pure []) attrs

def spanEdits (env : Env) (attrs : Attrs) (id : SpanId) : Edits :=
  Noted.collect (fun (name, text) =>
    match name with
    | "text"      => pure [.spanProp id (.text text)]
    | "style"     => styleEdit env text fun s => .spanProp id (.style s)
    | "bind_text" =>
      env.bind text (.spanText id (attrs.get? "bind_text-fmt")) "spangroup span bind_text"
    | _           => pure []) attrs

def onto (target : Option ObjId) (edits : Edits) : Noted (List (ObjId × Edit)) :=
  match target with
  | some id => (·.map (id, ·)) <$> edits
  | none    => pure []

def apply (p : Processor) (env : Env) (parent : Option ObjId) (item : Option Item)
    (attrs : Attrs) : Noted (List (ObjId × Edit)) :=
  let obj := item.bind Item.obj?
  match p with
  | .widget kind    => onto obj (kind.apply env attrs)
  | .custom _       => onto obj (ObjAttr.apply env attrs)
  | .dropdownList   => onto obj (ObjAttr.apply env attrs)
  | .calendarHeader => onto obj (ObjAttr.apply env attrs)
  | .tabBar         => onto obj (ObjAttr.apply env attrs)
  | .tab            => onto obj (ObjAttr.apply env attrs)
  | .tabButton      => onto obj (ObjAttr.apply env attrs)
  | .tableColumn    => onto obj (pure (columnEdits attrs))
  | .tableCell      => onto obj (cellEdits attrs)
  | .scaleSection =>
    match item with
    | some (.scaleSection id) => onto parent (sectionEdits env attrs id)
    | _ => pure []
  | .span =>
    match item with
    | some (.textSpan id) => onto parent (spanEdits env attrs id)
    | _ => pure []
  | .imageSlice _ => pure []
  | .modifier m =>
    match obj with
    | some _ => onto obj (m.edits env attrs)
    | none   => ⟨[], (m.refusal? attrs).toList⟩

end Processor

end UiMarkup
