import UiMarkup.Scene.Object

namespace UiMarkup

structure Scene where
  objects         : Array Obj                 := #[]
  subjects        : Array SubjectValue        := #[]
  fonts           : Array FontSource          := #[]
  timelines       : Array (List TimelineStep) := #[]
  loadedScreens   : List String               := []
  playedTimelines : List TimelineId           := []
  takesFonts      : Bool                      := true
  -- The objects that calls have named although there were none.
  strays          : List ObjId                := []
deriving DecidableEq, Repr, Inhabited

namespace Scene

def empty : Scene := {}

def size (s : Scene) : Nat :=
  s.objects.size

def obj? (s : Scene) (id : ObjId) : Option Obj :=
  s.objects[id.index]?

def has (s : Scene) (id : ObjId) : Bool :=
  id.index < s.size

def visit (s : Scene) (id : ObjId) : Scene :=
  if s.has id then s else { s with strays := s.strays ++ [id] }

def modify (s : Scene) (id : ObjId) (f : Obj → Obj) : Scene :=
  { s.visit id with objects := s.objects.modify id.index f }

def edit (s : Scene) (id : ObjId) (e : Edit) : Scene :=
  s.modify id (·.edit e)

-- Adds an object and ties it to its parent, which has to be there before.
def push (s : Scene) (kind : WidgetKind) (parent : Option ObjId) : ObjId × Scene :=
  let id : ObjId := ⟨s.size⟩
  let s := parent.elim s s.visit
  let s := { s with objects := s.objects.push { kind, parent } }
  match parent with
  | none   => (id, s)
  | some p => (id, s.modify p fun o => { o with children := o.children ++ [id] })

-- Adds a widget. A tab view comes with a bar for its buttons.
def createWidget (s : Scene) (kind : WidgetKind) (parent : Option ObjId) : ObjId × Scene :=
  let (id, s) := s.push kind parent
  if kind = .tabview then
    let (bar, s) := s.push .obj (some id)
    (id, s.modify id fun o => { o with tabBar := some bar })
  else (id, s)

def tabBar? (s : Scene) (id : ObjId) : Option ObjId :=
  (s.obj? id).bind (·.tabBar)

-- The list of a dropdown, which is added, without a parent, when it is first asked for.
def dropdownList (s : Scene) (id : ObjId) : Option ObjId × Scene :=
  match s.obj? id with
  | none => (none, s.visit id)
  | some o =>
    if o.kind ≠ .dropdown then (none, s)
    else match o.list with
      | some list => (some list, s)
      | none =>
        let (list, s) := s.push .obj none
        (some list, s.modify id fun o => { o with list := some list })

def tabCount (s : Scene) (id : ObjId) : Nat :=
  ((s.obj? id).map (·.tabs.length)).getD 0

def addTab (s : Scene) (id : ObjId) (title : String) : ObjId × Scene :=
  let (button, s) := (s.visit id).push .button (s.tabBar? id)
  let s := s.edit button (.prop (.text title))
  let (page, s) := s.push .obj (some id)
  (page, s.modify id fun o =>
    { o with tabButtons := o.tabButtons ++ [button], tabs := o.tabs ++ [page] })

def tabButton? (s : Scene) (id : ObjId) (index : Nat) : Option ObjId :=
  (s.obj? id).bind (·.tabButtons[index]?)

def addSection (s : Scene) (id : ObjId) : SectionId × Scene :=
  (⟨((s.obj? id).map (·.sections.length)).getD 0⟩, s.edit id .addSection)

def addSpan (s : Scene) (id : ObjId) : SpanId × Scene :=
  (⟨((s.obj? id).map (·.spans.length)).getD 0⟩, s.edit id .addSpan)

def subject? (s : Scene) (id : SubjectId) : Option SubjectValue :=
  s.subjects[id.index]?

def subjectKind? (s : Scene) (id : SubjectId) : Option SubjectKind :=
  (s.subject? id).map (·.kind)

def createSubject (s : Scene) (initial : SubjectValue) : SubjectId × Scene :=
  (⟨s.subjects.size⟩, { s with subjects := s.subjects.push initial })

def loadFont (s : Scene) (source : FontSource) : Option FontId × Scene :=
  if s.takesFonts then (some ⟨s.fonts.size⟩, { s with fonts := s.fonts.push source })
  else (none, s)

def createTimeline (s : Scene) : TimelineId × Scene :=
  (⟨s.timelines.size⟩, { s with timelines := s.timelines.push [] })

def addStep (s : Scene) (id : TimelineId) (step : TimelineStep) : Scene :=
  { s with timelines := s.timelines.modify id.index (· ++ [step]) }

def roots (s : Scene) : List ObjId :=
  ((List.range s.size).map ObjId.mk).filter fun id =>
    (s.obj? id).any (·.parent.isNone)

end Scene

end UiMarkup
