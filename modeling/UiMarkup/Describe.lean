import UiMarkup.Build.State
import UiMarkup.Text.Quoted

namespace UiMarkup.Describe

def fields (name : String) (fs : List (String × String)) : String :=
  let texts := fs.map fun (k, v) => k ++ ": " ++ v
  name ++ " \x7b " ++ ", ".intercalate texts ++ " \x7d"

def wrapped (name text : String) : String :=
  name ++ "(" ++ text ++ ")"

def optional : Option String → String
  | some t => wrapped "Some" t
  | none   => "None"

def bool (b : Bool) : String :=
  if b then "true" else "false"

def color (c : Color) : String :=
  fields "Color" [("r", toString c.red), ("g", toString c.green), ("b", toString c.blue)]

def subject (id : SubjectId) : String :=
  wrapped "SubjectId" (toString id.index)

def timeline (id : TimelineId) : String :=
  wrapped "TimelineId" (toString id.index)

def subjectValue : SubjectValue → String
  | .int n   => wrapped "Int" (toString n)
  | .float x => wrapped "Float" x.text
  | .str s   => wrapped "Str" (Text.quoted s)
  | .color c => wrapped "Color" (color c)

def action : Action → String
  | .call _ userData =>
    fields "Callback" [("cb", "EventCb(..)"), ("user_data", optional (userData.map Text.quoted))]
  | .toggle id => wrapped "SubjectToggle" (subject id)
  | .assign id value =>
    fields "SubjectSet" [("subject", subject id), ("value", subjectValue value)]
  | .increment id step min max rollover =>
    fields "SubjectIncrement" [("subject", subject id), ("step", toString step),
      ("min", toString min), ("max", toString max), ("rollover", bool rollover)]
  | .loadScreen screen transition duration delay =>
    fields "ScreenLoad" [("screen", Text.quoted screen), ("anim", Vocabulary.label transition),
      ("duration", toString duration), ("delay", toString delay)]
  | .playTimeline id delay reverse =>
    fields "PlayTimeline" [("timeline", timeline id), ("delay", toString delay),
      ("reverse", bool reverse)]

def point (p : Point) : String :=
  "(" ++ toString p.1 ++ ", " ++ toString p.2 ++ ")"

def stop (s : GradientStop) : String :=
  fields "GradStop" [("color", color s.color), ("opa", toString s.opacity),
    ("frac", toString s.position)]

def geometry : GradientGeometry → String
  | .simple => "Simple"
  | .linear start stop => fields "Linear" [("start", point start), ("end", point stop)]
  | .radial center radius =>
    fields "Radial" [("center", point center), ("radius", toString radius)]
  | .conical center startAngle endAngle =>
    fields "Conical" [("center", point center), ("start_angle", toString startAngle),
      ("end_angle", toString endAngle)]

def gradient (g : Gradient) : String :=
  fields "GradDesc" [("dir", Vocabulary.label g.dir),
    ("stops", "[" ++ ", ".intercalate (g.stops.map stop) ++ "]"),
    ("extend", Vocabulary.label g.spread), ("geometry", geometry g.geometry)]

def pending : Pending → String
  | .gradient name g => fields "Gradient" [("name", Text.quoted name), ("desc", gradient g)]
  | .timeline id     => wrapped "Timeline" (timeline id)
  | .custom          => "Custom(..)"

end UiMarkup.Describe
