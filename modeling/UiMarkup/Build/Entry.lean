import UiMarkup.Build.State

namespace UiMarkup.Build

def register (b : Build) (kind : EntryKind) (name : String) (value : kind.Value) : Build :=
  b.keep (.entryRefused kind name) (b.registry.register kind (some b.doc.scope) name value)

def setPending (b : Build) (p : Option Pending) : Build :=
  b.modifyDoc fun d => { d with pending := p }

def paramEntry (b : Build) (tag : String) (attrs : Attrs) : Build :=
  if tag ≠ "prop" then b.note (.ignoredInApi tag)
  else match attrs.get? "name" with
    | none => b.note (.attributeMissing "name" "an api <prop>")
    | some name =>
      b.keep (.parameterRefused name)
        (b.registry.registerParam b.doc.scope name (attrs.get? "default"))

def constEntry (b : Build) (tag : String) (attrs : Attrs) : Build :=
  match attrs.get? "name", attrs.get? "value" with
  | some name, some value => b.register .const name value
  | _, _                  => b.note (.incompleteConst tag)

def gradientShape? (tag : String) : Option GradientDir :=
  match tag with
  | "linear_gradient"     => some .linear
  | "radial_gradient"     => some .radial
  | "conical_gradient"    => some .conical
  | "horizontal_gradient" => some .hor
  | "vertical_gradient"   => some .ver
  | _                     => none

def point (attrs : Attrs) (name : String) (absent : Point) : Point :=
  ((attrs.get? name).map Reading.point).getD absent

def geometry (dir : GradientDir) (attrs : Attrs) : GradientGeometry :=
  match dir with
  | .linear  => .linear (point attrs "start" (0, 0)) (point attrs "end" (0, 0))
  | .radial  => .radial (point attrs "center" (0, 0)) (Reading.intAttr attrs "radius" 0)
  | .conical =>
    let (startAngle, endAngle) := point attrs "angle" (0, 360)
    .conical (point attrs "center" (0, 0)) startAngle endAngle
  | _        => .simple

-- What happens outside of the stops; anything but the two known words means padding.
def spread (attrs : Attrs) : GradientExtend :=
  ((attrs.get? "extend").bind Vocabulary.ofToken?).getD .pad

def gradientEntry (b : Build) (tag : String) (attrs : Attrs) : Build :=
  match gradientShape? tag with
  | none => b.note (.notAGradient tag)
  | some dir =>
    match attrs.get? "name" with
    | none => b.note (.attributeMissing "name" s!"<{tag}>")
    | some name =>
      let gradient : Gradient := { dir, geometry := geometry dir attrs, spread := spread attrs }
      b.setPending (some (.gradient name gradient))

def readStop (attrs : Attrs) : Noted GradientStop := do
  let color ← match attrs.get? "color" with
    | some s => Reading.color s
    | none   => pure .black
  return {
    color
    opacity := ((attrs.get? "opa").map Reading.opacity).getD .cover
    position := ((attrs.get? "frac").map Reading.level).getD 0 }

def stopEntry (b : Build) (tag : String) (attrs : Attrs) : Build :=
  if tag ≠ "stop" then b.note (.betweenStops tag)
  else match b.doc.pending with
    | some (.gradient name gradient) =>
      let (stop, b) := b.take (readStop attrs)
      b.setPending (some (.gradient name (gradient.addStop stop)))
    | _ => b.note .stopOutsideGradient

def styleEntry (b : Build) (tag : String) (attrs : Attrs) : Build :=
  if tag ≠ "style" then b.note (.notAStyle tag)
  else
    let (result, b) := b.take (b.registry.registerStyle (some b.doc.scope) attrs)
    b.keep .styleRefused (result.map Prod.snd)

def fontEntry (c : Config) (b : Build) (tag : String) (attrs : Attrs) : Build :=
  match (Vocabulary.ofToken? tag : Option FontKind) with
  | none => b.note (.notAFont tag)
  | some kind =>
    match attrs.get? "name", (attrs.get? "src_path").or (attrs.get? "src") with
    | none, _ => b.note (.attributeMissing "name" s!"<{tag}>")
    | some name, none => b.note (.fontWithoutSource name)
    | some name, some src =>
      let source := if kind = .builtin then src else c.assetPath src
      match b.scene.loadFont { kind, source, size := Reading.intAttr attrs "size" 0 } with
      | (none, scene) => { b with scene }.note (.fontNotLoaded name source)
      | (some id, scene) => { b with scene }.register .font name id

def imageEntry (c : Config) (b : Build) (tag : String) (attrs : Attrs) : Build :=
  if tag ≠ "file" then b.note (.notAnImage tag)
  else match attrs.get? "name", attrs.get? "src_path" with
    | some name, some src => b.register .image name (.path (c.assetPath src))
    | _, _                => b.note .incompleteImage

def subjectKind? (tag : String) : Option SubjectKind :=
  match tag with
  | "int"    => some .int
  | "float"  => some .float
  | "string" => some .str
  | "color"  => some .color
  | _        => none

def initialValue (kind : SubjectKind) (attrs : Attrs) : Noted SubjectValue :=
  match attrs.get? "value" with
  | some s => Reading.subjectValue kind s
  | none   => pure <| match kind with
    | .int   => .int 0
    | .float => .float .zero
    | .str   => .str ""
    | .color => .color .black

def subjectEntry (b : Build) (tag : String) (attrs : Attrs) : Build :=
  match subjectKind? tag with
  | none => b.note (.notASubject tag)
  | some kind =>
    let (initial, b) := b.take (initialValue kind attrs)
    match attrs.get? "name" with
    | none => b.note (.attributeMissing "name" s!"<{tag}> subject")
    | some name =>
      let (id, scene) := b.scene.createSubject initial
      { b with scene }.register .subject name id

def readStep (tag : String) (attrs : Attrs) : Noted (Option TimelineStep) :=
  let target := (attrs.get? "target").getD "self"
  let delay := Reading.intAttr attrs "delay" 0
  if tag = "include_timeline" then
    match attrs.get? "timeline" with
    | none => .because none (.attributeMissing "timeline" "<include_timeline>")
    | some timeline => pure (some (.nested target timeline delay))
  else match attrs.get? "prop" with
    | none => .because none (.attributeMissing "prop" "<animation>")
    | some name =>
      match StyleProp.ofName? name with
      | none => .because none (.unsupportedAnimationProp name)
      | some prop =>
        let start := Reading.intAttr attrs "start" 0
        let stop := Reading.intAttr attrs "end" 0
        pure (some (.animate target prop start stop (Reading.intAttr attrs "duration" 0) delay))

def beginTimeline (b : Build) (attrs : Attrs) : Build :=
  match attrs.get? "name" with
  | none => b.note (.attributeMissing "name" "<timeline>")
  | some name =>
    let (id, scene) := b.scene.createTimeline
    ({ b with scene }.register .timeline name id).setPending (some (.timeline id))

def addStep (b : Build) (tag : String) (attrs : Attrs) : Build :=
  match b.doc.pending with
  | some (.timeline id) =>
    let (step, b) := b.take (readStep tag attrs)
    match step with
    | none      => b
    | some step => { b with scene := b.scene.addStep id step }
  | _ => b.note (.outsideTimeline tag)

def timelineEntry (b : Build) (tag : String) (attrs : Attrs) : Build :=
  if tag = "timeline" then b.beginTimeline attrs
  else if tag = "animation" ∨ tag = "include_timeline" then b.addStep tag attrs
  else b.note (.notInTimeline tag)

def entry (c : Config) (b : Build) (tag : String) (attrs : Attrs) : Build :=
  match b.doc.block with
  | .none            => b.note (.outsideSection tag)
  | .view            => b.note (.outsideSection tag)
  | .api             => b.paramEntry tag attrs
  | .consts          => b.constEntry tag attrs
  | .gradients       => b.gradientEntry tag attrs
  | .stops           => b.stopEntry tag attrs
  | .styles          => b.styleEntry tag attrs
  | .fonts           => fontEntry c b tag attrs
  | .images          => imageEntry c b tag attrs
  | .subjects        => b.subjectEntry tag attrs
  | .animation       => b.timelineEntry tag attrs
  | .includeTimeline => b.timelineEntry tag attrs
  | .timeline        => b.timelineEntry tag attrs

def endGradient (b : Build) (name : String) (gradient : Gradient) : Build :=
  let b := b.setPending none
  let b := if gradient.isDrawable then b else b.note (.tooFewStops name)
  b.register .gradient name gradient

def endEntry (b : Build) (tag : String) : Build :=
  match b.doc.pending with
  | some (.gradient name gradient) =>
    if (gradientShape? tag).isSome then b.endGradient name gradient else b
  | some (.timeline _) => if tag = "timeline" then b.setPending none else b
  | _ => b

end UiMarkup.Build
