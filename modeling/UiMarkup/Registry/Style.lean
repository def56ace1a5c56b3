import UiMarkup.Attrs
import UiMarkup.Registry.Basic

namespace UiMarkup.Registry

-- The value that a text gives to a property. A text that names a missing font, image or gradient
-- gives none.
def styleValue? (r : Registry) (scope : ScopeId) (p : StyleProp) (text : String) :
    Noted (Option StyleValue) :=
  match p.kind with
  | .size           => pure (some (.int (Reading.size text)))
  | .int            => pure (some (.int (Reading.int text)))
  | .opacity        => pure (some (.opacity (Reading.opacity text)))
  | .color          => (some <| .color ·) <$> Reading.color text
  | .bool           => (some <| .bool ·) <$> Reading.bool text
  | .align          => (some <| .align ·) <$> Reading.token text
  | .baseDirection  => (some <| .baseDirection ·) <$> Reading.token text
  | .gradientDir    => (some <| .gradientDir ·) <$> Reading.token text
  | .textAlign      => (some <| .textAlign ·) <$> Reading.token text
  | .textDecoration => (some <| .textDecoration ·) <$> Reading.token text
  | .borderSides    => (some <| .borderSides ·) <$> Reading.borderSides text
  | .blendMode      => (some <| .blendMode ·) <$> Reading.token text
  | .blurQuality    => (some <| .blurQuality ·) <$> Reading.token text
  | .layout         => (some <| .layout ·) <$> Reading.token text
  | .flexFlow       => (some <| .flexFlow ·) <$> Reading.token text
  | .flexPlace      => (some <| .flexPlace ·) <$> Reading.token text
  | .gridPlace      => (some <| .gridPlace ·) <$> Reading.token text
  | .gridTracks     => pure (some (.gridTracks (Reading.gridTracks text)))
  | .gradient       => (·.map .gradient) <$> r.find? .gradient scope text
  | .font           => (·.map .font) <$> r.find? .font scope text
  | .image          => (·.map .image) <$> r.find? .image scope text

def bookkeeping : List String :=
  ["name", "help", "figma_node_id"]

def setProp (r : Registry) (scope : ScopeId) (text : String) (style : Style) (p : StyleProp) :
    Noted Style := do
  match ← r.styleValue? scope p text with
  | some v => return style.set p v
  | none   => return style

-- What one attribute does to a style: it sets the properties it stands for or, with the value
-- `remove`, takes them out. An attribute whose value cannot be resolved does nothing.
def applyStyleAttr (r : Registry) (scope : ScopeId) (style : Style) (attr : String × String) :
    Noted Style := do
  if attr.1 ∈ bookkeeping then return style
  match ← r.resolve? scope attr.2 with
  | none => return style
  | some text =>
    match StyleProp.targets? attr.1 with
    | none => .because style (.unsupportedStyleProp attr.1)
    | some props =>
      if text = "remove" then return props.foldl Style.erase style
      else props.foldlM (r.setProp scope text) style

def style? (r : Registry) (id : StyleId) : Option StyleEntry :=
  r.styles[id.index]?

def ensureStyle (r : Registry) (id : ScopeId) (scope : Scope) (name : String) :
    Noted (StyleId × Registry) :=
  match scope.get? .style name with
  | some style => .because (style, r) (.styleExtended name scope.name)
  | none =>
    let style : StyleId := ⟨r.styles.size⟩
    let entry : StyleEntry :=
      { name, longName := scope.name ++ "." ++ name, scope := id, style := .empty }
    pure (style, { r with
      scopes := r.scopes.modify id.index (·.set .style name style)
      styles := r.styles.push entry })

def restyle (r : Registry) (id : StyleId) (style : Style) : Registry :=
  if id.index < r.styles.size then
    { r with styles := r.styles.modify id.index fun e => { e with style } }
  else { r with strays := r.strays ++ [id] }

def registerStyle (r : Registry) (scope : Option ScopeId) (attrs : Attrs) :
    Noted (Except RegistryError (StyleId × Registry)) :=
  match attrs.get? "name" with
  | none => pure (.error .styleWithoutName)
  | some name =>
    let id := scope.getD .globals
    match r.scope? id with
    | none => pure (.error (.unknownScope id))
    | some s => do
      let (style, r) ← r.ensureStyle id s name
      let earlier := ((r.style? style).map (·.style)).getD .empty
      let extended ← attrs.foldlM (r.applyStyleAttr id) earlier
      return .ok (style, r.restyle style extended)

-- A style by its name or by `scope.name`, in that scope or else in the global one. A scope that
-- does not exist is reported and passed over.
def findStyle (r : Registry) (scope : Option ScopeId) (name : String) : Noted (Option StyleId) := do
  let (scope, bare) ← match Text.cutLast? '.' name with
    | none => pure (scope, name)
    | some (qualifier, bare) =>
      match r.scopeByName? qualifier with
      | some id => pure (some id, bare)
      | none    => Noted.because (none, bare) (.unknownStyleScope qualifier)
  match r.lookup? .style scope bare with
  | some id => return some id
  | none    => .because none (.unknownStyle name)

end UiMarkup.Registry
