import UiMarkup.Build.Entry

namespace UiMarkup.Build

-- Builds an instance of the component of a scope in the current parent, and answers its root.
abbrev Instantiate := Build → ScopeId → Attrs → Option ObjId × Build

-- The value of one attribute: `$` refers to a parameter, `#` to a constant. An attribute whose
-- value cannot be resolved is reported and left out.
def resolveAttr (b : Build) (attr : String × String) : Noted Attrs :=
  match Text.after? "$" attr.2 with
  | some parameter =>
    match b.doc.arguments.bind (·.get? parameter) with
    | some v => pure [(attr.1, v)]
    | none   => .because [] (.parameterUnset parameter attr.1)
  | none =>
    (fun v => (v.map (attr.1, ·)).toList) <$> b.registry.resolve? b.doc.scope attr.2

def resolveAttrs (b : Build) (attrs : Attrs) : Noted Attrs :=
  Noted.collect b.resolveAttr attrs

def setItem (b : Build) (item : Option Item) : Build :=
  b.modifyDoc fun d => { d with item }

def make (b : Build) (p : Processor) (attrs : Attrs) : Option Item × Build :=
  let ((item, scene), b) := b.take (p.create b.env b.doc.parent? attrs b.scene)
  (item, { b with scene })

def apply (b : Build) (p : Processor) (attrs : Attrs) : Build :=
  let (edits, b) := b.take (p.apply b.env b.doc.parent? b.doc.item attrs)
  { b with scene := edits.foldl (fun s (id, e) => s.edit id e) b.scene }

def reportUnsupported (b : Build) (tag : String) (p : Processor) (attrs : Attrs) : Build :=
  b.noteAll ((attrs.filter (!p.accepts ·.1)).map fun a => .unsupportedAttribute a.1 tag)

def createElement (setup : Setup) (inst : Instantiate) (b : Build) (tag : String) (attrs : Attrs) :
    Option Item × Build :=
  match setup.widgets.get? tag with
  | some p =>
    match b.make p attrs with
    | (none, b) => (none, b)
    | (some item, b) =>
      (some item, ((b.setItem (some item)).apply p attrs).reportUnsupported tag p attrs)
  | none =>
    match b.registry.componentScope? tag with
    | none => (none, b.note (.unknownElement tag))
    | some scope =>
      match inst b scope attrs with
      | (none, b)      => (none, b)
      | (some view, b) => (some (.obj view), b.setItem (some (.obj view)))

-- The outermost element of a view, which `extends` names; an object, unless it does.
def openRoot (setup : Setup) (inst : Instantiate) (b : Build) (attrs : Attrs) : Build :=
  let tag := (attrs.get? "extends").getD "obj"
  let (attrs, b) := b.take (b.resolveAttrs (attrs.filter (·.1 ≠ "extends")))
  let (item, b) := createElement setup inst b tag attrs
  let root := item.bind Item.obj?
  b.modifyDoc fun d => { d with view := root }.openFrame root

def openChild (setup : Setup) (inst : Instantiate) (b : Build) (tag : String) (attrs : Attrs) :
    Build :=
  if setup.config.maxDepth < b.doc.depth then
    (b.note (.elementTooDeep tag setup.config.maxDepth)).modifyDoc (·.openFrame none)
  else
    let (attrs, b) := b.take (b.resolveAttrs attrs)
    let (item, b) := createElement setup inst b tag attrs
    b.modifyDoc (·.openFrame (item.bind Item.obj?))

def wrappers : List String :=
  ["globals", "component", "screen", "widget", "animations"]

-- Tags that begin a block and are an entry as well.
def entryTags : List String :=
  ["stop", "timeline", "animation", "include_timeline"]

def recordOr (b : Build) (e : Event) (otherwise : Build → Build) : Build :=
  match b.doc.recording with
  | some events => b.modifyDoc fun d => { d with recording := some (events.push e) }
  | none        => otherwise b

def setDepth (b : Build) (depth : Nat) : Build :=
  b.modifyDoc fun d => { d with depth }

def opening (setup : Setup) (inst : Instantiate) (b : Build) (tag : String) (attrs : Attrs) :
    Build :=
  if b.doc.depth ≠ 0 then
    (b.setDepth (b.doc.depth + 1)).recordOr (.opening tag attrs) fun b =>
      openChild setup inst b tag attrs
  else if tag ∈ wrappers then b
  else match b.doc.block.begun? tag with
    | none => entry setup.config b tag attrs
    | some block =>
      let b := b.modifyDoc fun d => { d with block }
      if tag = "view" then
        (b.setDepth 1).recordOr (.opening tag attrs) fun b => openRoot setup inst b attrs
      else if tag ∈ entryTags then entry setup.config b tag attrs
      else b

def closeBlock (b : Build) (tag : String) : Build :=
  (b.endEntry tag).modifyDoc fun d => { d with block := d.block.stop tag }

def closing (b : Build) (tag : String) : Build :=
  match b.doc.depth with
  | 0 => b.closeBlock tag
  | depth + 1 =>
    let b := (b.setDepth depth).recordOr (.closing tag) fun b => b.modifyDoc (·.closeFrame)
    if depth = 0 then b.closeBlock tag else b

def step (setup : Setup) (inst : Instantiate) (b : Build) : Event → Build
  | .opening tag attrs => opening setup inst b tag attrs
  | .closing tag       => b.closing tag

def replay (setup : Setup) (inst : Instantiate) (b : Build) (events : List Event) : Build :=
  events.foldl (step setup inst) b

def arguments (params : Assoc String (Option String)) (attrs : Attrs) : Attrs :=
  attrs ++ params.filterMap fun (name, default) =>
    if attrs.contains name then none else default.map (name, ·)

def baseWidget (widgets : WidgetTable) (r : Registry) : (levels : Nat) → String → String
  | 0, tag => tag
  | levels + 1, tag =>
    if (widgets.get? tag).isSome then tag
    else match (r.componentScope? tag).bind r.component? with
      | some c => baseWidget widgets r levels c.base
      | none   => tag

-- Applies the attributes of an instance that are no parameters to its root.
def applyRest (setup : Setup) (b : Build) (name : String) (c : Component) (root : ObjId)
    (rest : Attrs) : Build :=
  if rest.isEmpty then b
  else
    let base := baseWidget setup.widgets b.registry setup.config.maxDepth c.base
    match (setup.widgets.get? base).or (setup.widgets.get? "obj") with
    | some p => (b.setItem (some (.obj root))).apply p rest
    | none   => b.note (.componentAttrsDropped base name)

-- Builds an instance, inside of which there may be `levels` more. Its document begins in the
-- current parent; when it has been replayed, the document that asked for it goes on.
def instantiate (setup : Setup) : (levels : Nat) → Instantiate
  | 0, b, scope, _ => (none, b.note (.componentTooDeep (b.registry.scopeName scope)))
  | levels + 1, b, scope, attrs =>
    match b.registry.component? scope with
    | none => (none, b)
    | some c =>
      let name := b.registry.scopeName scope
      let params := b.registry.params scope
      let doc : DocState :=
        { DocState.begin scope b.doc.parent? with arguments := some (arguments params attrs) }
      let inner := replay setup (instantiate setup levels) { b with doc } c.view
      let outer := { inner with doc := b.doc }
      match inner.doc.view with
      | none => (none, outer.note (.componentWithoutRoot name))
      | some root =>
        let rest := attrs.filter fun a => !params.contains a.1
        (some root, (applyRest setup outer name c root rest).note (.componentInstantiated name))

def instance? (setup : Setup) : Instantiate :=
  instantiate setup setup.config.maxDepth

def create (setup : Setup) (b : Build) (tag : String) (attrs : Attrs) : Option Item × Build :=
  createElement setup (instance? setup) b tag attrs

def read (setup : Setup) (b : Build) (e : Event) : Build :=
  step setup (instance? setup) b e

end UiMarkup.Build
