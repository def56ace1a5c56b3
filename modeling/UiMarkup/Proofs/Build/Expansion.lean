import UiMarkup.Proofs.Build.Contexts
import UiMarkup.Proofs.Build.Views

namespace UiMarkup

open Markup

-- The value of a parameter in an instance: the first argument of the name, or else the default.
def argument? (params : Assoc String (Option String)) (attrs : Attrs) (name : String) :
    Option String :=
  (attrs.get? name).or (params.findSome? fun p => if p.1 = name then p.2 else none)

namespace Attrs

def substitute (value? : String → Option String) (attrs : Attrs) : Attrs :=
  attrs.filterMap fun a =>
    match Text.after? "$" a.2 with
    | none           => some a
    | some parameter => (value? parameter).map (a.1, ·)

-- A text that refers to nothing.
def Plain (text : String) : Prop :=
  Text.after? "$" text = none ∧ Text.after? "#" text = none

instance {text : String} : Decidable (Plain text) :=
  inferInstanceAs (Decidable (_ ∧ _))

def PlainIn (value? : String → Option String) (attrs : Attrs) : Prop :=
  ∀ a ∈ attrs, ∀ parameter ∈ Text.after? "$" a.2, ∀ v ∈ value? parameter, Plain v

instance {value? : String → Option String} {attrs : Attrs} : Decidable (attrs.PlainIn value?) :=
  inferInstanceAs (Decidable (∀ a ∈ attrs, ∀ parameter ∈ Text.after? "$" a.2,
    ∀ v ∈ value? parameter, Plain v))

end Attrs

theorem get?_defaults {attrs : Attrs} {name : String} (h : attrs.get? name = none)
    (params : Assoc String (Option String)) :
    Assoc.get? (params.filterMap fun p =>
      if attrs.contains p.1 then none else p.2.map (p.1, ·)) name =
    params.findSome? fun p => if p.1 = name then p.2 else none := by
  induction params with
  | nil => rfl
  | cons p params ih =>
    obtain ⟨key, default⟩ := p
    have hname : attrs.contains name = false := by
      simpa [Attrs.contains, Assoc.contains, Attrs.get?] using h
    by_cases hk : key = name
    case pos => cases default <;> simp [hk, hname, ih, Assoc.get?]
    case neg => cases hc : attrs.contains key <;> cases default <;> simp [hc, hk, ih, Assoc.get?]

theorem get?_arguments (params : Assoc String (Option String)) (attrs : Attrs) (name : String) :
    (Build.arguments params attrs).get? name = argument? params attrs name := by
  have happend : (Build.arguments params attrs).get? name =
      (attrs.get? name).or (Assoc.get? (params.filterMap fun p =>
        if attrs.contains p.1 then none else p.2.map (p.1, ·)) name) :=
    Assoc.get?_append ..
  rw [happend, argument?]
  cases h : attrs.get? name
  case none   => exact get?_defaults h params
  case some v => rfl

section Bare

variable {r : Registry} {id : ScopeId}

theorem Registry.lookup?_of_bare (h : ∀ kind name, r.entry? kind id name = none) (kind : EntryKind)
    (name : String) : r.lookup? kind (some .globals) name = r.lookup? kind (some id) name := by
  simp [Registry.lookup?, h]

theorem Registry.resolve?_of_bare (h : ∀ kind name, r.entry? kind id name = none) (text : String) :
    r.resolve? .globals text = r.resolve? id text := by
  simp only [Registry.resolve?, Registry.const?, Registry.lookup?_of_bare h]

theorem Context.agrees_of_bare (h : ∀ kind name, r.entry? kind id name = none)
    (args₁ args₂ : Option Attrs) :
    Context.Agrees (fun _ => True) ⟨r, .globals, args₁⟩ ⟨r, id, args₂⟩ := by
  intro s
  constructor
  case subjectKind => rfl
  case style       => rfl
  case lookup      => exact Registry.lookup?_of_bare h
  case findStyle =>
    intro name
    simp only [Env.findStyle, Registry.findStyle, Context.env]
    split
    case h_1 => simp only [pure_bind, Registry.lookup?_of_bare h]
    case h_2 => rfl
  case timeline =>
    intro name _
    simp only [Modifier.timeline, Context.env, Registry.lookup?_of_bare h]

end Bare

theorem Context.readAttr_of_plain {c : Context} {name text : String} (h : Attrs.Plain text) :
    c.readAttr (name, text) = [(name, text)] := by
  rw [readAttr_of_not_parameter h.1]
  simp [Registry.resolve?, h.2]

-- Attributes with values written for parameters come down to the same as in the instance.
theorem Context.sameAttrs_substitute {r : Registry} {id : ScopeId}
    (h : ∀ kind name, r.entry? kind id name = none) {params : Assoc String (Option String)}
    {given attrs : Attrs} (hplain : attrs.PlainIn (argument? params given)) (args : Option Attrs) :
    SameAttrs (fun _ => True) ⟨r, .globals, args⟩
      ⟨r, id, some (Build.arguments params given)⟩
      (attrs.substitute (argument? params given)) attrs := by
  refine ⟨?_, fun _ _ _ => trivial⟩
  rw [read_eq, read_eq, Attrs.substitute]
  induction attrs with
  | nil => rfl
  | cons a attrs ih =>
    have hrest := ih fun a' ha' => hplain a' (.tail _ ha')
    rw [List.flatMap_cons, ← hrest]
    cases ha : Text.after? "$" a.2
    case none =>
      have hsame : Context.readAttr ⟨r, .globals, args⟩ a =
          Context.readAttr ⟨r, id, some (Build.arguments params given)⟩ a := by
        rw [readAttr_of_not_parameter ha, readAttr_of_not_parameter ha]
        rw [Registry.resolve?_of_bare h]
      rw [← hsame]
      simp [ha]
    case some parameter =>
      rw [readAttr_of_parameter ha, Option.bind_some, get?_arguments]
      cases hv : argument? params given parameter
      case none   => simp [ha, hv]
      case some v =>
        have hv' : readAttr ⟨r, .globals, args⟩ (a.1, v) = [(a.1, v)] :=
          readAttr_of_plain (hplain a (.head _) parameter ha v hv)
        simp [ha, hv, hv']

namespace DocState

def made? (d : DocState) : Option ObjId :=
  if d.frames.head? = some true then d.parent? else none

theorem made?_openFrame (d : DocState) (made : Option ObjId) : (d.openFrame made).made? = made := by
  cases made <;> rfl

end DocState

-- What attributes do when they are applied to an object that was made, unless there are none.
def Context.finish (c : Context) (p : Processor) (parent made : Option ObjId) (rest : Attrs)
    (s : Scene) : Scene :=
  match made with
  | none      => s
  | some root =>
    if rest = [] then s
    else
      let edits := (p.apply (c.env s) parent (some (.obj root)) rest).value
      edits.foldl (fun s (id, e) => s.edit id e) s

theorem Build.Becomes.made?_eq {b b' : Build} {s : Scene} (h : b.Becomes s b') :
    b'.doc.made? = b.doc.made? := by
  obtain ⟨_, _, rfl⟩ := h
  rfl

namespace Build

variable {setup : Setup} {inst : Instantiate} {b : Build} {attrs : Attrs} {body : Forest}
variable {p : Processor}

-- An element with its body, and then attributes that are applied to the object that it made.
def writeOut (setup : Setup) (inst : Instantiate) (b : Build) (p : Processor) (tag : String)
    (attrs : Attrs) (body : Forest) (rest : Attrs) : Build :=
  let opened := opening setup inst b tag attrs
  let closed := (replay setup inst opened body.events).closing tag
  match opened.doc.made? with
  | none      => closed
  | some root => if rest = [] then closed else (closed.setItem (some (.obj root))).apply p rest

theorem scene_writeOut {tag : String} (hr : b.doc.recording = none) (hd : 0 < b.doc.depth)
    (hlimit : b.doc.depth < setup.config.maxDepth) (hp : setup.widgets.get? tag = some p)
    (hbody : body.Within setup.widgets) (rest : Attrs) :
    let entered := b.context.enter setup.widgets b.doc.parent? tag attrs b.scene
    (writeOut setup inst b p tag attrs body rest).scene =
      b.context.finish p b.doc.parent? entered.1 rest
        (b.context.grow setup.widgets (setup.config.maxDepth - (b.doc.depth + 1))
          (entered.1.or b.doc.parent?) body entered.2) := by
  let opened := openChild setup inst (b.setDepth (b.doc.depth + 1)) tag attrs
  have hentered : ∃ entered, b.context.enter setup.widgets b.doc.parent? tag attrs b.scene =
      entered := ⟨_, rfl⟩
  obtain ⟨entered, hentered⟩ := hentered
  have hopen : ((b.setDepth (b.doc.depth + 1)).modifyDoc (·.openFrame entered.1)).Becomes
      entered.2 opened := hentered ▸ openChild_of_isSome (hp ▸ rfl) hlimit
  have hgrow := becomes_replay inst (hopen.recording_eq.trans hr)
    (hopen.depth_eq ▸ Nat.succ_pos _) hbody
  have hparent := hopen.parent?_eq.trans (parent?_openFrame _ _)
  have hmade : opened.doc.made? = entered.1 :=
    hopen.made?_eq.trans (DocState.made?_openFrame _ _)
  rw [hopen.depth_eq, hparent, hopen.context_eq, hopen.scene_eq] at hgrow
  have hleft := closing_of_entered hr hd tag (hopen.trans hgrow)
  unfold writeOut
  rw [opening_of_depth_pos hr hd, hentered]
  dsimp only
  rw [show (openChild _ _ _ _ _).doc.made? = _ from hmade]
  obtain ⟨made, s⟩ := entered
  cases made
  case none      => exact hleft.scene_eq
  case some root =>
    unfold Context.finish
    dsimp only
    split
    case isTrue  => exact hleft.scene_eq
    case isFalse =>
      obtain ⟨item, log, hclosed⟩ := hleft
      rw [show closing _ _ = _ from hclosed]
      rfl

theorem baseWidget_of_isSome {widgets : WidgetTable} {tag : String}
    (h : (widgets.get? tag).isSome) (r : Registry) (levels : Nat) :
    baseWidget widgets r levels tag = tag := by
  cases levels
  case zero => rfl
  case succ => simp [baseWidget, h]

theorem scene_applyRest {c : Component} (hp : setup.widgets.get? c.base = some p) (name : String)
    (root : ObjId) (rest : Attrs) :
    (applyRest setup b name c root rest).scene =
      b.context.finish p b.doc.parent? (some root) rest b.scene := by
  unfold applyRest Context.finish
  rw [baseWidget_of_isSome (hp ▸ rfl)]
  dsimp only
  rw [hp]
  cases rest <;> rfl

theorem scene_instantiate {levels : Nat} {id : ScopeId} {given : Attrs}
    (hcomp : b.registry.component? id = some
      ⟨attrs.base, .opening "view" attrs :: body.events ++ [.closing "view"]⟩)
    (hp : setup.widgets.get? attrs.base = some p) (hbody : body.Within setup.widgets) :
    let params := b.registry.params id
    let c : Context := ⟨b.registry, id, some (arguments params given)⟩
    let staged := c.stage setup b.doc.parent? attrs body b.scene
    (instantiate setup (levels + 1) b id given).1 = staged.1 ∧
      (instantiate setup (levels + 1) b id given).2.scene =
        b.context.finish p b.doc.parent? staged.1 (given.filter fun a => !params.contains a.1)
          staged.2 := by
  intro params c
  let doc : DocState := { DocState.begin id b.doc.parent? with
    arguments := some (arguments params given) }
  have hparent : doc.parent? = b.doc.parent? := by
    simp [doc, DocState.begin, DocState.parent?]
  have hshow : ({ b with doc } : Build).Shows (c.stage setup doc.parent? attrs body b.scene)
      (replay setup (instantiate setup levels) { b with doc }
        (.opening "view" attrs :: body.events ++ [.closing "view"])) :=
    shows_replay _ rfl rfl (hp ▸ rfl) hbody
  rw [hparent] at hshow
  obtain ⟨item, block, log, hinner⟩ := hshow
  unfold instantiate
  rw [hcomp]
  dsimp only
  rw [show replay setup _ _ _ = _ from hinner]
  generalize c.stage setup b.doc.parent? attrs body b.scene = staged
  obtain ⟨made, s⟩ := staged
  cases made
  case none      => exact ⟨rfl, rfl⟩
  case some root =>
    refine ⟨rfl, ?_⟩
    exact scene_applyRest (b := { b with scene := s, log }) (c := ⟨attrs.base, _⟩) hp _ root _

theorem createElement_eq_writeOut {levels depth : Nat} {tag : String} {id : ScopeId}
    {given : Attrs} (hscope : b.doc.scope = .globals) (hr : b.doc.recording = none)
    (htag : setup.widgets.get? tag = none) (hid : b.registry.componentScope? tag = some id)
    (hbare : ∀ kind name, b.registry.entry? kind id name = none)
    (hcomp : b.registry.component? id = some
      ⟨attrs.base, .opening "view" attrs :: body.events ++ [.closing "view"]⟩)
    (hp : setup.widgets.get? attrs.base = some p) (hbody : body.Within setup.widgets)
    (hplain : (Forest.element attrs.base attrs.ofBase false body .empty).Every fun _ as =>
      as.PlainIn (argument? (b.registry.params id) given))
    (hd : 0 < depth) (hlimit : depth + (body.height + 1) ≤ setup.config.maxDepth) :
    let params := b.registry.params id
    let substitute := Attrs.substitute (argument? params given)
    let inst := instantiate setup (levels + 1)
    (createElement setup inst b tag given).2.scene =
      (writeOut setup inst (b.setDepth depth) p attrs.base (substitute attrs.ofBase)
        (body.mapAttrs substitute) (given.filter fun a => !params.contains a.1)).scene := by
  intro params substitute inst
  let c : Context := ⟨b.registry, id, some (arguments params given)⟩
  have hagrees : b.context.Agrees (fun _ => True) c := by
    have h := Context.agrees_of_bare hbare b.doc.arguments c.arguments
    rwa [← hscope] at h
  have hsame {as : Attrs} (h : as.PlainIn (argument? params given)) :
      Context.SameAttrs (fun _ => True) b.context c (substitute as) as := by
    have h := Context.sameAttrs_substitute hbare h b.doc.arguments
    rwa [← hscope] at h
  obtain ⟨hroot, hinner, -⟩ := hplain
  have henter := Context.enter_congr (t := setup.widgets) hagrees b.doc.parent? attrs.base
    (hsame hroot) b.scene
  have hgrow (parent : Option ObjId) (s : Scene) :
      b.context.grow setup.widgets (setup.config.maxDepth - (depth + 1)) parent
        (body.mapAttrs substitute) s =
      c.grow setup.widgets (setup.config.maxDepth - 1) parent body s := by
    rw [Context.grow_congr hagrees (hinner.mono hsame)]
    exact Context.grow_levels (by omega) (by omega) parent s
  have hwritten : (body.mapAttrs substitute).Within setup.widgets := Forest.every_mapAttrs hbody
  have hcreate : (createElement setup inst b tag given).2.scene = (inst b id given).2.scene := by
    unfold createElement
    rw [htag]
    dsimp only
    rw [hid]
    dsimp only
    split
    case h_1 he => rw [he]
    case h_2 he => rw [he]; rfl
  rw [hcreate, (scene_instantiate hcomp hp hbody).2,
    scene_writeOut (b := b.setDepth depth) hr hd (show depth < _ by omega) hp hwritten]
  unfold Context.stage
  dsimp only
  rw [show (b.setDepth depth).context = b.context from rfl,
    show (b.setDepth depth).doc.parent? = b.doc.parent? from rfl,
    show (b.setDepth depth).scene = b.scene from rfl,
    show (b.setDepth depth).doc.depth = depth from rfl]
  rw [henter, hgrow]

theorem label_eq_writeOut :
    let attrs : Attrs := [("extends", "label"), ("text", "$t")]
    let body : Forest := .element "style" [("name", "$s")] true .empty .empty
    let component : Component :=
      ⟨"label", .opening "view" attrs :: body.events ++ [.closing "view"]⟩
    let registry : Registry := { scopes := #[{ name := "globals" },
      { name := "c", params := [("t", some "no"), ("s", none)], component := some component }] }
    let b : Build :=
      { registry, scene := (Scene.empty.push .obj none).2, doc := .begin .globals (some ⟨0⟩) }
    let given : Attrs := [("t", "yes"), ("width", "10")]
    let substitute := Attrs.substitute (argument? (b.registry.params ⟨1⟩) given)
    let inst := instantiate {} 1
    (createElement {} inst b "c" given).2.scene.size = 2 ∧
      (createElement {} inst b "c" given).2.scene =
        (writeOut {} inst (b.setDepth 1) (.widget .label) attrs.base (substitute attrs.ofBase)
          (body.mapAttrs substitute)
          (given.filter fun a => !(b.registry.params ⟨1⟩).contains a.1)).scene := by
  intro attrs body component registry b given substitute inst
  have hbare (kind : EntryKind) (name : String) : b.registry.entry? kind ⟨1⟩ name = none := by
    cases kind <;> rfl
  exact ⟨by decide +kernel, createElement_eq_writeOut rfl rfl (by decide +kernel)
    (by decide +kernel) hbare (by decide +kernel) (by decide +kernel)
    (by decide +kernel) (by decide +kernel) (by decide) (by decide)⟩

-- Why the conditions are there. Without further attributes the root's processor is not run a second
-- time, which a processor that removes styles would show; a component with the name of a table tag
-- is never made; and a caller that records would record the view, but not the instance.
theorem not_written_out_always :
    let view (base : String) (body : Forest) : Component :=
      ⟨base, .opening "view" [("extends", base)] :: body.events ++ [.closing "view"]⟩
    let style : StyleEntry := ⟨"s", "globals.s", .globals, .empty⟩
    let body : Forest := .element "style" [("name", "s")] true .empty .empty
    let registry : Registry := {
      scopes := #[
        { name := "globals", styles := [("s", ⟨0⟩)] },
        { name := "c", component := some (view "remove_style_all" body) },
        { name := "label", component := some (view "button" .empty) },
        { name := "d", component := some (view "obj" .empty) }]
      styles := #[style] }
    let b : Build :=
      { registry, scene := (Scene.empty.push .obj none).2, doc := .begin .globals (some ⟨0⟩) }
    let recording : Build := b.modifyDoc fun d => { d with recording := some #[] }
    let inst := instantiate {} 1
    let written (b : Build) (p : Processor) (base : String) (body : Forest) (root : ObjId) :=
      ((replay {} inst (b.setDepth 1) (Forest.element base [] false body .empty).events).setItem
        (some (.obj root))).apply p []
    (createElement {} inst b "c" []).2.scene ≠
        (written b (.modifier .removeStyles) "remove_style_all" body ⟨0⟩).scene ∧
      (createElement {} inst b "label" []).2.scene ≠
        (written b (.widget .button) "button" .empty ⟨1⟩).scene ∧
      (createElement {} inst recording "d" []).2.scene ≠
        (written recording (.widget .obj) "obj" .empty ⟨1⟩).scene := by
  decide +kernel

end Build

end UiMarkup
