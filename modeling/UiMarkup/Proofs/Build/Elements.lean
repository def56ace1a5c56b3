import UiMarkup.Build.View
import UiMarkup.Markup.Forest

namespace UiMarkup

open Markup

-- What the names and references of an element are looked up in.
structure Context where
  registry  : Registry
  scope     : ScopeId
  arguments : Option Attrs

namespace Context

def env (c : Context) (s : Scene) : Env where
  registry    := c.registry
  scope       := c.scope
  subjectKind := s.subjectKind?

def read (c : Context) (attrs : Attrs) : Attrs :=
  let doc : DocState := { scope := c.scope, arguments := c.arguments }
  (Build.resolveAttrs { doc, registry := c.registry } attrs).value

def readAttr (c : Context) (a : String × String) : Attrs :=
  let doc : DocState := { scope := c.scope, arguments := c.arguments }
  (Build.resolveAttr { doc, registry := c.registry } a).value

theorem read_eq (c : Context) (attrs : Attrs) : c.read attrs = attrs.flatMap c.readAttr :=
  Noted.value_collect _ _

theorem readAttr_of_parameter {c : Context} {a : String × String} {parameter : String}
    (h : Text.after? "$" a.2 = some parameter) :
    c.readAttr a = ((c.arguments.bind (·.get? parameter)).map (a.1, ·)).toList := by
  simp only [readAttr, Build.resolveAttr, h]
  split
  case h_1 hv => rw [hv]; rfl
  case h_2 hv => rw [hv]; rfl

theorem readAttr_of_not_parameter {c : Context} {a : String × String}
    (h : Text.after? "$" a.2 = none) :
    c.readAttr a = ((c.registry.resolve? c.scope a.2).value.map (a.1, ·)).toList := by
  simp only [readAttr, Build.resolveAttr, h]
  rfl

def perform (c : Context) (p : Processor) (parent : Option ObjId) (attrs : Attrs) (s : Scene) :
    Option Item × Scene :=
  match (p.create (c.env s) parent attrs s).value with
  | (none, s)      => (none, s)
  | (some item, s) =>
    let edits := (p.apply (c.env s) parent (some item) attrs).value
    (some item, edits.foldl (fun s (id, e) => s.edit id e) s)

def enter (c : Context) (t : WidgetTable) (parent : Option ObjId) (tag : String) (attrs : Attrs)
    (s : Scene) : Option ObjId × Scene :=
  match t.get? tag with
  | none   => (none, s)
  | some p =>
    let (item, s) := c.perform p parent (c.read attrs) s
    (item.bind Item.obj?, s)

-- The scene after some elements, of which `levels` may be nested in each other.
def grow (c : Context) (t : WidgetTable) : (levels : Nat) → (parent : Option ObjId) → Forest →
    Scene → Scene
  | _, _, .empty, s => s
  | 0, _, .element .., s => s
  | levels + 1, parent, .element tag attrs _ body rest, s =>
    let (made, s) := c.enter t parent tag attrs s
    let s := c.grow t levels (made.or parent) body s
    c.grow t (levels + 1) parent rest s

@[simp] theorem grow_zero (c : Context) (t : WidgetTable) (parent : Option ObjId) (f : Forest)
    (s : Scene) : c.grow t 0 parent f s = s := by
  cases f <;> rfl

end Context

namespace Markup.Forest

def Within (t : WidgetTable) : Forest → Prop :=
  Every fun tag _ => (t.get? tag).isSome

instance {t : WidgetTable} {f : Forest} : Decidable (f.Within t) :=
  Every.decidable f

end Markup.Forest

namespace Build

variable {setup : Setup} {inst : Instantiate} {b b' : Build} {s : Scene}

def context (b : Build) : Context where
  registry  := b.registry
  scope     := b.doc.scope
  arguments := b.doc.arguments

-- The scene is another one; apart from that, only the current item and the log may be.
def Becomes (b : Build) (s : Scene) (b' : Build) : Prop :=
  ∃ item log, b' = { b with doc := { b.doc with item }, scene := s, log }

namespace Becomes

theorem refl : b.Becomes b.scene b :=
  ⟨b.doc.item, b.log, rfl⟩

theorem trans {b₁ b₂ b₃ : Build} {s s' : Scene} (h₁ : b₁.Becomes s b₂) (h₂ : b₂.Becomes s' b₃) :
    b₁.Becomes s' b₃ := by
  obtain ⟨_, _, rfl⟩ := h₁
  obtain ⟨item, log, rfl⟩ := h₂
  exact ⟨item, log, rfl⟩

variable (h : b.Becomes s b')
include h

theorem scene_eq : b'.scene = s := by
  obtain ⟨_, _, rfl⟩ := h
  rfl

theorem context_eq : b'.context = b.context := by
  obtain ⟨_, _, rfl⟩ := h
  rfl

theorem depth_eq : b'.doc.depth = b.doc.depth := by
  obtain ⟨_, _, rfl⟩ := h
  rfl

theorem parent?_eq : b'.doc.parent? = b.doc.parent? := by
  obtain ⟨_, _, rfl⟩ := h
  rfl

theorem recording_eq : b'.doc.recording = b.doc.recording := by
  obtain ⟨_, _, rfl⟩ := h
  rfl

end Becomes

theorem env_eq : b.env = b.context.env b.scene := rfl

theorem createElement_of_get? (inst : Instantiate) {p : Processor} {tag : String}
    (hp : setup.widgets.get? tag = some p) (attrs : Attrs) :
    let done := b.context.perform p b.doc.parent? attrs b.scene
    (createElement setup inst b tag attrs).1 = done.1 ∧
      b.Becomes done.2 (createElement setup inst b tag attrs).2 := by
  unfold createElement Context.perform Build.make
  simp only [hp, env_eq]
  generalize p.create (b.context.env b.scene) b.doc.parent? attrs b.scene = made
  obtain ⟨⟨item, s⟩, notes⟩ := made
  cases item
  case none      => exact ⟨rfl, _, _, rfl⟩
  case some item => exact ⟨rfl, _, _, rfl⟩

theorem createElement_resolved (inst : Instantiate) {tag : String}
    (ht : (setup.widgets.get? tag).isSome) (attrs : Attrs) :
    let read := b.take (b.resolveAttrs attrs)
    let entered := b.context.enter setup.widgets b.doc.parent? tag attrs b.scene
    (createElement setup inst read.2 tag read.1).1.bind Item.obj? = entered.1 ∧
      b.Becomes entered.2 (createElement setup inst read.2 tag read.1).2 := by
  obtain ⟨p, hp⟩ := Option.isSome_iff_exists.mp ht
  have ⟨hmade, item, log, hdone⟩ := createElement_of_get? inst
    (b := b.noteAll (b.resolveAttrs attrs).notes) hp (b.resolveAttrs attrs).value
  unfold Context.enter
  rw [hp]
  exact ⟨congrArg (Option.bind · Item.obj?) hmade, item, log, hdone⟩

theorem openChild_of_isSome {tag : String} {attrs : Attrs} (ht : (setup.widgets.get? tag).isSome)
    (hd : b.doc.depth ≤ setup.config.maxDepth) :
    let entered := b.context.enter setup.widgets b.doc.parent? tag attrs b.scene
    (b.modifyDoc (·.openFrame entered.1)).Becomes entered.2 (openChild setup inst b tag attrs) := by
  have ⟨hmade, item, log, hdone⟩ := createElement_resolved inst (b := b) ht attrs
  unfold openChild
  rw [if_neg (Nat.not_lt.mpr hd)]
  dsimp only at hmade hdone ⊢
  rw [hmade, hdone]
  exact ⟨item, log, rfl⟩

theorem openChild_of_depth_gt {tag : String} {attrs : Attrs}
    (hd : setup.config.maxDepth < b.doc.depth) :
    (b.modifyDoc (·.openFrame none)).Becomes b.scene (openChild setup inst b tag attrs) := by
  unfold openChild
  rw [if_pos hd]
  exact ⟨_, _, rfl⟩

theorem opening_of_depth_pos (hr : b.doc.recording = none) (hd : 0 < b.doc.depth) (tag : String)
    (attrs : Attrs) :
    opening setup inst b tag attrs =
      openChild setup inst (b.setDepth (b.doc.depth + 1)) tag attrs := by
  unfold opening recordOr
  rw [if_pos (Nat.ne_of_gt hd)]
  split
  case h_1 h => cases hr.symm.trans h
  case h_2   => rfl

theorem closing_of_entered (hr : b.doc.recording = none) (hd : 0 < b.doc.depth)
    {made : Option ObjId} (tag : String)
    (h : ((b.setDepth (b.doc.depth + 1)).modifyDoc (·.openFrame made)).Becomes s b') :
    b.Becomes s (b'.closing tag) := by
  obtain ⟨item, log, rfl⟩ := h
  refine ⟨item, log, ?_⟩
  simp only [closing, recordOr, modifyDoc, setDepth, DocState.openFrame, hr, Nat.ne_of_gt hd,
    if_false]
  cases made
  case none   => rfl
  case some _ => rfl

theorem parent?_openFrame (d : DocState) (made : Option ObjId) :
    (d.openFrame made).parent? = made.or d.parent? := by
  cases made <;> rfl

theorem replay_element (tag : String) (attrs : Attrs) (brief : Bool) (body rest : Forest) :
    replay setup inst b (Forest.element tag attrs brief body rest).events =
      replay setup inst
        ((replay setup inst (opening setup inst b tag attrs) body.events).closing tag)
        rest.events := by
  simp [replay, Forest.events, step]

theorem becomes_replay (inst : Instantiate) (hr : b.doc.recording = none) (hd : 0 < b.doc.depth)
    {f : Forest} (hf : f.Within setup.widgets) :
    b.Becomes (b.context.grow setup.widgets (setup.config.maxDepth - b.doc.depth) b.doc.parent? f
      b.scene) (replay setup inst b f.events) := by
  induction f generalizing b
  case empty => exact .refl
  case element tag attrs brief body rest hbody hrest =>
    obtain ⟨htag, hwbody, hwrest⟩ := hf
    rw [replay_element, opening_of_depth_pos hr hd]
    -- The body is built below the object that the element made, then that is left again, and what
    -- follows is built where the element was.
    let opened := openChild setup inst (b.setDepth (b.doc.depth + 1)) tag attrs
    have hdone {made : Option ObjId} {s : Scene}
        (hopen : ((b.setDepth (b.doc.depth + 1)).modifyDoc (·.openFrame made)).Becomes s opened) :
        b.Becomes
          (b.context.grow setup.widgets (setup.config.maxDepth - b.doc.depth) b.doc.parent? rest
            (b.context.grow setup.widgets (setup.config.maxDepth - (b.doc.depth + 1))
              (made.or b.doc.parent?) body s))
          (replay setup inst ((replay setup inst opened body.events).closing tag) rest.events) := by
      have hbody₁ := hbody (hopen.recording_eq.trans hr) (hopen.depth_eq ▸ Nat.succ_pos _) hwbody
      have hp := hopen.parent?_eq.trans (parent?_openFrame _ made)
      rw [hopen.depth_eq, hp, hopen.context_eq, hopen.scene_eq] at hbody₁
      have hleft := closing_of_entered hr hd tag (hopen.trans hbody₁)
      have hrest₁ := hrest (hleft.recording_eq.trans hr) (hleft.depth_eq ▸ hd) hwrest
      rw [hleft.depth_eq, hleft.parent?_eq, hleft.context_eq, hleft.scene_eq] at hrest₁
      exact hleft.trans hrest₁
    by_cases hdeep : setup.config.maxDepth < b.doc.depth + 1
    case pos =>
      have hskip := hdone (openChild_of_depth_gt hdeep)
      have h₁ : setup.config.maxDepth - b.doc.depth = 0 := by omega
      have h₂ : setup.config.maxDepth - (b.doc.depth + 1) = 0 := by omega
      rw [h₁, h₂, Context.grow_zero, Context.grow_zero] at hskip
      rw [h₁, Context.grow_zero]
      exact hskip
    case neg =>
      have hbuild := hdone (openChild_of_isSome htag (Nat.not_lt.mp hdeep))
      have hl : setup.config.maxDepth - b.doc.depth =
          setup.config.maxDepth - (b.doc.depth + 1) + 1 := by omega
      rw [hl] at hbuild ⊢
      exact hbuild

end Build

end UiMarkup