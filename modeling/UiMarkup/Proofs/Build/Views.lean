import UiMarkup.Proofs.Build.Elements

namespace UiMarkup

open Markup

namespace Attrs

def base (attrs : Attrs) : String :=
  (attrs.get? "extends").getD "obj"

def ofBase (attrs : Attrs) : Attrs :=
  attrs.filter (·.1 ≠ "extends")

end Attrs

def Context.stage (c : Context) (setup : Setup) (parent : Option ObjId) (attrs : Attrs)
    (body : Forest) (s : Scene) : Option ObjId × Scene :=
  let (made, s) := c.enter setup.widgets parent attrs.base attrs.ofBase s
  (made, c.grow setup.widgets (setup.config.maxDepth - 1) (made.or parent) body s)

namespace Build

variable {setup : Setup} {inst : Instantiate} {b b' : Build} {s : Scene}

-- A view was shown: besides what elements change, the document has an answer.
def Shows (b : Build) (out : Option ObjId × Scene) (b' : Build) : Prop :=
  ∃ item block log,
    b' = { b with doc := { b.doc with item, block, view := out.1 }, scene := out.2, log }

theorem openRoot_of_isSome (inst : Instantiate) {attrs : Attrs}
    (ht : (setup.widgets.get? attrs.base).isSome) :
    let entered := b.context.enter setup.widgets b.doc.parent? attrs.base attrs.ofBase b.scene
    (b.modifyDoc fun d => { d with view := entered.1 }.openFrame entered.1).Becomes entered.2
      (openRoot setup inst b attrs) := by
  have ⟨hmade, item, log, hdone⟩ := createElement_resolved inst (b := b) ht attrs.ofBase
  unfold openRoot
  dsimp only at hmade hdone ⊢
  rw [show (attrs.get? "extends").getD "obj" = attrs.base from rfl,
    show attrs.filter (·.1 ≠ "extends") = attrs.ofBase from rfl, hmade, hdone]
  exact ⟨item, log, rfl⟩

def enterView (b : Build) : Build :=
  (b.modifyDoc fun d => { d with block := .view }).setDepth 1

theorem opening_view (hd : b.doc.depth = 0) (attrs : Attrs) :
    opening setup inst b "view" attrs =
      b.enterView.recordOr (.opening "view" attrs) fun b => openRoot setup inst b attrs := by
  have hblock : b.doc.block.begun? "view" = some .view := rfl
  unfold opening
  rw [if_neg (fun h => h hd), if_neg (by decide), hblock]
  rfl

theorem recordOr_of_none (hr : b.doc.recording = none) (e : Event) (f : Build → Build) :
    b.recordOr e f = f b := by
  rw [recordOr, hr]

theorem endEntry_other {tag : String} (hshape : (gradientShape? tag).isSome = false)
    (htimeline : tag ≠ "timeline") : b.endEntry tag = b := by
  unfold endEntry
  split
  case h_1 => simp [hshape]
  case h_2 => simp [htimeline]
  case h_3 => rfl

theorem endEntry_view : b.endEntry "view" = b :=
  endEntry_other rfl (by decide)

theorem closing_view (hr : b.doc.recording = none) (hd : b.doc.depth = 0) {made : Option ObjId}
    (h : (b.enterView.modifyDoc fun d => { d with view := made }.openFrame made).Becomes s b') :
    b.Shows (made, s) (b'.closing "view") := by
  obtain ⟨item, log, rfl⟩ := h
  refine ⟨item, .none, log, ?_⟩
  simp only [closing, recordOr, enterView, modifyDoc, setDepth, DocState.openFrame, hr, closeBlock,
    endEntry_view, if_true, ← hd]
  cases made
  case none   => rfl
  case some _ => rfl

theorem replay_view (attrs : Attrs) (body : Forest) :
    replay setup inst b (.opening "view" attrs :: body.events ++ [.closing "view"]) =
      (replay setup inst (opening setup inst b "view" attrs) body.events).closing "view" := by
  simp [replay, step]

theorem shows_replay (inst : Instantiate) (hr : b.doc.recording = none) (hd : b.doc.depth = 0)
    {attrs : Attrs} (ht : (setup.widgets.get? attrs.base).isSome) {body : Forest}
    (hbody : body.Within setup.widgets) :
    b.Shows (b.context.stage setup b.doc.parent? attrs body b.scene)
      (replay setup inst b (.opening "view" attrs :: body.events ++ [.closing "view"])) := by
  rw [replay_view, opening_view hd, recordOr_of_none (b := b.enterView) hr]
  have hopen := openRoot_of_isSome inst (b := b.enterView) ht
  have hgrow := becomes_replay inst (hopen.recording_eq.trans hr)
    (hopen.depth_eq ▸ Nat.one_pos) hbody
  have hp := hopen.parent?_eq.trans (parent?_openFrame _ _)
  rw [hopen.depth_eq, hp, hopen.context_eq, hopen.scene_eq] at hgrow
  exact closing_view hr hd (hopen.trans hgrow)

end Build

end UiMarkup
