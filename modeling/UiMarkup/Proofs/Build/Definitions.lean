import UiMarkup.Proofs.Build.Documents
import UiMarkup.Proofs.Registry.Define

namespace UiMarkup

open Markup

namespace Build

def otherBlocks : List String :=
  ["gradients", "styles", "images", "fonts", "subjects", "animation", "include_timeline",
    "timeline"]

end Build

-- No other blocks begin outside of the views. In the views there may be anything.
def Markup.Forest.OnlyDefines : Forest → Prop
  | empty => True
  | element tag _ _ body rest =>
    (tag = "view" ∨ tag ∉ Build.otherBlocks ∧ body.OnlyDefines) ∧ rest.OnlyDefines

instance Markup.Forest.OnlyDefines.decidable : (f : Forest) → Decidable f.OnlyDefines
  | .empty => .isTrue trivial
  | .element tag _ _ body rest =>
    have := OnlyDefines.decidable body
    have := OnlyDefines.decidable rest
    inferInstanceAs (Decidable
      ((tag = "view" ∨ tag ∉ Build.otherBlocks ∧ body.OnlyDefines) ∧ rest.OnlyDefines))

def Block.Defines (s : Block) : Prop :=
  s = .none ∨ s = .api ∨ s = .consts

-- What comes of a part of a document: a change of its scope, which keeps its name, boundaries of
-- views, reports, and the block that is left open.
structure Definition where
  change  : Scope → Scope      := id
  events  : List Event         := []
  notes   : List Diagnostic    := []
  block   : Block
  name_eq : ∀ s, (change s).name = s.name := by intro _; rfl
  defines : block.Defines

namespace Definition

def andThen (d e : Definition) : Definition where
  change  := e.change ∘ d.change
  events  := d.events ++ e.events
  notes   := d.notes ++ e.notes
  block   := e.block
  name_eq := fun s => (e.name_eq _).trans (d.name_eq s)
  defines := e.defines

end Definition

namespace Build

def define (b : Build) (d : Definition) : Build where
  doc      := { b.doc with block := d.block, recording := b.doc.recording.map (· ++ d.events) }
  registry := b.registry.modify b.doc.scope d.change
  scene    := b.scene
  log      := b.log.appendList d.notes

structure Ready (s : Block) (b : Build) : Prop where
  block     : b.doc.block = s
  depth     : b.doc.depth = 0
  pending   : b.doc.pending = none
  recording : b.doc.recording.isSome
  knows     : b.registry.knows b.doc.scope

-- What comes of it does not depend on the registry and the scene.
def Yields (s : Block) (f : Build → Build) : Prop :=
  ∃ d : Definition, ∀ b, Ready s b → f b = b.define d

variable {setup : Setup} {inst : Instantiate} {b : Build} {s : Block} {tag : String}

theorem define_andThen {d e : Definition} : (b.define d).define e = b.define (d.andThen e) := by
  have happend {α : Type} (xs : Array α) (l₁ l₂ : List α) : xs ++ l₁ ++ l₂ = xs ++ (l₁ ++ l₂) :=
    Array.toList_inj.mp (by simp)
  simp [define, Definition.andThen, Registry.modify_modify, Function.comp_def, happend]

theorem define_of_events_eq {d : Definition} (h : d.events = []) : b.define d =
    { b with
      doc      := { b.doc with block := d.block }
      registry := b.registry.modify b.doc.scope d.change
      log      := b.log.appendList d.notes } := by
  have hnil (xs : Array Event) : xs ++ ([] : List Event) = xs := Array.toList_inj.mp (by simp)
  simp [define, h, hnil]

theorem Ready.define (h : Ready s b) (d : Definition) : Ready d.block (b.define d) where
  block     := rfl
  depth     := h.depth
  pending   := h.pending
  recording := by simpa [Build.define] using h.recording
  knows     := by
    have hsize : (b.define d).registry.scopes.size = b.registry.scopes.size := Array.size_modify ..
    exact Nat.lt_of_lt_of_eq h.knows hsize.symm

namespace Yields

theorem trans {f g : Build → Build} (hf : Yields s f)
    (hg : ∀ s : Block, s.Defines → Yields s g) : Yields s fun b => g (f b) := by
  obtain ⟨d, hd⟩ := hf
  obtain ⟨e, he⟩ := hg d.block d.defines
  refine ⟨d.andThen e, fun b hb => ?_⟩
  dsimp only
  rw [hd b hb, he _ (hb.define d), define_andThen]

theorem congr {f g : Build → Build} (hg : Yields s g) (hf : ∀ b, Ready s b → f b = g b) :
    Yields s f := by
  obtain ⟨d, hd⟩ := hg
  exact ⟨d, fun b hb => (hf b hb).trans (hd b hb)⟩

theorem of_block {f : Build → Build} {block : Block} (hblock : block.Defines)
    (hf : ∀ b, Ready s b → f b = b.modifyDoc fun d => { d with block }) : Yields s f := by
  refine ⟨{ block, defines := hblock }, fun b hb => (hf b hb).trans ?_⟩
  rw [define_of_events_eq rfl, show b.registry.modify b.doc.scope id = _ from Registry.modify_id]
  simp [modifyDoc]

theorem idle {f : Build → Build} (hs : s.Defines) (hf : ∀ b, Ready s b → f b = b) : Yields s f :=
  of_block hs fun b hb => (hf b hb).trans (by simp [modifyDoc, ← hb.block])

theorem note {f : Build → Build} (hs : s.Defines) (d : Diagnostic)
    (hf : ∀ b, Ready s b → f b = b.note d) : Yields s f := by
  refine ⟨{ block := s, defines := hs, notes := [d] }, fun b hb => (hf b hb).trans ?_⟩
  rw [define_of_events_eq rfl, show b.registry.modify b.doc.scope id = _ from Registry.modify_id]
  simp [Build.note, ← hb.block]

theorem change {f : Build → Build} (hs : s.Defines) (change : Scope → Scope)
    (hname : ∀ s, (change s).name = s.name) {refused : RegistryError → Diagnostic}
    (hf : ∀ b, Ready s b → f b = b.keep refused (b.registry.modifyScope b.doc.scope change)) :
    Yields s f := by
  refine ⟨{ block := s, defines := hs, change, name_eq := hname }, fun b hb => (hf b hb).trans ?_⟩
  have hok : b.registry.modifyScope b.doc.scope change =
      .ok (b.registry.modify b.doc.scope change) := if_pos hb.knows
  rw [define_of_events_eq rfl, hok]
  simp [keep, ← hb.block]

end Yields

theorem yields_paramEntry (hs : s.Defines) (attrs : Attrs) :
    Yields s fun b => b.paramEntry tag attrs := by
  unfold paramEntry
  split
  case isTrue  => exact .note hs _ fun _ _ => rfl
  case isFalse =>
    split
    case h_1        => exact .note hs _ fun _ _ => rfl
    case h_2 name _ =>
      let change (s : Scope) : Scope :=
        { s with params := s.params.set name (attrs.get? "default") }
      exact .change hs change (fun _ => rfl) fun _ _ => rfl

theorem yields_constEntry (hs : s.Defines) (attrs : Attrs) :
    Yields s fun b => b.constEntry tag attrs := by
  unfold constEntry
  split
  case h_1 name value _ _ =>
    exact .change hs (·.set .const name value) (fun s => s.name_set ..) fun _ _ => rfl
  case h_2 => exact .note hs _ fun _ _ => rfl

theorem yields_entry (hs : s.Defines) (c : Config) (tag : String) (attrs : Attrs) :
    Yields s fun b => entry c b tag attrs := by
  have hentry (b : Build) (hb : Ready s b) :
      entry c b tag attrs = match s with
        | .api    => b.paramEntry tag attrs
        | .consts => b.constEntry tag attrs
        | _       => b.note (.outsideSection tag) := by
    unfold entry
    rw [hb.block]
    obtain rfl | rfl | rfl := hs <;> rfl
  obtain rfl | rfl | rfl := id hs
  · exact .note hs _ hentry
  · exact (yields_paramEntry hs attrs).congr hentry
  · exact (yields_constEntry hs attrs).congr hentry

theorem begun?_of_defines (hs : s.Defines) (hview : tag ≠ "view") (hother : tag ∉ otherBlocks) :
    s.begun? tag = none ∨
      ∃ block : Block, s.begun? tag = some block ∧ block.Defines ∧ tag ∉ entryTags := by
  have hstops : s ≠ .gradients := by
    obtain rfl | rfl | rfl := hs <;> decide
  unfold Block.begun?
  split
  case h_1  => exact .inr ⟨.api, rfl, .inr (.inl rfl), by decide⟩
  case h_3  => rw [if_neg hstops]; exact .inl rfl
  case h_4  => exact .inr ⟨.consts, rfl, .inr (.inr rfl), by decide⟩
  case h_12 => exact absurd rfl hview
  case h_13 => exact .inl rfl
  all_goals exact absurd (by decide) hother

theorem yields_opening (hs : s.Defines) (hview : tag ≠ "view") (hother : tag ∉ otherBlocks)
    (attrs : Attrs) : Yields s fun b => opening setup inst b tag attrs := by
  by_cases hwrapper : tag ∈ wrappers
  case pos => exact .idle hs fun b hb => opening_wrapper hb.depth hwrapper attrs
  case neg =>
    obtain hnone | ⟨block, hblock, hdefines, htag⟩ := begun?_of_defines hs hview hother
    · refine (yields_entry hs setup.config tag attrs).congr fun b hb => ?_
      rw [opening, if_neg (fun h => h hb.depth), if_neg hwrapper, hb.block, hnone]
    · refine .of_block hdefines fun b hb => ?_
      rw [opening, if_neg (fun h => h hb.depth), if_neg hwrapper, hb.block, hblock]
      dsimp only
      rw [if_neg hview, if_neg htag]

theorem yields_closing (hs : s.Defines) (tag : String) : Yields s fun b => b.closing tag := by
  have hstop : (s.stop tag).Defines := by
    unfold Block.stop
    obtain rfl | rfl | rfl := hs <;> split <;> simp [Block.Defines]
  refine .of_block hstop fun b hb => ?_
  unfold closing closeBlock endEntry
  rw [hb.depth, hb.pending]
  simp only [modifyDoc, hb.block]

theorem yields_view (attrs : Attrs) (body : Forest) :
    Yields s fun b =>
      replay setup inst b (.opening "view" attrs :: body.events ++ [.closing "view"]) := by
  let events := Event.opening "view" attrs :: body.events ++ [.closing "view"]
  refine ⟨{ block := .none, defines := .inl rfl, events }, fun b hb => ?_⟩
  have hmodify : b.registry.modify b.doc.scope id = b.registry := Registry.modify_id
  dsimp only
  rw [keepEvents_replay_view inst hb.recording hb.depth]
  simp [define, keepEvents, modifyDoc, hmodify, events]

theorem yields_replay {f : Forest} (hf : f.OnlyDefines) (hs : s.Defines) :
    Yields s fun b => replay setup inst b f.events := by
  induction f generalizing s
  case empty => exact .idle hs fun _ _ => rfl
  case element tag attrs brief body rest hbody hrest =>
    obtain ⟨htag, hfrest⟩ := hf
    by_cases hview : tag = "view"
    case pos =>
      subst hview
      have hview : Yields s fun b =>
          replay setup inst b (.opening "view" attrs :: body.events ++ [.closing "view"]) :=
        yields_view attrs body
      exact (hview.trans fun _ => hrest hfrest).congr fun _ _ => replay_first_element ..
    case neg =>
      obtain ⟨hother, hfbody⟩ := htag.resolve_left hview
      have hopen : Yields s fun b => opening setup inst b tag attrs :=
        yields_opening hs hview hother attrs
      have helement :=
        (hopen.trans fun _ => hbody hfbody).trans fun _ hs => yields_closing hs tag
      exact (helement.trans fun _ => hrest hfrest).congr fun _ _ => replay_element ..

end Build

end UiMarkup
