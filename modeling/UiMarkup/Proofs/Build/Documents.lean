import UiMarkup.Proofs.Build.Contexts
import UiMarkup.Proofs.Build.Views

namespace UiMarkup

open Markup

namespace Markup.Forest

def OnlyViews (t : WidgetTable) : Forest → Prop
  | empty => True
  | element tag attrs _ body rest =>
    (if tag ∈ Build.wrappers then body.OnlyViews t
     else tag = "view" ∧ (t.get? attrs.base).isSome ∧ body.Within t) ∧ rest.OnlyViews t

instance OnlyViews.decidable {t : WidgetTable} : (f : Forest) → Decidable (f.OnlyViews t)
  | empty => .isTrue trivial
  | element tag attrs _ body rest =>
    have := OnlyViews.decidable (t := t) body
    have := OnlyViews.decidable (t := t) rest
    inferInstanceAs (Decidable ((if tag ∈ Build.wrappers then body.OnlyViews t
      else tag = "view" ∧ (t.get? attrs.base).isSome ∧ body.Within t) ∧ rest.OnlyViews t))

def viewEvents : Forest → List Event
  | empty => []
  | element tag attrs _ body rest =>
    if tag ∈ Build.wrappers then body.viewEvents ++ rest.viewEvents
    else .opening tag attrs :: body.events ++ [.closing tag] ++ rest.viewEvents

end Markup.Forest

-- What the views of a document do, one after the other: the latest answer, and the scene.
def Context.stageAll (c : Context) (setup : Setup) (parent : Option ObjId) : Forest →
    Option ObjId × Scene → Option ObjId × Scene
  | .empty, out => out
  | .element tag attrs _ body rest, out =>
    c.stageAll setup parent rest <|
      if tag ∈ Build.wrappers then c.stageAll setup parent body out
      else c.stage setup parent attrs body out.2

theorem Context.stageAll_congr {ok : String → Prop} {c₁ c₂ : Context} (h : c₁.Agrees ok c₂)
    {f : Forest} (hf : f.Every fun _ attrs =>
      SameAttrs ok c₁ c₂ attrs attrs ∧ SameAttrs ok c₁ c₂ attrs.ofBase attrs.ofBase)
    (setup : Setup) (parent : Option ObjId) (out : Option ObjId × Scene) :
    c₁.stageAll setup parent f out = c₂.stageAll setup parent f out := by
  induction f generalizing out
  case empty => rfl
  case element tag attrs brief body rest hbody hrest =>
    obtain ⟨hattrs, hfbody, hfrest⟩ := hf
    have hgrow (levels : Nat) (parent : Option ObjId) (s : Scene) :
        c₁.grow setup.widgets levels parent body s =
          c₂.grow setup.widgets levels parent body s := by
      have hbody : body.Every fun _ as => SameAttrs ok c₁ c₂ (id as) as := hfbody.mono And.left
      rw [← grow_congr h hbody, Forest.mapAttrs_id]
    have hstage (s : Scene) : c₁.stage setup parent attrs body s =
        c₂.stage setup parent attrs body s := by
      unfold stage
      rw [enter_congr h parent attrs.base hattrs.2]
      dsimp only
      rw [hgrow]
    unfold stageAll
    rw [hrest hfrest, hbody hfbody, hstage]

namespace Build

variable {setup : Setup} {inst : Instantiate} {b b' : Build} {out : Option ObjId × Scene}

namespace Shows

theorem refl : b.Shows (b.doc.view, b.scene) b :=
  ⟨b.doc.item, b.doc.block, b.log, rfl⟩

theorem trans {b₁ b₂ b₃ : Build} {out' : Option ObjId × Scene} (h₁ : b₁.Shows out b₂)
    (h₂ : b₂.Shows out' b₃) : b₁.Shows out' b₃ := by
  obtain ⟨_, _, _, rfl⟩ := h₁
  obtain ⟨item, block, log, rfl⟩ := h₂
  exact ⟨item, block, log, rfl⟩

variable (h : b.Shows out b')
include h

theorem out_eq : (b'.doc.view, b'.scene) = out := by
  obtain ⟨_, _, _, rfl⟩ := h
  rfl

theorem context_eq : b'.context = b.context := by
  obtain ⟨_, _, _, rfl⟩ := h
  rfl

theorem depth_eq : b'.doc.depth = b.doc.depth := by
  obtain ⟨_, _, _, rfl⟩ := h
  rfl

theorem parent?_eq : b'.doc.parent? = b.doc.parent? := by
  obtain ⟨_, _, _, rfl⟩ := h
  rfl

theorem recording_eq : b'.doc.recording = b.doc.recording := by
  obtain ⟨_, _, _, rfl⟩ := h
  rfl

theorem stageAll {rest : Forest} {b₂ : Build}
    (hrest : b'.Shows
      (b'.context.stageAll setup b'.doc.parent? rest (b'.doc.view, b'.scene)) b₂) :
    b.Shows (b.context.stageAll setup b.doc.parent? rest out) b₂ := by
  rw [h.context_eq, h.parent?_eq, h.out_eq] at hrest
  exact h.trans hrest

end Shows

theorem opening_wrapper (hd : b.doc.depth = 0) {tag : String} (ht : tag ∈ wrappers)
    (attrs : Attrs) : opening setup inst b tag attrs = b := by
  unfold opening
  rw [if_neg (fun h => h hd), if_pos ht]

theorem endEntry_wrapper {tag : String} (ht : tag ∈ wrappers) : b.endEntry tag = b := by
  have hother : ∀ tag ∈ wrappers, (gradientShape? tag).isSome = false ∧ tag ≠ "timeline" := by
    decide
  have ⟨hshape, htimeline⟩ := hother tag ht
  exact endEntry_other hshape htimeline

theorem closing_wrapper (hd : b.doc.depth = 0) {tag : String} (ht : tag ∈ wrappers) :
    b.closing tag = b.modifyDoc fun d => { d with block := d.block.stop tag } := by
  unfold closing closeBlock
  rw [hd]
  dsimp only
  rw [endEntry_wrapper ht]

theorem replay_append (events events' : List Event) :
    replay setup inst b (events ++ events') =
      replay setup inst (replay setup inst b events) events' :=
  List.foldl_append

theorem replay_first_element (tag : String) (attrs : Attrs) (brief : Bool) (body rest : Forest) :
    replay setup inst b (Forest.element tag attrs brief body rest).events =
      replay setup inst (replay setup inst b (.opening tag attrs :: body.events ++ [.closing tag]))
        rest.events := by
  simp [replay, Forest.events]

theorem shows_wrapper (hd : b.doc.depth = 0) {tag : String} (ht : tag ∈ wrappers)
    (h : b.Shows out b') : b.Shows out (b'.closing tag) := by
  rw [closing_wrapper (h.depth_eq.trans hd) ht]
  obtain ⟨item, block, log, rfl⟩ := h
  exact ⟨item, _, log, rfl⟩

theorem shows_read (inst : Instantiate) (hr : b.doc.recording = none) (hd : b.doc.depth = 0)
    {f : Forest} (hf : f.OnlyViews setup.widgets) :
    b.Shows (b.context.stageAll setup b.doc.parent? f (b.doc.view, b.scene))
      (replay setup inst b f.events) := by
  induction f generalizing b
  case empty => exact .refl
  case element tag attrs brief body rest hbody hrest =>
    have hthen {out : Option ObjId × Scene} {b₁ : Build} (h : b.Shows out b₁) :
        b.Shows (b.context.stageAll setup b.doc.parent? rest out)
          (replay setup inst b₁ rest.events) :=
      h.stageAll <| hrest (h.recording_eq.trans hr) (h.depth_eq.trans hd) hf.2
    unfold Context.stageAll
    by_cases ht : tag ∈ wrappers
    case pos =>
      have hbody₁ := hbody hr hd (by simpa [Forest.OnlyViews, ht] using hf.1)
      rw [replay_element, opening_wrapper hd ht, if_pos ht]
      exact hthen (shows_wrapper hd ht hbody₁)
    case neg =>
      obtain ⟨htag, hbase, hwithin⟩ := by simpa [Forest.OnlyViews, ht] using hf.1
      have hview := shows_replay inst hr hd hbase hwithin
      rw [replay_first_element, if_neg ht, htag]
      exact hthen hview

theorem shows_replay_views (hr : b.doc.recording = none) (hd : b.doc.depth = 0) {f : Forest}
    (hf : f.OnlyViews setup.widgets) :
    b.Shows (b.context.stageAll setup b.doc.parent? f (b.doc.view, b.scene))
      (replay setup inst b f.viewEvents) := by
  induction f generalizing b
  case empty => exact .refl
  case element tag attrs brief body rest hbody hrest =>
    have hthen {out : Option ObjId × Scene} {b₁ : Build} (h : b.Shows out b₁) :
        b.Shows (b.context.stageAll setup b.doc.parent? rest out)
          (replay setup inst b₁ rest.viewEvents) :=
      h.stageAll <| hrest (h.recording_eq.trans hr) (h.depth_eq.trans hd) hf.2
    unfold Context.stageAll Forest.viewEvents
    by_cases ht : tag ∈ wrappers
    case pos =>
      have hbody₁ := hbody hr hd (by simpa [Forest.OnlyViews, ht] using hf.1)
      rw [if_pos ht, if_pos ht, replay_append]
      exact hthen hbody₁
    case neg =>
      obtain ⟨htag, hbase, hwithin⟩ := by simpa [Forest.OnlyViews, ht] using hf.1
      rw [if_neg ht, if_neg ht, replay_append, htag]
      exact hthen (shows_replay inst hr hd hbase hwithin)

-- An instance without arguments of a component whose recorded view is that of a document.
theorem instantiate_views (levels : Nat) {id : ScopeId} {c : Component} {f : Forest}
    (hcomp : b.registry.component? id = some c) (hview : c.view = f.viewEvents)
    (hparams : b.registry.params id = []) (hf : f.OnlyViews setup.widgets) :
    let out := Context.stageAll ⟨b.registry, id, some []⟩ setup b.doc.parent? f (none, b.scene)
    (instantiate setup (levels + 1) b id []).1 = out.1 ∧
      (instantiate setup (levels + 1) b id []).2.scene = out.2 := by
  dsimp only
  let doc : DocState := { DocState.begin id b.doc.parent? with arguments := some [] }
  have hparent : doc.parent? = b.doc.parent? := by
    simp [doc, DocState.begin, DocState.parent?]
  have hshow : ({ b with doc } : Build).Shows
      (Context.stageAll ⟨b.registry, id, some []⟩ setup doc.parent? f (none, b.scene))
      (replay setup (instantiate setup levels) { b with doc } f.viewEvents) :=
    shows_replay_views rfl rfl hf
  rw [hparent] at hshow
  obtain ⟨item, block, log, hinner⟩ := hshow
  unfold instantiate
  rw [hcomp, hparams]
  dsimp only
  rw [hview, show arguments [] [] = [] from rfl, show replay setup _ _ _ = _ from hinner]
  generalize Context.stageAll _ setup b.doc.parent? f (none, b.scene) = out
  obtain ⟨made, s⟩ := out
  cases made
  case none   => exact ⟨rfl, rfl⟩
  case some _ => exact ⟨rfl, rfl⟩

def keepEvents (b : Build) (events : List Event) : Build :=
  b.modifyDoc fun d => { d with recording := d.recording.map (· ++ events) }

theorem keepEvents_append (events events' : List Event) :
    (b.keepEvents events).keepEvents events' = b.keepEvents (events ++ events') := by
  have happend (xs : Array Event) : xs ++ events ++ events' = xs ++ (events ++ events') :=
    Array.toList_inj.mp (by simp)
  simp [keepEvents, modifyDoc, Function.comp_def, happend]

theorem keepEvents_nil : b.keepEvents [] = b := by
  have hnil (xs : Array Event) : xs ++ ([] : List Event) = xs := Array.toList_inj.mp (by simp)
  simp [keepEvents, modifyDoc, hnil]

theorem isSome_keepEvents {events : List Event} :
    (b.keepEvents events).doc.recording.isSome = b.doc.recording.isSome := by
  simp [keepEvents, modifyDoc]

theorem recordOr_of_isSome (hr : b.doc.recording.isSome) (e : Event) (f : Build → Build) :
    b.recordOr e f = b.keepEvents [e] := by
  obtain ⟨events, he⟩ := Option.isSome_iff_exists.mp hr
  simp [recordOr, keepEvents, modifyDoc, he]

theorem keepEvents_opening (hr : b.doc.recording.isSome) (hd : 0 < b.doc.depth) (tag : String)
    (attrs : Attrs) :
    opening setup inst b tag attrs =
      (b.setDepth (b.doc.depth + 1)).keepEvents [.opening tag attrs] := by
  unfold opening
  rw [if_pos (Nat.ne_of_gt hd)]
  exact recordOr_of_isSome (b := b.setDepth (b.doc.depth + 1)) hr _ _

-- Recording counts the open elements like building does.
theorem keepEvents_closing (hr : b.doc.recording.isSome) (hd : 0 < b.doc.depth) (tag : String)
    (events : List Event) :
    ((b.setDepth (b.doc.depth + 1)).keepEvents events).closing tag =
      b.keepEvents (events ++ [.closing tag]) := by
  let b₁ := b.keepEvents events
  have hr₁ : b₁.doc.recording.isSome := isSome_keepEvents.trans hr
  have hclosing : ((b.setDepth (b.doc.depth + 1)).keepEvents events).closing tag =
      b₁.recordOr (.closing tag) fun b => b.modifyDoc (·.closeFrame) := by
    simp only [closing, setDepth, keepEvents, modifyDoc, Nat.ne_of_gt hd, if_false]
    rfl
  rw [hclosing, recordOr_of_isSome hr₁, keepEvents_append]

theorem keepEvents_replay (inst : Instantiate) (hr : b.doc.recording.isSome)
    (hd : 0 < b.doc.depth) (f : Forest) :
    replay setup inst b f.events = b.keepEvents f.events := by
  induction f generalizing b
  case empty => exact keepEvents_nil.symm
  case element tag attrs brief body rest hbody hrest =>
    have hbody₁ := hbody (b := (b.setDepth (b.doc.depth + 1)).keepEvents [.opening tag attrs])
      (isSome_keepEvents.trans hr) (Nat.succ_pos _)
    rw [replay_element, keepEvents_opening hr hd, hbody₁, keepEvents_append,
      keepEvents_closing hr hd, hrest (isSome_keepEvents.trans hr) hd, keepEvents_append]
    simp [Forest.events]

-- A document was recorded: the boundaries of its views were added to the recording.
def Records (b : Build) (events : List Event) (b' : Build) : Prop :=
  ∃ block, b' = (b.modifyDoc fun d => { d with block }).keepEvents events

namespace Records

variable {events : List Event} (h : b.Records events b')
include h

theorem recording_eq : b'.doc.recording = (b.keepEvents events).doc.recording := by
  obtain ⟨_, rfl⟩ := h
  rfl

theorem registry_eq : b'.registry = b.registry := by
  obtain ⟨_, rfl⟩ := h
  rfl

theorem scene_eq : b'.scene = b.scene := by
  obtain ⟨_, rfl⟩ := h
  rfl

end Records

theorem Records.trans {b₁ b₂ b₃ : Build} {events events' : List Event}
    (h₁ : b₁.Records events b₂) (h₂ : b₂.Records events' b₃) :
    b₁.Records (events ++ events') b₃ := by
  obtain ⟨_, rfl⟩ := h₁
  obtain ⟨block, rfl⟩ := h₂
  exact ⟨block, keepEvents_append (b := b₁.modifyDoc fun d => { d with block }) ..⟩

theorem keepEvents_replay_view (inst : Instantiate) (hr : b.doc.recording.isSome)
    (hd : b.doc.depth = 0) (attrs : Attrs) (body : Forest) :
    let events := Event.opening "view" attrs :: body.events ++ [.closing "view"]
    replay setup inst b events =
      (b.modifyDoc fun d => { d with block := .none }).keepEvents events := by
  intro events
  let opened := b.enterView.keepEvents [.opening "view" attrs]
  unfold events
  rw [replay_view, opening_view hd, recordOr_of_isSome (b := b.enterView) hr,
    keepEvents_replay inst (b := opened) (isSome_keepEvents.trans hr) Nat.one_pos,
    keepEvents_append]
  let left := (b.modifyDoc fun d => { d with block := .view }).keepEvents
    ([.opening "view" attrs] ++ body.events)
  have hleft : left.doc.recording.isSome := isSome_keepEvents.trans hr
  have hclosing : (b.enterView.keepEvents ([.opening "view" attrs] ++ body.events)).closing "view" =
      (left.recordOr (.closing "view") fun b => b.modifyDoc (·.closeFrame)).closeBlock "view" := by
    simp only [closing, enterView, setDepth, keepEvents, modifyDoc, if_true, left, ← hd]
  rw [hclosing, recordOr_of_isSome hleft, keepEvents_append, closeBlock, endEntry_view]
  rfl

theorem records_replay (inst : Instantiate) (hr : b.doc.recording.isSome) (hd : b.doc.depth = 0)
    (attrs : Attrs) (body : Forest) :
    b.Records (.opening "view" attrs :: body.events ++ [.closing "view"])
      (replay setup inst b (.opening "view" attrs :: body.events ++ [.closing "view"])) :=
  ⟨.none, keepEvents_replay_view inst hr hd attrs body⟩

theorem records_wrapper (hd : b.doc.depth = 0) {tag : String} (ht : tag ∈ wrappers)
    {events : List Event} (h : b.Records events b') : b.Records events (b'.closing tag) := by
  obtain ⟨block, rfl⟩ := h
  let left := (b.modifyDoc fun d => { d with block }).keepEvents events
  rw [closing_wrapper (b := left) hd ht]
  exact ⟨_, rfl⟩

theorem records_read (inst : Instantiate) (hr : b.doc.recording.isSome) (hd : b.doc.depth = 0)
    {f : Forest} (hf : f.OnlyViews setup.widgets) :
    b.Records f.viewEvents (replay setup inst b f.events) := by
  induction f generalizing b
  case empty => exact ⟨b.doc.block, keepEvents_nil.symm⟩
  case element tag attrs brief body rest hbody hrest =>
    have hthen {events : List Event} {b₁ : Build} (h : b.Records events b₁) :
        b.Records (events ++ rest.viewEvents) (replay setup inst b₁ rest.events) := by
      obtain ⟨block, rfl⟩ := h
      exact Records.trans ⟨block, rfl⟩ (hrest (isSome_keepEvents.trans hr) hd hf.2)
    unfold Forest.viewEvents
    by_cases ht : tag ∈ wrappers
    case pos =>
      have hbody₁ := hbody hr hd (by simpa [Forest.OnlyViews, ht] using hf.1)
      rw [replay_element, opening_wrapper hd ht, if_pos ht]
      exact hthen (records_wrapper hd ht hbody₁)
    case neg =>
      obtain ⟨htag, -⟩ := by simpa [Forest.OnlyViews, ht] using hf.1
      rw [replay_first_element, if_neg ht, htag]
      exact hthen (records_replay inst hr hd attrs body)

end Build

end UiMarkup
