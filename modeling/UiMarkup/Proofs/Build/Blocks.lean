import UiMarkup.Proofs.Build.Documents
import UiMarkup.Proofs.Build.Handlers

namespace UiMarkup

open Markup

namespace Build

structure Entries where
  handler : Handler
  tags    : String → Bool

-- Constants may have any tag, that of a stop included, unless it begins a block, holds blocks
-- together or leaves a block.
def isConstTag (tag : String) : Bool :=
  (Block.consts.begun? tag).isNone && !wrappers.contains tag && tag != "params"

inductive Body
  | flat (entries : Entries)
  | nested (outer inner : Entries)

def blocks : Assoc String Body := [
  ("api",        .flat ⟨.param, ["prop"].contains⟩),
  ("consts",     .flat ⟨.const, isConstTag⟩),
  ("styles",     .flat ⟨.style, ["style"].contains⟩),
  ("fonts",      .flat ⟨.font, ["bin", "tiny_ttf", "builtin"].contains⟩),
  ("images",     .flat ⟨.image, ["file"].contains⟩),
  ("subjects",   .flat ⟨.subject, ["int", "float", "string", "color"].contains⟩),
  ("gradients",
    .nested ⟨.gradient, fun tag => (gradientShape? tag).isSome⟩ ⟨.stop, ["stop"].contains⟩),
  ("animations",
    .nested ⟨.timeline, ["timeline"].contains⟩
      ⟨.timeline, ["animation", "include_timeline"].contains⟩)]

end Build

open Build (Body Delivery Entries Handler blocks wrappers)

namespace Markup.Forest

def HasEntries (e : Entries) : Forest → Prop :=
  Every fun tag _ => e.tags tag

instance HasEntries.decidable {e : Entries} (f : Forest) : Decidable (f.HasEntries e) :=
  Every.decidable f

def HasGroups (outer inner : Entries) : Forest → Prop
  | empty => True
  | element tag _ _ body rest =>
    outer.tags tag ∧ body.HasEntries inner ∧ rest.HasGroups outer inner

instance HasGroups.decidable {outer inner : Entries} :
    (f : Forest) → Decidable (f.HasGroups outer inner)
  | empty => .isTrue trivial
  | element tag _ _ body rest =>
    have : Decidable (rest.HasGroups outer inner) := HasGroups.decidable rest
    inferInstanceAs (Decidable
      (outer.tags tag ∧ body.HasEntries inner ∧ rest.HasGroups outer inner))

def entries (h : Handler) : Forest → List Delivery
  | empty => []
  | element tag attrs _ body rest => .entry h tag attrs :: (body.entries h ++ rest.entries h)

def groups (outer inner : Handler) : Forest → List Delivery
  | empty => []
  | element tag attrs _ body rest =>
    .entry outer tag attrs :: (body.entries inner ++ .done tag :: rest.groups outer inner)

def Fills (f : Forest) : Body → Prop
  | .flat e             => f.HasEntries e
  | .nested outer inner => f.HasGroups outer inner

instance {f : Forest} : (body : Body) → Decidable (f.Fills body)
  | .flat e             => inferInstanceAs (Decidable (f.HasEntries e))
  | .nested outer inner => inferInstanceAs (Decidable (f.HasGroups outer inner))

def deliveriesIn (f : Forest) : Body → List Delivery
  | .flat e             => f.entries e.handler
  | .nested outer inner => f.groups outer.handler inner.handler

def HasBlocks : Forest → Prop
  | empty => True
  | element tag _ _ body rest =>
    (match blocks.get? tag with
     | some b => body.Fills b
     | none   => tag ∈ wrappers ∧ body.HasBlocks) ∧ rest.HasBlocks

instance HasBlocks.decidable : (f : Forest) → Decidable f.HasBlocks
  | empty => .isTrue trivial
  | element tag attrs brief body rest =>
    have := HasBlocks.decidable body
    have := HasBlocks.decidable rest
    match hb : blocks.get? tag with
    | some b =>
      decidable_of_iff (body.Fills b ∧ rest.HasBlocks) (by rw [HasBlocks, hb])
    | none   =>
      decidable_of_iff ((tag ∈ wrappers ∧ body.HasBlocks) ∧ rest.HasBlocks) (by rw [HasBlocks, hb])

def deliveries : Forest → List Delivery
  | empty => []
  | element tag _ _ body rest =>
    (match blocks.get? tag with
     | some b => body.deliveriesIn b
     | none   => body.deliveries) ++ rest.deliveries

end Markup.Forest

namespace Build

variable {setup : Setup} {inst : Instantiate} {c : Config} {b : Build} {tag : String}
  {attrs : Attrs}

theorem deliver_entries_element (h : Handler) (brief : Bool) (body rest : Forest) :
    deliver c b ((Forest.element tag attrs brief body rest).entries h) =
      deliver c (deliver c (h.run c b tag attrs) (body.entries h)) (rest.entries h) :=
  deliver_append (b := h.run c b tag attrs) (body.entries h) (rest.entries h)

theorem deliver_groups_element (outer inner : Handler) (brief : Bool) (body rest : Forest) :
    deliver c b ((Forest.element tag attrs brief body rest).groups outer inner) =
      deliver c ((deliver c (outer.run c b tag attrs) (body.entries inner)).endEntry tag)
        (rest.groups outer inner) :=
  deliver_append (b := outer.run c b tag attrs) (body.entries inner) _

structure Routes (s : Block) (tag : String) (h : Handler) : Prop where
  wrapper : tag ∉ wrappers
  view    : tag ≠ "view"
  entry   : s.begun? tag = none ∨ tag ∈ entryTags
  handler : (s.start tag).handler? = some h

theorem Routes.of_begun?_none {s : Block} {h : Handler} (hbegun : s.begun? tag = none)
    (hwrapper : tag ∉ wrappers) (hleaving : tag ∉ Block.leaving) (hhandler : s.handler? = some h) :
    Routes s tag h where
  wrapper := hwrapper
  view    := fun htag => hleaving (htag ▸ by decide)
  entry   := .inl hbegun
  handler := by rwa [Block.start, hbegun]

theorem opening_entry (hd : b.doc.depth = 0) {h : Handler} (hr : Routes b.doc.block tag h) :
    opening setup inst b tag attrs =
      (h.run setup.config b tag attrs).atBlock (b.doc.block.start tag) := by
  have hentry : entry setup.config (b.atBlock (b.doc.block.start tag)) tag attrs =
      (h.run setup.config b tag attrs).atBlock (b.doc.block.start tag) :=
    (entry_eq_run hr.handler).trans (run_atBlock _ (.entry h tag attrs))
  rw [← hentry]
  unfold opening Block.start
  rw [if_neg (fun h => h hd), if_neg hr.wrapper]
  cases hb : b.doc.block.begun? tag
  case none => rfl
  case some block =>
    have htag : tag ∈ entryTags := hr.entry.resolve_left (by rw [hb]; exact Option.some_ne_none _)
    dsimp only
    rw [if_neg hr.view, if_pos htag]
    rfl

theorem opening_block (hd : b.doc.depth = 0) (hw : tag ∉ wrappers) (hv : tag ≠ "view")
    (he : tag ∉ entryTags) {block : Block} (hb : b.doc.block.begun? tag = some block) :
    opening setup inst b tag attrs = b.atBlock block := by
  unfold opening
  rw [if_neg (fun h => h hd), if_neg hw, hb]
  dsimp only
  rw [if_neg hv, if_neg he]
  rfl

theorem closing_outside (hd : b.doc.depth = 0) (tag : String) :
    b.closing tag = (b.endEntry tag).atBlock ((b.endEntry tag).doc.block.stop tag) := by
  unfold closing
  rw [hd]
  rfl

structure Outside (ok : Block → Prop) (P : Option Pending → Prop) (b : Build) : Prop where
  depth   : b.doc.depth = 0
  block   : ok b.doc.block
  pending : P b.doc.pending

theorem delivers_opening (hd : b.doc.depth = 0) {h : Handler} (hr : Routes b.doc.block tag h) :
    Delivers setup.config b [.entry h tag attrs] (opening setup inst b tag attrs) :=
  ⟨_, opening_entry hd hr⟩

theorem delivers_closing (hd : b.doc.depth = 0) : Delivers c b [.done tag] (b.closing tag) :=
  ⟨_, closing_outside hd tag⟩

variable (inst) in
theorem outside_opening {ok : Block → Prop} {P : Option Pending → Prop} (hd : b.doc.depth = 0)
    {h : Handler} (hr : Routes b.doc.block tag h) (hok : ok (b.doc.block.start tag))
    (hp : P (h.run setup.config b tag attrs).doc.pending) :
    Outside ok P (opening setup inst b tag attrs) := by
  rw [opening_entry hd hr]
  exact ⟨(depth_run (.entry h tag attrs)).trans hd, hok, hp⟩

-- Between blocks any block may still be open, but nothing is pending.
abbrev Between : Build → Prop :=
  Outside (fun _ => True) (· = none)

theorem Outside.between {ok : Block → Prop} (h : Outside ok (· = none) b) : Between b :=
  ⟨h.depth, trivial, h.pending⟩

-- Entries side by side or in each other, in blocks that are `ok`, while something is pending or
-- not as `P` has it.
structure Fits (e : Entries) (ok : Block → Prop) (P : Option Pending → Prop) : Prop where
  routes  : ∀ {s tag}, ok s → e.tags tag → Routes s tag e.handler
  start   : ∀ {s tag}, ok s → e.tags tag → ok (s.start tag)
  stop    : ∀ {s tag}, ok s → e.tags tag → ok (s.stop tag)
  pending : ∀ {c b tag attrs}, e.tags tag → P b.doc.pending →
    P (e.handler.run c b tag attrs).doc.pending
  ends    : ∀ {b : Build} {tag}, e.tags tag → P b.doc.pending → b.endEntry tag = b

theorem Fits.replay {e : Entries} {ok : Block → Prop} {P : Option Pending → Prop}
    (h : Fits e ok P) {f : Forest} (hf : f.HasEntries e) (hb : Outside ok P b) :
    Delivers setup.config b (f.entries e.handler) (replay setup inst b f.events) ∧
      Outside ok P (replay setup inst b f.events) := by
  induction f generalizing b
  case empty => exact ⟨.refl, hb⟩
  case element tag attrs brief body rest hbody hrest =>
    obtain ⟨htag, hfbody, hfrest⟩ := hf
    have hroutes := h.routes hb.block htag
    obtain ⟨hinside, hb₂⟩ := hbody hfbody
      (outside_opening inst hb.depth hroutes (h.start hb.block htag) (h.pending htag hb.pending))
    have helement := (delivers_opening hb.depth hroutes).trans hinside
    rw [replay_element]
    generalize Build.replay setup inst (opening setup inst b tag attrs) body.events = b₂
      at hb₂ helement
    have hclosing : b₂.closing tag = b₂.atBlock (b₂.doc.block.stop tag) := by
      rw [closing_outside hb₂.depth, h.ends htag hb₂.pending]
    have hb₃ : Outside ok P (b₂.atBlock (b₂.doc.block.stop tag)) :=
      ⟨hb₂.depth, h.stop hb₂.block htag, hb₂.pending⟩
    obtain ⟨hafter, hb₄⟩ := hrest hfrest hb₃
    rw [hclosing]
    exact ⟨(helement.atBlock _).trans hafter, hb₄⟩

structure FitsGroups (outer inner : Entries) (around ok : Block → Prop)
    (P : Option Pending → Prop) : Prop where
  routes : ∀ {s tag}, around s → outer.tags tag → Routes s tag outer.handler
  start  : ∀ {s tag}, around s → outer.tags tag → ok (s.start tag)
  stop   : ∀ {s tag}, ok s → outer.tags tag → around (s.stop tag)
  begins : ∀ {c b tag attrs}, outer.tags tag → b.doc.pending = none →
    P (outer.handler.run c b tag attrs).doc.pending
  ends   : ∀ {b : Build} {tag}, outer.tags tag → P b.doc.pending →
    (b.endEntry tag).doc = { b.doc with pending := none }
  inner  : Fits inner ok P

theorem FitsGroups.replay {outer inner : Entries} {around ok : Block → Prop}
    {P : Option Pending → Prop} (h : FitsGroups outer inner around ok P) {f : Forest}
    (hf : f.HasGroups outer inner) (hb : Outside around (· = none) b) :
    Delivers setup.config b (f.groups outer.handler inner.handler)
        (replay setup inst b f.events) ∧
      Outside around (· = none) (replay setup inst b f.events) := by
  induction f generalizing b
  case empty => exact ⟨.refl, hb⟩
  case element tag attrs brief body rest hbody hrest =>
    obtain ⟨htag, hfbody, hfrest⟩ := hf
    have hroutes := h.routes hb.block htag
    obtain ⟨hinside, hb₂⟩ := h.inner.replay hfbody
      (outside_opening inst hb.depth hroutes (h.start hb.block htag) (h.begins htag hb.pending))
    have helement := (delivers_opening hb.depth hroutes).trans hinside
    rw [replay_element]
    generalize Build.replay setup inst (opening setup inst b tag attrs) body.events = b₂
      at hb₂ helement
    have hclosing := closing_outside hb₂.depth tag
    have hends := h.ends htag hb₂.pending
    have hb₃ : Outside around (· = none) (b₂.closing tag) := by
      rw [hclosing, hends]
      exact ⟨(congrArg DocState.depth hends).trans hb₂.depth, h.stop hb₂.block htag,
        congrArg DocState.pending hends⟩
    obtain ⟨hafter, hb₄⟩ := hrest hfrest hb₃
    have hall := (helement.trans (delivers_closing hb₂.depth)).trans hafter
    refine ⟨?_, hb₄⟩
    simpa [Forest.groups] using hall

-- A block of plain entries stays open from its own tag to the next one that begins a block.
theorem Fits.plain {e : Entries} {block : Block} (hplain : e.handler.IsPlain)
    (hhandler : block.handler? = some e.handler)
    (htags : ∀ tag, e.tags tag → block.begun? tag = none ∧ tag ∉ wrappers ∧ tag ∉ Block.leaving) :
    Fits e (· = block) (· = none) where
  routes {s tag} hs htag := by
    obtain ⟨hbegun, hwrapper, hleaving⟩ := htags tag htag
    exact .of_begun?_none (hs ▸ hbegun) hwrapper hleaving (hs ▸ hhandler)
  start {s tag} hs htag := by rw [hs, Block.start, (htags tag htag).1]; rfl
  stop {s tag} hs htag := by
    have hstops : block ≠ .stops := by
      rintro rfl
      exact hplain.2.1 (Option.some.inj hhandler).symm
    rw [hs, Block.stop, if_neg (htags tag htag).2.2, if_neg fun h => hstops h.1]
  pending _ hp := by rw [doc_run hplain, hp]
  ends _ hp := endEntry_idle hp

theorem begun?_of_isConstTag (h : isConstTag tag) :
    Block.consts.begun? tag = none ∧ tag ∉ wrappers ∧ tag ∉ Block.leaving := by
  simp only [isConstTag, Bool.and_eq_true, Option.isNone_iff_eq_none, Bool.not_eq_true',
    List.contains_eq_mem, decide_eq_false_iff_not, bne_iff_ne] at h
  refine ⟨h.1.1, h.1.2, fun hleaving => ?_⟩
  have hbegins : ∀ tag ∈ Block.leaving, tag ≠ "params" → Block.consts.begun? tag ≠ none := by decide
  exact hbegins tag hleaving h.2 h.1.1

theorem Fits.of_list {h : Handler} {tags : List String} {block : Block} (hplain : h.IsPlain)
    (hhandler : block.handler? = some h)
    (htags : ∀ tag ∈ tags, block.begun? tag = none ∧ tag ∉ wrappers ∧ tag ∉ Block.leaving) :
    Fits ⟨h, tags.contains⟩ (· = block) (· = none) :=
  .plain hplain hhandler fun tag htag => htags tag (List.contains_iff_mem.mp htag)

theorem eq_of_only {only : String} (h : [only].contains tag) : tag = only :=
  List.mem_singleton.mp (List.contains_iff_mem.mp h)

-- Gradients and their stops. After the first stop of a gradient its block stays open up to the end
-- of the gradient.

theorem fits_stops : Fits ⟨.stop, ["stop"].contains⟩ (fun s => s = .gradients ∨ s = .stops)
    (AtMost Pending.IsGradient) where
  routes hs htag := by
    obtain rfl := eq_of_only htag
    rcases hs with rfl | rfl
    · exact ⟨by decide, by decide, by decide, rfl⟩
    · exact ⟨by decide, by decide, by decide, rfl⟩
  start hs htag := by
    obtain rfl := eq_of_only htag
    rcases hs with rfl | rfl
    · exact .inr rfl
    · exact .inr rfl
  stop hs htag := by
    obtain rfl := eq_of_only htag
    rcases hs with rfl | rfl
    · exact .inl rfl
    · exact .inr rfl
  pending _ hp := atMost_stopEntry hp
  ends htag _ := by
    obtain rfl := eq_of_only htag
    exact endEntry_other rfl (by decide)

theorem begun?_of_gradientShape? (h : (gradientShape? tag).isSome) :
    Block.gradients.begun? tag = none ∧ tag ∉ wrappers ∧ tag ∉ Block.leaving ∧ tag ≠ "stop" := by
  unfold gradientShape? at h
  split at h
  case h_6 => cases h
  all_goals decide

theorem fits_gradients :
    FitsGroups ⟨.gradient, fun tag => (gradientShape? tag).isSome⟩ ⟨.stop, ["stop"].contains⟩
      (· = .gradients) (fun s => s = .gradients ∨ s = .stops) (AtMost Pending.IsGradient) where
  routes hs htag := by
    obtain ⟨hbegun, hwrapper, hleaving, -⟩ := begun?_of_gradientShape? htag
    exact .of_begun?_none (hs ▸ hbegun) hwrapper hleaving (hs ▸ rfl)
  start hs htag := by
    rw [hs, Block.start, (begun?_of_gradientShape? htag).1]
    exact .inl rfl
  stop hs htag := by
    obtain ⟨-, -, hleaving, hstop⟩ := begun?_of_gradientShape? htag
    rw [Block.stop, if_neg hleaving]
    rcases hs with rfl | rfl
    · rfl
    · exact if_pos ⟨rfl, hstop⟩
  begins _ hp := atMost_gradientEntry hp
  ends htag hp := doc_endEntry_gradient hp htag
  inner := fits_stops

-- Timelines and their steps. Each tag opens a block of its own, whichever is open.

theorem timelineEntry_step (htag : ["animation", "include_timeline"].contains tag) :
    b.timelineEntry tag attrs = b.addStep tag attrs := by
  have hstep : ∀ tag ∈ ["animation", "include_timeline"],
      b.timelineEntry tag attrs = b.addStep tag attrs := by
    simp only [List.forall_mem_cons]
    exact ⟨rfl, rfl, nofun⟩
  exact hstep tag (List.contains_iff_mem.mp htag)

theorem fits_steps : Fits ⟨.timeline, ["animation", "include_timeline"].contains⟩ (fun _ => True)
    (AtMost Pending.IsTimeline) where
  routes _ htag := by
    have hroutes : ∀ tag ∈ ["animation", "include_timeline"], ∀ s, Routes s tag .timeline := by
      simp only [List.forall_mem_cons]
      exact ⟨fun s => ⟨by decide, by decide, .inr (by decide), rfl⟩,
        fun s => ⟨by decide, by decide, .inr (by decide), rfl⟩, nofun⟩
    exact hroutes _ (List.contains_iff_mem.mp htag) _
  start _ _ := trivial
  stop _ _ := trivial
  pending {c b tag attrs} htag hp := by
    have hdoc : (b.timelineEntry tag attrs).doc = b.doc := by
      rw [timelineEntry_step htag, doc_addStep]
    exact hdoc ▸ hp
  ends {b tag} htag _ := by
    have hother : ∀ tag ∈ ["animation", "include_timeline"],
        (gradientShape? tag).isSome = false ∧ tag ≠ "timeline" := by decide
    have ⟨hshape, htimeline⟩ := hother tag (List.contains_iff_mem.mp htag)
    exact endEntry_other hshape htimeline

theorem fits_timelines :
    FitsGroups ⟨.timeline, ["timeline"].contains⟩
      ⟨.timeline, ["animation", "include_timeline"].contains⟩ (fun _ => True) (fun _ => True)
      (AtMost Pending.IsTimeline) where
  routes _ htag := by
    obtain rfl := eq_of_only htag
    exact ⟨by decide, by decide, .inr (by decide), rfl⟩
  start _ _ := trivial
  stop _ _ := trivial
  begins htag hp := by
    obtain rfl := eq_of_only htag
    exact atMost_beginTimeline hp
  ends htag hp := by
    obtain rfl := eq_of_only htag
    exact doc_endEntry_timeline hp
  inner := fits_steps

structure Opens (tag : String) (around : Block → Prop) : Prop where
  opening : ∀ {setup inst b attrs}, b.doc.depth = 0 →
    ∃ block, around block ∧ opening setup inst b tag attrs = b.atBlock block

theorem Opens.begins {block : Block} (hbegins : ∀ s : Block, s.begun? tag = some block)
    (hplain : tag ∉ wrappers ∧ tag ≠ "view" ∧ tag ∉ entryTags) : Opens tag (· = block) :=
  ⟨fun hd => ⟨block, rfl, opening_block hd hplain.1 hplain.2.1 hplain.2.2 (hbegins _)⟩⟩

theorem Opens.wrapper (h : tag ∈ wrappers) : Opens tag fun _ => True :=
  ⟨fun hd => ⟨_, trivial, opening_wrapper hd h _⟩⟩

def Body.Reached (body : Body) (around : Block → Prop) : Prop :=
  ∀ {setup inst b} {f : Forest}, f.Fills body → Outside around (· = none) b →
    Delivers setup.config b (f.deliveriesIn body) (replay setup inst b f.events) ∧
      Between (replay setup inst b f.events)

theorem Fits.reached {e : Entries} {around : Block → Prop} (h : Fits e around (· = none)) :
    Body.Reached (.flat e) around :=
  fun hf hb => (h.replay hf hb).imp_right (·.between)

theorem FitsGroups.reached {outer inner : Entries} {around ok : Block → Prop}
    {P : Option Pending → Prop} (h : FitsGroups outer inner around ok P) :
    Body.Reached (.nested outer inner) around :=
  fun hf hb => (h.replay hf hb).imp_right (·.between)

theorem blocks_reached : ∀ p ∈ blocks, ∃ around, Opens p.1 around ∧ p.2.Reached around := by
  simp only [blocks, List.forall_mem_cons]
  refine ⟨⟨(· = .api), .begins (fun _ => rfl) ?_, (Fits.of_list ?_ rfl ?_).reached⟩,
    ⟨(· = .consts), .begins (fun _ => rfl) ?_,
      (Fits.plain ?_ rfl fun _ => begun?_of_isConstTag).reached⟩,
    ⟨(· = .styles), .begins (fun _ => rfl) ?_, (Fits.of_list ?_ rfl ?_).reached⟩,
    ⟨(· = .fonts), .begins (fun _ => rfl) ?_, (Fits.of_list ?_ rfl ?_).reached⟩,
    ⟨(· = .images), .begins (fun _ => rfl) ?_, (Fits.of_list ?_ rfl ?_).reached⟩,
    ⟨(· = .subjects), .begins (fun _ => rfl) ?_, (Fits.of_list ?_ rfl ?_).reached⟩,
    ⟨(· = .gradients), .begins (fun _ => rfl) ?_, fits_gradients.reached⟩,
    ⟨fun _ => True, .wrapper ?_, fits_timelines.reached⟩, nofun⟩
  all_goals decide

theorem delivers_block {around : Block → Prop} {ds : List Delivery} {body : Forest}
    (hopens : Opens tag around)
    (hbody : ∀ b, Outside around (· = none) b →
      Delivers setup.config b ds (replay setup inst b body.events) ∧
        Between (replay setup inst b body.events))
    (hb : Between b) (attrs : Attrs) :
    let b' := (replay setup inst (opening setup inst b tag attrs) body.events).closing tag
    Delivers setup.config b ds b' ∧ Between b' := by
  obtain ⟨block, haround, hopening⟩ := hopens.opening hb.depth
  obtain ⟨⟨stale, hinside⟩, hb₂⟩ := hbody (b.atBlock block) ⟨hb.depth, haround, hb.pending⟩
  dsimp only
  rw [hopening]
  generalize replay setup inst (b.atBlock block) body.events = b₂ at hinside hb₂
  rw [closing_outside hb₂.depth, endEntry_idle hb₂.pending]
  refine ⟨Delivers.atBlock ⟨stale, ?_⟩ _, hb₂.depth, trivial, hb₂.pending⟩
  rw [hinside, deliver_atBlock]
  rfl

-- By induction on the blocks. What carries it is that nothing is pending between them: which block
-- was left open does not matter, because the next one opens its own.
theorem delivers_replay (setup : Setup) (inst : Instantiate) {f : Forest} (hf : f.HasBlocks)
    (hb : Between b) :
    Delivers setup.config b f.deliveries (replay setup inst b f.events) ∧
      Between (replay setup inst b f.events) := by
  induction f generalizing b
  case empty => exact ⟨.refl, hb⟩
  case element tag attrs brief body rest hbody hrest =>
    obtain ⟨hblock, hfrest⟩ := hf
    have hthen {ds : List Delivery} {b₁ : Build} (h : Delivers setup.config b ds b₁ ∧ Between b₁) :
        Delivers setup.config b (ds ++ rest.deliveries) (replay setup inst b₁ rest.events) ∧
          Between (replay setup inst b₁ rest.events) :=
      have ⟨hafter, hb'⟩ := hrest hfrest h.2
      ⟨h.1.trans hafter, hb'⟩
    rw [replay_element]
    unfold Forest.deliveries
    refine hthen ?_
    split at hblock
    case h_1 hget =>
      obtain ⟨around, hopens, hreached⟩ := blocks_reached _ (Assoc.mem_of_get? hget)
      exact delivers_block hopens (fun _ => hreached hblock) hb attrs
    case h_2 =>
      exact delivers_block (.wrapper hblock.1) (fun _ => hbody hblock.2) hb attrs

end Build

end UiMarkup
