import UiMarkup.Proofs.Build.Definitions
import UiMarkup.Proofs.Build.Parallel
import UiMarkup.Proofs.Loader.Isolation

namespace UiMarkup

open Markup

namespace Loader

variable {l l₁ l₂ : Loader} {s : Scene} {name text : String} {f : Forest} {π : Renumbering}

def componentOf (events : List Event) : Component :=
  (componentOf? events).getD { base := "obj", view := [] }

theorem recorded_of_recording {b : Build} {events : List Event}
    (h : (b.doc.recording.getD #[]).toList = events) (name : String) :
    ∃ log, recorded b name = (componentOf events, { b with log }) := by
  unfold recorded componentOf
  rw [h]
  cases componentOf? events
  case none   => exact ⟨_, rfl⟩
  case some _ => exact ⟨b.log, rfl⟩

theorem registerComponent_defines (setup : Setup) (hread : Markup.read text = (f.events, none))
    (hf : f.OnlyDefines) (name : String) :
    ∃ change : Scope → Scope, (∀ s, (change s).name = s.name) ∧
      ∀ (l : Loader) (s : Scene), l.setup = setup →
        let o := l.registerComponent s name text
        o.result = .ok (l.registry.ensureScope name).1 ∧ o.scene = s ∧
          o.loader = { l with registry := l.registry.define name change } := by
  have ⟨d, hd⟩ : Build.Yields .none fun b =>
      Build.replay setup (Build.instance? setup) b f.events := Build.yields_replay hf (.inl rfl)
  let set (s : Scope) : Scope := { s with component := some (componentOf d.events) }
  refine ⟨set ∘ d.change, fun s => d.name_eq s, fun l s hl => ?_⟩
  let own := (l.registry.ensureScope name).1
  let registry := (l.registry.ensureScope name).2
  let b₀ : Build :=
    { doc := { DocState.begin own none with recording := some #[] }, registry, scene := s }
  have hown : registry.knows own :=
    Registry.knows_of_scopeByName? (Registry.scopeByName?_ensureScope name)
  have hb : f.events.foldl (Build.read l.setup) b₀ = b₀.define d := by
    rw [hl]
    exact hd b₀ ⟨rfl, rfl, rfl, rfl, hown⟩
  have hrecording : ((b₀.define d).doc.recording.getD #[]).toList = d.events := by
    simp [Build.define, b₀]
  obtain ⟨log, hrecorded⟩ := recorded_of_recording hrecording name
  have hset : (registry.modify own d.change).setComponent own (componentOf d.events) =
      .ok (registry.modify own (set ∘ d.change)) := by
    have hknows : (registry.modify own d.change).knows own := by
      rw [Registry.knows_iff, Registry.scope?_modify_self, Option.isSome_map]
      exact Registry.knows_iff.mp hown
    rw [← Registry.modify_modify]
    exact if_pos hknows
  unfold registerComponent Loader.read
  rw [hread]
  dsimp only
  rw [show Loader.begin _ s _ = b₀ from rfl, hb, hrecorded]
  dsimp only
  rw [show (b₀.define d).registry = registry.modify own d.change from rfl, hset]
  exact ⟨rfl, rfl, rfl⟩

-- Loaders that differ in the numbers of scopes.
structure Renumbered (π : Renumbering) (l₁ l₂ : Loader) : Prop where
  registry : l₁.registry.Renumbered π l₂.registry
  setup    : l₂.setup = l₁.setup

structure SameOutcome {α : Type} (π : Renumbering) (o₁ o₂ : Outcome α) : Prop where
  result : o₂.result = o₁.result
  scene  : o₂.scene = o₁.scene
  log    : o₂.log = o₁.log
  loader : o₁.loader.Renumbered π o₂.loader

-- Builds of loaders that differ in the numbers of scopes: all parameters are the same.
def pairing (π : Renumbering) : Pairing where
  scopes := π
  reads  := fun _ => True
  before := (#[], #[])

namespace Renumbered

variable (h : l₁.Renumbered π l₂)
include h

theorem finish {α : Type} {b₁ b₂ : Build} (hb : (pairing π).Relates b₁ b₂) (result : α) :
    SameOutcome π (l₁.finish b₁ result) (l₂.finish b₂ result) where
  result := rfl
  scene  := hb.scene
  log    := have ⟨_, h₁, h₂⟩ := hb.log; h₂.trans h₁.symm
  loader := ⟨hb.registry, h.setup⟩

variable (hglobals : l₁.registry.knows .globals) (s : Scene)
include hglobals

theorem relates_begin (parent : Option ObjId) :
    (pairing π).Relates (l₁.begin s (.begin .globals parent))
      (l₂.begin s (.begin .globals parent)) where
  registry  := h.registry
  knows     := hglobals
  scene     := rfl
  doc       := by
    show DocState.begin .globals parent = (DocState.begin .globals parent).moved (π .globals) none
    rw [h.registry.globals]
    rfl
  arguments := fun _ _ => rfl
  log       := ⟨#[], rfl, rfl⟩

theorem create (parent : Option ObjId) (tag : String) (attrs : Attrs) :
    SameOutcome π (l₁.create s parent tag attrs) (l₂.create s parent tag attrs) := by
  have hbegin := h.relates_begin hglobals s parent
  have hattrs := hbegin.resolveAttrs attrs fun _ _ _ _ => trivial
  have hmake := Pairing.Relates.createElement
    (Build.Instantiate.parallel_instantiate l₁.setup l₁.setup.config.maxDepth)
    (hbegin.noteAll ((l₁.begin s (.begin .globals parent)).resolveAttrs attrs).notes) l₁.setup tag
    ((l₁.begin s (.begin .globals parent)).resolveAttrs attrs).value
  unfold Loader.create Build.create Build.instance?
  dsimp only [Build.take]
  rw [hattrs, h.setup]
  refine Pairing.Answers.elim hmake fun item b₁ b₂ hb => ?_
  cases item
  case none      => exact h.finish (hb.note _) none
  case some item => exact h.finish hb (some item)

theorem createScreen (name : String) :
    SameOutcome π (l₁.createScreen s name) (l₂.createScreen s name) := by
  have hbegin := h.relates_begin hglobals s none
  unfold Loader.createScreen Build.instance?
  dsimp only
  rw [h.registry.componentScope?, h.setup]
  cases hscope : l₁.registry.componentScope? name
  case none       => exact h.finish hbegin _
  case some scope =>
    have hmake := Build.Instantiate.parallel_instantiate l₁.setup l₁.setup.config.maxDepth _ _ _
      hbegin scope (Registry.knows_of_componentScope? hscope) []
    dsimp only [Option.map_some, pairing] at hmake ⊢
    refine Pairing.Answers.elim hmake fun view b₁ b₂ hb => ?_
    cases view
    case none   => exact h.finish hb _
    case some _ => exact h.finish hb _

theorem loadView (parent : Option ObjId) (text : String) :
    SameOutcome π (l₁.loadView s parent text) (l₂.loadView s parent text) := by
  let built (l : Loader) : Build := Build.replay l₁.setup (Build.instance? l₁.setup)
    (l.begin s (.begin .globals parent)) (Markup.read text).1
  have hbuilt : (pairing π).Relates (built l₁) (built l₂) :=
    .replay (Build.Instantiate.parallel_instantiate l₁.setup l₁.setup.config.maxDepth)
      (h.relates_begin hglobals s parent) fun e _ => e.refers_true
  unfold Loader.loadView Loader.read
  rw [h.setup]
  dsimp only
  cases (Markup.read text).2
  case some error => exact h.finish hbuilt _
  case none =>
    show SameOutcome π (l₁.finish (built l₁) (Except.ok (built l₁).doc.view))
      (l₂.finish (built l₂) (Except.ok (built l₂).doc.view))
    rw [hbuilt.view_eq]
    exact h.finish hbuilt _

end Renumbered

inductive Use
  | create (parent : Option ObjId) (tag : String) (attrs : Attrs)
  | createScreen (name : String)
  | loadView (parent : Option ObjId) (text : String)

inductive Answer
  | item (result : Option Item)
  | screen (result : Except LoadError ObjId)
  | view (result : Except LoadError (Option ObjId))

namespace Use

def run (l : Loader) (s : Scene) : Use → Outcome Answer
  | create parent tag attrs => answered .item (l.create s parent tag attrs)
  | createScreen name       => answered .screen (l.createScreen s name)
  | loadView parent text    => answered .view (l.loadView s parent text)
where
  answered {α : Type} (answer : α → Answer) (o : Outcome α) : Outcome Answer :=
    { o with result := answer o.result }

variable (u : Use)

theorem sameOutcome_run (h : l₁.Renumbered π l₂) (hglobals : l₁.registry.knows .globals)
    (s : Scene) : SameOutcome π (u.run l₁ s) (u.run l₂ s) := by
  have hanswered {α : Type} {answer : α → Answer} {o₁ o₂ : Outcome α} (ho : SameOutcome π o₁ o₂) :
      SameOutcome π (run.answered answer o₁) (run.answered answer o₂) :=
    ⟨congrArg answer ho.result, ho.scene, ho.log, ho.loader⟩
  cases u
  case create parent tag attrs => exact hanswered (h.create hglobals s parent tag attrs)
  case createScreen name       => exact hanswered (h.createScreen hglobals s name)
  case loadView parent text    => exact hanswered (h.loadView hglobals s parent text)

theorem knows_run {id : ScopeId} (h : l.registry.knows id) (s : Scene) :
    (u.run l s).loader.registry.knows id := by
  have hI := invariant_knowing id
  cases u
  case create parent tag attrs =>
    have hcarries : (knowing id).Carries s (l.create s parent tag attrs).loader.registry _ :=
      carries_create hI h trivial tag attrs
    exact hcarries.holds
  case createScreen name =>
    have hcarries : (knowing id).Carries s (l.createScreen s name).loader.registry _ :=
      carries_createScreen hI h trivial name
    exact hcarries.holds
  case loadView parent text =>
    have hcarries : (knowing id).Carries s (l.loadView s parent text).loader.registry _ :=
      carries_loadView hI h trivial text
    exact hcarries.holds

end Use

-- What there is to see of one use after the other: the answers, the scenes and the reports.
def serve (l : Loader) (s : Scene) : List Use → List (Answer × Scene × Array Diagnostic)
  | []        => []
  | u :: uses =>
    let o := u.run l s
    (o.result, o.scene, o.log) :: serve o.loader o.scene uses

theorem serve_eq (h : l₁.Renumbered π l₂) (hglobals : l₁.registry.knows .globals) (s : Scene)
    (uses : List Use) : l₂.serve s uses = l₁.serve s uses := by
  induction uses generalizing l₁ l₂ s
  case nil => rfl
  case cons u uses hi =>
    have hsame := u.sameOutcome_run h hglobals s
    have hrest := hi hsame.loader (u.knows_run hglobals s) (u.run l₁ s).scene
    unfold serve
    dsimp only
    rw [hsame.result, hsame.scene, hsame.log, hrest]

-- The loaders after both registrations are the same but for the numbers of two scopes at most.
theorem registrations_commute (hl : l.Arises) (s : Scene) {name₁ name₂ text₁ text₂ : String}
    (hne : name₁ ≠ name₂) {f₁ f₂ : Forest} (hread₁ : Markup.read text₁ = (f₁.events, none))
    (hread₂ : Markup.read text₂ = (f₂.events, none)) (hf₁ : f₁.OnlyDefines)
    (hf₂ : f₂.OnlyDefines) :
    let first  := l.registerComponent s name₁ text₁
    let second := first.loader.registerComponent first.scene name₂ text₂
    let first'  := l.registerComponent s name₂ text₂
    let second' := first'.loader.registerComponent first'.scene name₁ text₁
    (first.result.isOk ∧ second.result.isOk ∧ first'.result.isOk ∧ second'.result.isOk) ∧
    second.scene = s ∧ second'.scene = s ∧ (∃ π, second.loader.Renumbered π second'.loader) ∧
    ∀ s uses, second'.loader.serve s uses = second.loader.serve s uses := by
  obtain ⟨f, hf, hdefine₁⟩ := registerComponent_defines l.setup hread₁ hf₁ name₁
  obtain ⟨g, hg, hdefine₂⟩ := registerComponent_defines l.setup hread₂ hf₂ name₂
  obtain ⟨history, hhistory⟩ := hl.history
  have hnumbered : l.registry.Numbered := hhistory ▸ history.numbered
  intro first second first' second'
  have ⟨hresult, hscene, hloader⟩ := hdefine₁ l s rfl
  have ⟨hresult', hscene', hloader'⟩ := hdefine₂ l s rfl
  have ⟨hresult₂, hscene₂, hloader₂⟩ := hdefine₂ first.loader first.scene (by rw [hloader])
  have ⟨hresult₂', hscene₂', hloader₂'⟩ := hdefine₁ first'.loader first'.scene (by rw [hloader'])
  have hsecond :
      second.loader = { l with registry := (l.registry.define name₁ f).define name₂ g } :=
    hloader₂.trans (by rw [show first.loader = _ from hloader])
  have hsecond' :
      second'.loader = { l with registry := (l.registry.define name₂ g).define name₁ f } :=
    hloader₂'.trans (by rw [show first'.loader = _ from hloader'])
  have hglobals : second.loader.registry.knows .globals := by
    rw [hsecond]
    exact Registry.knows_define (Registry.knows_define hnumbered.globals)
  obtain ⟨π, hπ⟩ := Registry.define_comm hnumbered hne hf hg
  have hrenumbered : second.loader.Renumbered π second'.loader := by
    rw [hsecond, hsecond']
    exact ⟨hπ, rfl⟩
  have hok {o : Outcome (Except LoadError ScopeId)} {id : ScopeId} (h : o.result = .ok id) :
      o.result.isOk := by rw [h]; rfl
  exact ⟨⟨hok hresult, hok hresult₂, hok hresult', hok hresult₂'⟩,
    hscene₂.trans hscene, hscene₂'.trans hscene', ⟨π, hrenumbered⟩,
    serve_eq hrenumbered hglobals⟩

theorem card_and_badge_commute :
    let card := "<screen><view extends='badge'><label text='#badge.t'/></view></screen>"
    let badge := "<screen><consts><px name='t' value='A'/></consts><view/></screen>"
    let l : Loader := {}
    let registered (first second : String × String) :=
      let o := l.registerComponent .empty first.1 first.2
      (o.loader.registerComponent o.scene second.1 second.2).loader
    let cardFirst := registered ("card", card) ("badge", badge)
    let badgeFirst := registered ("badge", badge) ("card", card)
    let uses := [Use.createScreen "card"]
    (badgeFirst.registry.scopeByName? "badge" = some ⟨1⟩ ∧
      cardFirst.registry.scopeByName? "badge" = some ⟨2⟩ ∧
      (cardFirst.serve .empty uses).map (·.2.1.size) = [2]) ∧
    badgeFirst.serve .empty uses = cardFirst.serve .empty uses := by
  intro card badge l registered cardFirst badgeFirst uses
  let cardForest : Forest := .element "screen" [] false
    (.element "view" [("extends", "badge")] false
      (.element "label" [("text", "#badge.t")] true .empty .empty) .empty) .empty
  let badgeForest : Forest := .element "screen" [] false
    (.element "consts" [] false
      (.element "px" [("name", "t"), ("value", "A")] true .empty .empty)
      (.element "view" [] true .empty .empty)) .empty
  have hcard : Markup.read card = (cardForest.events, none) :=
    (Markup.read_ofList _).trans (by decide +kernel)
  have hbadge : Markup.read badge = (badgeForest.events, none) :=
    (Markup.read_ofList _).trans (by decide +kernel)
  have ⟨_, _, _, _, hserve⟩ := registrations_commute (l := l) (.new {}) .empty
    (by decide : "card" ≠ "badge") hcard hbadge (by decide +kernel) (by decide +kernel)
  exact ⟨by decide +kernel, hserve .empty uses⟩

end Loader

end UiMarkup
