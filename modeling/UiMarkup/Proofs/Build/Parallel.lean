import UiMarkup.Proofs.Build.Invariant
import UiMarkup.Proofs.Build.Orders
import UiMarkup.Proofs.Build.Sound
import UiMarkup.Proofs.Registry.Renumbered
import UiMarkup.Proofs.Widget.Unsupported

namespace UiMarkup

def knowing (id : ScopeId) : Condition where
  holds r _ := r.knows id
  home _ _  := True

theorem Registry.knows_run {r : Registry} {id : ScopeId} (h : r.knows id) (c : Registry.Call) :
    (c.run r).knows id := by
  have hle : r.names.length ≤ (c.namesAfter r.names).length := by
    cases c
    case ensureScope name => rw [Registry.Call.namesAfter]; split <;> simp
    all_goals exact Nat.le_refl _
  rw [← Registry.names_run, Registry.length_names, Registry.length_names] at hle
  exact Nat.lt_of_lt_of_le h hle

theorem invariant_knowing (id : ScopeId) : (knowing id).Invariant := by
  constructor
  case entry =>
    intro r s h scope e
    have hknows : (e.registry scope r s).knows id :=
      e.registry_induction (motive := (·.knows id)) h fun c _ => Registry.knows_run h c
    exact ⟨hknows, fun _ => trivial⟩
  case element      => exact fun h _ _ _ => ⟨⟨h, fun _ => trivial⟩, fun _ _ => trivial⟩
  case adorn        => exact fun h _ _ _ _ => ⟨h, fun _ => trivial⟩
  case ensureScope  => exact fun h name => Registry.knows_run h (.ensureScope name)
  case setComponent =>
    exact fun h _ _ _ hr => Registry.Call.run_setComponent hr ▸ Registry.knows_run h _

def DocState.moved (d : DocState) (scope : ScopeId) (arguments : Option Attrs) : DocState :=
  { d with scope, arguments }

def Attrs.Refer (attrs : Attrs) (reads : String → Prop) : Prop :=
  ∀ a ∈ attrs, ∀ name ∈ Text.after? "$" a.2, reads name

def Event.Refers (e : Event) (reads : String → Prop) : Prop :=
  match e with
  | .opening _ attrs => attrs.Refer reads
  | .closing _       => True

-- How two builds correspond: the scopes that are matched, the parameters that have the same values
-- in both, and what was reported in each before.
structure Pairing where
  scopes : Renumbering
  reads  : String → Prop
  before : Array Diagnostic × Array Diagnostic

namespace Pairing

structure Relates (P : Pairing) (b₁ b₂ : Build) : Prop where
  registry  : b₁.registry.Renumbered P.scopes b₂.registry
  knows     : b₁.registry.knows b₁.doc.scope
  scene     : b₂.scene = b₁.scene
  doc       : b₂.doc = b₁.doc.moved (P.scopes b₁.doc.scope) b₂.doc.arguments
  arguments : ∀ name, P.reads name →
    b₂.doc.arguments.bind (·.get? name) = b₁.doc.arguments.bind (·.get? name)
  log       : ∃ more, b₁.log = P.before.1 ++ more ∧ b₂.log = P.before.2 ++ more

structure Answers {α : Type} (P : Pairing) (out₁ out₂ : α × Build) : Prop where
  value : out₂.1 = out₁.1
  build : P.Relates out₁.2 out₂.2

@[elab_as_elim]
theorem Answers.elim {α : Type} {P : Pairing} {motive : α × Build → α × Build → Prop}
    {out₁ out₂ : α × Build} (h : P.Answers out₁ out₂)
    (same : ∀ a b₁ b₂, P.Relates b₁ b₂ → motive (a, b₁) (a, b₂)) : motive out₁ out₂ := by
  obtain ⟨a, b₁⟩ := out₁
  obtain ⟨a₂, b₂⟩ := out₂
  obtain ⟨rfl, hb⟩ := h
  exact same a₂ b₁ b₂ hb

end Pairing

open Pairing (Relates Answers)

namespace Pairing.Relates

variable {P : Pairing} {b₁ b₂ : Build} (h : P.Relates b₁ b₂)
include h

theorem scope_eq : b₂.doc.scope = P.scopes b₁.doc.scope := by
  rw [h.doc]; rfl

theorem block_eq : b₂.doc.block = b₁.doc.block := by
  rw [h.doc]; rfl

theorem parent?_eq : b₂.doc.parent? = b₁.doc.parent? := by
  rw [h.doc]; rfl

theorem depth_eq : b₂.doc.depth = b₁.doc.depth := by
  rw [h.doc]; rfl

theorem item_eq : b₂.doc.item = b₁.doc.item := by
  rw [h.doc]; rfl

theorem view_eq : b₂.doc.view = b₁.doc.view := by
  rw [h.doc]; rfl

theorem pending_eq : b₂.doc.pending = b₁.doc.pending := by
  rw [h.doc]; rfl

theorem recording_eq : b₂.doc.recording = b₁.doc.recording := by
  rw [h.doc]; rfl

theorem alike : b₁.env.Alike b₂.env := by
  have hal := h.registry.alike b₁.doc.scope b₁.scene.subjectKind?
  rw [← h.scope_eq, ← h.scene] at hal
  rw [Build.env, ← h.scene]
  exact hal

theorem noteAll (ds : List Diagnostic) : P.Relates (b₁.noteAll ds) (b₂.noteAll ds) where
  registry  := h.registry
  knows     := h.knows
  scene     := h.scene
  doc       := h.doc
  arguments := h.arguments
  log       := by
    obtain ⟨more, h₁, h₂⟩ := h.log
    have hlog (before : Array Diagnostic) :
        (before ++ more).appendList ds = before ++ more.appendList ds :=
      Array.toList_inj.mp (by simp)
    exact ⟨more.appendList ds, by rw [Build.noteAll, h₁, hlog], by rw [Build.noteAll, h₂, hlog]⟩

theorem note (d : Diagnostic) : P.Relates (b₁.note d) (b₂.note d) := by
  simpa [Build.noteAll, Build.note] using h.noteAll [d]

theorem withScene (s : Scene) : P.Relates { b₁ with scene := s } { b₂ with scene := s } where
  registry  := h.registry
  knows     := h.knows
  scene     := rfl
  doc       := h.doc
  arguments := h.arguments
  log       := h.log

-- What a change of the document does may not depend on its scope and its arguments.
theorem modifyDoc {f : DocState → DocState}
    (hf : ∀ (d : DocState) scope arguments,
      f (d.moved scope arguments) = (f d).moved scope arguments) :
    P.Relates (b₁.modifyDoc f) (b₂.modifyDoc f) := by
  have hkeep (d : DocState) : (f d).scope = d.scope ∧ (f d).arguments = d.arguments := by
    have heq : f d = (f d).moved d.scope d.arguments := hf d d.scope d.arguments
    rw [heq]
    exact ⟨rfl, rfl⟩
  refine { h with doc := ?doc, arguments := ?arguments, knows := ?knows }
  case doc =>
    show f b₂.doc = (f b₁.doc).moved (P.scopes (f b₁.doc).scope) (f b₂.doc).arguments
    rw [(hkeep _).1, (hkeep _).2, ← hf, ← h.doc]
  case arguments =>
    show ∀ name, P.reads name →
      (f b₂.doc).arguments.bind (·.get? name) = (f b₁.doc).arguments.bind (·.get? name)
    rw [(hkeep _).2, (hkeep _).2]
    exact h.arguments
  case knows =>
    show b₁.registry.knows (f b₁.doc).scope
    rw [(hkeep _).1]
    exact h.knows

theorem keep {refused : RegistryError → Diagnostic}
    {result₁ result₂ : Except RegistryError Registry}
    (hm : Registry.Matched P.scopes b₁.registry result₁ result₂) :
    P.Relates (b₁.keep refused result₁) (b₂.keep refused result₂) := by
  cases hm
  case error e     => exact h.note _
  case ok hr hsize =>
    exact { h with registry := hr, knows := Nat.lt_of_lt_of_eq h.knows hsize.symm }

theorem take {α : Type} (n : Noted α) : P.Answers (b₁.take n) (b₂.take n) :=
  ⟨rfl, h.noteAll n.notes⟩

theorem register (kind : EntryKind) (name : String) (value : kind.Value) :
    P.Relates (b₁.register kind name value) (b₂.register kind name value) := by
  unfold Build.register
  rw [h.scope_eq]
  exact h.keep (h.registry.register h.knows kind name value)

theorem setPending (p : Option Pending) : P.Relates (b₁.setPending p) (b₂.setPending p) :=
  h.modifyDoc fun _ _ _ => rfl

theorem paramEntry (tag : String) (attrs : Attrs) :
    P.Relates (b₁.paramEntry tag attrs) (b₂.paramEntry tag attrs) := by
  unfold Build.paramEntry
  rw [h.scope_eq]
  split
  case isTrue  => exact h.note _
  case isFalse =>
    split
    case h_1        => exact h.note _
    case h_2 name _ => exact h.keep (h.registry.registerParam h.knows name _)

theorem constEntry (tag : String) (attrs : Attrs) :
    P.Relates (b₁.constEntry tag attrs) (b₂.constEntry tag attrs) := by
  unfold Build.constEntry
  split
  case h_1 => exact h.register .const _ _
  case h_2 => exact h.note _

theorem gradientEntry (tag : String) (attrs : Attrs) :
    P.Relates (b₁.gradientEntry tag attrs) (b₂.gradientEntry tag attrs) := by
  unfold Build.gradientEntry
  split
  case h_1 => exact h.note _
  case h_2 =>
    split
    case h_1 => exact h.note _
    case h_2 => exact h.setPending _

theorem stopEntry (tag : String) (attrs : Attrs) :
    P.Relates (b₁.stopEntry tag attrs) (b₂.stopEntry tag attrs) := by
  unfold Build.stopEntry
  rw [h.pending_eq]
  split
  case isTrue  => exact h.note _
  case isFalse =>
    split
    case h_1 => exact (h.noteAll _).setPending _
    case h_2 => exact h.note _

theorem styleEntry (tag : String) (attrs : Attrs) :
    P.Relates (b₁.styleEntry tag attrs) (b₂.styleEntry tag attrs) := by
  unfold Build.styleEntry
  split
  case isTrue  => exact h.note _
  case isFalse =>
    have ⟨hnotes, hmatch⟩ := h.registry.registerStyle h.knows attrs
    dsimp only [Build.take]
    rw [h.scope_eq, hnotes]
    exact (h.noteAll _).keep hmatch

theorem fontEntry (c : Config) (tag : String) (attrs : Attrs) :
    P.Relates (Build.fontEntry c b₁ tag attrs) (Build.fontEntry c b₂ tag attrs) := by
  unfold Build.fontEntry
  rw [h.scene]
  split
  case h_1 => exact h.note _
  case h_2 kind _ =>
    split
    case h_1 => exact h.note _
    case h_2 => exact h.note _
    case h_3 =>
      dsimp only
      split
      case h_1 => exact (h.withScene _).note _
      case h_2 => exact (h.withScene _).register .font _ _

theorem imageEntry (c : Config) (tag : String) (attrs : Attrs) :
    P.Relates (Build.imageEntry c b₁ tag attrs) (Build.imageEntry c b₂ tag attrs) := by
  unfold Build.imageEntry
  split
  case isTrue  => exact h.note _
  case isFalse =>
    split
    case h_1 => exact h.register .image _ _
    case h_2 => exact h.note _

theorem subjectEntry (tag : String) (attrs : Attrs) :
    P.Relates (b₁.subjectEntry tag attrs) (b₂.subjectEntry tag attrs) := by
  unfold Build.subjectEntry
  split
  case h_1 => exact h.note _
  case h_2 =>
    have htake {n : Noted SubjectValue} : P.Relates (b₁.take n).2 (b₂.take n).2 := (h.take n).build
    dsimp only
    split
    case h_1 => exact htake.note _
    case h_2 =>
      rw [htake.scene]
      exact (htake.withScene _).register .subject _ _

theorem timelineEntry (tag : String) (attrs : Attrs) :
    P.Relates (b₁.timelineEntry tag attrs) (b₂.timelineEntry tag attrs) := by
  have hbegin : P.Relates (b₁.beginTimeline attrs) (b₂.beginTimeline attrs) := by
    unfold Build.beginTimeline
    rw [h.scene]
    split
    case h_1 => exact h.note _
    case h_2 => exact ((h.withScene _).register .timeline _ _).setPending _
  have hadd : P.Relates (b₁.addStep tag attrs) (b₂.addStep tag attrs) := by
    unfold Build.addStep
    rw [h.pending_eq]
    split
    case h_1 id _ =>
      have htake := h.take (Build.readStep tag attrs)
      dsimp only
      rw [htake.value]
      split
      case h_1 => exact htake.build
      case h_2 =>
        rw [htake.build.scene]
        exact htake.build.withScene _
    case h_2 => exact h.note _
  unfold Build.timelineEntry
  split
  case isTrue  => exact hbegin
  case isFalse =>
    split
    case isTrue  => exact hadd
    case isFalse => exact h.note _

theorem entry (c : Config) (tag : String) (attrs : Attrs) :
    P.Relates (Build.entry c b₁ tag attrs) (Build.entry c b₂ tag attrs) := by
  unfold Build.entry
  rw [h.block_eq]
  cases b₁.doc.block
  case none            => exact h.note _
  case view            => exact h.note _
  case api             => exact h.paramEntry tag attrs
  case consts          => exact h.constEntry tag attrs
  case gradients       => exact h.gradientEntry tag attrs
  case stops           => exact h.stopEntry tag attrs
  case styles          => exact h.styleEntry tag attrs
  case fonts           => exact h.fontEntry c tag attrs
  case images          => exact h.imageEntry c tag attrs
  case subjects        => exact h.subjectEntry tag attrs
  case animation       => exact h.timelineEntry tag attrs
  case includeTimeline => exact h.timelineEntry tag attrs
  case timeline        => exact h.timelineEntry tag attrs

theorem endEntry (tag : String) : P.Relates (b₁.endEntry tag) (b₂.endEntry tag) := by
  unfold Build.endEntry
  rw [h.pending_eq]
  split
  case h_1 name gradient _ =>
    split
    case isFalse => exact h
    case isTrue  =>
      have hpending := h.setPending none
      unfold Build.endGradient
      dsimp only
      split
      case isTrue  => exact hpending.register .gradient name gradient
      case isFalse => exact (hpending.note _).register .gradient name gradient
  case h_2 =>
    split
    case isTrue  => exact h.setPending none
    case isFalse => exact h
  case h_3 => exact h

theorem closeBlock (tag : String) : P.Relates (b₁.closeBlock tag) (b₂.closeBlock tag) :=
  (h.endEntry tag).modifyDoc fun _ _ _ => rfl

theorem resolveAttrs (attrs : Attrs) (ha : attrs.Refer P.reads) :
    b₂.resolveAttrs attrs = b₁.resolveAttrs attrs := by
  refine Noted.collect_congr fun a hmem => ?_
  unfold Build.resolveAttr
  rw [h.scope_eq, h.registry.resolve?]
  split
  case h_1 name hname => rw [h.arguments name (ha a hmem name hname)]
  case h_2            => rfl

theorem make (p : Processor) (attrs : Attrs) : P.Answers (b₁.make p attrs) (b₂.make p attrs) := by
  unfold Build.make
  rw [← h.alike.create, h.parent?_eq, h.scene]
  exact ⟨rfl, (h.noteAll _).withScene _⟩

theorem apply (p : Processor) (attrs : Attrs) :
    P.Relates (b₁.apply p attrs) (b₂.apply p attrs) := by
  unfold Build.apply
  rw [← h.alike.apply, h.parent?_eq, h.item_eq]
  have hnote := h.noteAll (p.apply b₁.env b₁.doc.parent? b₁.doc.item attrs).notes
  dsimp only [Build.take]
  rw [hnote.scene]
  exact hnote.withScene _

theorem setItem (item : Option Item) : P.Relates (b₁.setItem item) (b₂.setItem item) :=
  h.modifyDoc fun _ _ _ => rfl

theorem setDepth (depth : Nat) : P.Relates (b₁.setDepth depth) (b₂.setDepth depth) :=
  h.modifyDoc fun _ _ _ => rfl

theorem openFrame (made : Option ObjId) :
    P.Relates (b₁.modifyDoc (·.openFrame made)) (b₂.modifyDoc (·.openFrame made)) :=
  h.modifyDoc fun _ _ _ => rfl

theorem closeFrame : P.Relates (b₁.modifyDoc (·.closeFrame)) (b₂.modifyDoc (·.closeFrame)) := by
  refine h.modifyDoc fun d scope arguments => ?_
  unfold DocState.closeFrame
  rw [show (d.moved scope arguments).frames = d.frames from rfl]
  split <;> rfl

theorem recordOr (e : Event) {f : Build → Build} (hf : P.Relates (f b₁) (f b₂)) :
    P.Relates (b₁.recordOr e f) (b₂.recordOr e f) := by
  unfold Build.recordOr
  rw [h.recording_eq]
  split
  case h_1 => exact h.modifyDoc fun _ _ _ => rfl
  case h_2 => exact hf

theorem closing (tag : String) : P.Relates (b₁.closing tag) (b₂.closing tag) := by
  unfold Build.closing
  rw [h.depth_eq]
  split
  case h_1 => exact h.closeBlock tag
  case h_2 depth _ =>
    have hframe := (h.setDepth depth).recordOr (.closing tag)
      (f := fun b => b.modifyDoc (·.closeFrame)) (h.setDepth depth).closeFrame
    dsimp only
    split
    case isTrue  => exact hframe.closeBlock tag
    case isFalse => exact hframe

end Pairing.Relates

theorem Build.baseWidget_congr {widgets : WidgetTable} {r₁ r₂ : Registry}
    (h : ∀ tag, (r₂.componentScope? tag).bind r₂.component? =
      (r₁.componentScope? tag).bind r₁.component?) :
    baseWidget widgets r₂ = baseWidget widgets r₁ := by
  funext levels tag
  induction levels generalizing tag
  case zero           => rfl
  case succ levels hi =>
    unfold baseWidget
    rw [h]
    simp only [hi]

def Build.Instantiate.Parallel (inst : Build.Instantiate) : Prop :=
  ∀ (P : Pairing) b₁ b₂, P.Relates b₁ b₂ → ∀ scope, b₁.registry.knows scope →
    ∀ attrs, P.Answers (inst b₁ scope attrs) (inst b₂ (P.scopes scope) attrs)

namespace Pairing.Relates

variable {P : Pairing} {b₁ b₂ : Build} {setup : Setup} {inst : Build.Instantiate}

section Elements

variable (hinst : inst.Parallel) (h : P.Relates b₁ b₂)
include hinst h

theorem createElement (setup : Setup) (tag : String) (attrs : Attrs) :
    P.Answers (Build.createElement setup inst b₁ tag attrs)
      (Build.createElement setup inst b₂ tag attrs) := by
  unfold Build.createElement
  cases hp : setup.widgets.get? tag
  case some p =>
    dsimp only
    refine Answers.elim (h.make p attrs) fun item b₁ b₂ hb => ?_
    cases item
    case none      => exact ⟨rfl, hb⟩
    case some item => exact ⟨rfl, ((hb.setItem _).apply p attrs).noteAll _⟩
  case none =>
    dsimp only
    rw [h.registry.componentScope?]
    cases hscope : b₁.registry.componentScope? tag
    case none       => exact ⟨rfl, h.note _⟩
    case some scope =>
      have hknows : b₁.registry.knows scope := Registry.knows_of_componentScope? hscope
      dsimp only [Option.map_some]
      refine Answers.elim (hinst P b₁ b₂ h scope hknows attrs) fun view b₁ b₂ hb => ?_
      cases view
      case none   => exact ⟨rfl, hb⟩
      case some _ => exact ⟨rfl, hb.setItem _⟩

theorem openRoot {attrs : Attrs} (ha : attrs.Refer P.reads) :
    P.Relates (Build.openRoot setup inst b₁ attrs) (Build.openRoot setup inst b₂ attrs) := by
  have hrest : Attrs.Refer (attrs.filter (·.1 ≠ "extends")) P.reads := fun a hmem =>
    ha a (List.mem_filter.mp hmem).1
  have hmake := createElement hinst
    (h.noteAll (b₁.resolveAttrs (attrs.filter (·.1 ≠ "extends"))).notes) setup
    ((attrs.get? "extends").getD "obj")
    (b₁.resolveAttrs (attrs.filter (·.1 ≠ "extends"))).value
  unfold Build.openRoot
  dsimp only [Build.take]
  rw [h.resolveAttrs _ hrest, hmake.value]
  exact hmake.build.modifyDoc fun _ _ _ => rfl

theorem openChild (tag : String) {attrs : Attrs} (ha : attrs.Refer P.reads) :
    P.Relates (Build.openChild setup inst b₁ tag attrs)
      (Build.openChild setup inst b₂ tag attrs) := by
  unfold Build.openChild
  rw [h.depth_eq]
  split
  case isTrue  => exact (h.note _).openFrame none
  case isFalse =>
    have hmake := createElement hinst (h.noteAll (b₁.resolveAttrs attrs).notes) setup tag
      (b₁.resolveAttrs attrs).value
    dsimp only [Build.take]
    rw [h.resolveAttrs attrs ha, hmake.value]
    exact hmake.build.openFrame _

theorem opening (tag : String) {attrs : Attrs} (ha : attrs.Refer P.reads) :
    P.Relates (Build.opening setup inst b₁ tag attrs)
      (Build.opening setup inst b₂ tag attrs) := by
  unfold Build.opening
  rw [h.depth_eq, h.block_eq]
  split
  case isTrue  =>
    have hdepth := h.setDepth (b₁.doc.depth + 1)
    exact hdepth.recordOr _ (openChild hinst hdepth tag ha)
  case isFalse =>
    split
    case isTrue  => exact h
    case isFalse =>
      split
      case h_1         => exact h.entry setup.config tag attrs
      case h_2 block _ =>
        have hblock : P.Relates (b₁.modifyDoc fun d => { d with block })
            (b₂.modifyDoc fun d => { d with block }) := h.modifyDoc fun _ _ _ => rfl
        dsimp only
        split
        case isTrue  => exact (hblock.setDepth 1).recordOr _ (openRoot hinst (hblock.setDepth 1) ha)
        case isFalse =>
          split
          case isTrue  => exact hblock.entry setup.config tag attrs
          case isFalse => exact hblock

theorem replay {events : List Event} (he : ∀ e ∈ events, e.Refers P.reads) :
    P.Relates (Build.replay setup inst b₁ events) (Build.replay setup inst b₂ events) := by
  induction events generalizing b₁ b₂
  case nil => exact h
  case cons e events hi =>
    have hstep : P.Relates (Build.step setup inst b₁ e) (Build.step setup inst b₂ e) := by
      cases e
      case opening tag attrs => exact opening hinst h tag (he _ (.head _))
      case closing tag       => exact h.closing tag
    exact hi hstep fun e hm => he e (.tail _ hm)

-- An instance in both, whose arguments are the same as far as its view refers to them.
theorem inside (setup : Setup) (hmakes : ∀ id, inst.Makes (knowing id)) {scope : ScopeId}
    (hscope : b₁.registry.knows scope) (view : List Event) {reads : String → Prop}
    (hview : ∀ e ∈ view, e.Refers reads) (attrs₁ attrs₂ : Attrs)
    (hargs : ∀ name, reads name →
      (Build.arguments (b₁.registry.params scope) attrs₂).get? name =
        (Build.arguments (b₁.registry.params scope) attrs₁).get? name) :
    let inner₁ := Build.replay setup inst (b₁.inside scope attrs₁) view
    let inner₂ := Build.replay setup inst (b₂.inside (P.scopes scope) attrs₂) view
    inner₂.doc.view = inner₁.doc.view ∧
      P.Relates { inner₁ with doc := b₁.doc } { inner₂ with doc := b₂.doc } := by
  intro inner₁ inner₂
  have hbegin : Relates { P with reads } (b₁.inside scope attrs₁)
      (b₂.inside (P.scopes scope) attrs₂) := by
    refine { h with doc := ?doc, arguments := ?arguments, knows := hscope }
    case doc       => rw [Build.inside, Build.inside, h.parent?_eq]; rfl
    case arguments =>
      intro name hname
      rw [Build.inside, Build.inside, h.registry.params]
      exact hargs name hname
  have hinner : Relates { P with reads } inner₁ inner₂ := replay hinst hbegin hview
  have hmeets : b₁.inside scope attrs₁ |>.Meets (knowing b₁.doc.scope) :=
    ⟨h.knows, ⟨fun _ _ => trivial, fun _ _ => trivial⟩⟩
  have hknows : inner₁.registry.knows b₁.doc.scope :=
    (hmeets.replay (invariant_knowing _) setup (hmakes _) view).meets.holds
  exact ⟨hinner.view_eq, { h with
    registry := hinner.registry, knows := hknows, scene := hinner.scene, log := hinner.log }⟩

end Elements

theorem baseWidget (h : P.Relates b₁ b₂) (widgets : WidgetTable) :
    Build.baseWidget widgets b₂.registry = Build.baseWidget widgets b₁.registry := by
  refine Build.baseWidget_congr fun tag => ?_
  rw [h.registry.componentScope?]
  cases b₁.registry.componentScope? tag
  case none       => rfl
  case some scope => exact h.registry.component? scope

theorem applyRest (h : P.Relates b₁ b₂) (setup : Setup) (name : String) (c : Component)
    (root : ObjId) (rest : Attrs) :
    P.Relates (Build.applyRest setup b₁ name c root rest)
      (Build.applyRest setup b₂ name c root rest) := by
  unfold Build.applyRest
  rw [h.baseWidget]
  split
  case isTrue  => exact h
  case isFalse =>
    dsimp only
    split
    case h_1 p _ => exact (h.setItem _).apply p rest
    case h_2     => exact h.note _

end Pairing.Relates

theorem Event.refers_true (e : Event) : e.Refers fun _ => True := by
  cases e
  case opening => exact fun _ _ _ _ => trivial
  case closing => trivial

theorem Build.Instantiate.parallel_instantiate (setup : Setup) (levels : Nat) :
    Instantiate.Parallel (instantiate setup levels) := by
  induction levels
  case zero =>
    intro P b₁ b₂ h scope _ _
    unfold instantiate
    rw [h.registry.scopeName]
    exact ⟨rfl, h.note _⟩
  case succ levels hi =>
    intro P b₁ b₂ h scope hscope attrs
    cases hc : b₁.registry.component? scope
    case none =>
      have hc₂ : b₂.registry.component? (P.scopes scope) = none :=
        (h.registry.component? scope).trans hc
      rw [instantiate, hc, instantiate, hc₂]
      exact ⟨rfl, h⟩
    case some c =>
      have hc₂ : b₂.registry.component? (P.scopes scope) = some c :=
        (h.registry.component? scope).trans hc
      obtain ⟨hview, houter⟩ := h.inside hi setup
        (fun id => makes_instantiate (invariant_knowing id) setup levels) hscope c.view
        (fun e _ => e.refers_true) attrs attrs fun _ _ => rfl
      rw [instantiate_inside levels hc, instantiate_inside levels hc₂, h.registry.scopeName,
        h.registry.params]
      dsimp only
      rw [hview]
      split
      case h_1 => exact ⟨rfl, houter.note _⟩
      case h_2 => exact ⟨rfl, (houter.applyRest _ _ _ _ _).note _⟩

end UiMarkup
