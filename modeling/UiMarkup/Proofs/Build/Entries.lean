import UiMarkup.Build.View
import UiMarkup.Proofs.Registry.History
import UiMarkup.Proofs.Scene.Growth

namespace UiMarkup

namespace Registry

variable {r r' : Registry}

theorem component?_modify {id : ScopeId} {f : Scope → Scope}
    (h : r'.scopes = r.scopes.modify id.index f) (hf : ∀ s, (f s).component = s.component)
    (scope : ScopeId) : r'.component? scope = r.component? scope := by
  rw [component?, component?, scope?, h, scope?_modify]
  split
  case isTrue  => cases r.scope? scope <;> simp [hf]
  case isFalse => rfl

theorem component?_modifyScope {id : ScopeId} {f : Scope → Scope}
    (h : r.modifyScope id f = .ok r') (hf : ∀ s, (f s).component = s.component)
    (scope : ScopeId) : r'.component? scope = r.component? scope :=
  component?_modify (congrArg scopes (modifyScope_eq_ok h).2) hf scope

theorem component?_register {kind : EntryKind} {scope : Option ScopeId} {name : String}
    {value : kind.Value} (h : r.register kind scope name value = .ok r') (id : ScopeId) :
    r'.component? id = r.component? id :=
  component?_modifyScope h (fun _ => by cases kind <;> rfl) id

theorem component?_registerStyle {scope : Option ScopeId} {attrs : Attrs}
    (h : (r.registerStyle scope attrs).value.map Prod.snd = .ok r') (id : ScopeId) :
    r'.component? id = r.component? id := by
  obtain ⟨name, s, extended, -, -, rfl⟩ := registerStyle_eq_ok h
  unfold ensureStyle
  split
  case h_1 => rw [component?, scope?, scopes_restyle]; rfl
  case h_2 =>
    exact component?_modify (f := (·.set .style name ⟨r.styles.size⟩)) (scopes_restyle ..)
      (fun _ => rfl) id

end Registry

-- What an element outside of a view comes down to. Fonts, subjects and timelines are made in the
-- scene, and named in the registry by the handles that they get there.
inductive Entry
  | param (name : String) (default : Option String)
  | const (name value : String)
  | image (name : String) (source : ImageSource)
  | gradient (name : String) (gradient : Gradient)
  | style (attrs : Attrs)
  | font (name : String) (source : FontSource)
  | subject (name : String) (initial : SubjectValue)
  | timeline (name : String)
  | step (id : TimelineId) (more : TimelineStep)

namespace Entry

def request? : Entry → Option Scene.Request
  | font _ source     => some (.loadFont source)
  | subject _ initial => some (.createSubject initial)
  | timeline _        => some .createTimeline
  | step id more      => some (.addStep id more)
  | _                 => none

def call? (scope : ScopeId) (s : Scene) : Entry → Option Registry.Call
  | param name default   => some (.registerParam scope name default)
  | const name value     => some (.register .const nofun (some scope) name value)
  | image name source    => some (.register .image nofun (some scope) name source)
  | gradient name g      => some (.register .gradient nofun (some scope) name g)
  | style attrs          => some (.registerStyle (some scope) attrs)
  | font name source     => (s.loadFont source).1.map (.register .font nofun (some scope) name ·)
  | subject name initial =>
    some (.register .subject nofun (some scope) name (s.createSubject initial).1)
  | timeline name        => some (.register .timeline nofun (some scope) name s.createTimeline.1)
  | step ..              => none

def timeline? : Entry → Option TimelineId
  | step id _ => some id
  | _         => none

def scene (s : Scene) (e : Entry) : Scene :=
  e.request?.elim s (Scene.Request.run s)

def registry (scope : ScopeId) (r : Registry) (s : Scene) (e : Entry) : Registry :=
  (e.call? scope s).elim r (Registry.Call.run r)

variable (e : Entry) {s : Scene}

theorem named_request {e : Entry} {r : Scene.Request} (h : r ∈ e.request?) : r.named = [] := by
  cases e <;> cases h <;> rfl

theorem objects_scene : (e.scene s).objects = s.objects := by
  cases e
  case font => exact Scene.objects_loadFont
  all_goals rfl

theorem component?_registry {scope : ScopeId} {r : Registry} (id : ScopeId) :
    (e.registry scope r s).component? id = r.component? id := by
  have hsettle {result : Except RegistryError Registry}
      (h : ∀ r', result = .ok r' → r'.component? id = r.component? id) :
      (Registry.Call.run.settle r result).component? id = r.component? id :=
    Registry.Call.run.settle_cases (motive := (·.component? id = r.component? id)) rfl h
  cases e
  case param => exact hsettle fun _ h => Registry.component?_modifyScope h (fun _ => rfl) id
  case style => exact hsettle fun _ h => Registry.component?_registerStyle h id
  case step  => rfl
  case font name source =>
    rw [registry, call?]
    cases (s.loadFont source).1
    case none      => rfl
    case some font => exact hsettle fun _ h => Registry.component?_register h id
  all_goals exact hsettle fun _ h => Registry.component?_register h id

end Entry

namespace Build

-- What views are built from, and the objects that they are built into, are the same.
structure Spares (b b' : Build) : Prop where
  objects    : b'.scene.objects = b.scene.objects
  components : ∀ id, b'.registry.component? id = b.registry.component? id

structure Rests (b b' : Build) : Prop where
  registry : b'.registry = b.registry
  scene    : b'.scene = b.scene
  scope    : b'.doc.scope = b.doc.scope
  pending  : b'.doc.pending = b.doc.pending

namespace Rests

variable {b b' : Build}

theorem refl : b.Rests b := ⟨rfl, rfl, rfl, rfl⟩

theorem trans {b₁ b₂ b₃ : Build} (h₁ : b₁.Rests b₂) (h₂ : b₂.Rests b₃) : b₁.Rests b₃ where
  registry := h₂.registry.trans h₁.registry
  scene    := h₂.scene.trans h₁.scene
  scope    := h₂.scope.trans h₁.scope
  pending  := h₂.pending.trans h₁.pending

theorem setDepth (depth : Nat) : b.Rests (b.setDepth depth) := { refl with }

theorem note (d : Diagnostic) : b.Rests (b.note d) := { refl with }

theorem openFrame (made : Option ObjId) : b.Rests (b.modifyDoc (·.openFrame made)) :=
  { refl with }

theorem closeFrame : b.Rests (b.modifyDoc (·.closeFrame)) := by
  have hdoc : b.doc.closeFrame.scope = b.doc.scope ∧ b.doc.closeFrame.pending = b.doc.pending := by
    unfold DocState.closeFrame
    split <;> exact ⟨rfl, rfl⟩
  exact ⟨rfl, rfl, hdoc.1, hdoc.2⟩

theorem recordOr (e : Event) {f : Build → Build} (hf : b.doc.recording = none → b.Rests (f b)) :
    b.Rests (b.recordOr e f) := by
  unfold Build.recordOr
  split
  case h_1    => exact { refl with }
  case h_2 hr => exact hf hr

end Rests

-- At most one entry is filed. What it adds to is the timeline that is pending, and a timeline that
-- becomes pending is new.
structure Files (b b' : Build) : Prop where
  filed : (b'.registry = b.registry ∧ b'.scene = b.scene) ∨ ∃ e : Entry,
    b'.registry = e.registry b.doc.scope b.registry b.scene ∧ b'.scene = e.scene b.scene ∧
      ∀ id ∈ e.timeline?, b.doc.pending = some (.timeline id)
  scope : b'.doc.scope = b.doc.scope
  begun : ∀ id, b'.doc.pending = some (.timeline id) →
    b.doc.pending = some (.timeline id) ∨ b.scene.timelines.size ≤ id.index

theorem Files.spares {b b' : Build} (h : b.Files b') : b.Spares b' := by
  cases h.filed
  case inl he => exact ⟨congrArg Scene.objects he.2, fun _ => by rw [he.1]⟩
  case inr he =>
    obtain ⟨e, hr, hs, -⟩ := he
    exact ⟨hs ▸ e.objects_scene, fun id => hr ▸ e.component?_registry id⟩

theorem Rests.files {b b' : Build} (h : b.Rests b') : b.Files b' where
  filed := .inl ⟨h.registry, h.scene⟩
  scope := h.scope
  begun := fun _ hp => .inl (h.pending.symm.trans hp)

theorem Rests.files_trans {b₁ b₂ b₃ : Build} (h₁ : b₁.Rests b₂) (h₂ : b₂.Files b₃) :
    b₁.Files b₃ where
  filed := by
    have h := h₂.filed
    rwa [h₁.registry, h₁.scene, h₁.scope, h₁.pending] at h
  scope := h₂.scope.trans h₁.scope
  begun := by
    have h := h₂.begun
    rwa [h₁.scene, h₁.pending] at h

-- Moreover, of the state of the document only the block and what is pending may be changed.
structure Keeps (b b' : Build) : Prop extends Files b b' where
  doc : ∃ block pending, b'.doc = { b.doc with block, pending }

section Keep

variable {b : Build} {refused : RegistryError → Diagnostic} {result : Except RegistryError Registry}

theorem registry_keep :
    (b.keep refused result).registry = Registry.Call.run.settle b.registry result := by
  cases result <;> rfl

theorem scene_keep : (b.keep refused result).scene = b.scene := by
  cases result <;> rfl

theorem doc_keep : (b.keep refused result).doc = b.doc := by
  cases result <;> rfl

end Keep

namespace Keeps

variable {b b' : Build} {block : Block} {pending : Option Pending}

theorem idle (hr : b'.registry = b.registry) (hs : b'.scene = b.scene)
    (hd : b'.doc = { b.doc with block, pending })
    (hp : ∀ id, pending = some (.timeline id) → b.doc.pending = some (.timeline id)) :
    b.Keeps b' where
  filed := .inl ⟨hr, hs⟩
  scope := by rw [hd]
  begun := fun id h => .inl <| hp id <| by rwa [hd] at h
  doc   := ⟨block, pending, hd⟩

theorem refl : b.Keeps b :=
  .idle rfl rfl rfl fun _ h => h

theorem note (d : Diagnostic) : b.Keeps (b.note d) :=
  .idle rfl rfl rfl fun _ h => h

theorem file (e : Entry) (hr : b'.registry = e.registry b.doc.scope b.registry b.scene)
    (hs : b'.scene = e.scene b.scene) (hd : b'.doc = { b.doc with block, pending })
    (ht : ∀ id ∈ e.timeline?, b.doc.pending = some (.timeline id))
    (hp : ∀ id, pending = some (.timeline id) →
      b.doc.pending = some (.timeline id) ∨ b.scene.timelines.size ≤ id.index) : b.Keeps b' where
  filed := .inr ⟨e, hr, hs, ht⟩
  scope := by rw [hd]
  begun := fun id h => hp id <| by rwa [hd] at h
  doc   := ⟨block, pending, hd⟩

theorem register (e : Entry) (hr : b'.registry = e.registry b.doc.scope b.registry b.scene)
    (hs : b'.scene = e.scene b.scene) (hd : b'.doc = b.doc) (ht : e.timeline? = none) :
    b.Keeps b' :=
  .file e hr hs hd (by simp [ht]) fun _ h => .inl h

theorem withPending (h : b.Keeps b') (hp : ∀ id, pending = some (.timeline id) →
    b.doc.pending = some (.timeline id) ∨ b.scene.timelines.size ≤ id.index) :
    b.Keeps (b'.setPending pending) where
  filed := h.filed
  scope := h.scope
  begun := hp
  doc   := have ⟨block, _, hd⟩ := h.doc; ⟨block, pending, by simp [setPending, modifyDoc, hd]⟩

theorem withBlock (h : b.Keeps b') (block : Block) :
    b.Keeps (b'.modifyDoc fun d => { d with block }) where
  filed := h.filed
  scope := h.scope
  begun := h.begun
  doc   := have ⟨_, pending, hd⟩ := h.doc; ⟨block, pending, by simp [modifyDoc, hd]⟩

theorem of_withBlock (h : (b.modifyDoc fun d => { d with block }).Keeps b') : b.Keeps b' where
  filed := h.filed
  scope := h.scope
  begun := h.begun
  doc   := h.doc

theorem paramEntry (tag : String) (attrs : Attrs) : b.Keeps (b.paramEntry tag attrs) := by
  unfold Build.paramEntry
  split
  case isTrue  => exact .note _
  case isFalse =>
    split
    case h_1 => exact .note _
    case h_2 name _ =>
      exact .register (.param name (attrs.get? "default")) registry_keep scene_keep doc_keep rfl

theorem constEntry (tag : String) (attrs : Attrs) : b.Keeps (b.constEntry tag attrs) := by
  unfold Build.constEntry
  split
  case h_1 name value _ _ =>
    exact .register (.const name value) registry_keep scene_keep doc_keep rfl
  case h_2 => exact .note _

theorem gradientEntry (tag : String) (attrs : Attrs) : b.Keeps (b.gradientEntry tag attrs) := by
  unfold Build.gradientEntry
  split
  case h_1 => exact .note _
  case h_2 =>
    split
    case h_1 => exact .note _
    case h_2 => exact .idle rfl rfl rfl nofun

theorem stopEntry (tag : String) (attrs : Attrs) : b.Keeps (b.stopEntry tag attrs) := by
  unfold Build.stopEntry
  split
  case isTrue  => exact .note _
  case isFalse =>
    split
    case h_1 => exact .idle rfl rfl rfl nofun
    case h_2 => exact .note _

theorem styleEntry (tag : String) (attrs : Attrs) : b.Keeps (b.styleEntry tag attrs) := by
  unfold Build.styleEntry
  split
  case isTrue  => exact .note _
  case isFalse => exact .register (.style attrs) registry_keep scene_keep doc_keep rfl

theorem fontEntry (c : Config) (tag : String) (attrs : Attrs) :
    b.Keeps (fontEntry c b tag attrs) := by
  unfold Build.fontEntry
  split
  case h_1 => exact .note _
  case h_2 kind _ =>
    split
    case h_1 => exact .note _
    case h_2 => exact .note _
    case h_3 name src _ _ =>
      let source := if kind = .builtin then src else c.assetPath src
      let font : FontSource := { kind, source, size := Reading.intAttr attrs "size" 0 }
      have hcall : (Entry.font name font).call? b.doc.scope b.scene =
          (b.scene.loadFont font).1.map (.register .font nofun (some b.doc.scope) name ·) := rfl
      dsimp only
      split
      case h_1 s hload =>
        rw [show b.scene.loadFont font = _ from hload] at hcall
        refine .register (.font name font) ?_ (congrArg Prod.snd hload).symm rfl rfl
        rw [Entry.registry, hcall]
        rfl
      case h_2 id s hload =>
        rw [show b.scene.loadFont font = _ from hload] at hcall
        refine .register (.font name font) ?_
          (scene_keep.trans (congrArg Prod.snd hload).symm) doc_keep rfl
        rw [Entry.registry, hcall]
        exact registry_keep

theorem imageEntry (c : Config) (tag : String) (attrs : Attrs) :
    b.Keeps (imageEntry c b tag attrs) := by
  unfold Build.imageEntry
  split
  case isTrue  => exact .note _
  case isFalse =>
    split
    case h_1 name src _ _ =>
      exact .register (.image name (.path (c.assetPath src))) registry_keep scene_keep
        doc_keep rfl
    case h_2 => exact .note _

theorem subjectEntry (tag : String) (attrs : Attrs) : b.Keeps (b.subjectEntry tag attrs) := by
  unfold Build.subjectEntry
  split
  case h_1 => exact .note _
  case h_2 kind _ =>
    dsimp only
    split
    case h_1 => exact .idle rfl rfl rfl fun _ h => h
    case h_2 name _ =>
      exact .register (.subject name (initialValue kind attrs).value) registry_keep scene_keep
        doc_keep rfl

theorem beginTimeline (attrs : Attrs) : b.Keeps (b.beginTimeline attrs) := by
  unfold Build.beginTimeline
  split
  case h_1 => exact .note _
  case h_2 name _ =>
    refine withPending (.register (.timeline name) registry_keep scene_keep doc_keep rfl) ?_
    intro id h
    cases h
    exact .inr (Nat.le_refl _)

theorem addStep (tag : String) (attrs : Attrs) : b.Keeps (b.addStep tag attrs) := by
  unfold Build.addStep
  split
  case h_1 id hid =>
    dsimp only
    split
    case h_1 => exact .idle rfl rfl rfl fun _ h => h
    case h_2 more _ =>
      exact .file (.step id more) rfl rfl rfl (fun i hi => Option.some.inj hi ▸ hid) fun _ => .inl
  case h_2 => exact .note _

theorem timelineEntry (tag : String) (attrs : Attrs) : b.Keeps (b.timelineEntry tag attrs) := by
  unfold Build.timelineEntry
  split
  case isTrue  => exact .beginTimeline attrs
  case isFalse =>
    split
    case isTrue  => exact .addStep tag attrs
    case isFalse => exact .note _

theorem entry (c : Config) (tag : String) (attrs : Attrs) : b.Keeps (entry c b tag attrs) := by
  unfold Build.entry
  split
  case h_1  => exact .note _
  case h_2  => exact .note _
  case h_3  => exact .paramEntry tag attrs
  case h_4  => exact .constEntry tag attrs
  case h_5  => exact .gradientEntry tag attrs
  case h_6  => exact .stopEntry tag attrs
  case h_7  => exact .styleEntry tag attrs
  case h_8  => exact .fontEntry c tag attrs
  case h_9  => exact .imageEntry c tag attrs
  case h_10 => exact .subjectEntry tag attrs
  all_goals exact .timelineEntry tag attrs

theorem endGradient (name : String) (gradient : Gradient) :
    b.Keeps (b.endGradient name gradient) := by
  unfold Build.endGradient
  dsimp only
  split <;> exact .file (.gradient name gradient) registry_keep scene_keep doc_keep nofun nofun

theorem endEntry (tag : String) : b.Keeps (b.endEntry tag) := by
  unfold Build.endEntry
  split
  case h_1 =>
    split
    case isTrue  => exact .endGradient _ _
    case isFalse => exact .refl
  case h_2 =>
    split
    case isTrue  => exact .idle rfl rfl rfl nofun
    case isFalse => exact .refl
  case h_3 => exact .refl

theorem closeBlock (tag : String) : b.Keeps (b.closeBlock tag) :=
  (endEntry tag).withBlock _

theorem opening_outside {setup : Setup} {inst : Instantiate} (hd : b.doc.depth = 0) {tag : String}
    (ht : tag ≠ "view") (attrs : Attrs) : b.Keeps (opening setup inst b tag attrs) := by
  unfold opening
  rw [if_neg (fun h => h hd)]
  split
  case isTrue  => exact .refl
  case isFalse =>
    split
    case h_1         => exact .entry ..
    case h_2 block _ =>
      dsimp only
      split
      case isTrue  => exact of_withBlock (.entry ..)
      case isFalse => exact .idle rfl rfl rfl fun _ h => h

end Keeps

end Build

end UiMarkup
