import UiMarkup.Proofs.Build.Documents
import UiMarkup.Proofs.Build.Orders
import UiMarkup.Proofs.Loader.Run
import UiMarkup.Proofs.Registry.NewScope
import UiMarkup.Proofs.Registry.Styles

namespace UiMarkup

namespace Registry

variable {r r' r₁ r₂ r₃ : Registry} {own : ScopeId}

-- The registries are the same but for one scope and the styles in it.
structure SameBut (own : ScopeId) (r r' : Registry) : Prop where
  scope : ∀ {i}, i ≠ own → r'.scope? i = r.scope? i
  style : ∀ {style e}, e.scope ≠ own → (r'.style? style = some e ↔ r.style? style = some e)

theorem ensureScope_of_some {name : String} {id : ScopeId} (h : r.scopeByName? name = some id) :
    r.ensureScope name = (id, r) := by
  rw [ensureScope, h]

theorem scopeByName?_ensureScope (name : String) :
    (r.ensureScope name).2.scopeByName? name = some (r.ensureScope name).1 := by
  cases hid : r.scopeByName? name
  case none   => rw [ensureScope_of_none hid, scopeByName?_withScope_self (s := { name }) hid]
  case some _ => rw [ensureScope_of_some hid, hid]

theorem component?_ensureScope (name : String) :
    (r.ensureScope name).2.component? (r.ensureScope name).1 =
      (r.scopeByName? name).bind r.component? := by
  cases hid : r.scopeByName? name
  case none   => rw [ensureScope_of_none hid, component?_withScope_next]; rfl
  case some _ => rw [ensureScope_of_some hid]; rfl

namespace SameBut

theorem refl : SameBut own r r where
  scope := fun _ => rfl
  style := fun _ => Iff.rfl

theorem trans (h₁ : SameBut own r₁ r₂) (h₂ : SameBut own r₂ r₃) : SameBut own r₁ r₃ where
  scope := fun hi => (h₂.scope hi).trans (h₁.scope hi)
  style := fun he => (h₂.style he).trans (h₁.style he)

theorem modifyScope {f : Scope → Scope} (h : r.modifyScope own f = .ok r') : SameBut own r r' := by
  obtain ⟨-, rfl⟩ := modifyScope_eq_ok h
  exact ⟨fun hi => (scope?_modify f _).trans (if_neg hi), fun _ => Iff.rfl⟩

theorem ensureScope (name : String) : SameBut (r.ensureScope name).1 r (r.ensureScope name).2 := by
  cases hid : r.scopeByName? name
  case none =>
    rw [ensureScope_of_none hid]
    exact ⟨scope?_withScope_of_ne, fun _ => Iff.rfl⟩
  case some =>
    rw [ensureScope_of_some hid]
    exact refl

theorem ensureStyle (s : Scope) (name : String) :
    SameBut own r (r.ensureStyle own s name).value.2 := by
  cases hget : s.get? .style name
  case some =>
    rw [Registry.ensureStyle, hget]
    exact refl
  case none =>
    rw [ensureStyle_of_none hget]
    refine ⟨fun hi => (scope?_withStyle _).trans (if_neg hi), fun {style e} he => ?_⟩
    rw [style?_withStyle]
    exact or_iff_left fun hnew => he (by rw [hnew.2])

theorem restyle {id : StyleId} (hid : ∀ e ∈ r.style? id, e.scope = own) (style : Style) :
    SameBut own r (r.restyle id style) where
  scope := fun {i} _ => congrArg (·[i.index]?) (scopes_restyle id style)
  style := by
    intro i e he
    rw [style?_restyle]
    by_cases hi : i = id
    case neg => simp [hi]
    case pos =>
      subst hi
      simp only [if_true]
      constructor
      case mp =>
        intro h
        obtain ⟨e', he', rfl⟩ := Option.map_eq_some_iff.mp h
        exact absurd (hid e' he') he
      case mpr => exact fun h => absurd (hid e h) he

end SameBut

theorem Linked.scope_ensureStyle (h : r.Linked) {s : Scope} (hs : r.scope? own = some s)
    (name : String) : let out := (r.ensureStyle own s name).value
      ∀ e ∈ out.2.style? out.1, e.scope = own := by
  intro out e he
  cases hget : s.get? .style name
  case some style =>
    have hout : out = (style, r) := by
      unfold out
      rw [Registry.ensureStyle, hget]
      rfl
    obtain ⟨e', he', -, hscope, -⟩ := h.named hs (Assoc.mem_of_get? hget)
    rw [hout] at he
    exact Option.some.inj (he'.symm.trans he) ▸ hscope
  case none =>
    have hout : out = (⟨r.styles.size⟩, r.withStyle own s name) := by
      unfold out
      rw [Registry.ensureStyle, hget]
      rfl
    rw [hout] at he
    cases style?_withStyle.mp he
    case inl he => exact absurd (Array.getElem?_eq_some_iff.mp he).1 (Nat.lt_irrefl _)
    case inr he => rw [he.2]

-- A name stands for a style of its own scope, so extending that concerns no other scope.
theorem Linked.sameBut_registerStyle (h : r.Linked) {attrs : Attrs}
    (hr : (r.registerStyle (some own) attrs).value.map Prod.snd = .ok r') : SameBut own r r' := by
  obtain ⟨name, s, extended, -, hs, rfl⟩ := registerStyle_eq_ok hr
  exact (SameBut.ensureStyle s name).trans <| .restyle (h.scope_ensureStyle hs name) extended

def Call.Concerns (own : ScopeId) : Call → Prop
  | ensureScope _            => False
  | register _ _ scope _ _   => scope = some own
  | registerStyle scope _    => scope = some own
  | registerParam scope _ _  => scope = own
  | setComponent scope _     => scope = own

theorem Linked.sameBut_run (h : r.Linked) {c : Call} (hc : c.Concerns own) :
    SameBut own r (c.run r) := by
  have hsettle {result : Except RegistryError Registry}
      (hr : ∀ r', result = .ok r' → SameBut own r r') : SameBut own r (Call.run.settle r result) :=
    Call.run.settle_cases (motive := SameBut own r) .refl hr
  cases c
  case ensureScope   => cases hc
  case register      => cases hc; exact hsettle fun _ => .modifyScope
  case registerStyle => cases hc; exact hsettle fun _ => h.sameBut_registerStyle
  case registerParam => cases hc; exact hsettle fun _ => .modifyScope
  case setComponent  => cases hc; exact hsettle fun _ => .modifyScope

theorem names_run_of_concerns {c : Call} (hc : c.Concerns own) : (c.run r).names = r.names := by
  rw [names_run]
  cases c
  case ensureScope => cases hc
  all_goals rfl

end Registry

namespace Entry

variable {e : Entry} {own : ScopeId} {r : Registry} {s : Scene}

theorem concerns_call {c : Registry.Call} (h : c ∈ e.call? own s) : c.Concerns own := by
  cases e
  case font =>
    obtain ⟨_, _, rfl⟩ := Option.map_eq_some_iff.mp h
    rfl
  all_goals cases h
  all_goals rfl

theorem linked_registry (h : r.Linked) : (e.registry own r s).Linked :=
  e.registry_induction h fun c _ => h.run c

theorem sameBut_registry (h : r.Linked) : r.SameBut own (e.registry own r s) :=
  e.registry_induction .refl fun _ hc => h.sameBut_run (concerns_call hc)

theorem names_registry : (e.registry own r s).names = r.names :=
  e.registry_induction (motive := fun r' => r'.names = r.names) rfl fun _ hc =>
    Registry.names_run_of_concerns (concerns_call hc)

end Entry

namespace Scene

-- Subjects, fonts and timelines are appended, and nothing else is changed.
def Extends (s s' : Scene) : Prop :=
  ∃ subjects fonts timelines, s' = { s with
    subjects  := s.subjects ++ subjects
    fonts     := s.fonts ++ fonts
    timelines := s.timelines ++ timelines }

namespace Extends

variable {s s' : Scene}

theorem refl : s.Extends s :=
  ⟨#[], #[], #[], by simp⟩

theorem size_timelines_le (h : s.Extends s') : s.timelines.size ≤ s'.timelines.size := by
  obtain ⟨_, _, _, rfl⟩ := h
  simp

theorem createSubject (h : s.Extends s') (initial : SubjectValue) :
    s.Extends (s'.createSubject initial).2 := by
  obtain ⟨subjects, fonts, timelines, rfl⟩ := h
  exact ⟨subjects.push initial, fonts, timelines, by simp [Scene.createSubject]⟩

theorem loadFont (h : s.Extends s') (source : FontSource) : s.Extends (s'.loadFont source).2 := by
  unfold Scene.loadFont
  split
  case isFalse => exact h
  case isTrue  =>
    obtain ⟨subjects, fonts, timelines, rfl⟩ := h
    exact ⟨subjects, fonts.push source, timelines, by simp⟩

theorem createTimeline (h : s.Extends s') : s.Extends s'.createTimeline.2 := by
  obtain ⟨subjects, fonts, timelines, rfl⟩ := h
  exact ⟨subjects, fonts, timelines.push [], by simp [Scene.createTimeline]⟩

theorem addStep (h : s.Extends s') {id : TimelineId} (hid : s.timelines.size ≤ id.index)
    (more : TimelineStep) : s.Extends (s'.addStep id more) := by
  obtain ⟨subjects, fonts, timelines, rfl⟩ := h
  refine ⟨subjects, fonts, timelines.modify (id.index - s.timelines.size) (· ++ [more]), ?_⟩
  have happend : (s.timelines ++ timelines).modify id.index (· ++ [more]) =
      s.timelines ++ timelines.modify (id.index - s.timelines.size) (· ++ [more]) := by
    ext1
    case h₁ => simp
    case h₂ j _ _ =>
      simp only [Array.getElem_modify, Array.getElem_append]
      grind
  simp [Scene.addStep, happend]

theorem entry (h : s.Extends s') {e : Entry}
    (he : ∀ id ∈ e.timeline?, s.timelines.size ≤ id.index) : s.Extends (e.scene s') := by
  cases e
  case font _ source     => exact h.loadFont source
  case subject _ initial => exact h.createSubject initial
  case timeline          => exact h.createTimeline
  case step id more      => exact h.addStep (he id rfl) more
  all_goals exact h

end Extends

end Scene

namespace Build

variable {setup : Setup} {inst : Instantiate} {b b' : Build} {own : ScopeId} {r : Registry}
  {s : Scene}

structure Recording (own : ScopeId) (r : Registry) (s : Scene) (b : Build) : Prop where
  recording : b.doc.recording.isSome
  scope     : b.doc.scope = own
  pending   : ∀ id, b.doc.pending = some (.timeline id) → s.timelines.size ≤ id.index
  scene     : s.Extends b.scene
  registry  : r.SameBut own b.registry
  linked    : b.registry.Linked
  names     : b.registry.names = r.names
  component : ∀ id, b.registry.component? id = r.component? id

theorem order?_of_isSome (hr : b.doc.recording.isSome) (e : Event) : b.order? setup e = none := by
  cases e
  case closing => rfl
  case opening => rw [order?, if_pos hr]

theorem Keeps.recording_eq (h : b.Keeps b') : b'.doc.recording = b.doc.recording := by
  obtain ⟨_, _, hdoc⟩ := h.doc
  rw [hdoc]

theorem isSome_recordOr (hr : b.doc.recording.isSome) (e : Event) (f : Build → Build) :
    (b.recordOr e f).doc.recording.isSome := by
  rw [recordOr_of_isSome hr]
  exact isSome_keepEvents.trans hr

theorem isSome_closing (hr : b.doc.recording.isSome) (tag : String) :
    (b.closing tag).doc.recording.isSome := by
  unfold closing
  split
  case h_1 => exact (congrArg Option.isSome (Keeps.closeBlock tag).recording_eq).trans hr
  case h_2 depth _ =>
    have hrecord := isSome_recordOr (b := b.setDepth depth) hr (.closing tag)
      fun b => b.modifyDoc (·.closeFrame)
    dsimp only
    split
    case isTrue  => exact (congrArg Option.isSome (Keeps.closeBlock tag).recording_eq).trans hrecord
    case isFalse => exact hrecord

theorem isSome_opening (hr : b.doc.recording.isSome) (tag : String) (attrs : Attrs) :
    (opening setup inst b tag attrs).doc.recording.isSome := by
  by_cases hd : b.doc.depth = 0
  case neg =>
    rw [opening, if_pos hd]
    exact isSome_recordOr (b := b.setDepth (b.doc.depth + 1)) hr _ _
  case pos =>
    by_cases ht : tag = "view"
    case pos =>
      rw [ht, opening_view hd]
      exact isSome_recordOr (b := b.enterView) hr _ _
    case neg =>
      exact (congrArg Option.isSome (Keeps.opening_outside hd ht attrs).recording_eq).trans hr

namespace Recording

theorem files (h : b.Recording own r s) (hf : b.Files b') (hr : b'.doc.recording.isSome) :
    b'.Recording own r s := by
  have hpending (id : TimelineId) (hp : b'.doc.pending = some (.timeline id)) :
      s.timelines.size ≤ id.index :=
    (hf.begun id hp).elim (h.pending id) (Nat.le_trans h.scene.size_timelines_le)
  have hscope := hf.scope.trans h.scope
  cases hf.filed
  case inl he =>
    exact ⟨hr, hscope, hpending, he.2 ▸ h.scene, he.1 ▸ h.registry, he.1 ▸ h.linked,
      he.1 ▸ h.names, he.1 ▸ h.component⟩
  case inr he =>
    obtain ⟨e, hregistry, hscene, htimeline⟩ := he
    rw [h.scope] at hregistry
    have hsame : b.registry.SameBut own b'.registry := hregistry ▸ Entry.sameBut_registry h.linked
    have hlinked : b'.registry.Linked := hregistry ▸ Entry.linked_registry h.linked
    have hnames : b'.registry.names = b.registry.names := hregistry ▸ Entry.names_registry
    have hcomponent (id : ScopeId) : b'.registry.component? id = b.registry.component? id :=
      hregistry ▸ e.component?_registry id
    have hextend : s.Extends b'.scene :=
      hscene ▸ h.scene.entry fun id hid => h.pending id (htimeline id hid)
    exact ⟨hr, hscope, hpending, hextend, h.registry.trans hsame, hlinked, hnames.trans h.names,
      fun id => (hcomponent id).trans (h.component id)⟩

theorem step (h : b.Recording own r s) (e : Event) : (step setup inst b e).Recording own r s := by
  refine h.files (files_step (order?_of_isSome h.recording e)) ?_
  cases e
  case closing tag       => exact isSome_closing h.recording tag
  case opening tag attrs => exact isSome_opening h.recording tag attrs

theorem replay (h : b.Recording own r s) (events : List Event) :
    (replay setup inst b events).Recording own r s := by
  induction events generalizing b
  case nil              => exact h
  case cons e events hi => exact hi (h.step e)

end Recording

end Build

namespace Loader

variable {l : Loader}

theorem registry_recorded (b : Build) (name : String) :
    (recorded b name).2.registry = b.registry := by
  unfold recorded
  split <;> rfl

theorem scene_recorded (b : Build) (name : String) : (recorded b name).2.scene = b.scene := by
  unfold recorded
  split <;> rfl

-- What holds of the recording holds of the outcome; only at the very end the view is replaced.
theorem registerComponent_recording (hl : l.registry.Linked) (s : Scene) (name text : String) :
    let own := (l.registry.ensureScope name).1
    let r := (l.registry.ensureScope name).2
    let o := l.registerComponent s name text
    s.Extends o.scene ∧ r.SameBut own o.loader.registry ∧ o.loader.registry.names = r.names ∧
      ∀ error, o.result = .error error →
        ∀ id, o.loader.registry.component? id = r.component? id := by
  intro own r
  let l₁ : Loader := { l with registry := r }
  let doc : DocState := { DocState.begin own none with recording := some #[] }
  have hbegin : (l₁.begin s doc).Recording own r s :=
    ⟨rfl, rfl, nofun, .refl, .refl, hl.ensureScope name, rfl, fun _ => rfl⟩
  have hread : (l₁.read s doc text).1.Recording own r s := hbegin.replay _
  unfold registerComponent
  dsimp only
  split
  case h_1 he =>
    rw [show l₁.read s doc text = _ from he] at hread
    exact ⟨hread.scene, hread.registry, hread.names, fun _ _ => hread.component⟩
  case h_2 b he =>
    rw [show l₁.read s doc text = _ from he] at hread
    have hregistry := registry_recorded b name
    have hscene := scene_recorded b name
    split
    case h_1 =>
      dsimp only [finish]
      rw [hregistry, hscene]
      exact ⟨hread.scene, hread.registry, hread.names, fun _ _ => hread.component⟩
    case h_2 r' hr =>
      dsimp only [finish, Build.note]
      rw [hscene]
      rw [hregistry] at hr
      have hconcerns : (Registry.Call.setComponent own (recorded b name).1).Concerns own := rfl
      rw [← Registry.Call.run_setComponent hr]
      exact ⟨hread.scene, hread.registry.trans (hread.linked.sameBut_run hconcerns),
        (Registry.names_run_of_concerns hconcerns).trans hread.names, nofun⟩

theorem registerComponent_isolated (hl : l.Arises) (s : Scene) (name text : String) :
    let o := l.registerComponent s name text
    let r := l.registry
    let r' := o.loader.registry
    s.Extends o.scene ∧
    (∀ id, r'.scopeByName? name ≠ some id → r'.scope? id = r.scope? id) ∧
    (∀ style e, r'.scopeByName? name ≠ some e.scope →
      (r'.style? style = some e ↔ r.style? style = some e)) ∧
    (∀ error, o.result = .error error →
      (r'.scopeByName? name).bind r'.component? = (r.scopeByName? name).bind r.component?) := by
  intro o r r'
  obtain ⟨history, hhistory⟩ := hl.history
  have hlinked : l.registry.Linked := hhistory ▸ history.linked
  have ⟨hscene, hsame, hnames, hcomponent⟩ := registerComponent_recording hlinked s name text
  have hname : r'.scopeByName? name = some (r.ensureScope name).1 := by
    rw [← Registry.scopeByName?_ensureScope, Registry.scopeByName?_eq, Registry.scopeByName?_eq,
      hnames]
  have hall : r.SameBut (r.ensureScope name).1 r' := (Registry.SameBut.ensureScope name).trans hsame
  have hne {id : ScopeId} (h : r'.scopeByName? name ≠ some id) : id ≠ (r.ensureScope name).1 :=
    fun he => h (hname.trans (congrArg some he.symm))
  refine ⟨hscene, fun id hid => hall.scope (hne hid), fun style e he => hall.style (hne he), ?_⟩
  intro error herror
  rw [hname, Option.bind_some, ← Registry.component?_ensureScope]
  exact hcomponent error herror _

theorem view_kept_of_unclosed :
    let l := (Call.registerComponent "c" "<component><view extends=\"button\"/></component>").run {}
      .empty |>.1
    let o := l.registerComponent .empty "c" "<component><subjects><int name=\"n\"/></subjects><view>"
    o.scene.subjects = #[.int 0] ∧
      (o.loader.registry.scopeByName? "c").bind o.loader.registry.component? =
        some ⟨"button", [.opening "view" [("extends", "button")], .closing "view"]⟩ := by
  intro l o
  have hl : l.Arises := .call (.new {}) _ _
  have ⟨_, _, _, hkept⟩ := registerComponent_isolated hl .empty "c"
    "<component><subjects><int name=\"n\"/></subjects><view>"
  have hfailed : o.result.isOk = false := by decide +kernel
  cases he : o.result
  case ok          => cases hfailed.symm.trans (congrArg Except.isOk he)
  case error error => exact ⟨by decide +kernel, (hkept error he).trans (by decide +kernel)⟩

end Loader

end UiMarkup
