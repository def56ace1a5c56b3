import UiMarkup.Proofs.Build.Entries
import UiMarkup.Proofs.Build.Views
import UiMarkup.Proofs.Scene.Request

namespace UiMarkup

open Markup

namespace Build

-- A piece of a view that is to be made: from which build on, of which tag, and with which
-- attributes, whose references are resolved.
structure Order where
  build : Build
  tag   : String
  attrs : Attrs

namespace Order

def of (b : Build) (tag : String) (attrs : Attrs) : Order :=
  let (attrs, b) := b.take (b.resolveAttrs attrs)
  { build := b, tag, attrs }

def fill (setup : Setup) (inst : Instantiate) (o : Order) : Option ObjId × Build :=
  let (item, b) := createElement setup inst o.build o.tag o.attrs
  (item.bind Item.obj?, b)

def component? (setup : Setup) (o : Order) : Option ScopeId :=
  match setup.widgets.get? o.tag with
  | some _ => none
  | none   => o.build.registry.componentScope? o.tag

theorem component?_eq_some {setup : Setup} {o : Order} {id : ScopeId} :
    o.component? setup = some id ↔
      setup.widgets.get? o.tag = none ∧ o.build.registry.componentScope? o.tag = some id := by
  unfold component?
  cases setup.widgets.get? o.tag <;> simp

end Order

-- What a boundary orders. Elements order themselves, views order what they extend; elements that
-- are recorded or nested too deeply order nothing.
def order? (setup : Setup) (b : Build) : Event → Option Order
  | .closing _ => none
  | .opening tag attrs =>
    if b.doc.recording.isSome then none
    else if b.doc.depth ≠ 0 then
      if setup.config.maxDepth ≤ b.doc.depth then none
      else some (.of (b.setDepth (b.doc.depth + 1)) tag attrs)
    else if tag = "view" then some (.of b.enterView attrs.base attrs.ofBase)
    else none

def made? (setup : Setup) (inst : Instantiate) (b : Build) (e : Event) : Option ObjId :=
  (b.order? setup e).bind fun o => (o.fill setup inst).1

def orders (setup : Setup) (inst : Instantiate) (b : Build) : List Event → List Order
  | []          => []
  | e :: events => (b.order? setup e).toList ++ orders setup inst (step setup inst b e) events

variable {setup : Setup} {inst inst' : Instantiate} {b : Build} {o : Order}

section Opening

variable (hr : b.doc.recording = none)
include hr

theorem order?_inside (hd : b.doc.depth ≠ 0) (tag : String) (attrs : Attrs) :
    b.order? setup (.opening tag attrs) =
      if setup.config.maxDepth ≤ b.doc.depth then none
      else some (.of (b.setDepth (b.doc.depth + 1)) tag attrs) := by
  simp [order?, hr, hd]

theorem order?_view (hd : b.doc.depth = 0) (attrs : Attrs) :
    b.order? setup (.opening "view" attrs) = some (.of b.enterView attrs.base attrs.ofBase) := by
  simp [order?, hr, hd]

theorem opening_inside (hd : b.doc.depth ≠ 0) (tag : String) (attrs : Attrs) :
    opening setup inst b tag attrs =
      match b.order? setup (.opening tag attrs) with
      | some o => (o.fill setup inst).2.modifyDoc (·.openFrame (o.fill setup inst).1)
      | none   =>
        ((b.setDepth (b.doc.depth + 1)).note (.elementTooDeep tag setup.config.maxDepth)).modifyDoc
          (·.openFrame none) := by
  rw [opening_of_depth_pos hr (Nat.pos_of_ne_zero hd), order?_inside hr hd, openChild]
  by_cases hmax : setup.config.maxDepth ≤ b.doc.depth
  case pos =>
    have hlt : setup.config.maxDepth < (b.setDepth (b.doc.depth + 1)).doc.depth :=
      Nat.lt_succ_of_le hmax
    rw [if_pos hmax, if_pos hlt]
  case neg =>
    have hlt : ¬setup.config.maxDepth < (b.setDepth (b.doc.depth + 1)).doc.depth :=
      fun h => hmax (Nat.le_of_lt_succ h)
    rw [if_neg hmax, if_neg hlt]
    rfl

theorem maxDepth_lt_of_no_order (hd : b.doc.depth ≠ 0) {tag : String} {attrs : Attrs}
    (h : b.order? setup (.opening tag attrs) = none) :
    setup.config.maxDepth < (b.setDepth (b.doc.depth + 1)).doc.depth := by
  rw [order?_inside hr hd] at h
  exact Nat.lt_succ_of_le (by simpa using h)

theorem opening_root (hd : b.doc.depth = 0) (attrs : Attrs) :
    let o := Order.of b.enterView attrs.base attrs.ofBase
    opening setup inst b "view" attrs =
      (o.fill setup inst).2.modifyDoc fun d =>
        { d with view := (o.fill setup inst).1 }.openFrame (o.fill setup inst).1 := by
  rw [opening_view hd, recordOr_of_none (b := b.enterView) hr]
  rfl

end Opening

theorem order?_outside (hd : b.doc.depth = 0) {tag : String} (ht : tag ≠ "view") (attrs : Attrs) :
    b.order? setup (.opening tag attrs) = none := by
  simp [order?, hd, ht]

theorem recording_of_order? {e : Event} (h : b.order? setup e = some o) :
    b.doc.recording = none := by
  cases e
  case closing => cases h
  case opening =>
    rw [order?] at h
    split at h
    case isTrue     => cases h
    case isFalse hr => simpa using hr

-- The build of an order is the one at the boundary, but for its depth, its block and its log.
theorem build_of_order? {e : Event} (h : b.order? setup e = some o) :
    o.build.registry = b.registry ∧ o.build.scene = b.scene ∧
      o.build.doc.parents = b.doc.parents := by
  cases e
  case closing => cases h
  case opening =>
    rw [order?] at h
    split at h
    case isTrue  => cases h
    case isFalse =>
      split at h
      case isTrue =>
        split at h
        case isTrue  => cases h
        case isFalse => cases h; exact ⟨rfl, rfl, rfl⟩
      case isFalse =>
        split at h
        case isTrue  => cases h; exact ⟨rfl, rfl, rfl⟩
        case isFalse => cases h

theorem step_of_order? {e : Event} (h : b.order? setup e = some o) :
    ∃ f : Option ObjId → DocState → DocState, ∀ inst, step setup inst b e =
      (o.fill setup inst).2.modifyDoc (f (o.fill setup inst).1) := by
  have hr := recording_of_order? h
  cases e
  case closing => cases h
  case opening tag attrs =>
    by_cases hd : b.doc.depth = 0
    case neg =>
      refine ⟨fun made d => d.openFrame made, fun inst => ?_⟩
      rw [step, opening_inside hr hd, h]
    case pos =>
      by_cases ht : tag = "view"
      case neg => rw [order?_outside hd ht] at h; cases h
      case pos =>
        cases ht
        rw [order?_view hr hd] at h
        cases h
        exact ⟨fun made d => DocState.openFrame { d with view := made } made, fun inst =>
          opening_root hr hd attrs⟩

theorem files_closing (tag : String) : b.Files (b.closing tag) := by
  unfold closing
  split
  case h_1 => exact (Keeps.closeBlock tag).toFiles
  case h_2 depth _ =>
    have hframe : b.Rests ((b.setDepth depth).recordOr (.closing tag) fun b =>
        b.modifyDoc (·.closeFrame)) :=
      (Rests.setDepth depth).trans <| .recordOr _ fun _ => .closeFrame
    dsimp only
    split
    case isTrue  => exact hframe.files_trans (Keeps.closeBlock tag).toFiles
    case isFalse => exact hframe.files

theorem files_opening {tag : String} {attrs : Attrs}
    (h : b.order? setup (.opening tag attrs) = none) :
    b.Files (opening setup inst b tag attrs) := by
  by_cases hd : b.doc.depth = 0
  case pos =>
    by_cases ht : tag = "view"
    case neg => exact (Keeps.opening_outside hd ht attrs).toFiles
    case pos =>
      cases ht
      have henter : b.Rests b.enterView := ⟨rfl, rfl, rfl, rfl⟩
      rw [opening_view hd]
      refine (henter.trans <| .recordOr _ fun hr => ?_).files
      cases (order?_view (b := b) hr hd attrs).symm.trans h
  case neg =>
    rw [opening, if_pos hd]
    refine ((Rests.setDepth _).trans <| .recordOr _ fun hr => ?_).files
    rw [openChild, if_pos (maxDepth_lt_of_no_order (b := b) hr hd h)]
    exact (Rests.note _).trans (.openFrame none)

theorem files_step {e : Event} (h : b.order? setup e = none) : b.Files (step setup inst b e) := by
  cases e
  case closing tag       => exact files_closing tag
  case opening tag attrs => exact files_opening h

theorem spares_step {e : Event} (h : b.order? setup e = none) : b.Spares (step setup inst b e) :=
  (files_step h).spares

-- What a replay does depends on instances only through the ones that are ordered.

theorem fill_congr
    (h : ∀ id ∈ o.component? setup, inst o.build id o.attrs = inst' o.build id o.attrs) :
    o.fill setup inst = o.fill setup inst' := by
  have hcreate : createElement setup inst o.build o.tag o.attrs =
      createElement setup inst' o.build o.tag o.attrs := by
    unfold createElement
    split
    case h_1      => rfl
    case h_2 htag =>
      split
      case h_1        => rfl
      case h_2 id hid => rw [h id (by rw [Order.component?, htag]; exact hid)]
  rw [Order.fill, Order.fill, hcreate]

theorem recordOr_congr {e : Event} {f g : Build → Build}
    (h : b.doc.recording = none → f b = g b) : b.recordOr e f = b.recordOr e g := by
  unfold recordOr
  split
  case h_1    => rfl
  case h_2 hr => exact h hr

theorem opening_congr {tag : String} {attrs : Attrs}
    (h : b.order? setup (.opening tag attrs) = none) :
    opening setup inst b tag attrs = opening setup inst' b tag attrs := by
  by_cases hd : b.doc.depth = 0
  case pos =>
    by_cases ht : tag = "view"
    case neg => simp only [opening, hd, ht, ne_eq, not_true, if_false]
    case pos =>
      cases ht
      rw [opening_view hd, opening_view hd]
      refine recordOr_congr fun hr => ?_
      cases (order?_view (b := b) hr hd attrs).symm.trans h
  case neg =>
    rw [opening, opening, if_pos hd, if_pos hd]
    refine recordOr_congr fun hr => ?_
    have hdeep := maxDepth_lt_of_no_order (b := b) hr hd h
    rw [openChild, openChild, if_pos hdeep, if_pos hdeep]

theorem step_congr {e : Event} (h : ∀ o ∈ b.order? setup e, ∀ id ∈ o.component? setup,
    inst o.build id o.attrs = inst' o.build id o.attrs) :
    step setup inst b e = step setup inst' b e := by
  cases ho : b.order? setup e
  case some o =>
    obtain ⟨f, hstep⟩ := step_of_order? ho
    rw [hstep inst, hstep inst', fill_congr (h o ho)]
  case none =>
    cases e
    case closing => rfl
    case opening => exact opening_congr ho

theorem replay_congr {events : List Event} (h : ∀ o ∈ orders setup inst b events,
    ∀ id ∈ o.component? setup, inst o.build id o.attrs = inst' o.build id o.attrs) :
    replay setup inst b events = replay setup inst' b events := by
  induction events generalizing b
  case nil => rfl
  case cons e events hi =>
    have hstep : step setup inst b e = step setup inst' b e :=
      step_congr fun o ho => h o (List.mem_append_left _ (Option.mem_toList.mpr ho))
    have hrest := hi fun o ho => h o (List.mem_append_right _ ho)
    rw [hstep] at hrest
    exact (congrArg (replay setup inst · events) hstep).trans hrest

structure Resumes (b b' : Build) : Prop where
  components : ∀ id, b'.registry.component? id = b.registry.component? id
  doc        : ∃ item, b'.doc = { b.doc with item }

namespace Resumes

variable {b b' : Build}

theorem refl : b.Resumes b where
  components := fun _ => rfl
  doc        := ⟨_, rfl⟩

theorem trans {b₁ b₂ b₃ : Build} (h₁ : b₁.Resumes b₂) (h₂ : b₂.Resumes b₃) : b₁.Resumes b₃ where
  components := fun id => (h₂.components id).trans (h₁.components id)
  doc := by
    obtain ⟨_, h₁⟩ := h₁.doc
    obtain ⟨item, h₂⟩ := h₂.doc
    exact ⟨item, by rw [h₂, h₁]⟩

theorem note (d : Diagnostic) : b.Resumes (b.note d) := { refl with }

theorem noteAll (ds : List Diagnostic) : b.Resumes (b.noteAll ds) := { refl with }

theorem setItem (item : Option Item) : b.Resumes (b.setItem item) where
  components := fun _ => rfl
  doc        := ⟨item, rfl⟩

theorem make (p : Processor) (attrs : Attrs) : b.Resumes (b.make p attrs).2 := { refl with }

theorem apply (p : Processor) (attrs : Attrs) : b.Resumes (b.apply p attrs) := { refl with }

theorem applyRest (setup : Setup) (name : String) (c : Component) (root : ObjId) (rest : Attrs) :
    b.Resumes (applyRest setup b name c root rest) := by
  unfold Build.applyRest
  split
  case isTrue  => exact .refl
  case isFalse =>
    dsimp only
    split
    case h_1 => exact (setItem _).trans (.apply ..)
    case h_2 => exact .note _

end Resumes

def Instantiate.Resumes (inst : Instantiate) : Prop :=
  ∀ (b : Build) scope attrs, b.Resumes (inst b scope attrs).2

section Resumes

variable (hinst : inst.Resumes)
include hinst

theorem resumes_createElement (tag : String) (attrs : Attrs) :
    b.Resumes (createElement setup inst b tag attrs).2 := by
  unfold createElement
  split
  case h_1 p _ =>
    have hmake := Resumes.make (b := b) p attrs
    split
    case h_1 he => rwa [he] at hmake
    case h_2 he =>
      rw [he] at hmake
      exact hmake.trans <| (Resumes.setItem _).trans <| (Resumes.apply ..).trans (.noteAll _)
  case h_2 =>
    split
    case h_1       => exact .note _
    case h_2 scope _ =>
      have hmake := hinst b scope attrs
      split
      case h_1 he => rwa [he] at hmake
      case h_2 he =>
        rw [he] at hmake
        exact hmake.trans (.setItem _)

theorem resumes_fill : o.build.Resumes (o.fill setup inst).2 :=
  resumes_createElement hinst o.tag o.attrs

theorem component?_step (e : Event) (id : ScopeId) :
    (step setup inst b e).registry.component? id = b.registry.component? id := by
  cases h : b.order? setup e
  case none   => exact (spares_step h).components id
  case some o =>
    have ⟨f, hstep⟩ := step_of_order? h
    have ⟨hregistry, _⟩ := build_of_order? h
    rw [hstep, ← hregistry]
    exact (resumes_fill hinst).components id

theorem component?_replay (events : List Event) (id : ScopeId) :
    (replay setup inst b events).registry.component? id = b.registry.component? id := by
  induction events generalizing b
  case nil              => rfl
  case cons e events hi => exact hi.trans (component?_step hinst e id)

end Resumes

theorem size_edits (edits : List (ObjId × Edit)) (s : Scene) :
    (edits.foldl (fun s (id, e) => s.edit id e) s).size = s.size := by
  induction edits generalizing s
  case nil             => rfl
  case cons e edits hi => exact (hi _).trans Scene.size_edit

theorem size_apply (p : Processor) (attrs : Attrs) :
    (b.apply p attrs).scene.size = b.scene.size :=
  size_edits _ _

theorem size_applyRest (name : String) (c : Component) (root : ObjId) (rest : Attrs) :
    (applyRest setup b name c root rest).scene.size = b.scene.size := by
  unfold applyRest
  split
  case isTrue  => rfl
  case isFalse =>
    dsimp only
    split
    case h_1 => exact size_apply ..
    case h_2 => rfl

-- An instance begins in the current parent, with arguments for its parameters.
def inside (b : Build) (scope : ScopeId) (attrs : Attrs) : Build :=
  let arguments := some (arguments (b.registry.params scope) attrs)
  { b with doc := { DocState.begin scope b.doc.parent? with arguments } }

theorem instantiate_inside (levels : Nat) {scope : ScopeId} {c : Component}
    (hc : b.registry.component? scope = some c) (attrs : Attrs) :
    instantiate setup (levels + 1) b scope attrs =
      let name := b.registry.scopeName scope
      let inner := replay setup (instantiate setup levels) (b.inside scope attrs) c.view
      let outer := { inner with doc := b.doc }
      match inner.doc.view with
      | none      => (none, outer.note (.componentWithoutRoot name))
      | some root =>
        let rest := attrs.filter fun a => !(b.registry.params scope).contains a.1
        (some root,
          (applyRest setup outer name c root rest).note (.componentInstantiated name)) := by
  rw [instantiate, hc]
  rfl

theorem instantiate_of_component? (levels : Nat) {scope : ScopeId} {c : Component}
    (hc : b.registry.component? scope = some c) (attrs : Attrs) :
    let inner := replay setup (instantiate setup levels) (b.inside scope attrs) c.view
    let out := (instantiate setup (levels + 1) b scope attrs).2
    Resumes { inner with doc := b.doc } out ∧ out.scene.size = inner.scene.size := by
  intro inner out
  let outer : Build := { inner with doc := b.doc }
  show outer.Resumes out ∧ out.scene.size = outer.scene.size
  unfold out
  rw [instantiate_inside levels hc]
  dsimp only
  split
  case h_1 => exact ⟨.note _, rfl⟩
  case h_2 => exact ⟨(Resumes.applyRest ..).trans (.note _), size_applyRest (b := outer) ..⟩

theorem Instantiate.resumes_instantiate (setup : Setup) (levels : Nat) :
    Instantiate.Resumes (instantiate setup levels) := by
  induction levels
  case zero => exact fun _ _ _ => .note _
  case succ levels hi =>
    intro b scope attrs
    cases hc : b.registry.component? scope
    case none   => rw [instantiate, hc]; exact .refl
    case some c =>
      let inner := replay setup (instantiate setup levels) (b.inside scope attrs) c.view
      have hinner : b.Resumes { inner with doc := b.doc } :=
        ⟨component?_replay (b := b.inside scope attrs) hi c.view, _, rfl⟩
      exact hinner.trans (instantiate_of_component? levels hc attrs).1

end Build

end UiMarkup
