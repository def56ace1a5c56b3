import UiMarkup.Proofs.Build.Blocks
import UiMarkup.Proofs.Registry.Lookup

namespace UiMarkup

open Markup

namespace Markup

structure Node where
  tag   : String
  attrs : Attrs
  body  : Forest
deriving DecidableEq

def Node.name? (n : Node) : Option String :=
  n.attrs.get? "name"

namespace Forest

variable {α β : Type}

def collect (g : String → Attrs → List α) : Forest → List α
  | empty                         => []
  | element tag attrs _ body rest => g tag attrs ++ (body.collect g ++ rest.collect g)

-- What the outermost elements stand for, each together with its body.
def collectOuter (g : String → Attrs → Forest → List α) : Forest → List α
  | empty                         => []
  | element tag attrs _ body rest => g tag attrs body ++ rest.collectOuter g

def outer (f : Forest) : List Node :=
  f.collectOuter fun tag attrs body => [⟨tag, attrs, body⟩]

def lastNamed? (f : Forest) (name : String) : Option Node :=
  f.outer.reverse.find? (·.name? == some name)

theorem collectOuter_eq (f : Forest) (g : Node → Option α) :
    f.collectOuter (fun tag attrs body => (g ⟨tag, attrs, body⟩).toList) =
      f.outer.filterMap g := by
  induction f
  case empty => rfl
  case element tag attrs brief body rest _ hrest =>
    rw [collectOuter, hrest]
    cases h : g ⟨tag, attrs, body⟩ <;> simp [outer, collectOuter, h]

theorem collect_map (f : Forest) (g : String → Attrs → List α) (h : α → β) :
    f.collect (fun tag attrs => (g tag attrs).map h) = (f.collect g).map h := by
  induction f
  case empty => rfl
  case element hbody hrest => simp [collect, hbody, hrest]

theorem tags_of_mem_outer {f : Forest} {o i : Build.Entries} (hf : f.HasGroups o i) :
    ∀ e ∈ f.outer, o.tags e.tag := by
  induction f
  case empty => simp [outer, collectOuter]
  case element hrest =>
    rw [outer, collectOuter, List.singleton_append, List.forall_mem_cons]
    exact ⟨hf.1, hrest hf.2.2⟩

end Forest

end Markup

namespace Build

variable {setup : Setup} {c : Config} {b b₁ b₂ : Build} {f : Forest} {kind : EntryKind}
  {given : kind ≠ .style} {entries entries' : Assoc String kind.Value} {scene scene' : Scene}
  {pending pending' : Option Pending}

-- Handlers one after another, where `P` says of a state what was collected on the way to it.

variable {α : Type} {P : List α → Build → Prop} {l : List α}

theorem run_entries {e : Entries} {g : String → Attrs → List α} (hf : f.HasEntries e)
    (hstep : ∀ {l b tag}, e.tags tag → ∀ attrs, P l b →
      P (l ++ g tag attrs) (e.handler.run c b tag attrs)) (h : P l b) :
    P (l ++ f.collect g) (deliver c b (f.entries e.handler)) := by
  induction f generalizing b l
  case empty =>
    rw [Forest.collect, List.append_nil]
    exact h
  case element tag attrs brief body rest hbody hrest =>
    obtain ⟨htag, hfbody, hfrest⟩ := hf
    have hall := hrest hfrest (hbody hfbody (hstep htag attrs h))
    rw [deliver_entries_element]
    simpa only [Forest.collect, List.append_assoc] using hall

theorem run_groups {outer inner : Entries} {g : String → Attrs → Forest → List α}
    (hf : f.HasGroups outer inner)
    (hstep : ∀ {l b tag body}, outer.tags tag → Forest.HasEntries inner body → ∀ attrs, P l b →
      P (l ++ g tag attrs body)
        ((deliver c (outer.handler.run c b tag attrs) (body.entries inner.handler)).endEntry tag))
    (h : P l b) :
    P (l ++ f.collectOuter g) (deliver c b (f.groups outer.handler inner.handler)) := by
  induction f generalizing b l
  case empty =>
    rw [Forest.collectOuter, List.append_nil]
    exact h
  case element tag attrs brief body rest _ hrest =>
    obtain ⟨htag, hbody, hfrest⟩ := hf
    have hall := hrest hfrest (hstep htag hbody attrs h)
    rw [deliver_groups_element]
    simpa only [Forest.collectOuter, List.append_assoc] using hall

-- The entries were filed in the scope of the document, the scene became another, and something else
-- may be pending. Nothing else has changed but the log.
structure Adds (kind : EntryKind) (given : kind ≠ .style) (b : Build)
    (entries : Assoc String kind.Value) (scene : Scene) (pending : Option Pending)
    (b' : Build) : Prop where
  registry : b'.registry = b.registry.registerAll kind given b.doc.scope entries
  scene    : b'.scene = scene
  doc      : b'.doc = { b.doc with pending }

namespace Adds

theorem refl (hp : b.doc.pending = pending) : Adds kind given b [] b.scene pending b :=
  ⟨rfl, rfl, by rw [← hp]⟩

theorem trans (h₁ : Adds kind given b entries scene pending b₁)
    (h₂ : Adds kind given b₁ entries' scene' pending' b₂) :
    Adds kind given b (entries ++ entries') scene' pending' b₂ where
  registry := by rw [Registry.registerAll_append, h₂.registry, h₁.registry, h₁.doc]
  scene    := h₂.scene
  doc      := by rw [h₂.doc, h₁.doc]

theorem note (h : Adds kind given b entries scene pending b₁) (d : Diagnostic) :
    Adds kind given b entries scene pending (b₁.note d) :=
  { h with }

theorem setPending (h : Adds kind given b entries scene pending b₁) (pending' : Option Pending) :
    Adds kind given b entries scene pending' (b₁.setPending pending') :=
  ⟨h.registry, h.scene, by rw [Build.setPending, modifyDoc, h.doc]⟩

theorem pending_eq (h : Adds kind given b entries scene pending b₁) :
    b₁.doc.pending = pending := by
  rw [h.doc]

theorem replay {f : Forest} (hf : f.HasBlocks) (hb : Between b)
    (hscope : b.doc.scope.index < b.registry.scopes.size)
    (h : Adds kind given b entries scene none (deliver setup.config b f.deliveries))
    (inst : Instantiate) :
    let b' := replay setup inst b f.events
    (∀ name, b'.registry.entry? kind b.doc.scope name =
      (Assoc.get? entries.reverse name).or (b.registry.entry? kind b.doc.scope name)) ∧
    (∀ kind' scope name, ¬(kind' = kind ∧ scope = b.doc.scope) →
      b'.registry.entry? kind' scope name = b.registry.entry? kind' scope name) ∧
    b'.scene = scene ∧ ∃ block, b'.doc = { b.doc with block, pending := none } := by
  obtain ⟨⟨left, hreplay⟩, -⟩ := delivers_replay setup inst hf hb
  intro b'
  have hregistry : b'.registry = b.registry.registerAll kind given b.doc.scope entries :=
    (congrArg Build.registry hreplay).trans h.registry
  refine ⟨?own, ?other, (congrArg Build.scene hreplay).trans h.scene, left, ?doc⟩
  case own =>
    intro name
    rw [hregistry]
    exact Registry.entry?_registerAll given hscope name
  case other =>
    intro kind' scope name hne
    rw [hregistry]
    exact Registry.entry?_registerAll_of_ne given (fun h => hne ⟨h.1.symm, h.2.symm⟩) name
  case doc =>
    have hdoc := congrArg (fun d : DocState => { d with block := left }) h.doc
    exact (congrArg Build.doc hreplay).trans hdoc

end Adds

end Build

end UiMarkup
