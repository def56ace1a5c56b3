import UiMarkup.Proofs.Build.Filing

namespace UiMarkup

open Markup

theorem EntryKind.timeline_ne_style : EntryKind.timeline ≠ .style := by decide

def TimelineStep.ofElement? (tag : String) (attrs : Attrs) : Option TimelineStep :=
  let target := (attrs.get? "target").getD "self"
  let delay := Reading.intAttr attrs "delay" 0
  if tag = "include_timeline" then
    (attrs.get? "timeline").map fun timeline => .nested target timeline delay
  else
    ((attrs.get? "prop").bind StyleProp.ofName?).map fun prop =>
      .animate target prop (Reading.intAttr attrs "start" 0) (Reading.intAttr attrs "end" 0)
        (Reading.intAttr attrs "duration" 0) delay

namespace Markup.Forest

def steps (f : Forest) : List TimelineStep :=
  f.collect fun tag attrs => (TimelineStep.ofElement? tag attrs).toList

def timelines (f : Forest) : Assoc String (List TimelineStep) :=
  f.collectOuter fun _ attrs body => ((attrs.get? "name").map (·, body.steps)).toList

def IsTimelines (f : Forest) : Prop :=
  f.HasGroups ⟨.timeline, ["timeline"].contains⟩
    ⟨.timeline, ["animation", "include_timeline"].contains⟩

instance {f : Forest} : Decidable f.IsTimelines :=
  inferInstanceAs (Decidable (f.HasGroups _ _))

end Markup.Forest

namespace Build

variable {setup : Setup} {inst : Instantiate} {c : Config} {b b₁ b₂ : Build} {tag name : String}
  {attrs : Attrs} {f : Forest} {before : List TimelineStep}
  {made made' : Assoc String (List TimelineStep)} {pending pending' : Option Pending}

theorem value_readStep (tag : String) (attrs : Attrs) :
    (readStep tag attrs).value = TimelineStep.ofElement? tag attrs := by
  unfold readStep TimelineStep.ofElement?
  dsimp only
  split
  case isTrue => cases attrs.get? "timeline" <;> rfl
  case isFalse =>
    cases attrs.get? "prop"
    case none => rfl
    case some name =>
      dsimp only [Option.bind_some]
      cases StyleProp.ofName? name <;> rfl

def handles (s : Scene) (made : Assoc String (List TimelineStep)) : Assoc String TimelineId :=
  made.mapIdx fun i t => (t.1, ⟨s.timelines.size + i⟩)

def withTimelines (s : Scene) (made : Assoc String (List TimelineStep)) : Scene :=
  { s with timelines := s.timelines ++ (made.map Prod.snd).toArray }

theorem handles_append (s : Scene) (made made' : Assoc String (List TimelineStep)) :
    handles s (made ++ made') = handles s made ++ handles (withTimelines s made) made' := by
  simp [handles, withTimelines, List.mapIdx_append, Nat.add_comm, Nat.add_left_comm]

theorem withTimelines_append (s : Scene) (made made' : Assoc String (List TimelineStep)) :
    withTimelines s (made ++ made') = withTimelines (withTimelines s made) made' := by
  simp [withTimelines]

theorem addStep_withTimelines (s : Scene) (before : List TimelineStep) (step : TimelineStep) :
    (withTimelines s [(name, before)]).addStep ⟨s.timelines.size⟩ step =
      withTimelines s [(name, before ++ [step])] := by
  have hlast : (s.timelines.push before).modify s.timelines.size (· ++ [step]) =
      s.timelines.push (before ++ [step]) := by
    apply Array.ext
    case h₁ => simp
    case h₂ =>
      intro i _ _
      grind
  simpa [withTimelines, Scene.addStep] using hlast

abbrev Animates (b : Build) (made : Assoc String (List TimelineStep)) (pending : Option Pending)
    (b' : Build) : Prop :=
  Adds .timeline EntryKind.timeline_ne_style b (handles b.scene made)
    (withTimelines b.scene made) pending b'

theorem Animates.refl (hp : b.doc.pending = pending) : Animates b [] pending b := by
  have hscene : withTimelines b.scene [] = b.scene := by simp [withTimelines]
  unfold Animates
  rw [hscene]
  exact Adds.refl hp

theorem Animates.trans (h₁ : Animates b made pending b₁) (h₂ : Animates b₁ made' pending' b₂) :
    Animates b (made ++ made') pending' b₂ := by
  unfold Animates at h₂ ⊢
  rw [h₁.scene] at h₂
  rw [handles_append, withTimelines_append]
  exact Adds.trans h₁ h₂

-- Inside of a timeline, which is the only one that was made and has the steps so far. It gets those
-- that are valid; where no timeline was begun, they are only reported.

abbrev Grown (b : Build) (name : String) (before : List TimelineStep) (b' : Build) : Prop :=
  Animates b [(name, before)] (some (.timeline ⟨b.scene.timelines.size⟩)) b'

theorem grown_begin (b : Build) (hname : attrs.get? "name" = some name) :
    Grown b name [] (b.beginTimeline attrs) := by
  let id : TimelineId := ⟨b.scene.timelines.size⟩
  let begun : Build := { b with scene := b.scene.createTimeline.2 }
  have hbegin : b.beginTimeline attrs =
      (begun.register .timeline name id).setPending (some (.timeline id)) := by
    unfold beginTimeline
    rw [hname]
    rfl
  have hadds : Animates b [(name, [])] b.doc.pending (begun.register .timeline name id) := by
    refine ⟨registry_keep, scene_keep.trans ?_, doc_keep⟩
    simp [begun, withTimelines, Scene.createTimeline]
  rw [hbegin]
  exact hadds.setPending _

theorem grown_step (h : Grown b name before b₁) (tag : String) (attrs : Attrs) :
    Grown b name (before ++ (TimelineStep.ofElement? tag attrs).toList)
      (b₁.addStep tag attrs) := by
  unfold addStep
  rw [h.pending_eq]
  dsimp only [take]
  rw [value_readStep]
  cases TimelineStep.ofElement? tag attrs
  case none =>
    rw [Option.toList_none, List.append_nil]
    exact { h with }
  case some step =>
    refine ⟨h.registry, ?_, h.doc⟩
    rw [Option.toList_some, ← addStep_withTimelines, ← h.scene]
    rfl

theorem grown_steps (hf : f.HasEntries ⟨.timeline, ["animation", "include_timeline"].contains⟩)
    (h : Grown b name [] b₁) : Grown b name f.steps (deliver c b₁ (f.entries .timeline)) := by
  refine run_entries (P := fun steps => Grown b name steps) hf (fun htag attrs h => ?_) h
  rw [Handler.run, timelineEntry_step htag]
  exact grown_step h _ attrs

theorem animates_stray (tag : String) (attrs : Attrs) (hp : b.doc.pending = none) :
    Animates b [] none (b.addStep tag attrs) := by
  unfold addStep
  rw [hp]
  exact (Animates.refl hp).note _

theorem animates_strays
    (hf : f.HasEntries ⟨.timeline, ["animation", "include_timeline"].contains⟩)
    (h : Animates b [] none b₁) : Animates b [] none (deliver c b₁ (f.entries .timeline)) := by
  refine run_entries (P := fun (_ : List TimelineStep) => Animates b [] none) (l := [])
    (g := fun _ _ => []) hf (fun htag attrs h => ?_) h
  rw [Handler.run, timelineEntry_step htag]
  exact h.trans (animates_stray _ attrs h.pending_eq)

-- Timelines, from the opening to the end. One without a name is not begun, and what is inside of it
-- is lost.

theorem animates_timeline (attrs : Attrs)
    (hf : f.HasEntries ⟨.timeline, ["animation", "include_timeline"].contains⟩)
    (hp : b.doc.pending = none) :
    Animates b ((attrs.get? "name").map (·, f.steps)).toList none
      ((deliver c (b.beginTimeline attrs) (f.entries .timeline)).endEntry "timeline") := by
  cases hname : attrs.get? "name"
  case none =>
    have hentry : Animates b [] none (b.beginTimeline attrs) := by
      unfold beginTimeline
      rw [hname]
      exact (Animates.refl hp).note _
    have hsteps := animates_strays (c := c) hf hentry
    rwa [endEntry_idle hsteps.pending_eq]
  case some name =>
    have hsteps := grown_steps (c := c) hf (grown_begin b hname)
    unfold endEntry
    rw [hsteps.pending_eq]
    exact hsteps.setPending none

theorem animates_timelines (hf : f.IsTimelines) (hp : b.doc.pending = none) :
    Animates b f.timelines none (deliver c b (f.groups .timeline .timeline)) := by
  refine run_groups (P := fun made => Animates b made none) hf (fun htag hbody attrs h => ?_)
    (.refl hp)
  obtain rfl := eq_of_only htag
  exact h.trans (animates_timeline attrs hbody h.pending_eq)

-- The tags that hold timelines together begin no block, so any may be open before. Each element
-- adds a timeline of its own, also where its name has one already; the last one keeps the name.
theorem timelines_under_names (setup : Setup) (inst : Instantiate) {body : Forest}
    (hbody : body.IsTimelines) (attrs : Attrs) (brief : Bool) (hb : Between b)
    (hscope : b.doc.scope.index < b.registry.scopes.size) :
    let b' := replay setup inst b (Forest.element "animations" attrs brief body .empty).events
    let first := b.scene.timelines.size
    b'.scene = { b.scene with
      timelines := b.scene.timelines ++ (body.timelines.map Prod.snd).toArray } ∧
    (∀ name, b'.registry.entry? .timeline b.doc.scope name =
      (Assoc.get? (body.timelines.mapIdx fun i t => (t.1, ⟨first + i⟩)).reverse name).or
        (b.registry.entry? .timeline b.doc.scope name)) ∧
    (∀ kind scope name, ¬(kind = .timeline ∧ scope = b.doc.scope) →
      b'.registry.entry? kind scope name = b.registry.entry? kind scope name) ∧
    ∃ block, b'.doc = { b.doc with block, pending := none } := by
  have hall : Animates b body.timelines none
      (deliver setup.config b (body.groups .timeline .timeline ++ [])) := by
    rw [List.append_nil]
    exact animates_timelines hbody hb.pending
  have ⟨hown, hother, hscene, hdoc⟩ :=
    Adds.replay (f := .element "animations" attrs brief body .empty) ⟨hbody, trivial⟩ hb hscope
      hall inst
  exact ⟨hscene, hown, hother, hdoc⟩

-- A timeline of the same name is no obstacle, and neither is a step that is not valid, nor a block
-- that was left open.
theorem timelines_of_two_names :
    let body : Forest :=
      .element "timeline" [("name", "show")] false
        (.element "animation" [("prop", "bg_opa"), ("end", "255")] true .empty <|
          .element "animation" [("prop", "none")] true .empty <|
          .element "include_timeline" [("timeline", "blink"), ("delay", "5")] true .empty .empty) <|
      .element "timeline" [("name", "hide")] false
        (.element "include_timeline" [] true .empty .empty) <|
      .element "timeline" [("name", "show")] false
        (.element "animation" [("target", "box"), ("prop", "x"), ("start", "7")] true .empty .empty)
        .empty
    let b : Build := { doc := { block := .stops }, scene := Scene.empty.createTimeline.2 }
    let b' := replay {} (instance? {}) b (Forest.element "animations" [] false body .empty).events
    b'.scene.timelines = #[[],
      [.animate "self" .bgOpa 0 255 0 0, .nested "self" "blink" 5], [],
      [.animate "box" .x 7 0 0 0]] ∧
    b'.registry.entry? .timeline .globals "show" = some ⟨3⟩ ∧
    b'.registry.entry? .timeline .globals "hide" = some ⟨2⟩ := by
  intro body b b'
  have hbody : body.IsTimelines := by decide +kernel
  have ⟨hscene, hnames, _⟩ := timelines_under_names (b := b) {} (instance? {}) hbody [] false
    ⟨rfl, trivial, rfl⟩ (by decide)
  have htimelines : b'.scene.timelines = _ := congrArg Scene.timelines hscene
  have hshow : b'.registry.entry? .timeline .globals "show" = _ := hnames "show"
  have hhide : b'.registry.entry? .timeline .globals "hide" = _ := hnames "hide"
  refine ⟨htimelines.trans ?_, hshow.trans ?_, hhide.trans ?_⟩
  all_goals decide +kernel

end Build

end UiMarkup
