import UiMarkup.Proofs.Reading.Gradients

namespace UiMarkup

open Markup

open Build (gradientShape?)

theorem EntryKind.gradient_ne_style : EntryKind.gradient ≠ .style := by decide

namespace Gradient

variable {dir : GradientDir} {name : String}

def ofNode? (e : Node) : Option (String × Gradient) := do
  let dir ← gradientShape? e.tag
  let name ← e.name?
  return (name, ofNode dir e)

theorem ofNode?_of_no_name {e : Node} (h : e.name? = none) : ofNode? e = none := by
  simp [ofNode?, h]

theorem ofNode?_of_name {e : Node} (hdir : gradientShape? e.tag = some dir)
    (hname : e.name? = some name) : ofNode? e = some (name, ofNode dir e) := by
  simp [ofNode?, hdir, hname]

-- What is filed: the one gradient that the element describes or, without an element, the old one.
def Filed (old new : Option Gradient) : Option Node → Prop
  | none   => new = old
  | some e => ∃ g, new = some g ∧ ∀ g', Described e g' ↔ g' = g

theorem Filed.or {new : Option Gradient} {e : Option Node} (h : Filed none new e)
    (old : Option Gradient) : Filed old (new.or old) e := by
  cases e
  case none =>
    rw [show new = none from h]
    rfl
  case some e =>
    obtain ⟨g, rfl, hg⟩ := h
    exact ⟨g, rfl, hg⟩

theorem Filed.eq_of_described {old new : Option Gradient} {e : Node} {g : Gradient}
    (h : Filed old new (some e)) (hg : Described e g) : new = some g := by
  obtain ⟨_, hnew, hall⟩ := h
  rw [hnew, (hall g).mp hg]

theorem filed_find? {l : List Node} (hl : ∀ e ∈ l, (gradientShape? e.tag).isSome)
    (name : String) :
    Filed none (Assoc.get? (l.filterMap ofNode?) name) (l.find? (·.name? == some name)) := by
  induction l
  case nil => rfl
  case cons e l hi =>
    obtain ⟨hhead, hl⟩ := List.forall_mem_cons.mp hl
    obtain ⟨dir, hdir⟩ := Option.isSome_iff_exists.mp hhead
    cases hname : e.name?
    case none =>
      rw [List.filterMap_cons_none (ofNode?_of_no_name hname),
        List.find?_cons_of_neg (by simp [hname])]
      exact hi hl
    case some given =>
      rw [List.filterMap_cons_some (ofNode?_of_name hdir hname), Assoc.get?]
      by_cases h : given = name
      case pos =>
        rw [if_pos h, List.find?_cons_of_pos (by simp [hname, h])]
        exact ⟨_, rfl, fun g' => described_iff hdir⟩
      case neg =>
        rw [if_neg h, List.find?_cons_of_neg (by simp [hname, h])]
        exact hi hl

end Gradient

def Markup.Forest.gradients (f : Forest) : Assoc String Gradient :=
  f.collectOuter fun tag attrs body => (Gradient.ofNode? ⟨tag, attrs, body⟩).toList

theorem Markup.Forest.filed_gradients {f : Forest} (hf : f.IsGradients) (name : String) :
    Gradient.Filed none (Assoc.get? f.gradients.reverse name) (f.lastNamed? name) := by
  have htags : ∀ e ∈ f.outer.reverse, (gradientShape? e.tag).isSome := fun e he =>
    Gradient.get?_directions e.tag ▸ tags_of_mem_outer hf e (List.mem_reverse.mp he)
  rw [gradients, collectOuter_eq, ← List.filterMap_reverse]
  exact Gradient.filed_find? htags name

theorem Markup.Forest.isGradients_iff {f : Forest} : f.IsGradients ↔
    f.HasGroups ⟨.gradient, fun tag => (gradientShape? tag).isSome⟩ ⟨.stop, ["stop"].contains⟩ := by
  have htags : Gradient.directions.contains = fun tag => (gradientShape? tag).isSome :=
    funext fun tag => congrArg Option.isSome (Gradient.get?_directions tag)
  rw [IsGradients, htags]

namespace Build

variable {setup : Setup} {inst : Instantiate} {c : Config} {b b₁ b₂ : Build} {tag name : String}
  {attrs : Attrs} {f : Forest} {g : Gradient} {gs gs' : Assoc String Gradient}
  {pending pending' : Option Pending}

theorem value_readStop (attrs : Attrs) : (readStop attrs).value = .ofAttrs attrs := by
  unfold readStop GradientStop.ofAttrs
  cases attrs.get? "color" <;> cases attrs.get? "opa" <;> cases attrs.get? "frac" <;> rfl

abbrev Collects (b : Build) (gs : Assoc String Gradient) (pending : Option Pending)
    (b' : Build) : Prop :=
  Adds .gradient EntryKind.gradient_ne_style b gs b.scene pending b'

theorem Collects.trans (h₁ : Collects b gs pending b₁) (h₂ : Collects b₁ gs' pending' b₂) :
    Collects b (gs ++ gs') pending' b₂ := by
  unfold Collects at h₂
  rw [h₁.scene] at h₂
  exact Adds.trans h₁ h₂

-- Stops. Inside of a gradient each is added behind the ones before it; where no gradient was begun,
-- they are only reported.

theorem collects_stop (attrs : Attrs) (hp : b.doc.pending = some (.gradient name g)) :
    Collects b [] (some (.gradient name (g.addStop (.ofAttrs attrs))))
      (b.stopEntry "stop" attrs) := by
  unfold stopEntry
  rw [hp, if_neg fun h => h rfl, ← value_readStop]
  exact ⟨rfl, rfl, rfl⟩

theorem collects_stray (attrs : Attrs) (hp : b.doc.pending = none) :
    Collects b [] none (b.stopEntry "stop" attrs) := by
  unfold stopEntry
  rw [hp, if_neg fun h => h rfl]
  exact (Adds.refl hp).note _

theorem collects_stops (hf : f.HasEntries ⟨.stop, ["stop"].contains⟩)
    (h : Collects b [] (some (.gradient name { g with stops := [] })) b₁) :
    Collects b [] (some (.gradient name { g with stops := f.stops }))
      (deliver c b₁ (f.entries .stop)) := by
  refine run_entries (P := fun stops => Collects b [] (some (.gradient name { g with stops }))) hf
    (fun htag attrs h => ?_) h
  obtain rfl := eq_of_only htag
  exact h.trans (collects_stop attrs h.pending_eq)

theorem collects_strays (hf : f.HasEntries ⟨.stop, ["stop"].contains⟩)
    (h : Collects b [] none b₁) : Collects b [] none (deliver c b₁ (f.entries .stop)) := by
  refine run_entries (P := fun (_ : List GradientStop) => Collects b [] none) (l := [])
    (g := fun _ _ => []) hf (fun htag attrs h => ?_) h
  obtain rfl := eq_of_only htag
  exact h.trans (collects_stray attrs h.pending_eq)

-- Gradients, from the opening to the end. One without a name is not begun, and what is inside of it
-- is lost.

theorem collects_end (hp : b.doc.pending = some (.gradient name g))
    (htag : (gradientShape? tag).isSome) : Collects b [(name, g)] none (b.endEntry tag) := by
  have hend : b.endEntry tag = b.endGradient name g := by
    unfold endEntry
    rw [hp]
    exact if_pos htag
  rw [hend]
  unfold endGradient
  dsimp only
  split <;> exact ⟨registry_keep, scene_keep, doc_keep⟩

theorem collects_gradient (attrs : Attrs) (htag : (gradientShape? tag).isSome)
    (hf : f.HasEntries ⟨.stop, ["stop"].contains⟩) (hp : b.doc.pending = none) :
    Collects b (Gradient.ofNode? ⟨tag, attrs, f⟩).toList none
      ((deliver c (b.gradientEntry tag attrs) (f.entries .stop)).endEntry tag) := by
  obtain ⟨dir, hdir⟩ := Option.isSome_iff_exists.mp htag
  cases hname : attrs.get? "name"
  case none =>
    have hentry : Collects b [] none (b.gradientEntry tag attrs) := by
      unfold gradientEntry
      rw [hdir]
      dsimp only
      rw [hname]
      exact (Adds.refl hp).note _
    have hstops := collects_strays (c := c) hf hentry
    rw [Gradient.ofNode?_of_no_name (e := ⟨tag, attrs, f⟩) hname]
    rwa [endEntry_idle hstops.pending_eq]
  case some name =>
    let g : Gradient := { dir, geometry := geometry dir attrs, spread := spread attrs }
    have hentry : Collects b [] (some (.gradient name g)) (b.gradientEntry tag attrs) := by
      unfold gradientEntry
      rw [hdir]
      dsimp only
      rw [hname]
      exact ⟨rfl, rfl, rfl⟩
    have hstops := collects_stops (c := c) (g := g) hf hentry
    rw [Gradient.ofNode?_of_name (e := ⟨tag, attrs, f⟩) hdir hname]
    exact hstops.trans (collects_end hstops.pending_eq htag)

theorem collects_gradients (hf : f.IsGradients) (hp : b.doc.pending = none) :
    Collects b f.gradients none (deliver c b (f.groups .gradient .stop)) :=
  run_groups (P := fun gs => Collects b gs none) (Forest.isGradients_iff.mp hf)
    (fun htag hbody attrs h => h.trans (collects_gradient attrs htag hbody h.pending_eq))
    (Adds.refl hp)

-- In a block of its own, whichever block was open before; inside of a view the tag would be that of
-- an element. A gradient without a name leaves nothing behind, and of two gradients of one name the
-- last one counts.
theorem gradients_under_names (setup : Setup) (inst : Instantiate) {body : Forest}
    (hbody : body.IsGradients) (attrs : Attrs) (brief : Bool) (hb : Between b)
    (hscope : b.doc.scope.index < b.registry.scopes.size) :
    let b' := replay setup inst b (Forest.element "gradients" attrs brief body .empty).events
    (∀ name, Gradient.Filed (b.registry.entry? .gradient b.doc.scope name)
      (b'.registry.entry? .gradient b.doc.scope name) (body.lastNamed? name)) ∧
    (∀ kind scope name, ¬(kind = .gradient ∧ scope = b.doc.scope) →
      b'.registry.entry? kind scope name = b.registry.entry? kind scope name) ∧
    b'.scene = b.scene ∧ ∃ block, b'.doc = { b.doc with block, pending := none } := by
  have hall : Collects b body.gradients none
      (deliver setup.config b (body.groups .gradient .stop ++ [])) := by
    rw [List.append_nil]
    exact collects_gradients hbody hb.pending
  have ⟨hown, hothers⟩ :=
    Adds.replay (f := .element "gradients" attrs brief body .empty)
      ⟨Forest.isGradients_iff.mp hbody, trivial⟩ hb hscope hall inst
  refine ⟨fun name => ?_, hothers⟩
  rw [hown]
  exact (Forest.filed_gradients hbody name).or _

-- The second gradient of a name takes no stops from the first one, nor from the one in between, and
-- its points mix pixels, percentages and the size of the content.
theorem gradients_of_two_names :
    let cone : Attrs := [("name", "dial"), ("center", " 10 -5% 7")]
    let line : Attrs :=
      [("name", "sky"), ("start", "12px"), ("end", "content 50%"), ("extend", "reflect")]
    let stops : Forest :=
      .element "stop" [("color", "0f0"), ("opa", "50%")] true .empty <|
        .element "stop" [("color", "mauve"), ("frac", "300")] true .empty .empty
    let body : Forest :=
      .element "radial_gradient" [("name", "sky"), ("radius", "9")] false
        (.element "stop" [("color", "#ff0000")] true .empty .empty) <|
      .element "conical_gradient" cone true .empty <|
      .element "linear_gradient" line false stops .empty
    let b' := replay {} (instance? {}) {} (Forest.element "gradients" [] false body .empty).events
    let sky : Gradient := {
      dir := .linear
      geometry := .linear (12, 0) (1073741823, 536870962)
      spread := .reflect
      stops := [⟨⟨0, 255, 0⟩, 127, 0⟩, ⟨⟨0, 0, 0⟩, 255, 255⟩] }
    let dial : Gradient := {
      dir := .conical
      geometry := .conical (10, 805306372) 0 360 }
    b'.registry.entry? .gradient .globals "sky" = some sky ∧
    b'.registry.entry? .gradient .globals "dial" = some dial ∧
    b'.registry.entry? .gradient .globals "sea" = none := by
  intro cone line stops body b' sky dial
  have hbody : body.IsGradients := by decide +kernel
  have ⟨hnames, _⟩ := gradients_under_names (b := {}) {} (instance? {}) hbody [] false
    ⟨rfl, trivial, rfl⟩ (by decide)
  have hsky : body.lastNamed? "sky" = some ⟨"linear_gradient", line, stops⟩ := by decide +kernel
  have hdial : body.lastNamed? "dial" = some ⟨"conical_gradient", cone, .empty⟩ := by
    decide +kernel
  have hsea : body.lastNamed? "sea" = none := by decide +kernel
  have hkept : Gradient.Filed none _ none := hsea ▸ hnames "sea"
  refine ⟨(hsky ▸ hnames "sky").eq_of_described ?sky, (hdial ▸ hnames "dial").eq_of_described ?dial,
    hkept⟩
  all_goals exact (Gradient.described_iff rfl).mpr (by decide +kernel)

end Build

end UiMarkup
