import UiMarkup.Proofs.Build.Expansion
import UiMarkup.Proofs.Build.Parallel
import UiMarkup.Proofs.Loader.Isolation
import UiMarkup.Proofs.Registry.Define

namespace UiMarkup

open Pairing (Relates Answers)

theorem Registry.componentScope?_congr {r₁ r₂ : Registry} (hnames : r₂.names = r₁.names)
    (hcomponents : ∀ id, r₂.component? id = r₁.component? id) :
    r₂.componentScope? = r₁.componentScope? := by
  have hsame : r₂.component? = r₁.component? := funext hcomponents
  funext name
  rw [componentScope?, componentScope?, scopeByName?_eq, scopeByName?_eq, hnames, hsame]

namespace Build

variable {setup : Setup} {inst : Instantiate} {b b' : Build}

theorem Files.names_eq (h : b.Files b') : b'.registry.names = b.registry.names := by
  obtain ⟨hregistry, -⟩ | ⟨e, hregistry, -⟩ := h.filed
  · rw [hregistry]
  · rw [hregistry, Entry.names_registry]

def Instantiate.KeepsNames (inst : Instantiate) : Prop :=
  ∀ (b : Build) scope attrs, (inst b scope attrs).2.registry.names = b.registry.names

theorem registry_applyRest (name : String) (c : Component) (root : ObjId) (rest : Attrs) :
    (applyRest setup b name c root rest).registry = b.registry := by
  unfold applyRest
  split
  case isTrue  => rfl
  case isFalse =>
    dsimp only
    split <;> rfl

section Names

variable (hinst : inst.KeepsNames)
include hinst

theorem names_createElement (tag : String) (attrs : Attrs) :
    (createElement setup inst b tag attrs).2.registry.names = b.registry.names := by
  cases hp : setup.widgets.get? tag
  case some p =>
    obtain ⟨_, _, _, hdone⟩ := createElement_of_get? inst (b := b) hp attrs
    rw [hdone]
  case none =>
    unfold createElement
    rw [hp]
    dsimp only
    split
    case h_1 => rfl
    case h_2 scope _ =>
      have hnames := hinst b scope attrs
      split
      case h_1 he => rwa [he] at hnames
      case h_2 he => rwa [he] at hnames

theorem names_replay (events : List Event) :
    (replay setup inst b events).registry.names = b.registry.names := by
  induction events generalizing b
  case nil => rfl
  case cons e events hi =>
    refine hi.trans ?_
    cases h : b.order? setup e
    case none   => exact (files_step h).names_eq
    case some o =>
      obtain ⟨f, hstep⟩ := step_of_order? h
      obtain ⟨hregistry, -⟩ := build_of_order? h
      rw [hstep, ← hregistry]
      exact names_createElement hinst o.tag o.attrs

end Names

theorem Instantiate.keepsNames_instantiate (setup : Setup) (levels : Nat) :
    Instantiate.KeepsNames (instantiate setup levels) := by
  induction levels
  case zero => exact fun _ _ _ => rfl
  case succ levels hi =>
    intro b scope attrs
    cases hc : b.registry.component? scope
    case none   => rw [instantiate, hc]
    case some c =>
      have hinner : (replay setup (instantiate setup levels) (b.inside scope attrs)
          c.view).registry.names = b.registry.names := names_replay hi c.view
      rw [instantiate_inside levels hc]
      dsimp only
      split
      case h_1 => exact hinner
      case h_2 => exact (congrArg Registry.names (registry_applyRest ..)).trans hinner

end Build

def Event.refersTo (name : String) : Event → Bool
  | .opening _ attrs => attrs.any fun a => Text.after? "$" a.2 == some name
  | .closing _       => false

namespace Build

-- The processor that applies the attributes of an instance that are no parameters.
def restProcessor? (setup : Setup) (r : Registry) (c : Component) : Option Processor :=
  let base := baseWidget setup.widgets r setup.config.maxDepth c.base
  (setup.widgets.get? base).or (setup.widgets.get? "obj")

-- An attribute of that name is a parameter, or the view refers to it, or the base takes it.
def heeds (params : Assoc String (Option String)) (view : List Event) (p : Processor)
    (name : String) : Bool :=
  params.contains name || view.any (·.refersTo name) || p.accepts name

variable {setup : Setup} {b b' : Build} {params : Assoc String (Option String)} {view : List Event}
  {p : Processor} {c : Component} {name : String} {root : ObjId}

theorem heeds_of_refersTo (h : view.any (·.refersTo name)) : heeds params view p name := by
  simp [heeds, h]

theorem heeds_of_accepts (h : p.accepts name) : heeds params view p name := by
  simp [heeds, h]

theorem refers_of_refersTo {e : Event} (h : e ∈ view) :
    e.Refers fun name => view.any (·.refersTo name) := by
  cases e
  case closing            => trivial
  case opening tag attrs =>
    intro a ha name hname
    refine List.any_eq_true.mpr ⟨_, h, List.any_eq_true.mpr ⟨a, ha, ?_⟩⟩
    simpa using hname

theorem arguments_only (attrs : Attrs) {name : String} (h : view.any (·.refersTo name)) :
    (arguments params (attrs.only (heeds params view p))).get? name =
      (arguments params attrs).get? name := by
  have hsame : (attrs.only (heeds params view p)).get? name = attrs.get? name :=
    Attrs.sameOn_only (heeds params view p) attrs name (heeds_of_refersTo h)
  rw [get?_arguments, get?_arguments, argument?, argument?, hsame]

end Build

theorem WidgetKind.apply_nil (kind : WidgetKind) (env : Env) : kind.apply env [] = pure [] :=
  congrArg (· >>= fun last => pure ([] ++ [] ++ last)) (Noted.collect_eq_nil fun _ => rfl)

theorem Processor.apply_nil {p : Processor} (hp : ∀ m, p ≠ .modifier m) (env : Env)
    (parent : Option ObjId) (item : Option Item) : p.apply env parent item [] = pure [] := by
  have honto (target : Option ObjId) : onto target (pure []) = pure [] := by
    cases target <;> rfl
  unfold apply
  cases p
  case modifier m   => exact absurd rfl (hp m)
  case widget kind  => dsimp only; rw [kind.apply_nil, honto]
  case imageSlice   => rfl
  case scaleSection => dsimp only; split <;> first | exact honto _ | rfl
  case span         => dsimp only; split <;> first | exact honto _ | rfl
  all_goals exact honto _

namespace Build

variable {setup : Setup} {b b₁ b₂ : Build} {params : Assoc String (Option String)}
  {view : List Event} {p : Processor} {c : Component}

theorem apply_nil (hp : ∀ m, p ≠ .modifier m) : b.apply p [] = b := by
  unfold apply
  rw [p.apply_nil hp]
  simp [take, noteAll]

theorem setItem_applyRest (hp : restProcessor? setup b.registry c = some p)
    (hmodifier : ∀ m, p ≠ .modifier m) (name : String) (root : ObjId) (rest : Attrs)
    (item : Option Item) :
    (applyRest setup b name c root rest).setItem item =
      ((b.setItem (some (.obj root))).apply p (rest.only p.accepts)).setItem item := by
  unfold restProcessor? at hp
  unfold applyRest
  cases rest
  case nil =>
    rw [show Attrs.only [] p.accepts = [] from rfl, apply_nil hmodifier]
    rfl
  case cons a rest =>
    dsimp only [List.isEmpty] at hp ⊢
    rw [if_neg Bool.false_ne_true, hp, apply_accepted]

theorem only_rest (attrs : Attrs) :
    Attrs.only ((attrs.only (heeds params view p)).filter fun a => !params.contains a.1) p.accepts =
      Attrs.only (attrs.filter fun a => !params.contains a.1) p.accepts := by
  unfold Attrs.only
  rw [List.filter_filter, List.filter_filter, List.filter_filter]
  refine List.filter_congr fun a _ => ?_
  cases haccepts : p.accepts a.1
  case false => rfl
  case true  => simp [heeds_of_accepts haccepts]

theorem restProcessor?_congr {r₁ r₂ : Registry} (hnames : r₂.names = r₁.names)
    (hcomponents : ∀ id, r₂.component? id = r₁.component? id) :
    restProcessor? setup r₂ c = restProcessor? setup r₁ c := by
  have hsame : r₂.component? = r₁.component? := funext hcomponents
  have hbase : baseWidget setup.widgets r₂ = baseWidget setup.widgets r₁ := by
    refine baseWidget_congr fun tag => ?_
    rw [Registry.componentScope?_congr hnames hcomponents, hsame]
  rw [restProcessor?, hbase, restProcessor?]

theorem restProcessor?_replay (levels : Nat) (events : List Event) :
    restProcessor? setup (replay setup (instantiate setup levels) b events).registry c =
      restProcessor? setup b.registry c :=
  restProcessor?_congr (names_replay (Instantiate.keepsNames_instantiate setup levels) events)
    (component?_replay (Instantiate.resumes_instantiate setup levels) events)

-- Two builds that only differ in what was reported before.
def reporting (before : Array Diagnostic × Array Diagnostic) : Pairing where
  scopes := Equiv.refl _
  reads  := fun _ => True
  before := before

theorem createElement_only {before : Array Diagnostic × Array Diagnostic}
    (h : (reporting before).Relates b₁ b₂) {tag : String} (htag : setup.widgets.get? tag = none)
    {scope : ScopeId} (hscope : b₁.registry.componentScope? tag = some scope)
    (hc : b₁.registry.component? scope = some c)
    (hp : restProcessor? setup b₁.registry c = some p) (hmodifier : ∀ m, p ≠ .modifier m)
    (attrs : Attrs) :
    (reporting before).Answers (createElement setup (instance? setup) b₁ tag attrs)
      (createElement setup (instance? setup) b₂ tag
        (attrs.only (heeds (b₁.registry.params scope) c.view p))) := by
  let params := b₁.registry.params scope
  let kept := attrs.only (heeds params c.view p)
  have hregistry : b₂.registry = b₁.registry := h.registry.eq_of_refl
  unfold createElement instance?
  rw [htag]
  dsimp only
  rw [hregistry, hscope]
  dsimp only
  cases setup.config.maxDepth
  case zero =>
    rw [instantiate, instantiate, hregistry]
    exact ⟨rfl, h.note _⟩
  case succ levels =>
    have hparallel := Instantiate.parallel_instantiate setup levels
    have hmakes (id : ScopeId) : Instantiate.Makes (instantiate setup levels) (knowing id) :=
      Instantiate.makes_instantiate (invariant_knowing id) setup levels
    have hknows : b₁.registry.knows scope := Registry.knows_of_componentScope? hscope
    obtain ⟨hview, houter⟩ := h.inside hparallel setup hmakes hknows c.view
      (fun _ => refers_of_refersTo) attrs kept fun _ => arguments_only attrs
    rw [instantiate_inside levels hc, instantiate_inside levels (by rw [hregistry]; exact hc),
      hregistry]
    dsimp only
    rw [show (reporting before).scopes scope = scope from rfl] at hview houter
    rw [hview]
    cases (replay setup (instantiate setup levels) (b₁.inside scope attrs) c.view).doc.view
    case none      => exact ⟨rfl, houter.note _⟩
    case some root =>
      let inner := replay setup (instantiate setup levels) (b₂.inside scope kept) c.view
      let outer : Build := { inner with doc := b₂.doc }
      let rest (attrs : Attrs) : Attrs := attrs.filter fun a => !params.contains a.1
      let name := b₁.registry.scopeName scope
      let item := some (Item.obj root)
      have hrest : restProcessor? setup outer.registry c = some p := by
        have hsame : restProcessor? setup b₂.registry c = restProcessor? setup b₁.registry c := by
          rw [hregistry]
        exact (restProcessor?_replay (b := b₂.inside scope kept) levels c.view).trans
          (hsame.trans hp)
      have hsame : (applyRest setup outer name c root (rest kept)).setItem item =
          (applyRest setup outer name c root (rest attrs)).setItem item := by
        rw [setItem_applyRest hrest hmodifier, setItem_applyRest hrest hmodifier, only_rest]
      have hrelates :=
        ((houter.applyRest setup name c root (rest attrs)).setItem item).note
          (.componentInstantiated name)
      rw [← hsame] at hrelates
      exact ⟨rfl, hrelates⟩

theorem name_of_mem_resolveAttr {a a' : String × String} (h : a' ∈ (b.resolveAttr a).value) :
    a'.1 = a.1 := by
  unfold resolveAttr at h
  split at h
  case h_1 =>
    split at h
    case h_1 =>
      rw [Noted.value_pure] at h
      rw [List.mem_singleton.mp h]
    case h_2 => cases h
  case h_2 =>
    rw [Noted.value_map, Option.mem_toList] at h
    obtain ⟨_, _, rfl⟩ := Option.map_eq_some_iff.mp h
    rfl

theorem value_resolveAttrs_only (keep : String → Bool) (attrs : Attrs) :
    (b.resolveAttrs (attrs.only keep)).value = (b.resolveAttrs attrs).value.only keep := by
  unfold resolveAttrs
  rw [Noted.value_collect, Noted.value_collect]
  induction attrs
  case nil => rfl
  case cons a attrs hi =>
    have hname {a' : String × String} (h : a' ∈ (b.resolveAttr a).value) : keep a'.1 = keep a.1 :=
      congrArg keep (name_of_mem_resolveAttr h)
    have happend : Attrs.only ((a :: attrs).flatMap fun a => (b.resolveAttr a).value) keep =
        Attrs.only (b.resolveAttr a).value keep ++
          Attrs.only (attrs.flatMap fun a => (b.resolveAttr a).value) keep := List.filter_append ..
    rw [happend, ← hi]
    cases hkeep : keep a.1
    case true =>
      have hall : Attrs.only (b.resolveAttr a).value keep = (b.resolveAttr a).value :=
        List.filter_eq_self.mpr fun _ h => (hname h).trans hkeep
      rw [Attrs.only_cons_of_pos hkeep, List.flatMap_cons, hall]
    case false =>
      have hnone : Attrs.only (b.resolveAttr a).value keep = [] :=
        List.filter_eq_nil_iff.mpr fun _ h => by rw [hname h, hkeep]; decide
      rw [Attrs.only_cons_of_neg hkeep, hnone, List.nil_append]

end Build

namespace Loader

variable {l : Loader}

-- Both logs begin with what is reported of the values of the attributes, and go on alike. So there
-- is no report of an attribute that the instance does not heed.
theorem unheeded_silent (hl : l.Arises) {tag : String} (htag : l.setup.widgets.get? tag = none)
    {scope : ScopeId} (hscope : l.registry.componentScope? tag = some scope) {c : Component}
    (hc : l.registry.component? scope = some c) {p : Processor}
    (hp : Build.restProcessor? l.setup l.registry c = some p) (hmodifier : ∀ m, p ≠ .modifier m)
    (s : Scene) (parent : Option ObjId) (attrs : Attrs) :
    let kept := attrs.only (Build.heeds (l.registry.params scope) c.view p)
    let valueNotes (attrs : Attrs) :=
      ((l.begin s (.begin .globals parent)).resolveAttrs attrs).notes
    let o := l.create s parent tag attrs
    let o' := l.create s parent tag kept
    o'.result = o.result ∧ o'.scene = o.scene ∧ o'.loader = o.loader ∧
      ∃ log, o.log.toList = valueNotes attrs ++ log ∧ o'.log.toList = valueNotes kept ++ log := by
  intro kept valueNotes o o'
  let b := l.begin s (.begin .globals parent)
  obtain ⟨history, hhistory⟩ := hl.history
  have hglobals : l.registry.knows .globals :=
    hhistory ▸ (Registry.History.numbered history).globals
  have hlog (attrs : Attrs) : (b.noteAll (valueNotes attrs)).log = (valueNotes attrs).toArray := by
    simp [b, Loader.begin, Build.noteAll]
  let P := Build.reporting ((valueNotes attrs).toArray, (valueNotes kept).toArray)
  have hbegin : P.Relates (b.noteAll (valueNotes attrs)) (b.noteAll (valueNotes kept)) :=
    { registry  := .refl
      knows     := hglobals
      scene     := rfl
      doc       := rfl
      arguments := fun _ _ => rfl
      log       := ⟨#[], hlog attrs, hlog kept⟩ }
  have hmake := Build.createElement_only hbegin htag hscope hc hp hmodifier
    (b.resolveAttrs attrs).value
  have hdone {b₁ b₂ : Build} (h : P.Relates b₁ b₂) :
      b₂.scene = b₁.scene ∧ b₂.registry = b₁.registry ∧
        ∃ log,
          b₁.log.toList = valueNotes attrs ++ log ∧ b₂.log.toList = valueNotes kept ++ log := by
    obtain ⟨more, h₁, h₂⟩ := h.log
    exact ⟨h.scene, h.registry.eq_of_refl, more.toList, by rw [h₁]; simp [P, Build.reporting],
      by rw [h₂]; simp [P, Build.reporting]⟩
  rw [← Build.value_resolveAttrs_only] at hmake
  dsimp only [o, o', Loader.create, Build.create, Build.take]
  refine Answers.elim hmake fun item b₁ b₂ hb => ?_
  cases item
  case none =>
    obtain ⟨hscene, hregistry, hreport⟩ := hdone (hb.note (.createFailed tag))
    exact ⟨rfl, hscene, congrArg (fun registry => { l with registry }) hregistry, hreport⟩
  case some item =>
    obtain ⟨hscene, hregistry, hreport⟩ := hdone hb
    exact ⟨rfl, hscene, congrArg (fun registry => { l with registry }) hregistry, hreport⟩

theorem unheeded_silent_card :
    let text := "<component><api><prop name='text'/></api>" ++
      "<view extends='button'><label text='$text'/></view></component>"
    let l := (Loader.registerComponent {} .empty "card" text).loader
    let attrs := [("text", "A"), ("foo", "1"), ("hidden", "true")]
    let kept := [("text", "A"), ("hidden", "true")]
    let o := l.create .empty none "card" attrs
    let o' := l.create .empty none "card" kept
    o.result = some (.obj ⟨0⟩) ∧ o'.scene = o.scene ∧ o'.log.toList = o.log.toList := by
  intro text l attrs kept o o'
  let c : Component :=
    { base := "button"
      view := [.opening "view" [("extends", "button")], .opening "label" [("text", "$text")],
        .closing "label", .closing "view"] }
  have hl : l.Arises := .call (.new {}) (.registerComponent "card" text) .empty
  have ⟨htag, hscope, hc, hp, hkept⟩ : l.setup.widgets.get? "card" = none ∧
      l.registry.componentScope? "card" = some ⟨1⟩ ∧ l.registry.component? ⟨1⟩ = some c ∧
      Build.restProcessor? l.setup l.registry c = some (.widget .button) ∧
      Attrs.only attrs (Build.heeds (l.registry.params ⟨1⟩) c.view (.widget .button)) = kept := by
    decide +kernel
  have ⟨_, hscene, _, log, hlog, hlog'⟩ :=
    unheeded_silent hl htag hscope hc hp (by simp) .empty none attrs
  rw [hkept] at hscene hlog'
  rw [hlog, hlog']
  exact ⟨by decide +kernel, hscene, congrArg (· ++ log) (by decide +kernel)⟩

-- Nothing warns of an attribute of a card that nothing heeds. Where it is one of the button that
-- the card extends, there is a warning.
theorem foo_of_card_unreported :
    let l := (Loader.registerComponent {} .empty "card"
      "<component><view extends='button'/></component>").loader
    let c : Component :=
      { base := "button"
        view := [.opening "view" [("extends", "button")], .closing "view"] }
    let card   := l.create .empty none "card" [("foo", "1")]
    let button := l.create .empty none "button" [("foo", "1")]
    l.registry.componentScope? "card" = some ⟨1⟩ ∧ l.registry.component? ⟨1⟩ = some c ∧
    Build.restProcessor? l.setup l.registry c = some (.widget .button) ∧
    ¬Build.heeds (l.registry.params ⟨1⟩) c.view (.widget .button) "foo" ∧
    card.result = some (.obj ⟨0⟩) ∧ (∀ d ∈ card.log, d.level ≠ .warn) ∧
    button.log = #[.unsupportedAttribute "foo" "button"] ∧
    (Diagnostic.unsupportedAttribute "foo" "button").level = .warn := by
  decide +kernel

end Loader

end UiMarkup
