import UiMarkup.Loader
import UiMarkup.Proofs.Build.Documents
import UiMarkup.Proofs.Registry.NewScope

namespace UiMarkup

open Markup

-- Seen from a new scope, names mean what they mean globally. A timeline may not be qualified by the
-- name of that scope, because the global scope would then be searched where none was before.

section NewScope

variable {r : Registry} {s : Scope}

def NotIn (scope name : String) : Prop :=
  ∀ q ∈ Text.cutLast? '.' name, q.1 ≠ scope

instance {scope name : String} : Decidable (NotIn scope name) :=
  inferInstanceAs (Decidable (∀ q ∈ Text.cutLast? '.' name, q.1 ≠ scope))

theorem Registry.lookup?_withScope_next (hs : s.Bare) (kind : EntryKind) (name : String) :
    (r.withScope s).lookup? kind (some r.nextScope) name = r.lookup? kind (some .globals) name := by
  rw [lookup?_withScope hs, lookup?_next]
  rfl

theorem Registry.value_const?_withScope (hs : s.Bare) (hname : r.scopeByName? s.name = none)
    (name : String) : ((r.withScope s).const? (some r.nextScope) name).value =
      (r.const? (some .globals) name).value := by
  simp only [value_const?, lookup?_withScope_next hs, bind_scopeByName?_withScope hs hname]

theorem Registry.value_resolve?_withScope (hs : s.Bare) (hname : r.scopeByName? s.name = none)
    (text : String) : ((r.withScope s).resolve? r.nextScope text).value =
      (r.resolve? .globals text).value := by
  unfold resolve?
  split
  case h_1 => rfl
  case h_2 => rw [Noted.value_bind, Noted.value_bind, value_const?_withScope hs hname]

theorem Context.agrees_withScope (hs : s.Bare) (hname : r.scopeByName? s.name = none)
    (args₁ args₂ : Option Attrs) :
    Context.Agrees (NotIn s.name) ⟨r, .globals, args₁⟩ ⟨r.withScope s, r.nextScope, args₂⟩ := by
  intro scene
  constructor
  case subjectKind => rfl
  case style       => rfl
  case lookup      => exact fun kind name => (Registry.lookup?_withScope_next hs kind name).symm
  case findStyle =>
    intro name
    simp only [Env.findStyle, Registry.findStyle, Context.env]
    split
    case h_1 => simp only [pure_bind, Registry.lookup?_withScope_next hs]
    case h_2 qualifier bare _ =>
      by_cases hq : qualifier = s.name
      case pos =>
        rw [hq, Registry.scopeByName?_withScope_self hname, hname]
        have hbare : (r.withScope s).lookup? .style (some r.nextScope) bare =
            r.lookup? .style none bare := by
          rw [Registry.lookup?_withScope hs, Registry.lookup?_next]
        simp only [Noted.value_bind, Noted.value_because, Noted.value_pure, hbare]
      case neg =>
        rw [Registry.scopeByName?_withScope_of_ne hq]
        simp only [Registry.lookup?_withScope hs]
  case timeline =>
    intro name hn
    unfold Modifier.timeline
    dsimp only [Context.env]
    cases hcut : Text.cutLast? '.' name
    case none => simp only [Registry.lookup?_withScope_next hs]
    case some q =>
      obtain ⟨scope, bare⟩ := q
      simp only [Registry.scopeByName?_withScope_of_ne (hn _ hcut), Registry.lookup?_withScope hs]

theorem Context.sameAttrs_withScope (hs : s.Bare) (hname : r.scopeByName? s.name = none)
    {attrs : Attrs}
    (ha : ∀ a ∈ attrs, a.1 = "timeline" → ∀ v ∈ (r.resolve? .globals a.2).value, NotIn s.name v) :
    SameAttrs (NotIn s.name) ⟨r, .globals, none⟩ ⟨r.withScope s, r.nextScope, some []⟩
      attrs attrs := by
  have hread (a : String × String) : readAttr ⟨r, .globals, none⟩ a =
      readAttr ⟨r.withScope s, r.nextScope, some []⟩ a := by
    cases h : Text.after? "$" a.2
    case none =>
      rw [readAttr_of_not_parameter h, readAttr_of_not_parameter h,
        Registry.value_resolve?_withScope hs hname]
    case some _ =>
      rw [readAttr_of_parameter h, readAttr_of_parameter h]
      rfl
  have heq : read ⟨r, .globals, none⟩ attrs =
      read ⟨r.withScope s, r.nextScope, some []⟩ attrs := by
    rw [read_eq, read_eq, funext hread]
  refine ⟨heq, ?_⟩
  rw [← heq, read_eq]
  intro a' hmem htimeline
  obtain ⟨a, hin, hmem⟩ := List.mem_flatMap.mp hmem
  cases h : Text.after? "$" a.2
  case some _ =>
    rw [readAttr_of_parameter h] at hmem
    exact absurd hmem List.not_mem_nil
  case none =>
    rw [readAttr_of_not_parameter h, Option.mem_toList] at hmem
    obtain ⟨v, hv, rfl⟩ := Option.map_eq_some_iff.mp hmem
    exact ha a hin htimeline v hv

end NewScope

namespace Loader

variable {l : Loader} {s : Scene} {name text : String} {f : Forest}

theorem viewEvents_eq_nil_or_opening (f : Forest) :
    f.viewEvents = [] ∨ ∃ tag attrs events, f.viewEvents = .opening tag attrs :: events := by
  induction f
  case empty => exact .inl rfl
  case element tag attrs brief body rest hbody hrest =>
    unfold Forest.viewEvents
    split
    case isFalse => exact .inr ⟨_, _, _, rfl⟩
    case isTrue =>
      obtain hnil | ⟨_, _, _, hcons⟩ := hbody
      · rw [hnil]
        exact hrest
      · rw [hcons]
        exact .inr ⟨_, _, _, rfl⟩

theorem recorded_views (name : String) {b : Build}
    (h : (b.doc.recording.getD #[]).toList = f.viewEvents) :
    ∃ base log, recorded b name = (⟨base, f.viewEvents⟩, { b with log }) := by
  unfold recorded
  rw [h]
  obtain hnil | ⟨tag, attrs, events, hcons⟩ := viewEvents_eq_nil_or_opening f
  · rw [hnil]
    exact ⟨"obj", _, rfl⟩
  · rw [hcons]
    exact ⟨_, b.log, rfl⟩

def viewScope (name base : String) (f : Forest) : Scope where
  name
  component := some ⟨base, f.viewEvents⟩

theorem bare_viewScope {base : String} : (viewScope name base f).Bare := by
  intro kind _
  cases kind <;> rfl

theorem registerComponent_views (hname : l.registry.scopeByName? name = none)
    (hread : Markup.read text = (f.events, none)) (hf : f.OnlyViews l.setup.widgets) :
    ∃ base, (l.registerComponent s name text).scene = s ∧
      (l.registerComponent s name text).loader =
        { l with registry := l.registry.withScope (viewScope name base f) } := by
  let b₀ : Build :=
    { doc := { DocState.begin l.registry.nextScope none with recording := some #[] }
      registry := l.registry.withScope { name }
      scene := s }
  have hrecords : b₀.Records f.viewEvents (f.events.foldl (Build.read l.setup) b₀) :=
    Build.records_read (Build.instance? l.setup) rfl rfl hf
  generalize hb : f.events.foldl (Build.read l.setup) b₀ = b at hrecords
  obtain ⟨base, log, hrec⟩ := recorded_views name (f := f) (b := b)
    (by simp [hrecords.recording_eq, Build.keepEvents, Build.modifyDoc, b₀])
  have hset : b.registry.setComponent l.registry.nextScope ⟨base, f.viewEvents⟩ =
      .ok (l.registry.withScope (viewScope name base f)) := by
    rw [hrecords.registry_eq]
    exact Registry.modifyScope_withScope_next _
  refine ⟨base, ?_⟩
  unfold registerComponent Loader.read
  rw [Registry.ensureScope_of_none hname, hread]
  dsimp only
  rw [show Loader.begin _ s _ = b₀ from rfl, hb, hrec]
  dsimp only
  rw [hset]
  exact ⟨hrecords.scene_eq, rfl⟩

theorem loadView_views (hread : Markup.read text = (f.events, none))
    (hf : f.OnlyViews l.setup.widgets) (parent : Option ObjId) :
    let out := Context.stageAll ⟨l.registry, .globals, none⟩ l.setup parent f (none, s)
    (l.loadView s parent text).scene = out.2 ∧ (l.loadView s parent text).result = .ok out.1 := by
  have hshows := Build.shows_read (Build.instance? l.setup)
    (b := l.begin s (.begin .globals parent)) rfl rfl hf
  have hout := hshows.out_eq
  have hparent : (l.begin s (.begin .globals parent)).doc.parent? = parent := by
    simp [begin, DocState.begin, DocState.parent?]
  rw [hparent] at hout
  unfold loadView Loader.read
  rw [hread]
  exact ⟨congrArg Prod.snd hout, congrArg Except.ok (congrArg Prod.fst hout)⟩

theorem createScreen_views {id : ScopeId} {c : Component}
    (hid : l.registry.componentScope? name = some id) (hcomp : l.registry.component? id = some c)
    (hview : c.view = f.viewEvents) (hparams : l.registry.params id = [])
    (hmax : 1 ≤ l.setup.config.maxDepth) (hf : f.OnlyViews l.setup.widgets) :
    let out := Context.stageAll ⟨l.registry, id, some []⟩ l.setup none f (none, s)
    (l.createScreen s name).scene = out.2 ∧
      (l.createScreen s name).result = out.1.elim (.error (.noView name)) .ok := by
  obtain ⟨levels, hlevels⟩ := Nat.exists_eq_add_one.mpr hmax
  obtain ⟨hroot, hscene⟩ := Build.instantiate_views levels
    (b := l.begin s (.begin .globals none)) hcomp hview hparams hf
  dsimp only
  unfold createScreen Build.instance?
  rw [hlevels, hid]
  dsimp only
  split
  case h_1 root b hb =>
    rw [hb] at hroot hscene
    exact ⟨hscene, congrArg (fun made : Option ObjId => made.elim _ _) hroot⟩
  case h_2 b hb =>
    rw [hb] at hroot hscene
    exact ⟨hscene, congrArg (fun made : Option ObjId => made.elim _ _) hroot⟩

-- Reading a document of views directly, and recording it under a new name before making a screen of
-- it. The timelines that the document names, once constants are put in, are not to be qualified by
-- that name.
theorem createScreen_eq_loadView (hmax : 1 ≤ l.setup.config.maxDepth)
    (hname : l.registry.scopeByName? name = none) (hread : Markup.read text = (f.events, none))
    (hf : f.OnlyViews l.setup.widgets)
    (htimeline : f.Every fun _ attrs => ∀ a ∈ attrs, a.1 = "timeline" →
      ∀ v ∈ (l.registry.resolve? .globals a.2).value, NotIn name v) :
    let recorded := l.registerComponent s name text
    let screen := recorded.loader.createScreen recorded.scene name
    let view := l.loadView s none text
    screen.scene = view.scene ∧ (∀ root, screen.result = .ok root ↔ view.result = .ok (some root)) ∧
      (screen.result = .error (.noView name) ↔ view.result = .ok none) := by
  obtain ⟨base, hs, hl⟩ := registerComponent_views (s := s) hname hread hf
  let scope := viewScope name base f
  let r := l.registry.withScope scope
  have hbare : scope.Bare := bare_viewScope
  have hsame : f.Every fun _ attrs =>
      Context.SameAttrs (NotIn name) ⟨l.registry, .globals, none⟩
        ⟨r, l.registry.nextScope, some []⟩ attrs attrs ∧
      Context.SameAttrs (NotIn name) ⟨l.registry, .globals, none⟩
        ⟨r, l.registry.nextScope, some []⟩ attrs.ofBase attrs.ofBase := by
    refine htimeline.mono fun h => ⟨Context.sameAttrs_withScope hbare hname h, ?_⟩
    exact Context.sameAttrs_withScope hbare hname fun a ha => h a (List.mem_filter.mp ha).1
  have hagrees : Context.Agrees (NotIn name) ⟨l.registry, .globals, none⟩
      ⟨r, l.registry.nextScope, some []⟩ :=
    Context.agrees_withScope hbare hname none (some [])
  have hout := Context.stageAll_congr hagrees hsame l.setup none (none, s)
  obtain ⟨hviewScene, hviewResult⟩ := loadView_views (l := l) (s := s) hread hf none
  have hid : r.componentScope? name = some l.registry.nextScope :=
    Registry.componentScope?_withScope_self hname rfl
  obtain ⟨hscene, hresult⟩ := createScreen_views (l := { l with registry := r }) (s := s) hid
    Registry.component?_withScope_next rfl Registry.params_withScope_next hmax hf
  dsimp only
  rw [hs, hl, hviewScene, hviewResult, hscene, hresult, hout]
  refine ⟨rfl, ?_⟩
  generalize (Context.stageAll ⟨r, _, _⟩ l.setup none f (none, s)).1 = made
  cases made
  case none   => simp
  case some _ => simp

theorem screen_of_two_views :
    let globals := "<globals><consts><string name=\"t\" value=\"tl\"/></consts>" ++
      "<animations><timeline name=\"tl\"/></animations></globals>"
    let text := "<screen><view><slider/></view><view extends=\"button\">" ++
      "<play_timeline_event timeline=\"#t\"/><label/></view></screen>"
    let o := loadGlobals {} .empty globals
    let recorded := o.loader.registerComponent o.scene "main" text
    let screen := recorded.loader.createScreen recorded.scene "main"
    let view := o.loader.loadView o.scene none text
    screen.scene.size = 4 ∧ screen.scene = view.scene ∧
      (∀ root, screen.result = .ok root ↔ view.result = .ok (some root)) ∧
      (screen.result = .error (.noView "main") ↔ view.result = .ok none) := by
  intro globals text o recorded screen view
  let f : Forest := .element "screen" [] false
    (.element "view" [] false (.element "slider" [] true .empty .empty) <|
      .element "view" [("extends", "button")] false
        (.element "play_timeline_event" [("timeline", "#t")] true .empty <|
          .element "label" [] true .empty .empty) .empty) .empty
  exact ⟨by decide +kernel, createScreen_eq_loadView (f := f) (by decide +kernel)
    (by decide +kernel) (by decide +kernel) (by decide +kernel) (by decide +kernel)⟩

-- Why constants have to be put in first: here one of them hides the name of the new scope.
theorem scene_ne_of_hidden_qualifier :
    let globals := "<globals><consts><string name=\"t\" value=\"n.tl\"/></consts>" ++
      "<animations><timeline name=\"tl\"/></animations></globals>"
    let text := "<screen><view><play_timeline_event timeline=\"#t\"/></view></screen>"
    let o := loadGlobals {} .empty globals
    let recorded := o.loader.registerComponent o.scene "n" text
    let f : Forest := .element "screen" [] false (.element "view" [] false
      (.element "play_timeline_event" [("timeline", "#t")] true .empty .empty) .empty) .empty
    Markup.read text = (f.events, none) ∧ f.OnlyViews o.loader.setup.widgets ∧
      f.Every (fun _ attrs => ∀ a ∈ attrs, NotIn "n" a.2) ∧
      o.loader.registry.scopeByName? "n" = none ∧
      (recorded.loader.createScreen recorded.scene "n").scene ≠
        (o.loader.loadView o.scene none text).scene := by
  decide +kernel

end Loader

end UiMarkup
