import UiMarkup.Proofs.Build.Blocks
import UiMarkup.Proofs.Loader.Isolation

namespace UiMarkup

open Markup

namespace Registry

variable {r : Registry} {id : ScopeId}

theorem setComponent_of_scopeByName? {name : String} (h : r.scopeByName? name = some id)
    (c : Component) : ∃ r', r.setComponent id c = .ok r' := by
  rw [scopeByName?] at h
  obtain ⟨i, hi, rfl⟩ := Option.map_eq_some_iff.mp h
  obtain ⟨hlt, -⟩ := Array.findIdx?_eq_some_iff_getElem.mp hi
  exact ⟨_, if_pos hlt⟩

end Registry

namespace Build

theorem names_deliver {c : Config} {b : Build} (ds : List Delivery) :
    (deliver c b ds).registry.names = b.registry.names := by
  induction ds generalizing b
  case nil => rfl
  case cons d ds hi =>
    refine hi.trans ?_
    obtain ⟨hregistry, -⟩ | ⟨e, hregistry, -⟩ := (keeps_run (c := c) (b := b) d).filed
    · rw [hregistry]
    · rw [hregistry, Entry.names_registry]

end Build

namespace Loader

variable {l : Loader} {s : Scene} {text : String} {f : Forest}

def handOver (l : Loader) (s : Scene) (doc : DocState) (f : Forest) : Build :=
  Build.deliver l.setup.config (l.begin s doc) f.deliveries

-- The document of a component is read into its own scope, where its views are recorded.
def handOverTo (l : Loader) (s : Scene) (name : String) (f : Forest) : Build :=
  let own := (l.registry.ensureScope name).1
  let r := (l.registry.ensureScope name).2
  { l with registry := r }.handOver s { DocState.begin own none with recording := some #[] } f

theorem doc_handOver {doc : DocState} :
    (l.handOver s doc f).doc.view = doc.view ∧
      (l.handOver s doc f).doc.recording = doc.recording := by
  obtain ⟨_, _, hdoc⟩ := Build.doc_deliver (c := l.setup.config) (b := l.begin s doc) f.deliveries
  rw [handOver, hdoc]
  exact ⟨rfl, rfl⟩

theorem setComponent_handOverTo (name : String) (c : Component) :
    ∃ registry, (l.handOverTo s name f).registry.setComponent (l.registry.ensureScope name).1 c =
      .ok registry := by
  have hnames : (l.handOverTo s name f).registry.names = (l.registry.ensureScope name).2.names :=
    Build.names_deliver f.deliveries
  have hscope : (l.handOverTo s name f).registry.scopeByName? name =
      some (l.registry.ensureScope name).1 := by
    rw [Registry.scopeByName?_eq, hnames, ← Registry.scopeByName?_eq,
      Registry.scopeByName?_ensureScope]
  exact Registry.setComponent_of_scopeByName? hscope c

theorem read_blocks (hread : Markup.read text = (f.events, none)) (hf : f.HasBlocks) (l : Loader)
    (s : Scene) (doc : DocState) (hdepth : doc.depth = 0) (hpending : doc.pending = none) :
    ∃ block, l.read s doc text = ((l.handOver s doc f).atBlock block, none) := by
  have hbetween : (l.begin s doc).Between := ⟨hdepth, trivial, hpending⟩
  obtain ⟨⟨block, hreplay⟩, -⟩ :=
    Build.delivers_replay l.setup (Build.instance? l.setup) hf hbetween
  refine ⟨block, ?_⟩
  unfold Loader.read
  rw [hread]
  exact congrArg (·, none) hreplay

theorem recorded_without_view {b : Build} (h : b.doc.recording = some #[]) (name : String) :
    recorded b name = (⟨"obj", []⟩, b.note (.componentWithoutView name)) := by
  unfold recorded
  rw [h]
  rfl

-- Nothing else is done, and nothing else is reported, but that the document was read. A component
-- gets an empty object for its view, because such documents have none.
theorem entries_delivered (hread : Markup.read text = (f.events, none)) (hf : f.HasBlocks)
    (l : Loader) (s : Scene) :
    l.loadGlobals s text =
      l.finish ((l.handOver s (.begin .globals none) f).note .globalsLoaded) (.ok ()) ∧
    (∀ parent, l.loadView s parent text =
      l.finish (l.handOver s (.begin .globals parent) f) (.ok none)) ∧
    ∀ name,
      let own := (l.registry.ensureScope name).1
      let b := l.handOverTo s name f
      ∃ registry, b.registry.setComponent own ⟨"obj", []⟩ = .ok registry ∧
        l.registerComponent s name text =
          l.finish (({ b.note (.componentWithoutView name) with registry } : Build).note
            (.componentRegistered name own)) (.ok own) := by
  refine ⟨?globals, fun parent => ?view, fun name => ?component⟩
  case globals =>
    obtain ⟨block, hb⟩ := read_blocks hread hf l s (.begin .globals none) rfl rfl
    unfold loadGlobals
    rw [hb]
    rfl
  case view =>
    obtain ⟨block, hb⟩ := read_blocks hread hf l s (.begin .globals parent) rfl rfl
    have hview : ((l.handOver s (.begin .globals parent) f).atBlock block).doc.view = none :=
      doc_handOver.1
    unfold loadView
    rw [hb]
    dsimp only
    rw [hview]
    rfl
  case component =>
    intro own b
    obtain ⟨registry, hregistry⟩ :=
      setComponent_handOverTo (l := l) (s := s) (f := f) name ⟨"obj", []⟩
    refine ⟨registry, hregistry, ?_⟩
    let l' : Loader := { l with registry := (l.registry.ensureScope name).2 }
    let doc : DocState := { DocState.begin own none with recording := some #[] }
    obtain ⟨block, hb⟩ : ∃ block, l'.read s doc text = (b.atBlock block, none) :=
      read_blocks hread hf l' s doc rfl rfl
    have hrecording : (b.atBlock block).doc.recording = some #[] := doc_handOver.2
    have hset : ((b.atBlock block).note (.componentWithoutView name)).registry.setComponent own
        ⟨"obj", []⟩ = .ok registry := hregistry
    unfold registerComponent
    dsimp only
    rw [show Loader.read _ s _ text = _ from hb]
    dsimp only
    rw [recorded_without_view hrecording]
    dsimp only
    rw [hset]
    rfl

-- Fonts and a timeline are still open where the next block begins, and a constant is called a stop.
theorem entries_delivered_after_open_blocks :
    let text := "<globals><fonts/><gradients><linear_gradient name=\"g\"><stop/>" ++
      "<stop frac=\"100%\"/></linear_gradient></gradients><animations><timeline name=\"t\">" ++
      "<include_timeline/></timeline></animations><consts><stop name=\"a\" value=\"1\"/>" ++
      "</consts></globals>"
    let f : Forest := .element "globals" [] false
      (.element "fonts" [] true .empty <|
        .element "gradients" [] false
          (.element "linear_gradient" [("name", "g")] false
            (.element "stop" [] true .empty <|
              .element "stop" [("frac", "100%")] true .empty .empty) .empty) <|
        .element "animations" [] false
          (.element "timeline" [("name", "t")] false
            (.element "include_timeline" [] true .empty .empty) .empty) <|
        .element "consts" [] false
          (.element "stop" [("name", "a"), ("value", "1")] true .empty .empty) .empty) .empty
    let b := ({} : Loader).handOver .empty (.begin .globals none) f
    f.deliveries = [
      .entry .gradient "linear_gradient" [("name", "g")],
      .entry .stop "stop" [],
      .entry .stop "stop" [("frac", "100%")],
      .done "linear_gradient",
      .entry .timeline "timeline" [("name", "t")],
      .entry .timeline "include_timeline" [],
      .done "timeline",
      .entry .const "stop" [("name", "a"), ("value", "1")]] ∧
    b.registry.entry? .const .globals "a" = some "1" ∧
    ({} : Loader).loadGlobals .empty text =
      ({} : Loader).finish (b.note .globalsLoaded) (.ok ()) := by
  intro text f b
  have hread : Markup.read text = (f.events, none) := by decide +kernel
  have hf : f.HasBlocks := by decide +kernel
  exact ⟨by decide +kernel, by decide +kernel, (entries_delivered hread hf {} .empty).1⟩

end Loader

end UiMarkup
