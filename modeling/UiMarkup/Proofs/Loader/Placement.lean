import UiMarkup.Proofs.Loader.Blocks

namespace UiMarkup

open Markup

-- The second document is the first one with a view in it: in front of its blocks, behind some of
-- them, or in a tag that holds blocks together.
inductive Markup.Forest.PlacesView (attrs : Attrs) (body : Forest) : Forest → Forest → Prop
  | here (brief : Bool) (f : Forest) : PlacesView attrs body f (.element "view" attrs brief body f)
  | behind {rest rest' : Forest} (tag : String) (as : Attrs) (brief : Bool) (block : Forest) :
    PlacesView attrs body rest rest' →
    PlacesView attrs body (.element tag as brief block rest) (.element tag as brief block rest')
  | inside {tag : String} {blocks blocks' : Forest} (as : Attrs) (brief : Bool) (rest : Forest) :
    Build.blocks.get? tag = none → PlacesView attrs body blocks blocks' →
    PlacesView attrs body (.element tag as brief blocks rest) (.element tag as brief blocks' rest)

def Component.ofView (attrs : Attrs) (body : Forest) : Component where
  base := attrs.base
  view := .opening "view" attrs :: body.events ++ [.closing "view"]

theorem Markup.Forest.deliveries_element (tag : String) (attrs : Attrs) (brief : Bool)
    (body rest : Forest) :
    (element tag attrs brief body rest).deliveries =
      (element tag attrs brief body empty).deliveries ++ rest.deliveries := by
  simp [deliveries]

namespace Build

variable {setup : Setup} {c : Config} {b b' : Build} {ds : List Delivery} {attrs : Attrs}
  {body f f' : Forest}

theorem unnoticed_recording (events : List Event) :
    Unnoticed fun d => { d with recording := d.recording.map (· ++ events) } :=
  ⟨fun _ => rfl, fun _ => rfl, fun _ _ => rfl⟩

namespace Delivers

theorem keepEvents (h : Delivers c b ds b') (events : List Event) :
    Delivers c (b.keepEvents events) ds (b'.keepEvents events) := by
  obtain ⟨block, rfl⟩ := h
  have hdeliver : deliver c (b.keepEvents events) ds = (deliver c b ds).keepEvents events :=
    deliver_modifyDoc (unnoticed_recording events) ds
  refine ⟨block, ?_⟩
  rw [hdeliver]
  rfl

theorem recording_eq (h : Delivers c b ds b') : b'.doc.recording = b.doc.recording := by
  obtain ⟨block, rfl⟩ := h
  obtain ⟨_, _, hdoc⟩ := doc_deliver (c := c) (b := b) ds
  change (deliver c b ds).doc.recording = b.doc.recording
  rw [hdoc]

end Delivers

-- By induction on the place. The entries in front of the view are delivered before anything is
-- recorded, those behind it after that; both come to the same as if the recording had come first.
theorem delivers_replay_view (inst : Instantiate) (hv : Forest.PlacesView attrs body f f')
    (hf : f.HasBlocks) (hb : Between b) (hr : b.doc.recording.isSome) :
    Delivers setup.config (b.keepEvents (Component.ofView attrs body).view) f.deliveries
      (replay setup inst b f'.events) ∧ Between (replay setup inst b f'.events) := by
  induction hv generalizing b
  case here brief f =>
    let recorded := b.keepEvents (Component.ofView attrs body).view
    have hview : Delivers setup.config recorded [] (recorded.atBlock .none) :=
      Delivers.refl.atBlock _
    have hb₁ : Between (recorded.atBlock .none) := ⟨hb.depth, trivial, hb.pending⟩
    obtain ⟨hafter, hb₂⟩ := delivers_replay setup inst hf hb₁
    rw [replay_first_element, keepEvents_replay_view inst hr hb.depth]
    exact ⟨hview.trans hafter, hb₂⟩
  case behind rest rest' tag as brief block hv hi =>
    obtain ⟨hblock, hfrest⟩ := hf
    have hsingle : (Forest.element tag as brief block .empty).HasBlocks := ⟨hblock, trivial⟩
    obtain ⟨hfirst, hb₁⟩ := delivers_replay setup inst hsingle hb
    obtain ⟨hthen, hb₂⟩ := hi hfrest hb₁ (hfirst.recording_eq ▸ hr)
    rw [replay_first_element, Forest.deliveries_element]
    exact ⟨(hfirst.keepEvents _).trans hthen, hb₂⟩
  case inside tag blocks blocks' as brief rest htag hv hi =>
    obtain ⟨hblock, hfrest⟩ := hf
    rw [htag] at hblock
    obtain ⟨hwrapper, hfblocks⟩ := hblock
    obtain ⟨hinside, hb₁⟩ := hi hfblocks hb hr
    rw [replay_element, opening_wrapper hb.depth hwrapper, Forest.deliveries, htag]
    generalize replay setup inst b blocks'.events = b₁ at hinside hb₁
    rw [closing_wrapper hb₁.depth hwrapper]
    have hb₂ : Between (b₁.atBlock (b₁.doc.block.stop tag)) := ⟨hb₁.depth, trivial, hb₁.pending⟩
    obtain ⟨hafter, hb₃⟩ := delivers_replay setup inst hfrest hb₂
    exact ⟨(hinside.atBlock _).trans hafter, hb₃⟩

end Build

namespace Loader

variable {text text' : String} {attrs : Attrs} {body f f₁ f₂ : Forest}

theorem read_placesView (hv : Forest.PlacesView attrs body f f₁) (hf : f.HasBlocks)
    (hread : Markup.read text = (f₁.events, none)) (l : Loader) (s : Scene) {doc : DocState}
    (hdepth : doc.depth = 0) (hpending : doc.pending = none) (hr : doc.recording.isSome) :
    ∃ block, l.read s doc text = (((l.handOver s doc f).keepEvents
      (Component.ofView attrs body).view).atBlock block, none) := by
  have hbetween : (l.begin s doc).Between := ⟨hdepth, trivial, hpending⟩
  obtain ⟨⟨block, hreplay⟩, -⟩ :=
    Build.delivers_replay_view (Build.instance? l.setup) hv hf hbetween hr
  have hdeliver := Build.deliver_modifyDoc (c := l.setup.config) (b := l.begin s doc)
    (Build.unnoticed_recording (Component.ofView attrs body).view) f.deliveries
  refine ⟨block, ?_⟩
  unfold Loader.read
  rw [hread]
  exact congrArg (·, none) (hreplay.trans (congrArg (Build.atBlock · block) hdeliver))

theorem recorded_ofView {b : Build} (h : b.doc.recording = some #[]) (name : String) :
    recorded (b.keepEvents (Component.ofView attrs body).view) name =
      (.ofView attrs body, b.keepEvents (Component.ofView attrs body).view) := by
  let events := (Component.ofView attrs body).view
  have hrecording : (b.keepEvents events).doc.recording = some (#[] ++ events) :=
    congrArg (Option.map fun kept : Array Event => kept ++ events) h
  unfold recorded
  rw [hrecording, Option.getD_some, Array.toList_appendList]
  rfl

theorem registerComponent_of_placesView (hv : Forest.PlacesView attrs body f f₁) (hf : f.HasBlocks)
    (hread : Markup.read text = (f₁.events, none)) (l : Loader) (s : Scene) (name : String) :
    let own := (l.registry.ensureScope name).1
    let b := l.handOverTo s name f
    ∃ registry, b.registry.setComponent own (.ofView attrs body) = .ok registry ∧
      l.registerComponent s name text =
        l.finish (({ b with registry } : Build).note (.componentRegistered name own))
          (.ok own) := by
  intro own b
  obtain ⟨registry, hregistry⟩ :=
    setComponent_handOverTo (l := l) (s := s) (f := f) name (.ofView attrs body)
  refine ⟨registry, hregistry, ?_⟩
  let l' : Loader := { l with registry := (l.registry.ensureScope name).2 }
  let doc : DocState := { DocState.begin own none with recording := some #[] }
  let b₁ := b.keepEvents (Component.ofView attrs body).view
  obtain ⟨block, hb⟩ : ∃ block, l'.read s doc text = (b₁.atBlock block, none) :=
    read_placesView hv hf hread l' s rfl rfl rfl
  have hempty : (b.atBlock block).doc.recording = some #[] := doc_handOver.2
  have hset : (b₁.atBlock block).registry.setComponent own (.ofView attrs body) = .ok registry :=
    hregistry
  unfold registerComponent
  dsimp only
  rw [show Loader.read _ s _ text = _ from hb]
  dsimp only
  rw [show recorded (b₁.atBlock block) name = (.ofView attrs body, b₁.atBlock block) from
    recorded_ofView hempty name]
  dsimp only
  rw [hset]
  rfl

theorem view_placed_anywhere (h₁ : Forest.PlacesView attrs body f f₁)
    (h₂ : Forest.PlacesView attrs body f f₂) (hf : f.HasBlocks)
    (hread₁ : Markup.read text = (f₁.events, none)) (hread₂ : Markup.read text' = (f₂.events, none))
    (l : Loader) (s : Scene) (name : String) :
    l.registerComponent s name text' = l.registerComponent s name text ∧
    let own := (l.registry.ensureScope name).1
    let b := l.handOverTo s name f
    ∃ registry, b.registry.setComponent own (.ofView attrs body) = .ok registry ∧
      l.registerComponent s name text =
        l.finish (({ b with registry } : Build).note (.componentRegistered name own))
          (.ok own) := by
  obtain ⟨registry, hregistry, hfirst⟩ := registerComponent_of_placesView h₁ hf hread₁ l s name
  obtain ⟨registry', hregistry', hsecond⟩ := registerComponent_of_placesView h₂ hf hread₂ l s name
  cases hregistry.symm.trans hregistry'
  exact ⟨hsecond.trans hfirst.symm, registry, hregistry, hfirst⟩

-- In one of them nothing is open where the view begins; in the other one a timeline still is, and
-- the entry behind the view would be one of it but for its tag.
theorem view_placed_before_or_between :
    let first := "<component><view extends=\"button\"><label text=\"$title\"/></view><api>" ++
      "<prop name=\"title\"/></api><animations><timeline name=\"t\"/></animations><consts>" ++
      "<stop name=\"a\" value=\"1\"/></consts></component>"
    let between := "<component><api><prop name=\"title\"/></api><animations>" ++
      "<timeline name=\"t\"/></animations><view extends=\"button\"><label text=\"$title\"/>" ++
      "</view><consts><stop name=\"a\" value=\"1\"/></consts></component>"
    let outcome := ({} : Loader).registerComponent .empty "card" first
    outcome.result = .ok (({} : Registry).ensureScope "card").1 ∧
    ({} : Loader).registerComponent .empty "card" between = outcome := by
  intro first between outcome
  let title : Forest := .element "label" [("text", "$title")] true .empty .empty
  let consts : Forest := .element "consts" [] false
    (.element "stop" [("name", "a"), ("value", "1")] true .empty .empty) .empty
  let animations (rest : Forest) : Forest := .element "animations" [] false
    (.element "timeline" [("name", "t")] true .empty .empty) rest
  let api (rest : Forest) : Forest := .element "api" [] false
    (.element "prop" [("name", "title")] true .empty .empty) rest
  let view (rest : Forest) : Forest := .element "view" [("extends", "button")] false title rest
  let component (blocks : Forest) : Forest := .element "component" [] false blocks .empty
  have hfirst : Markup.read first =
      ((component (view (api (animations consts)))).events, none) := by
    decide +kernel
  have hbetween : Markup.read between =
      ((component (api (animations (view consts)))).events, none) := by
    decide +kernel
  have hf : (component (api (animations consts))).HasBlocks := by decide +kernel
  have hview : ∀ rest, Forest.PlacesView [("extends", "button")] title rest (view rest) :=
    fun rest => .here false rest
  obtain ⟨hsame, _, -, houtcome⟩ := view_placed_anywhere
    (.inside [] false .empty (by decide) (hview _))
    (.inside [] false .empty (by decide) (.behind _ _ _ _ (.behind _ _ _ _ (hview _))))
    hf hfirst hbetween {} .empty "card"
  exact ⟨by rw [show outcome = _ from houtcome]; rfl, hsame⟩

end Loader

end UiMarkup
