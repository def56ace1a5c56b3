import UiMarkup.Loader
import UiMarkup.Proofs.Build.Sound

namespace UiMarkup.Loader

inductive Call
  | loadGlobals (text : String)
  | registerComponent (name text : String)
  | create (parent : Option ObjId) (tag : String) (attrs : Attrs)
  | createScreen (name : String)
  | loadView (parent : Option ObjId) (text : String)

namespace Call

def parent? : Call → Option ObjId
  | create parent _ _ => parent
  | loadView parent _ => parent
  | _                 => none

def run (l : Loader) (s : Scene) : Call → Loader × Scene
  | loadGlobals text            => after (l.loadGlobals s text)
  | registerComponent name text => after (l.registerComponent s name text)
  | create parent tag attrs     => after (l.create s parent tag attrs)
  | createScreen name           => after (l.createScreen s name)
  | loadView parent text        => after (l.loadView s parent text)
where
  after {α : Type} (o : Outcome α) : Loader × Scene :=
    (o.loader, o.scene)

end Call

-- The loader and the scene come out of new ones by calls whose parents exist.
inductive Reaches (setup : Setup) : Loader → Scene → Prop
  | new : Reaches setup { setup } .empty
  | call {l : Loader} {s : Scene} : Reaches setup l s → (c : Call) → (∀ p ∈ c.parent?, s.has p) →
    Reaches setup (c.run l s).1 (c.run l s).2

section Calls

variable {I : Condition} {l : Loader} {s : Scene}

theorem carries_finish {α : Type} {b₀ b : Build} (hb : Build.Advances I b₀ b) (result : α) :
    I.Carries b₀.scene (l.finish b result).loader.registry (l.finish b result).scene where
  holds := hb.meets.holds
  homes := hb.homes

theorem meets_begin (h : I.holds l.registry s) {parent : Option ObjId} (hp : I.home s parent) :
    (l.begin s (.begin .globals parent)).Meets I where
  holds := h
  doc   := .begin hp

theorem advances_recorded {b : Build} (h : b.Meets I) (name : String) :
    Build.Advances I b (recorded b name).2 := by
  unfold recorded
  split
  case h_1 => exact h.refl
  case h_2 => exact h.note _

variable (hI : I.Invariant)
include hI

theorem advances_read {doc : DocState} (h : (l.begin s doc).Meets I) (text : String) :
    Build.Advances I (l.begin s doc) (l.read s doc text).1 :=
  h.replay hI l.setup (Build.Instantiate.makes_instance? hI l.setup) _

theorem advances_create {b : Build} (h : b.Meets I) (setup : Setup) (tag : String) (attrs : Attrs) :
    let read := b.take (b.resolveAttrs attrs)
    Build.Advances I b (Build.create setup read.2 tag read.1).2 := by
  have hread := h.noteAll (b.resolveAttrs attrs).notes
  have hmake := hread.meets.createElement hI setup (Build.Instantiate.makes_instance? hI setup) tag
    (b.resolveAttrs attrs).value
  exact hread.trans hmake.toAdvances

variable (h : I.holds l.registry s)
include h

theorem carries_loadGlobals (hp : I.home s none) (text : String) :
    I.Carries s (l.loadGlobals s text).loader.registry (l.loadGlobals s text).scene := by
  have hread := advances_read hI (meets_begin h hp) text
  unfold Loader.loadGlobals
  split
  case h_1 he =>
    rw [he] at hread
    exact carries_finish hread _
  case h_2 he =>
    rw [he] at hread
    exact carries_finish (hread.trans <| hread.meets.note _) _

theorem carries_registerComponent (hp : I.home s none) (name text : String) :
    I.Carries s (l.registerComponent s name text).loader.registry
      (l.registerComponent s name text).scene := by
  let l₁ : Loader := { l with registry := (l.registry.ensureScope name).2 }
  let doc : DocState :=
    { DocState.begin (l.registry.ensureScope name).1 none with recording := some #[] }
  have hbegin : (l₁.begin s doc).Meets I :=
    have hdoc : (DocState.begin (l.registry.ensureScope name).1 none).Within I s := .begin hp
    ⟨hI.ensureScope h name, hdoc.parents, hdoc.view⟩
  have hread := advances_read hI hbegin text
  unfold Loader.registerComponent
  dsimp only
  split
  case h_1 he =>
    rw [show l₁.read s doc text = _ from he] at hread
    exact carries_finish hread _
  case h_2 b he =>
    rw [show l₁.read s doc text = _ from he] at hread
    have hrec := hread.trans <| advances_recorded hread.meets name
    split
    case h_1 => exact carries_finish hrec _
    case h_2 registry hr =>
      have hset : I.Carries (recorded b name).2.scene registry (recorded b name).2.scene :=
        ⟨hI.setComponent hrec.meets.holds hr, id⟩
      have hreg := hrec.meets.of_carries hset
      exact carries_finish (hrec.trans <| hreg.trans <| hreg.meets.note _) _

theorem carries_create {parent : Option ObjId} (hp : I.home s parent) (tag : String)
    (attrs : Attrs) :
    I.Carries s (l.create s parent tag attrs).loader.registry
      (l.create s parent tag attrs).scene := by
  have hcreate := advances_create hI (meets_begin h hp) l.setup tag attrs
  unfold Loader.create
  dsimp only at hcreate ⊢
  split
  case h_1 he =>
    rw [he] at hcreate
    exact carries_finish hcreate _
  case h_2 he =>
    rw [he] at hcreate
    exact carries_finish (hcreate.trans <| hcreate.meets.note _) _

theorem carries_createScreen (hp : I.home s none) (name : String) :
    I.Carries s (l.createScreen s name).loader.registry (l.createScreen s name).scene := by
  have hbegin : (l.begin s (.begin .globals none)).Meets I := meets_begin h hp
  unfold Loader.createScreen
  dsimp only
  split
  case h_1 => exact carries_finish hbegin.refl _
  case h_2 scope _ =>
    have hmake := Build.Instantiate.makes_instance? hI l.setup hbegin scope []
    split
    case h_1 he =>
      rw [he] at hmake
      exact carries_finish hmake.toAdvances _
    case h_2 he =>
      rw [he] at hmake
      exact carries_finish hmake.toAdvances _

theorem carries_loadView {parent : Option ObjId} (hp : I.home s parent) (text : String) :
    I.Carries s (l.loadView s parent text).loader.registry (l.loadView s parent text).scene := by
  have hread := advances_read hI (meets_begin h hp) text
  unfold Loader.loadView
  split
  case h_1 he =>
    rw [he] at hread
    exact carries_finish hread _
  case h_2 he =>
    rw [he] at hread
    exact carries_finish hread _

theorem carries_run {c : Call} (hp : I.home s c.parent?) :
    I.Carries s (c.run l s).1.registry (c.run l s).2 := by
  cases c
  case loadGlobals text            => exact carries_loadGlobals hI h hp text
  case registerComponent name text => exact carries_registerComponent hI h hp name text
  case create parent tag attrs     => exact carries_create hI h hp tag attrs
  case createScreen name           => exact carries_createScreen hI h hp name
  case loadView parent text        => exact carries_loadView hI h hp text

end Calls

theorem Reaches.holds {I : Condition} (hI : I.Invariant)
    (hhome : ∀ {s parent}, (∀ p ∈ parent, s.has p) → I.home s parent)
    (hnew : I.holds .empty .empty) {setup : Setup} {l : Loader} {s : Scene}
    (h : Reaches setup l s) : I.holds l.registry s := by
  induction h
  case new          => exact hnew
  case call c hc hi => exact (carries_run hI hi (hhome hc)).holds

-- The loader comes out of a new one by calls on whatever scenes, by what the application registers
-- itself, and by changes of the setup.
inductive Arises : Loader → Prop
  | new (setup : Setup) : Arises { setup }
  | call {l : Loader} : Arises l → (c : Call) → (s : Scene) → Arises (c.run l s).1
  | register {l : Loader} : Arises l → (c : Registry.Call) →
    Arises { l with registry := c.run l.registry }
  | setup {l : Loader} : Arises l → (setup : Setup) → Arises { l with setup }

def historical : Condition where
  holds r _ := ∃ h : Registry.History, r = h.registry
  home _ _  := True

theorem invariant_historical : historical.Invariant := by
  have hcall {r : Registry} {s : Scene} (h : historical.holds r s) (c : Registry.Call) :
      historical.holds (c.run r) s := by
    obtain ⟨history, rfl⟩ := h
    exact ⟨c :: history, rfl⟩
  constructor
  case entry =>
    intro r s h scope e
    exact ⟨e.registry_induction (motive := (historical.holds · s)) h fun c _ => hcall h c, id⟩
  case element      => exact fun h _ _ _ => ⟨⟨h, id⟩, fun _ _ => trivial⟩
  case adorn        => exact fun h _ _ _ _ => ⟨h, id⟩
  case ensureScope  => exact fun h name => hcall h (.ensureScope name)
  case setComponent => exact fun h _ _ _ hr => Registry.Call.run_setComponent hr ▸ hcall h _

theorem Arises.history {l : Loader} (h : l.Arises) :
    ∃ history : Registry.History, l.registry = history.registry := by
  induction h
  case new          => exact ⟨[], rfl⟩
  case call c s hi  => exact (carries_run (s := s) invariant_historical hi trivial).holds
  case register c hi =>
    obtain ⟨history, hl⟩ := hi
    exact ⟨c :: history, congrArg c.run hl⟩
  case setup hi => exact hi

structure Sound (l : Loader) (s : Scene) : Prop where
  registry : l.registry.Sound
  scene    : s.WellTied

structure Advances (s : Scene) (l' : Loader) (s' : Scene) : Prop where
  leads : s.Leads s'
  sound : l'.Sound s'

theorem Reaches.advances {setup : Setup} {l : Loader} {s : Scene} (h : Reaches setup l s) :
    Advances .empty l s := by
  have ⟨hregistry, hscene, hleads⟩ := h.holds (invariant_soundness .empty) id
    ⟨Registry.sound_empty, Scene.wellTied_empty, .refl⟩
  exact ⟨hleads, hregistry, hscene⟩

theorem Reaches.no_strays {setup : Setup} {l : Loader} {s : Scene} (h : Reaches setup l s) :
    s.strays = [] ∧ l.registry.strays = [] :=
  ⟨h.advances.leads.strays_eq Scene.wellTied_empty, h.advances.sound.registry.strays⟩

theorem no_strays_below_object :
    let call := Call.loadView (some ⟨0⟩) "<view><tabview><tabview-tab/></tabview></view>"
    let l := (Call.create none "obj" []).run {} .empty
    let l' := call.run l.1 l.2
    l'.2.size = 6 ∧ l'.2.strays = [] ∧ l'.1.registry.strays = [] := by
  intro call l l'
  have hnew : Reaches {} l.1 l.2 := .call .new (.create none "obj" []) (by decide)
  have h : Reaches {} l'.1 l'.2 := .call hnew call (by decide +kernel)
  exact ⟨by decide +kernel, h.no_strays⟩

end UiMarkup.Loader
