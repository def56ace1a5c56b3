import UiMarkup.Proofs.Build.Entries
import UiMarkup.Proofs.Build.Views

namespace UiMarkup

-- Besides a registry and a scene, a condition concerns where elements are placed: in an object, or
-- in none.
structure Condition where
  holds : Registry → Scene → Prop
  home  : Scene → Option ObjId → Prop

namespace Condition

structure Carries (I : Condition) (s : Scene) (r' : Registry) (s' : Scene) : Prop where
  holds : I.holds r' s'
  homes : ∀ {parent}, I.home s parent → I.home s' parent

-- What elements make is a home for others. The attributes of an instance that are no parameters go
-- to an object that was made before.
structure Invariant (I : Condition) : Prop where
  entry : ∀ {r s}, I.holds r s → ∀ (scope : ScopeId) (e : Entry),
    I.Carries s (e.registry scope r s) (e.scene s)
  element : ∀ {c : Context} {s parent}, I.holds c.registry s → I.home s parent → ∀ p attrs,
    let out := c.perform p parent attrs s
    I.Carries s c.registry out.2 ∧ ∀ id ∈ out.1.bind Item.obj?, I.home out.2 (some id)
  adorn : ∀ {c : Context} {s parent id}, I.holds c.registry s → I.home s parent →
    I.home s (some id) → ∀ (p : Processor) attrs,
    let edits := (p.apply (c.env s) parent (some (.obj id)) attrs).value
    I.Carries s c.registry (edits.foldl (fun s (id, e) => s.edit id e) s)
  ensureScope : ∀ {r s}, I.holds r s → ∀ name, I.holds (r.ensureScope name).2 s
  setComponent : ∀ {r s}, I.holds r s → ∀ {scope c r'}, r.setComponent scope c = .ok r' →
    I.holds r' s

end Condition

-- Whichever of the open elements end, the parent is a home.
structure DocState.Within (d : DocState) (I : Condition) (s : Scene) : Prop where
  parents : ∀ n ≤ d.frames.count true, I.home s (d.parents.drop n).head?
  view    : ∀ id ∈ d.view, I.home s (some id)

namespace DocState.Within

variable {d : DocState} {I : Condition} {s s' : Scene}

theorem mono (h : d.Within I s) (hs : ∀ {parent}, I.home s parent → I.home s' parent) :
    d.Within I s' where
  parents := fun n hn => hs (h.parents n hn)
  view    := fun id hid => hs (h.view id hid)

theorem begin {scope : ScopeId} {parent : Option ObjId} (hp : I.home s parent) :
    (DocState.begin scope parent).Within I s where
  parents := by
    intro n hn
    cases Nat.le_zero.mp hn
    cases parent <;> exact hp
  view    := nofun

theorem parent? (h : d.Within I s) : I.home s d.parent? :=
  h.parents 0 (Nat.zero_le _)

theorem withView (h : d.Within I s) {view : Option ObjId} (hv : ∀ id ∈ view, I.home s (some id)) :
    { d with view }.Within I s where
  parents := h.parents
  view    := hv

theorem openFrame (h : d.Within I s) {made : Option ObjId} (hm : ∀ id ∈ made, I.home s (some id)) :
    (d.openFrame made).Within I s where
  parents := by
    intro n hn
    cases made
    case none => exact h.parents n (by simpa [DocState.openFrame] using hn)
    case some id =>
      cases n
      case zero   => exact hm id rfl
      case succ n => exact h.parents n (by simpa [DocState.openFrame] using hn)
  view    := h.view

theorem closeFrame (h : d.Within I s) : d.closeFrame.Within I s := by
  unfold DocState.closeFrame
  split
  case h_1 => exact h
  case h_2 frames hf =>
    refine { h with parents := fun n hn => ?_ }
    have hout := h.parents (n + 1) (by simpa [hf] using hn)
    simpa using hout
  case h_3 frames hf => exact { h with parents := fun n hn => h.parents n (by simpa [hf] using hn) }

end DocState.Within

namespace Build

structure Meets (b : Build) (I : Condition) : Prop where
  holds : I.holds b.registry b.scene
  doc   : b.doc.Within I b.scene

structure Advances (I : Condition) (b b' : Build) : Prop where
  meets : b'.Meets I
  homes : ∀ {parent}, I.home b.scene parent → I.home b'.scene parent

theorem Advances.trans {I : Condition} {b₁ b₂ b₃ : Build} (h₁ : Advances I b₁ b₂)
    (h₂ : Advances I b₂ b₃) : Advances I b₁ b₃ where
  meets := h₂.meets
  homes := fun h => h₂.homes (h₁.homes h)

structure Makes (I : Condition) (b : Build) (made : Option ObjId) (b' : Build) : Prop
    extends Advances I b b' where
  home : ∀ id ∈ made, I.home b'.scene (some id)

def Instantiate.Makes (inst : Instantiate) (I : Condition) : Prop :=
  ∀ {b : Build}, b.Meets I → ∀ scope attrs,
    Build.Makes I b (inst b scope attrs).1 (inst b scope attrs).2

namespace Meets

variable {I : Condition} {b b' : Build}

theorem refl (h : b.Meets I) : Advances I b b where
  meets := h
  homes := id

theorem note (h : b.Meets I) (d : Diagnostic) : Advances I b (b.note d) where
  meets := { h with }
  homes := id

theorem noteAll (h : b.Meets I) (ds : List Diagnostic) : Advances I b (b.noteAll ds) where
  meets := { h with }
  homes := id

theorem modifyDoc (h : b.Meets I) {f : DocState → DocState} (hf : (f b.doc).Within I b.scene) :
    Advances I b (b.modifyDoc f) where
  meets := { h with doc := hf }
  homes := id

theorem setItem (h : b.Meets I) (item : Option Item) : Advances I b (b.setItem item) :=
  h.modifyDoc ⟨h.doc.parents, h.doc.view⟩

theorem setDepth (h : b.Meets I) (depth : Nat) : Advances I b (b.setDepth depth) :=
  h.modifyDoc ⟨h.doc.parents, h.doc.view⟩

theorem recordOr (h : b.Meets I) (e : Event) {f : Build → Build} (hf : Advances I b (f b)) :
    Advances I b (b.recordOr e f) := by
  unfold Build.recordOr
  split
  case h_1 => exact h.modifyDoc ⟨h.doc.parents, h.doc.view⟩
  case h_2 => exact hf

theorem of_carries (h : b.Meets I) {r : Registry} {s : Scene} (hc : I.Carries b.scene r s) :
    Advances I b { b with registry := r, scene := s } where
  meets := ⟨hc.holds, h.doc.mono hc.homes⟩
  homes := hc.homes

variable (hI : I.Invariant)
include hI

theorem of_keeps (h : b.Meets I) (hk : b.Keeps b') : Advances I b b' := by
  have hcarry : I.Carries b.scene b'.registry b'.scene := by
    cases hk.filed
    case inl he =>
      rw [he.1, he.2]
      exact ⟨h.holds, id⟩
    case inr he =>
      obtain ⟨e, hr, hs, -⟩ := he
      exact hr ▸ hs ▸ hI.entry h.holds b.doc.scope e
  obtain ⟨block, pending, hdoc⟩ := hk.doc
  have hwithin := h.doc.mono hcarry.homes
  exact ⟨⟨hcarry.holds, hdoc ▸ ⟨hwithin.parents, hwithin.view⟩⟩, hcarry.homes⟩

theorem adorn (h : b.Meets I) {id : ObjId} (hid : I.home b.scene (some id)) (p : Processor)
    (attrs : Attrs) : Advances I b ((b.setItem (some (.obj id))).apply p attrs) := by
  have hitem := h.setItem (some (.obj id))
  have hnote := hitem.meets.noteAll
    (p.apply b.env b.doc.parent? (some (.obj id)) attrs).notes
  exact hitem.trans <| hnote.trans <| hnote.meets.of_carries <|
    hI.adorn (c := b.context) h.holds h.doc.parent? hid p attrs

theorem applyRest (h : b.Meets I) (setup : Setup) (name : String) (c : Component) {root : ObjId}
    (rest : Attrs) (hr : I.home b.scene (some root)) :
    Advances I b (applyRest setup b name c root rest) := by
  unfold Build.applyRest
  split
  case isTrue  => exact h.refl
  case isFalse =>
    dsimp only
    split
    case h_1 p _ => exact h.adorn hI hr p rest
    case h_2     => exact h.note _

section Elements

variable {inst : Instantiate} (setup : Setup) (hinst : inst.Makes I)
include hinst

theorem createElement (h : b.Meets I) (tag : String) (attrs : Attrs) :
    let out := createElement setup inst b tag attrs
    Makes I b (out.1.bind Item.obj?) out.2 := by
  intro out
  cases hp : setup.widgets.get? tag
  case some p =>
    have ⟨hmade, item, log, hdone⟩ := createElement_of_get? inst (b := b) hp attrs
    have ⟨hcarry, hhome⟩ := hI.element (c := b.context) h.holds h.doc.parent? p attrs
    have hadvance := h.of_carries hcarry
    rw [show out.1 = _ from hmade, show out.2 = _ from hdone]
    exact ⟨⟨⟨hcarry.holds, hadvance.meets.doc.parents, hadvance.meets.doc.view⟩, hcarry.homes⟩,
      hhome⟩
  case none =>
    unfold out Build.createElement
    rw [hp]
    dsimp only
    split
    case h_1 => exact ⟨h.note _, nofun⟩
    case h_2 scope _ =>
      have hmake := hinst h scope attrs
      split
      case h_1 he =>
        rw [he] at hmake
        exact { hmake with home := nofun }
      case h_2 view _ he =>
        rw [he] at hmake
        have hitem := hmake.meets.setItem (some (.obj view))
        exact ⟨hmake.toAdvances.trans hitem, hmake.home⟩

theorem openRoot (h : b.Meets I) (attrs : Attrs) : Advances I b (openRoot setup inst b attrs) := by
  have hnote := h.noteAll (b.resolveAttrs (attrs.filter (·.1 ≠ "extends"))).notes
  have hmake := hnote.meets.createElement hI setup hinst ((attrs.get? "extends").getD "obj")
    (b.resolveAttrs (attrs.filter (·.1 ≠ "extends"))).value
  unfold Build.openRoot
  refine hnote.trans <| hmake.toAdvances.trans <| hmake.meets.modifyDoc ?_
  exact (hmake.meets.doc.withView hmake.home).openFrame hmake.home

theorem openChild (h : b.Meets I) (tag : String) (attrs : Attrs) :
    Advances I b (openChild setup inst b tag attrs) := by
  unfold Build.openChild
  split
  case isTrue =>
    have hnote := h.note (.elementTooDeep tag setup.config.maxDepth)
    exact hnote.trans <| hnote.meets.modifyDoc <| hnote.meets.doc.openFrame nofun
  case isFalse =>
    have hnote := h.noteAll (b.resolveAttrs attrs).notes
    have hmake := hnote.meets.createElement hI setup hinst tag (b.resolveAttrs attrs).value
    refine hnote.trans <| hmake.toAdvances.trans <| hmake.meets.modifyDoc ?_
    exact hmake.meets.doc.openFrame hmake.home

theorem opening (h : b.Meets I) (tag : String) (attrs : Attrs) :
    Advances I b (opening setup inst b tag attrs) := by
  by_cases hd : b.doc.depth = 0
  case neg =>
    have hdepth := h.setDepth (b.doc.depth + 1)
    rw [Build.opening, if_pos hd]
    exact hdepth.trans <| hdepth.meets.recordOr _ <|
      hdepth.meets.openChild hI setup hinst tag attrs
  case pos =>
    by_cases ht : tag = "view"
    case neg => exact h.of_keeps hI (.opening_outside hd ht attrs)
    case pos =>
      have henter : Advances I b b.enterView := ⟨⟨h.holds, h.doc.parents, h.doc.view⟩, id⟩
      rw [ht, opening_view hd]
      exact henter.trans <| henter.meets.recordOr _ <| henter.meets.openRoot hI setup hinst attrs

omit hinst in
theorem closing (h : b.Meets I) (tag : String) : Advances I b (b.closing tag) := by
  unfold Build.closing
  split
  case h_1 => exact h.of_keeps hI (.closeBlock tag)
  case h_2 depth _ =>
    have hdepth := h.setDepth depth
    have hframe := hdepth.trans <| hdepth.meets.recordOr (.closing tag)
      (f := fun b => b.modifyDoc (·.closeFrame))
      (hdepth.meets.modifyDoc hdepth.meets.doc.closeFrame)
    dsimp only
    split
    case isTrue  => exact hframe.trans <| hframe.meets.of_keeps hI (.closeBlock tag)
    case isFalse => exact hframe

theorem replay (h : b.Meets I) (events : List Event) :
    Advances I b (replay setup inst b events) := by
  induction events generalizing b
  case nil => exact h.refl
  case cons e events hi =>
    have hstep : Advances I b (step setup inst b e) := by
      cases e
      case opening tag attrs => exact h.opening hI setup hinst tag attrs
      case closing tag       => exact h.closing hI tag
    exact hstep.trans (hi hstep.meets)

end Elements

end Meets

-- The document that asks for an instance goes on in the scene that the instance leaves, in which
-- all that it remembers is still a home.
theorem Instantiate.makes_instantiate {I : Condition} (hI : I.Invariant) (setup : Setup)
    (levels : Nat) : Instantiate.Makes (instantiate setup levels) I := by
  induction levels
  case zero => exact fun h _ _ => ⟨h.note _, nofun⟩
  case succ levels hi =>
    intro b h scope attrs
    unfold instantiate
    split
    case h_1 => exact ⟨h.refl, nofun⟩
    case h_2 c _ =>
      dsimp only
      let doc : DocState := { DocState.begin scope b.doc.parent? with
        arguments := some (arguments (b.registry.params scope) attrs) }
      have hdoc : doc.Within I b.scene :=
        have hbegin : (DocState.begin scope b.doc.parent?).Within I b.scene := .begin h.doc.parent?
        ⟨hbegin.parents, hbegin.view⟩
      have hbegin : Meets { b with doc } I := { h with doc := hdoc }
      have hinner := hbegin.replay hI setup hi c.view
      have houter : Advances I b
          { replay setup (instantiate setup levels) { b with doc } c.view with doc := b.doc } :=
        ⟨{ hinner.meets with doc := h.doc.mono hinner.homes }, hinner.homes⟩
      split
      case h_1 => exact ⟨houter.trans <| houter.meets.note _, nofun⟩
      case h_2 root hview =>
        have hroot := hinner.meets.doc.view root hview
        have hrest := houter.meets.applyRest hI setup (b.registry.scopeName scope) c
          (attrs.filter fun a => !(b.registry.params scope).contains a.1) hroot
        refine ⟨houter.trans <| hrest.trans <| hrest.meets.note _, ?_⟩
        exact fun id hid => hrest.homes (Option.some.inj hid ▸ hroot)

theorem Instantiate.makes_instance? {I : Condition} (hI : I.Invariant) (setup : Setup) :
    Instantiate.Makes (instance? setup) I :=
  makes_instantiate hI setup setup.config.maxDepth

end Build

end UiMarkup
