import UiMarkup.Proofs.Build.Orders
import UiMarkup.Proofs.Markup.OpenElements

namespace UiMarkup

open Markup

structure Place where
  parents : List ObjId
  frames  : List Bool
  depth   : Nat
deriving DecidableEq, Repr

namespace Place

def enter (p : Place) (made : Option ObjId) : Place where
  parents := made.toList ++ p.parents
  frames  := made.isSome :: p.frames
  depth   := p.depth + 1

def leave (p : Place) : Place :=
  match p.depth, p.frames with
  | 0, _                       => p
  | depth + 1, []              => { p with depth }
  | depth + 1, true :: frames  => { parents := p.parents.tail, frames, depth }
  | depth + 1, false :: frames => { p with frames, depth }

@[simp] theorem leave_enter (p : Place) (made : Option ObjId) : (p.enter made).leave = p := by
  cases made <;> rfl

theorem leave_of_depth_eq {p : Place} (h : p.depth = 0) : p.leave = p := by
  rw [leave, h]

def inside (p : Place) (made : List (Option ObjId)) : Place :=
  made.foldr (fun made p => p.enter made) p

variable {p : Place} {made : List (Option ObjId)}

theorem depth_inside : (p.inside made).depth = p.depth + made.length := by
  induction made
  case nil              => rfl
  case cons made all hi => exact congrArg (· + 1) hi

theorem head?_parents_inside :
    (p.inside made).parents.head? = (made.findSome? id).or p.parents.head? := by
  induction made
  case nil              => rfl
  case cons made all hi =>
    cases made
    case none   => exact hi
    case some _ => rfl

theorem leave_inside (h : p.depth = 0) : (p.inside made).leave = p.inside made.tail := by
  cases made
  case nil      => exact leave_of_depth_eq h
  case cons _ _ => exact leave_enter ..

end Place

namespace DocState

def place (d : DocState) : Place where
  parents := d.parents
  frames  := d.frames
  depth   := d.depth

theorem recording_closeFrame {d : DocState} : d.closeFrame.recording = d.recording := by
  unfold closeFrame
  split <;> rfl

theorem place_closeFrame {d : DocState} {depth : Nat} (hd : d.depth = depth + 1) :
    ({ d with depth }.closeFrame).place = d.place.leave := by
  unfold closeFrame Place.leave
  dsimp only
  split
  case h_1 hf         => simp [place, hd, hf]
  case h_2 frames hf  => simp [place, hd, hf]
  case h_3 frames hf  => simp [place, hd, hf]

end DocState

namespace Build

-- The document of a build is built, not recorded, and it is at that place.
structure Stands (b : Build) (p : Place) : Prop where
  recording : b.doc.recording = none
  place     : b.doc.place = p

namespace Stands

variable {setup : Setup} {inst : Instantiate} {b b' : Build} {p : Place} (h : b.Stands p)
include h

theorem of_keeps (hk : b.Keeps b') : b'.Stands p := by
  obtain ⟨_, _, hdoc⟩ := hk.doc
  exact ⟨hdoc ▸ h.recording, hdoc ▸ h.place⟩

theorem depth_eq : b.doc.depth = p.depth :=
  congrArg Place.depth h.place

theorem closing (tag : String) : (b.closing tag).Stands p.leave := by
  obtain ⟨hr, rfl⟩ := h
  unfold Build.closing
  split
  case h_1 hd =>
    rw [Place.leave_of_depth_eq hd]
    exact of_keeps ⟨hr, rfl⟩ (.closeBlock tag)
  case h_2 depth hd =>
    have hleft : Stands ((b.setDepth depth).modifyDoc (·.closeFrame)) b.doc.place.leave :=
      ⟨DocState.recording_closeFrame.trans hr, DocState.place_closeFrame hd⟩
    rw [recordOr_of_none (b := b.setDepth depth) hr]
    dsimp only
    split
    case isTrue  => exact hleft.of_keeps (.closeBlock tag)
    case isFalse => exact hleft

theorem opening_outside (hp : p.depth = 0) {tag : String} (ht : tag ≠ "view") (attrs : Attrs) :
    (opening setup inst b tag attrs).Stands p :=
  h.of_keeps (.opening_outside (h.depth_eq.trans hp) ht attrs)

variable (hinst : inst.Resumes)
include hinst

theorem opening_inside (hp : p.depth ≠ 0) (tag : String) (attrs : Attrs) :
    (opening setup inst b tag attrs).Stands
      (p.enter (b.made? setup inst (.opening tag attrs))) := by
  obtain ⟨hr, rfl⟩ := h
  rw [Build.opening_inside hr hp, made?, order?_inside hr hp]
  by_cases hmax : setup.config.maxDepth ≤ b.doc.depth
  case pos => rw [if_pos hmax]; exact ⟨hr, rfl⟩
  case neg =>
    rw [if_neg hmax]
    let o := Order.of (b.setDepth (b.doc.depth + 1)) tag attrs
    have ⟨item, hdoc⟩ : ∃ item, (o.fill setup inst).2.doc = { o.build.doc with item } :=
      (resumes_fill hinst).doc
    exact ⟨(congrArg DocState.recording hdoc).trans hr,
      congrArg (fun d => (d.openFrame (o.fill setup inst).1).place) hdoc⟩

theorem opening_view (hp : p.depth = 0) (attrs : Attrs) :
    (opening setup inst b "view" attrs).Stands
      (p.enter (b.made? setup inst (.opening "view" attrs))) := by
  obtain ⟨hr, rfl⟩ := h
  let o := Order.of b.enterView attrs.base attrs.ofBase
  have ⟨item, hdoc⟩ : ∃ item, (o.fill setup inst).2.doc = { o.build.doc with item } :=
    (resumes_fill hinst).doc
  rw [opening_root hr hp, made?, order?_view hr hp]
  refine ⟨(congrArg DocState.recording hdoc).trans hr,
    (congrArg (fun d => (d.openFrame (o.fill setup inst).1).place) hdoc).trans ?_⟩
  have hdepth : 1 = b.doc.depth + 1 := congrArg (· + 1) hp.symm
  exact congrArg (fun depth => { b.doc.place.enter (o.fill setup inst).1 with depth }) hdepth

end Stands

def elementMade? (setup : Setup) (inst : Instantiate) (b : Build) (e : Element) : Option ObjId :=
  (replay setup inst b e.before).made? setup inst (.opening e.tag e.attrs)

-- Replaying boundaries leads to the place inside of the elements of a view that they leave open.

section Replay

variable {setup : Setup} {inst : Instantiate} {b : Build} {p : Place}

theorem replay_concat (events : List Event) (e : Event) :
    replay setup inst b (events ++ [e]) = step setup inst (replay setup inst b events) e := by
  simp [replay]

variable (hp : p.depth = 0) (hinst : inst.Resumes)
include hp hinst

theorem stands_followed {before : List Event} {outer : List Element}
    (h : (replay setup inst b before).Stands
      (p.inside ((inView outer).map (elementMade? setup inst b)))) (e : Event) :
    (replay setup inst b (before ++ [e])).Stands
      (p.inside ((inView (followed before outer e)).map (elementMade? setup inst b))) := by
  rw [replay_concat]
  cases e
  case closing tag =>
    have hclosing := h.closing tag
    rwa [Place.leave_inside hp, ← List.map_tail, ← inView_tail] at hclosing
  case opening tag attrs =>
    rw [followed, inView]
    cases hin : inView outer
    case cons =>
      rw [hin] at h
      rw [if_pos (.inr (List.cons_ne_nil _ _))]
      refine h.opening_inside hinst ?_ tag attrs
      rw [Place.depth_inside]
      exact Nat.succ_ne_zero _
    case nil =>
      rw [hin] at h
      by_cases ht : tag = "view"
      case pos =>
        rw [if_pos (.inl ht), ht]
        exact h.opening_view hinst hp attrs
      case neg =>
        rw [if_neg (by simpa using ht)]
        exact h.opening_outside hp ht attrs

theorem stands_openFrom {before events : List Event} {outer : List Element}
    (h : (replay setup inst b before).Stands
      (p.inside ((inView outer).map (elementMade? setup inst b)))) :
    (replay setup inst b (before ++ events)).Stands
      (p.inside ((inView (openFrom before outer events)).map (elementMade? setup inst b))) := by
  induction events generalizing before outer
  case nil => rwa [List.append_nil]
  case cons e events hi =>
    have hrest := hi (stands_followed hp hinst h e)
    rwa [List.append_assoc] at hrest

theorem stands_replay (h : b.Stands p) (events : List Event) :
    (replay setup inst b events).Stands
      (p.inside ((inView (openElements events)).map (elementMade? setup inst b))) :=
  have hbegin : (replay setup inst b []).Stands
    (p.inside ((inView []).map (elementMade? setup inst b))) := h
  stands_openFrom hp hinst hbegin

end Replay

-- An element is opened in the innermost object around it, be it in a view or the first of one;
-- after it, everything is as it was before; and a view is not over while there is more of its body.
theorem placed_in_innermost_made {b : Build} (hr : b.doc.recording = none) (hd : b.doc.depth = 0)
    (setup : Setup) (levels : Nat) (events : List Event) (tag : String) (attrs : Attrs) :
    let inst := instantiate setup levels
    let before := replay setup inst b events
    let parent := ((inView (openElements events)).findSome? (elementMade? setup inst b)).or
      b.doc.parent?
    (before.doc.parent? = parent ∧
      ∀ o ∈ before.order? setup (.opening tag attrs), o.build.doc.parent? = parent) ∧
    (∀ body : Forest,
      let after := replay setup inst b
        (events ++ (.opening tag attrs :: body.events ++ [.closing tag]))
      after.doc.parents = before.doc.parents ∧ after.doc.frames = before.doc.frames ∧
        after.doc.depth = before.doc.depth) ∧
    (tag = "view" → ∀ body : Forest, ∀ inside, inside <+: body.events →
      0 < (replay setup inst b (events ++ .opening tag attrs :: inside)).doc.depth) := by
  intro inst before parent
  have hstands (events : List Event) : (replay setup inst b events).Stands
      (b.doc.place.inside ((inView (openElements events)).map (elementMade? setup inst b))) :=
    stands_replay hd (Instantiate.resumes_instantiate setup levels) ⟨hr, rfl⟩ events
  have hparent : before.doc.parent? = parent := by
    have hhead := congrArg (·.parents.head?) (hstands events).place
    rw [Place.head?_parents_inside, List.findSome?_map] at hhead
    exact hhead
  refine ⟨⟨hparent, ?ordered⟩, ?after, ?inside⟩
  case ordered =>
    intro o ho
    have ⟨_, _, hparents⟩ := build_of_order? ho
    exact (congrArg List.head? hparents).trans hparent
  case after =>
    intro body after
    have hplace : after.doc.place = before.doc.place := by
      rw [(hstands _).place, (hstands _).place, openElements_append, openFrom_element]
    exact ⟨congrArg Place.parents hplace, congrArg Place.frames hplace,
      congrArg Place.depth hplace⟩
  case inside =>
    intro ht body inside hinside
    have ⟨inner, hinner⟩ := openFrom_prefix hinside (events ++ [.opening tag attrs])
      (⟨events, tag, attrs⟩ :: openElements events)
    rw [(hstands _).depth_eq, Place.depth_inside, openElements_append, openFrom, followed, hinner,
      List.length_map]
    have hopen := inView_append_ne_nil inner
      (inView_view_ne_nil (e := ⟨events, tag, attrs⟩) ht (openElements events))
    exact Nat.add_pos_right _ (List.length_pos_iff.mpr hopen)

theorem label_placed_in_button :
    let b : Build :=
      { doc := .begin .globals (some ⟨0⟩), scene := (Scene.empty.push .obj none).2 }
    let inst := instantiate {} 1
    let events : List Event :=
      [.opening "view" [("extends", "button")], .opening "unknown" [], .opening "view" []]
    let label : List Event := .opening "label" [] :: Forest.empty.events ++ [.closing "label"]
    let before := replay {} inst b events
    let after := replay {} inst b (events ++ label)
    before.doc.parent? = some ⟨1⟩ ∧ after.doc.parents = before.doc.parents ∧
      after.scene.size = 3 := by
  intro b inst events label before after
  have ⟨⟨hparent, _⟩, hafter, _⟩ := placed_in_innermost_made (b := b) rfl rfl {} 1 events "label" []
  exact ⟨hparent.trans (by decide +kernel), (hafter .empty).1, by decide +kernel⟩

end Build

end UiMarkup
