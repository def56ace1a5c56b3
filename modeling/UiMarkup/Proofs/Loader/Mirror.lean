import Mathlib.Data.List.Sort
import UiMarkup.Proofs.Loader.Outline
import UiMarkup.Proofs.Scene.PreOrder

namespace UiMarkup

open Markup

namespace Scene

def placedIn (parent : Option ObjId) : (next : Nat) → List (String × Option ObjId) → List ObjId
  | _, []           => []
  | next, e :: rest => (if e.2 = parent then [⟨next⟩] else []) ++ placedIn parent (next + 1) rest

section PlacedIn

variable {parent : Option ObjId} {next : Nat} {entries : List (String × Option ObjId)} {c : ObjId}

theorem placedIn_append (parent : Option ObjId) (next : Nat)
    (front back : List (String × Option ObjId)) : placedIn parent next (front ++ back) =
      placedIn parent next front ++ placedIn parent (next + front.length) back := by
  induction front generalizing next
  case nil => rfl
  case cons e front hi =>
    rw [List.cons_append, placedIn, placedIn, hi, List.append_assoc, List.length_cons,
      show next + 1 + front.length = next + (front.length + 1) by omega]

theorem placedIn_eq_nil (h : ∀ e ∈ entries, e.2 ≠ parent) : placedIn parent next entries = [] := by
  induction entries generalizing next
  case nil => rfl
  case cons e entries hi =>
    rw [placedIn, if_neg (h e (.head _)), hi fun e' he => h e' (.tail _ he), List.append_nil]

theorem mem_placedIn : c ∈ placedIn parent next entries ↔
    ∃ i e, c.index = next + i ∧ entries[i]? = some e ∧ e.2 = parent := by
  induction entries generalizing next
  case nil => simp [placedIn]
  case cons e entries hi =>
    rw [placedIn, List.mem_append, hi]
    constructor
    case mp =>
      rintro (h | ⟨i, e', hindex, he, hp⟩)
      · split at h
        case isTrue hp => exact ⟨0, e, by simp [List.mem_singleton.mp h], rfl, hp⟩
        case isFalse   => cases h
      · exact ⟨i + 1, e', by omega, he, hp⟩
    case mpr =>
      rintro ⟨_ | i, e', hindex, he, hp⟩
      · cases he
        rw [if_pos hp]
        exact .inl (List.mem_singleton.mpr (congrArg ObjId.mk hindex))
      · exact .inr ⟨i, e', by omega, he, hp⟩

theorem sorted_placedIn : (placedIn parent next entries).Pairwise (·.index < ·.index) := by
  induction entries generalizing next
  case nil => exact .nil
  case cons e entries hi =>
    rw [placedIn, List.pairwise_append]
    refine ⟨?_, hi, fun a ha c hc => ?_⟩
    · split
      · exact List.pairwise_singleton ..
      · exact .nil
    · split at ha
      case isFalse => cases ha
      case isTrue  =>
        obtain ⟨i, _, hindex, _⟩ := mem_placedIn.mp hc
        rw [List.mem_singleton.mp ha]
        exact Nat.lt_of_lt_of_le (Nat.lt_succ_self _) (Nat.le.intro hindex.symm)

end PlacedIn

variable {s : Scene} {parent : Option ObjId} {p c : ObjId}

theorem under_iff_placedIn : s.Under c parent ↔ c ∈ placedIn parent 0 s.outline := by
  simp [mem_placedIn, Under, outline, obj?]

theorem WellTied.children_eq (h : s.WellTied) (p : ObjId) :
    s.children p = placedIn (some p) 0 s.outline := by
  have : Std.Irrefl fun a b : ObjId => a.index < b.index := ⟨fun _ => Nat.lt_irrefl _⟩
  have : Std.Antisymm fun a b : ObjId => a.index < b.index := ⟨fun _ _ h h' => absurd h' h.asymm⟩
  refine (h.sorted_children p).eq_of_mem_iff sorted_placedIn fun c => ?_
  rw [← h.under_iff, under_iff_placedIn]

end Scene

namespace Markup.Forest

variable {f : Forest} {levels next : Nat} {parent : Option ObjId} {p : ObjId}

@[simp] theorem outline_zero : f.outline 0 parent next = [] := by
  cases f <;> rfl

-- The objects of the outermost elements, when the numbers begin with `next`.
def tops : (levels : Nat) → (next : Nat) → Forest → List ObjId
  | _, _, empty => []
  | 0, _, element .. => []
  | levels + 1, next, element _ _ _ body rest =>
    let inner := body.outline levels (some ⟨next⟩) (next + 1)
    ⟨next⟩ :: rest.tops (levels + 1) (next + 1 + inner.length)

theorem parent_of_mem_outline {e : String × Option ObjId} (h : e ∈ f.outline levels parent next) :
    e.2 = parent ∨ ∃ q ∈ e.2, next ≤ q.index ∧
      q.index < next + (f.outline levels parent next).length := by
  induction f generalizing levels parent next
  case empty => simp [outline] at h
  case element tag attrs brief body rest hbody hrest =>
    cases levels
    case zero => simp at h
    case succ levels =>
      simp only [outline, List.mem_append, List.mem_cons, List.length_append,
        List.length_cons] at h ⊢
      rcases h with (rfl | h) | h
      · exact .inl rfl
      · right
        obtain h | ⟨q, hq, hle, hlt⟩ := hbody h
        · exact ⟨_, h, Nat.le_refl _, by dsimp only; omega⟩
        · exact ⟨q, hq, by omega, by omega⟩
      · refine (hrest h).imp_right ?_
        rintro ⟨q, hq, hle, hlt⟩
        exact ⟨q, hq, by omega, by omega⟩

theorem placedIn_outline (hparent : ∀ q ∈ parent, q.index < next) :
    Scene.placedIn parent next (f.outline levels parent next) = f.tops levels next := by
  induction f generalizing levels next
  case empty => simp [outline, tops, Scene.placedIn]
  case element tag attrs brief body rest hbody hrest =>
    cases levels
    case zero => simp [tops, Scene.placedIn]
    case succ levels =>
      have hinner : ∀ e ∈ body.outline levels (some ⟨next⟩) (next + 1), e.2 ≠ parent := by
        rintro e he rfl
        obtain h | ⟨q, hq, hle, -⟩ := parent_of_mem_outline he
        · exact Nat.lt_irrefl _ (hparent _ h)
        · have := hparent q hq
          omega
      rw [outline, tops, List.cons_append, Scene.placedIn, Scene.placedIn_append,
        Scene.placedIn_eq_nil hinner, if_pos rfl, List.nil_append,
        hrest fun q hq => by have := hparent q hq; omega]
      rfl

end Markup.Forest

namespace Scene

-- The objects hang together as the elements do, down to the deepest level: they are of the kinds
-- that the tags name, and their children hang together as the elements inside.
def Mirrors (s : Scene) : (levels : Nat) → List ObjId → Forest → Prop
  | _, ids, .empty => ids = []
  | 0, ids, .element .. => ids = []
  | levels + 1, ids, .element tag _ _ body rest =>
    ∃ id others o, ids = id :: others ∧ s.obj? id = some o ∧ Vocabulary.token o.kind = tag ∧
      s.Mirrors levels (s.children id) body ∧ s.Mirrors (levels + 1) others rest

-- No entry has its object in one of those from `first` on, up to `last`.
def Apart (first last : Nat) (entries : List (String × Option ObjId)) : Prop :=
  ∀ e ∈ entries, ∀ q ∈ e.2, q.index < first ∨ last ≤ q.index

namespace Apart

variable {first last first' last' : Nat} {front back entries : List (String × Option ObjId)}
  {e : String × Option ObjId}

theorem append : Apart first last front → Apart first last back → Apart first last (front ++ back)
  | h₁, h₂, e, he => (List.mem_append.mp he).elim (h₁ e) (h₂ e)

theorem cons (he : ∀ q ∈ e.2, q.index < first ∨ last ≤ q.index) (h : Apart first last entries) :
    Apart first last (e :: entries) :=
  fun e' he' => (List.mem_cons.mp he').elim (· ▸ he) (h e')

theorem mono (h : Apart first last entries) (hfirst : first ≤ first') (hlast : last' ≤ last) :
    Apart first' last' entries :=
  fun e he q hq => (h e he q hq).imp (Nat.lt_of_lt_of_le · hfirst) (Nat.le_trans hlast ·)

theorem outline {f : Forest} {levels next : Nat} {parent : Option ObjId}
    (hparent : ∀ q ∈ parent, q.index < first ∨ last ≤ q.index)
    (h : next + (f.outline levels parent next).length ≤ first ∨ last ≤ next) :
    Apart first last (f.outline levels parent next) := by
  intro e he q hq
  obtain hp | ⟨q', hq', hle, hlt⟩ := Forest.parent_of_mem_outline he
  · exact hparent q (hp ▸ hq)
  · cases hq'.symm.trans hq
    exact h.imp (Nat.lt_of_lt_of_le hlt) (Nat.le_trans · hle)

end Apart

theorem exists_obj?_of_outline {s : Scene} {front back : List (String × Option ObjId)}
    {e : String × Option ObjId} (h : s.outline = front ++ e :: back) :
    ∃ o, s.obj? ⟨front.length⟩ = some o ∧ Vocabulary.token o.kind = e.1 := by
  have hentry : s.outline[front.length]? = some e := by simp [h]
  rw [Scene.outline, List.getElem?_map, Array.getElem?_toList] at hentry
  obtain ⟨o, ho, rfl⟩ := Option.map_eq_some_iff.mp hentry
  exact ⟨o, ho, rfl⟩

theorem WellTied.children_of_outline {s : Scene} (h : s.WellTied) {next : Nat}
    {front inner after : List (String × Option ObjId)} {e : String × Option ObjId}
    (hs : s.outline = front ++ e :: (inner ++ after)) (hnext : front.length = next)
    (he : e.2 ≠ some ⟨next⟩) (hfront : Apart next (next + 1) front)
    (hafter : Apart next (next + 1) after) :
    s.children ⟨next⟩ = placedIn (some ⟨next⟩) (next + 1) inner := by
  have hnil {entries : List (String × Option ObjId)} (hout : Apart next (next + 1) entries)
      (first : Nat) : placedIn (some ⟨next⟩) first entries = [] := by
    refine placedIn_eq_nil fun e he hp => ?_
    cases hout e he _ hp
    case inl hlt => exact Nat.lt_irrefl _ hlt
    case inr hlt => exact Nat.lt_irrefl _ hlt
  rw [h.children_eq, hs, placedIn_append, placedIn, placedIn_append, hnil hfront, hnil hafter,
    if_neg he, hnext, Nat.zero_add, List.nil_append, List.nil_append, List.append_nil]

-- By induction on the elements. What is in front of one and what is behind it stays apart from the
-- objects of its body, so exactly the outermost of these are its children.
theorem WellTied.mirrors {s : Scene} (h : s.WellTied) {f : Forest} {levels next : Nat}
    {parent : Option ObjId} {front back : List (String × Option ObjId)}
    (hs : s.outline = front ++ f.outline levels parent next ++ back) (hnext : front.length = next)
    (hparent : ∀ q ∈ parent, q.index < next)
    (hfront : Apart next (next + (f.outline levels parent next).length) front)
    (hback : Apart next (next + (f.outline levels parent next).length) back) :
    s.Mirrors levels (f.tops levels next) f := by
  induction f generalizing levels next parent front back
  case empty => cases levels <;> rfl
  case element tag attrs brief body rest hbody hrest =>
    cases levels
    case zero => rfl
    case succ levels =>
      let inner := body.outline levels (some ⟨next⟩) (next + 1)
      let after := rest.outline (levels + 1) parent (next + 1 + inner.length)
      have hwhole : s.outline = front ++ (tag, parent) :: (inner ++ (after ++ back)) := by
        simpa [Forest.outline] using hs
      have hlength : ((Forest.element tag attrs brief body rest).outline (levels + 1) parent
          next).length = 1 + inner.length + after.length := by
        simp only [Forest.outline, List.length_append, List.length_cons, inner, after]
        omega
      rw [hlength] at hfront hback
      have hplaced {first last : Nat} (hle : next ≤ first) :
          ∀ q ∈ parent, q.index < first ∨ last ≤ q.index :=
        fun q hq => .inl (Nat.lt_of_lt_of_le (hparent q hq) hle)
      have hafter : Apart next (next + 1 + inner.length) after :=
        .outline (hplaced (Nat.le_refl _)) (.inr (Nat.le_refl _))
      have hself : ∀ q ∈ some (ObjId.mk next), q.index < next + 1 := by
        intro q hq
        cases hq
        exact Nat.lt_succ_self _
      have hchildren : s.children ⟨next⟩ = body.tops levels (next + 1) := by
        rw [h.children_of_outline hwhole hnext (fun hp => Nat.lt_irrefl _ (hparent _ hp))
          (hfront.mono (Nat.le_refl _) (by omega))
          ((hafter.mono (Nat.le_refl _) (by omega)).append
            (hback.mono (Nat.le_refl _) (by omega)))]
        exact Forest.placedIn_outline hself
      obtain ⟨o, ho, hkind⟩ := exists_obj?_of_outline hwhole
      refine ⟨⟨next⟩, _, o, rfl, hnext ▸ ho, hkind, ?inside, ?beside⟩
      case inside =>
        have hfront₁ : Apart (next + 1) (next + 1 + inner.length) (front ++ [(tag, parent)]) :=
          (hfront.mono (by omega) (by omega)).append
            (.cons (hplaced (by omega)) (List.forall_mem_nil _))
        have hback₁ : Apart (next + 1) (next + 1 + inner.length) (after ++ back) :=
          (hafter.mono (by omega) (Nat.le_refl _)).append (hback.mono (by omega) (by omega))
        rw [hchildren]
        exact hbody (by simpa using hwhole) (by simp [hnext]) hself hfront₁ hback₁
      case beside =>
        let behind := next + 1 + inner.length
        have hinner : Apart behind (behind + after.length) inner :=
          .outline (fun q hq => .inl (by have := hself q hq; omega)) (.inl (Nat.le_refl _))
        have hfront₁ : Apart behind (behind + after.length) (front ++ (tag, parent) :: inner) :=
          (hfront.mono (by omega) (by omega)).append (.cons (hplaced (by omega)) hinner)
        have hback₁ : Apart behind (behind + after.length) back :=
          hback.mono (by omega) (by omega)
        have hlength₁ : (front ++ (tag, parent) :: inner).length = behind := by
          simp only [List.length_append, List.length_cons]
          omega
        exact hrest (by simpa using hwhole) hlength₁
          (fun q hq => Nat.lt_of_lt_of_le (hparent q hq) (by omega)) hfront₁ hback₁

end Scene

end UiMarkup
