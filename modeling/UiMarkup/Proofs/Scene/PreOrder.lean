import UiMarkup.Proofs.Scene.Roots

namespace UiMarkup.Scene

-- The object stands `levels` levels below `r`: in `r` through that many objects.
inductive Level (s : Scene) (r : ObjId) : (levels : Nat) → ObjId → Prop
  | self : Level s r 0 r
  | child {n : Nat} {p c : ObjId} : Level s r n p → s.Under c (some p) → Level s r (n + 1) c

def Contains (s : Scene) (r id : ObjId) : Prop :=
  ∃ n, s.Level r n id

-- An object comes before everything in it, and all in it before the next object of the same parent.
-- Those that have no parent are next to each other as well.
inductive Precedes (s : Scene) : ObjId → ObjId → Prop
  | inside {a b : ObjId} : s.Contains a b → a ≠ b → Precedes s a b
  | beside {parent : Option ObjId} {x y a b : ObjId} : s.Under x parent → s.Under y parent →
    x.index < y.index → s.Contains x a → s.Contains y b → Precedes s a b

variable {s : Scene} {r p c a b x y id : ObjId} {n : Nat} {parent : Option ObjId}

theorem Contains.refl : s.Contains r r :=
  ⟨0, .self⟩

theorem Contains.child (h : s.Contains r p) (hc : s.Under c (some p)) : s.Contains r c :=
  h.imp' _ fun _ hl => .child hl hc

theorem Contains.trans (h₁ : s.Contains r p) (h₂ : s.Contains p c) : s.Contains r c := by
  obtain ⟨_, h₂⟩ := h₂
  induction h₂
  case self        => exact h₁
  case child hu hi => exact hi.child hu

theorem Contains.eq_or_parent (h : s.Contains r id) :
    r = id ∨ ∃ p, s.Under id (some p) ∧ s.Contains r p := by
  obtain ⟨_, h⟩ := h
  cases h
  case self       => exact .inl rfl
  case child h hu => exact .inr ⟨_, hu, _, h⟩

theorem Level.cons (hc : s.Under c (some r)) (h : s.Level c n id) : s.Level r (n + 1) id := by
  induction h
  case self        => exact .child .self hc
  case child hu hi => exact hi.child hu

theorem level_iff : s.Level r n id ↔
    (n = 0 ∧ id = r) ∨ ∃ m c, n = m + 1 ∧ s.Under c (some r) ∧ s.Level c m id := by
  constructor
  case mpr =>
    rintro (⟨rfl, rfl⟩ | ⟨m, c, rfl, hc, h⟩)
    · exact .self
    · exact h.cons hc
  case mp =>
    intro h
    induction h
    case self => exact .inl ⟨rfl, rfl⟩
    case child hu hi =>
      right
      obtain ⟨rfl, rfl⟩ | ⟨m, c, rfl, hc, h⟩ := hi
      · exact ⟨0, _, rfl, hu, .self⟩
      · exact ⟨m + 1, c, rfl, hc, h.child hu⟩

theorem Level.has (h : s.Level r n id) (hr : s.has r) : s.has id := by
  cases h
  case self         => exact hr
  case child hu     => exact hu.has

-- What contains an object is on the way from it to its root, and so are any two such things.
theorem Contains.linear (hx : s.Contains x id) (hy : s.Contains y id) :
    s.Contains x y ∨ s.Contains y x := by
  obtain ⟨_, hx⟩ := hx
  induction hx generalizing y
  case self => exact .inr hy
  case child hl hu hi =>
    obtain rfl | ⟨q, hq, hyq⟩ := hy.eq_or_parent
    · exact .inl ⟨_, hl.child hu⟩
    · cases Under.unique hu hq
      exact hi hyq

namespace WellTied

variable (h : s.WellTied)
include h

theorem le_of_contains (hc : s.Contains r id) : r.index ≤ id.index := by
  obtain ⟨_, hc⟩ := hc
  induction hc
  case self        => exact Nat.le_refl _
  case child hu hi => exact Nat.le_trans hi (Nat.le_of_lt (h.older hu))

theorem not_contains_parent (hu : s.Under c (some p)) : ¬s.Contains c p :=
  fun hc => Nat.lt_irrefl _ (Nat.lt_of_lt_of_le (h.older hu) (h.le_of_contains hc))

theorem eq_of_contains (hab : s.Contains a b) (hba : s.Contains b a) : a = b := by
  obtain rfl | ⟨p, hu, hp⟩ := hab.eq_or_parent
  · rfl
  · exact absurd (hba.trans hp) (h.not_contains_parent hu)

theorem eq_of_siblings (hx : s.Under x parent) (hy : s.Under y parent) (hxa : s.Contains x a)
    (hya : s.Contains y a) : x = y := by
  have hapart {x y : ObjId} (hx : s.Under x parent) (hy : s.Under y parent)
      (hxy : s.Contains x y) : x = y := by
    obtain rfl | ⟨q, hu, hq⟩ := hxy.eq_or_parent
    · rfl
    · exact absurd hq (h.not_contains_parent (hy.unique hu ▸ hx))
  cases hxa.linear hya
  case inl hxy => exact hapart hx hy hxy
  case inr hyx => exact (hapart hy hx hyx).symm

theorem not_contains_beside (hx : s.Under x parent) (hy : s.Under y parent)
    (hlt : x.index < y.index) (hxa : s.Contains x a) : ¬s.Contains y a := by
  intro hya
  cases h.eq_of_siblings hx hy hxa hya
  exact Nat.lt_irrefl _ hlt

theorem precedes_irrefl : ¬s.Precedes a a := by
  intro ha
  cases ha
  case inside hne                => exact hne rfl
  case beside hx hy hlt hxa hya => exact h.not_contains_beside hx hy hlt hxa hya

theorem precedes_asymm (hab : s.Precedes a b) : ¬s.Precedes b a := by
  intro hba
  cases hab
  case inside hin hne =>
    cases hba
    case inside hin' _               => exact hne (h.eq_of_contains hin hin')
    case beside hx hy hlt hxb hya => exact h.not_contains_beside hx hy hlt hxb (hya.trans hin)
  case beside parent x y hx hy hlt hxa hyb =>
    cases hba
    case inside hin _ => exact h.not_contains_beside hx hy hlt hxa (hyb.trans hin)
    case beside parent' x' y' hx' hy' hlt' hxb hya =>
      -- Both `x` and `y'` contain `a`. If they are not the same object, the parent of one of them
      -- is in the other, and then so is the neighbour.
      have hne : x ≠ y' := by
        rintro rfl
        cases hx.unique hy'
        cases h.eq_of_siblings hx' hy hxb hyb
        exact Nat.lt_asymm hlt hlt'
      cases hxa.linear hya
      case inl hin =>
        obtain ⟨q, hq, hxq⟩ := hin.eq_or_parent.resolve_left hne
        cases hy'.unique hq
        exact h.not_contains_beside hx hy hlt ((hxq.child hx').trans hxb) hyb
      case inr hin =>
        obtain ⟨q, hq, hyq⟩ := hin.eq_or_parent.resolve_left hne.symm
        cases hx.unique hq
        exact h.not_contains_beside hx' hy' hlt' hxb ((hyq.child hy).trans hyb)

theorem has_of_precedes (hab : s.Precedes a b) : s.has a ∧ s.has b := by
  cases hab
  case inside hin hne =>
    obtain ⟨p, hu, -⟩ := hin.eq_or_parent.resolve_left hne
    have hb := has_iff.mp hu.has
    exact ⟨has_iff.mpr (Nat.lt_of_le_of_lt (h.le_of_contains hin) hb), hu.has⟩
  case beside hx hy _ hxa hyb =>
    obtain ⟨_, hxa⟩ := hxa
    obtain ⟨_, hyb⟩ := hyb
    exact ⟨hxa.has hx.has, hyb.has hy.has⟩

theorem exists_level (hid : s.has id) : ∃ root n, s.Under root none ∧ s.Level root n id := by
  obtain ⟨i⟩ := id
  induction i using Nat.strongRecOn
  case ind i hi =>
    obtain ⟨o, ho⟩ := has_iff_obj?.mp hid
    cases hp : o.parent
    case none => exact ⟨_, 0, ⟨o, ho, hp⟩, .self⟩
    case some p =>
      have hu : s.Under ⟨i⟩ (some p) := ⟨o, ho, hp⟩
      have hlt : p.index < i := h.older hu
      have ⟨root, n, hroot, hl⟩ := hi p.index hlt <|
        has_iff.mpr (Nat.lt_trans hlt (has_iff.mp hid))
      exact ⟨root, n + 1, hroot, hl.child hu⟩

end WellTied

end UiMarkup.Scene
