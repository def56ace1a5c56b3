import Mathlib.Data.List.Basic
import UiMarkup.Proofs.Scene.PreOrder

namespace List

variable {α : Type} {R : α → α → Prop} {xs : List α} {p : α → Bool} {a b : α}

-- In a list that is ordered, what is found first is the least of what can be found.
theorem Pairwise.find?_eq_some_iff (h : xs.Pairwise R) (hasymm : ∀ {a b}, R a b → ¬R b a) :
    xs.find? p = some a ↔ a ∈ xs ∧ p a ∧ ∀ b ∈ xs, p b → b = a ∨ R a b := by
  induction xs
  case nil => simp
  case cons x xs hi =>
    obtain ⟨hx, hxs⟩ := pairwise_cons.mp h
    cases hp : p x
    case false => simp [hp, hi hxs]; grind
    case true  => simp [hp]; grind

theorem Pairwise.sublist_pair_iff (h : xs.Pairwise R) (hasymm : ∀ {a b}, R a b → ¬R b a)
    (ha : a ∈ xs) (hb : b ∈ xs) : [a, b] <+ xs ↔ R a b := by
  refine ⟨fun hs => pairwise_iff_forall_sublist.mp h hs, fun hab => ?_⟩
  induction xs
  case nil => cases ha
  case cons x xs hi =>
    obtain ⟨hx, hxs⟩ := pairwise_cons.mp h
    cases mem_cons.mp ha
    case inl he =>
      subst he
      have hne : b ≠ a := fun he => hasymm hab (he ▸ hab)
      exact cons_sublist_cons.mpr <| singleton_sublist.mpr <| (mem_cons.mp hb).resolve_left hne
    case inr ha =>
      have hne : b ≠ x := fun he => hasymm hab (he ▸ hx a ha)
      exact (hi hxs ha ((mem_cons.mp hb).resolve_left hne)).cons x

end List

namespace UiMarkup

def Obj.Called (o : Obj) (name : String) : Prop :=
  ∃ earlier later, o.props = earlier ++ .name name :: later ∧ ∀ other, .name other ∉ later

theorem Obj.name?_eq_some_iff {o : Obj} {name : String} : o.name? = some name ↔ o.Called name := by
  unfold name? Called
  rw [List.findSome?_eq_some_iff]
  constructor
  case mp =>
    rintro ⟨later, p, earlier, hprops, hp, hlater⟩
    split at hp
    case h_2       => cases hp
    case h_1 given =>
      cases hp
      refine ⟨earlier.reverse, later.reverse, by simpa using congrArg List.reverse hprops, ?_⟩
      exact fun other hm => Option.some_ne_none _ (hlater _ (List.mem_reverse.mp hm))
  case mpr =>
    rintro ⟨earlier, later, hprops, hlater⟩
    refine ⟨later.reverse, .name name, earlier.reverse, by simp [hprops], rfl, fun p hm => ?_⟩
    split
    case h_1 other => exact absurd (List.mem_reverse.mp hm) (hlater other)
    case h_2       => rfl

namespace Scene

def Called (s : Scene) (id : ObjId) (name : String) : Prop :=
  ∃ o, s.obj? id = some o ∧ o.Called name

-- The search among objects that are tried one after another, each before what stands in it.
inductive Search (s : Scene) (name : String) : List ObjId → Option ObjId → Prop
  | done : Search s name [] none
  | here {id : ObjId} {rest : List ObjId} : s.Called id name → Search s name (id :: rest) (some id)
  | inside {id found : ObjId} {rest : List ObjId} : ¬s.Called id name →
    Search s name (s.children id) (some found) → Search s name (id :: rest) (some found)
  | after {id : ObjId} {rest : List ObjId} {answer : Option ObjId} : ¬s.Called id name →
    Search s name (s.children id) none → Search s name rest answer →
    Search s name (id :: rest) answer

variable {s : Scene} {r id : ObjId} {n depth : Nat} {name : String} {parent : Option ObjId}

theorem name?_eq_some_iff : s.name? id = some name ↔ s.Called id name := by
  simp [name?, Option.bind_eq_some_iff, Obj.name?_eq_some_iff, Called]

theorem Search.unique {ids : List ObjId} {answer answer' : Option ObjId}
    (h : s.Search name ids answer) (h' : s.Search name ids answer') : answer' = answer := by
  induction h generalizing answer'
  case done => cases h'; rfl
  case here hcalled => cases h' <;> first | rfl | contradiction
  case inside hi =>
    cases h'
    case here         => contradiction
    case inside hin   => exact hi hin
    case after hin _  => cases hi hin
  case after hin hrest =>
    cases h'
    case here         => contradiction
    case inside hin'  => cases hin hin'
    case after hr     => exact hrest hr

def order (s : Scene) (id : ObjId) : List ObjId :=
  (s.listing 0 id).map Prod.snd

theorem find?_order (id : ObjId) (name : String) :
    s.find? id name = (s.order id).find? (s.name? · == some name) := rfl

namespace WellTied

variable (h : s.WellTied)
include h

-- Children are younger than their parents, and there are only so many objects.
theorem descend {motive : ObjId → Prop} (id : ObjId)
    (step : ∀ id, (∀ c ∈ s.children id, motive c) → motive id) : motive id := by
  induction hn : s.size - id.index using Nat.strongRecOn generalizing id
  case ind n hi =>
    refine step id fun c hc => hi (s.size - c.index) ?_ c rfl
    have hu := h.under_iff.mpr hc
    have := h.older hu
    have := has_iff.mp hu.has
    omega

-- The listing leaves out no child, because each is younger than its parent.
theorem listing_eq (depth : Nat) (id : ObjId) :
    s.listing depth id = (depth, id) :: (s.children id).flatMap (s.listing (depth + 1)) := by
  rw [listing]
  congr 1
  refine List.flatMap_congr fun c hc => if_pos ?_
  have hu := h.under_iff.mpr hc
  exact ⟨h.older hu, has_iff.mp hu.has⟩

theorem mem_listing : (n, id) ∈ s.listing depth r ↔ ∃ k, n = depth + k ∧ s.Level r k id := by
  induction r using h.descend generalizing depth n
  case step r hi =>
    rw [h.listing_eq, List.mem_cons, List.mem_flatMap]
    constructor
    case mp =>
      rintro (he | ⟨c, hc, hm⟩)
      · cases he
        exact ⟨0, rfl, .self⟩
      · obtain ⟨k, rfl, hl⟩ := (hi c hc).mp hm
        exact ⟨k + 1, by omega, hl.cons (h.under_iff.mpr hc)⟩
    case mpr =>
      rintro ⟨k, rfl, hl⟩
      obtain ⟨rfl, rfl⟩ | ⟨k, c, rfl, hc, hl⟩ := level_iff.mp hl
      · exact .inl rfl
      · have hc := h.under_iff.mp hc
        exact .inr ⟨c, hc, (hi c hc).mpr ⟨k, by omega, hl⟩⟩

theorem pairwise_siblings {ids : List ObjId} (hu : ∀ id ∈ ids, s.Under id parent)
    (hids : ids.Pairwise (·.index < ·.index))
    (hparts : ∀ id ∈ ids, (s.listing depth id).Pairwise (s.Precedes ·.2 ·.2)) :
    (ids.flatMap (s.listing depth)).Pairwise (s.Precedes ·.2 ·.2) := by
  refine List.pairwise_flatMap.mpr ⟨hparts, hids.imp_of_mem ?_⟩
  rintro x y hx hy hlt ⟨_, a⟩ ha ⟨_, b⟩ hb
  obtain ⟨_, -, hxa⟩ := h.mem_listing.mp ha
  obtain ⟨_, -, hyb⟩ := h.mem_listing.mp hb
  exact .beside (hu x hx) (hu y hy) hlt ⟨_, hxa⟩ ⟨_, hyb⟩

theorem pairwise_listing (depth : Nat) (r : ObjId) :
    (s.listing depth r).Pairwise (s.Precedes ·.2 ·.2) := by
  induction r using h.descend generalizing depth
  case step r hi =>
    rw [h.listing_eq, List.pairwise_cons]
    refine ⟨?first, h.pairwise_siblings (fun c => h.under_iff.mpr) (h.sorted_children r)
      fun c hc => hi c hc _⟩
    rintro ⟨_, b⟩ hb
    obtain ⟨c, hc, hb⟩ := List.mem_flatMap.mp hb
    obtain ⟨_, -, hl⟩ := h.mem_listing.mp hb
    have hu := h.under_iff.mpr hc
    have hlt := Nat.lt_of_lt_of_le (h.older hu) (h.le_of_contains ⟨_, hl⟩)
    exact .inside ⟨_, hl.cons hu⟩ fun he => Nat.ne_of_lt hlt (congrArg _ he)

theorem map_snd_listing (depth : Nat) (id : ObjId) :
    (s.listing depth id).map Prod.snd = s.order id := by
  unfold order
  generalize 0 = depth'
  induction id using h.descend generalizing depth depth'
  case step id hi =>
    rw [h.listing_eq, h.listing_eq, List.map_cons, List.map_cons, List.map_flatMap,
      List.map_flatMap]
    exact congrArg _ (List.flatMap_congr fun c hc => hi c hc _ _)

theorem order_eq (id : ObjId) : s.order id = id :: (s.children id).flatMap s.order := by
  rw [order, h.listing_eq, List.map_cons, List.map_flatMap]
  exact congrArg _ (List.flatMap_congr fun c _ => h.map_snd_listing _ c)

theorem mem_order : id ∈ s.order r ↔ s.Contains r id := by
  simp [order, h.mem_listing, Contains]

theorem find?_eq (id : ObjId) (name : String) : s.find? id name =
    if s.name? id = some name then some id else (s.children id).findSome? (s.find? · name) := by
  rw [find?_order, h.order_eq, List.find?_cons, List.find?_flatMap]
  split <;> simp_all [find?_order]

theorem search_cons (id : ObjId) {rest : List ObjId} {answer : Option ObjId}
    (hrest : s.Search name rest answer) :
    s.Search name (id :: rest) ((s.find? id name).or answer) := by
  induction id using h.descend generalizing rest answer
  case step id hi =>
    have hin {ids : List ObjId} (hids : ∀ c ∈ ids, c ∈ s.children id) :
        s.Search name ids (ids.findSome? (s.find? · name)) := by
      induction ids
      case nil => exact .done
      case cons c ids hi' =>
        obtain ⟨hc, hids⟩ := List.forall_mem_cons.mp hids
        have hsearch := hi c hc (hi' hids)
        rw [List.findSome?_cons]
        cases hfound : s.find? c name <;> simpa [hfound] using hsearch
    rw [h.find?_eq]
    by_cases hname : s.name? id = some name
    case pos => simpa [hname] using .here (name?_eq_some_iff.mp hname)
    case neg =>
      have hcalled := mt name?_eq_some_iff.mpr hname
      have hchildren := hin fun _ hc => hc
      rw [if_neg hname]
      cases hfound : (s.children id).findSome? (s.find? · name)
      case some found => exact .inside hcalled (hfound ▸ hchildren)
      case none       => exact .after hcalled (hfound ▸ hchildren) hrest

theorem search_iff (id : ObjId) (name : String) (answer : Option ObjId) :
    s.Search name [id] answer ↔ s.find? id name = answer := by
  have hfind : s.Search name [id] ((s.find? id name).or none) := h.search_cons id .done
  rw [Option.or_none] at hfind
  exact ⟨fun ha => ha.unique hfind, fun he => he ▸ hfind⟩

theorem find?_eq_some_iff : s.find? r name = some id ↔ s.Contains r id ∧ s.Called id name ∧
    ∀ other, s.Contains r other → s.Called other name → other = id ∨ s.Precedes id other := by
  have hp : (s.order r).Pairwise s.Precedes := List.pairwise_map.mpr (h.pairwise_listing 0 r)
  rw [find?_order, hp.find?_eq_some_iff h.precedes_asymm]
  simp [h.mem_order, name?_eq_some_iff]

theorem find?_eq_none_iff :
    s.find? r name = none ↔ ∀ id, s.Contains r id → ¬s.Called id name := by
  simp [find?_order, h.mem_order, name?_eq_some_iff]

theorem mem_listings : (n, id) ∈ s.roots.flatMap (s.listing 0) ↔
    ∃ root, s.Under root none ∧ s.Level root n id := by
  simp [h.mem_listing, mem_roots_iff]

theorem pairwise_listings :
    (s.roots.flatMap (s.listing 0)).Pairwise (s.Precedes ·.2 ·.2) := by
  have hids : ((List.range s.size).map ObjId.mk).Pairwise (·.index < ·.index) :=
    List.pairwise_map.mpr List.pairwise_lt_range
  exact h.pairwise_siblings (fun _ => mem_roots_iff.mp) (hids.filter _) fun id _ =>
    h.pairwise_listing 0 id

end WellTied

theorem entry_dump (hid : s.has id) (depth : Nat) : ∃ o, s.obj? id = some o ∧
    dump.entry s (depth, id) = .ofList (List.replicate (2 * depth) ' ') ++ line o ++ "\n" := by
  obtain ⟨o, ho⟩ := has_iff_obj?.mp hid
  exact ⟨o, ho, by simp [dump.entry, ho]⟩

-- The dump is one entry for each object, on its level and in pre-order; the lists of dropdowns are
-- among the roots. The search comes to an end, which is the first object that it looks for.
theorem Arises.traversed (h : s.Arises) :
    (∃ places : List (Nat × ObjId), s.dump = .join (places.map (dump.entry s)) ∧
      (∀ n id, (n, id) ∈ places → ∃ o, s.obj? id = some o ∧
        dump.entry s (n, id) = .ofList (List.replicate (2 * n) ' ') ++ line o ++ "\n") ∧
      (∀ n id, (n, id) ∈ places ↔ ∃ root, s.Under root none ∧ s.Level root n id) ∧
      (∀ id, s.IsList id → (0, id) ∈ places) ∧
      (∀ id, s.has id → (places.map Prod.snd).count id = 1) ∧
      ∀ a b, [a, b].Sublist (places.map Prod.snd) ↔ s.Precedes a b) ∧
    ∀ r name, s.has r →
      (∀ answer, s.Search name [r] answer ↔ s.find? r name = answer) ∧
      (∀ id, s.find? r name = some id ↔ s.Contains r id ∧ s.Called id name ∧
        ∀ other, s.Contains r other → s.Called other name → other = id ∨ s.Precedes id other) ∧
      (s.find? r name = none ↔ ∀ id, s.Contains r id → ¬s.Called id name) := by
  have hs := h.wellTied
  let places := s.roots.flatMap (s.listing 0)
  have hplaces : ∀ n id, (n, id) ∈ places ↔ _ := fun n id => hs.mem_listings
  have hids : ∀ id, id ∈ places.map Prod.snd ↔ s.has id := by
    intro id
    simp only [List.mem_map, Prod.exists, hplaces, exists_eq_right]
    constructor
    case mp  => exact fun ⟨n, root, hroot, hl⟩ => hl.has hroot.has
    case mpr => exact fun hid => let ⟨root, n, hl⟩ := hs.exists_level hid; ⟨n, root, hl⟩
  have hp : (places.map Prod.snd).Pairwise s.Precedes := List.pairwise_map.mpr hs.pairwise_listings
  refine ⟨⟨places, rfl, fun n id hm => ?entry, hplaces, fun id hl => ?list, fun id hid => ?once,
    fun a b => ⟨fun hab => ?sorted, fun hab => ?preorder⟩⟩, fun r name _ => ?search⟩
  case entry =>
    have ⟨root, hroot, hl⟩ := (hplaces n id).mp hm
    exact entry_dump (hl.has hroot.has) n
  case list   => exact (hplaces 0 id).mpr ⟨id, h.under_none (.inl hl), .self⟩
  case once   =>
    have hnodup : (places.map Prod.snd).Nodup := by
      refine hp.imp ?_
      rintro a _ hab rfl
      exact hs.precedes_irrefl hab
    rw [hnodup.count, if_pos ((hids id).mpr hid)]
  case sorted => exact List.pairwise_iff_forall_sublist.mp hp hab
  case preorder =>
    have ⟨ha, hb⟩ := hs.has_of_precedes hab
    exact (hp.sublist_pair_iff hs.precedes_asymm ((hids a).mpr ha) ((hids b).mpr hb)).mpr hab
  case search =>
    exact ⟨hs.search_iff r name, fun _ => hs.find?_eq_some_iff, hs.find?_eq_none_iff⟩

theorem traversed_dropdown :
    let s₁ := (Request.createWidget .dropdown none).run empty
    let s₂ := (Request.dropdownList ⟨0⟩).run s₁
    let s₃ := (Request.createWidget .label (some ⟨0⟩)).run s₂
    let s₄ := (Request.edit ⟨2⟩ (.prop (.name "a"))).run s₃
    let s := (Request.edit ⟨2⟩ (.prop (.name "b"))).run s₄
    (∃ places : List (Nat × ObjId), s.dump = .join (places.map (dump.entry s)) ∧
      (0, ⟨1⟩) ∈ places ∧ (1, ⟨2⟩) ∈ places ∧ [⟨2⟩, ⟨1⟩].Sublist (places.map Prod.snd)) ∧
      s.find? ⟨0⟩ "b" = some ⟨2⟩ ∧ s.find? ⟨0⟩ "a" = none := by
  intro s₁ s₂ s₃ s₄ s
  have h₃ : s₃.Arises :=
    .request (.request (.request .empty _ (by decide)) _ (by decide)) _ (by decide)
  have h : s.Arises := .request (.request h₃ _ (by decide)) _ (by decide)
  have hd : s.Under ⟨0⟩ none := mem_roots_iff.mp (by decide)
  have hl : s.Under ⟨1⟩ none := mem_roots_iff.mp (by decide)
  have hc : s.Under ⟨2⟩ (some ⟨0⟩) := h.wellTied.under_iff.mpr (by decide)
  have hname : s.Called ⟨2⟩ "b" := name?_eq_some_iff.mp (by decide)
  have hin : s.children ⟨0⟩ = [⟨2⟩] := by decide
  have hnone : s.children ⟨2⟩ = [] := by decide
  have hother {id : ObjId} {name : String} (he : s.name? id ≠ some name) : ¬s.Called id name :=
    mt name?_eq_some_iff.mpr he
  have ⟨⟨places, hdump, _, hplaces, _, _, horder⟩, hsearch⟩ := Arises.traversed h
  refine ⟨⟨places, hdump, (hplaces _ _).mpr ⟨_, hl, .self⟩,
    (hplaces _ _).mpr ⟨_, hd, .child .self hc⟩,
    (horder _ _).mpr (.beside hd hl (by decide) (.child .refl hc) .refl)⟩, ?found, ?none⟩
  case found =>
    refine ((hsearch ⟨0⟩ "b" (by decide)).1 _).mp (.inside (hother (by decide)) ?_)
    exact hin ▸ .here hname
  case none =>
    refine ((hsearch ⟨0⟩ "a" (by decide)).1 _).mp (.after (hother (by decide)) ?_ .done)
    exact hin ▸ .after (hother (by decide)) (hnone ▸ .done) .done

end Scene

end UiMarkup
