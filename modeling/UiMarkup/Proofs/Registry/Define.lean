import UiMarkup.Proofs.Registry.Renumbered
import UiMarkup.Proofs.Registry.NewScope
import UiMarkup.Proofs.Registry.Styles

namespace UiMarkup.Registry

def modify (r : Registry) (id : ScopeId) (f : Scope → Scope) : Registry :=
  { r with scopes := r.scopes.modify id.index f }

def define (r : Registry) (name : String) (f : Scope → Scope) : Registry :=
  (r.ensureScope name).2.modify (r.ensureScope name).1 f

variable {r : Registry} {s : Scope} {id id' : ScopeId} {name name' : String} {f g : Scope → Scope}

theorem scope?_modify_self : (r.modify id f).scope? id = (r.scope? id).map f :=
  (scope?_modify f id).trans (if_pos rfl)

theorem modify_modify : (r.modify id f).modify id g = r.modify id (g ∘ f) := by
  have hscopes : (r.scopes.modify id.index f).modify id.index g =
      r.scopes.modify id.index (g ∘ f) := by
    apply Array.ext_getElem?
    intro i
    simp only [Array.getElem?_modify]
    split <;> simp
  simp [modify, hscopes]

theorem modify_id : r.modify id (fun s => s) = r := by
  have hscopes : r.scopes.modify id.index (fun s => s) = r.scopes := by
    apply Array.ext_getElem?
    intro i
    simp [Array.getElem?_modify]
  simp [modify, hscopes]

theorem modify_comm (h : id ≠ id') :
    (r.modify id f).modify id' g = (r.modify id' g).modify id f := by
  have hne : id.index ≠ id'.index := fun he => h (by cases id; cases id'; simp_all)
  have hscopes : (r.scopes.modify id.index f).modify id'.index g =
      (r.scopes.modify id'.index g).modify id.index f := by
    apply Array.ext_getElem?
    intro i
    simp only [Array.getElem?_modify]
    grind
  simp [modify, hscopes]

theorem modify_withScope (h : r.knows id) :
    (r.withScope s).modify id f = (r.modify id f).withScope s := by
  have hscopes : (r.scopes.push s).modify id.index f = (r.scopes.modify id.index f).push s := by
    apply Array.ext_getElem?
    intro i
    have hsize : id.index < r.scopes.size := h
    simp only [Array.getElem?_modify, Array.getElem?_push, Array.size_modify]
    grind
  simp [modify, withScope, hscopes]

theorem scopeByName?_modify (hf : ∀ s, (f s).name = s.name) (name : String) :
    (r.modify id f).scopeByName? name = r.scopeByName? name := by
  rw [scopeByName?_eq, scopeByName?_eq, names, modify, map_modify _ _ hf]
  rfl

theorem scope?_of_scopeByName? (h : r.scopeByName? name = some id) :
    ∃ s, r.scope? id = some s ∧ s.name = name := by
  unfold scopeByName? at h
  obtain ⟨i, hi, rfl⟩ := Option.map_eq_some_iff.mp h
  obtain ⟨hlt, hname, -⟩ := Array.findIdx?_eq_some_iff_getElem.mp hi
  exact ⟨r.scopes[i], Array.getElem?_eq_getElem hlt, by simpa using hname⟩

theorem knows_of_scopeByName? (h : r.scopeByName? name = some id) : r.knows id := by
  obtain ⟨s, hs, -⟩ := scope?_of_scopeByName? h
  exact knows_iff.mpr (by rw [hs]; rfl)

theorem define_of_some (h : r.scopeByName? name = some id) : r.define name f = r.modify id f := by
  rw [define, ensureScope, h]

theorem define_of_none (h : r.scopeByName? name = none) :
    r.define name f = r.withScope (f { name }) := by
  have hmodify := modifyScope_withScope_next (r := r) (s := { name }) f
  rw [define, ensureScope_of_none h]
  exact (modifyScope_eq_ok hmodify).2.symm

theorem knows_define (h : r.knows id) : (r.define name f).knows id := by
  have hsize : (r.define name f).scopes.size = (r.ensureScope name).2.scopes.size :=
    Array.size_modify ..
  have hensure : r.scopes.size ≤ (r.ensureScope name).2.scopes.size := by
    unfold ensureScope
    split <;> simp
  exact Nat.lt_of_lt_of_le h (hsize ▸ hensure)

-- All that there is of a registry with a history: the global scope comes first, and the styles are
-- in scopes that exist.
structure Numbered (r : Registry) : Prop where
  globals : r.knows .globals
  styles  : ∀ id, ∀ e ∈ r.style? id, r.knows e.scope

theorem History.numbered (h : History) : h.registry.Numbered where
  globals := by
    have hhead := h.head?_scopeNames
    rw [← h.names_registry] at hhead
    have hpos : 0 < h.registry.names.length := List.length_pos_of_mem (List.mem_of_head? hhead)
    rwa [length_names] at hpos
  styles := by
    intro id e he
    obtain ⟨s, hs, -⟩ := h.linked.listed he
    exact knows_iff.mpr (by rw [hs]; rfl)

-- Two scopes that are added trade their numbers.

def second (r : Registry) : ScopeId :=
  ⟨r.scopes.size + 1⟩

theorem nextScope_withScope : (r.withScope s).nextScope = r.second := by
  simp [nextScope, withScope, second]

theorem nextScope_ne_second : r.nextScope ≠ r.second := by
  simp [nextScope, second]

def trade (r : Registry) : Renumbering :=
  Equiv.swap r.nextScope r.second

theorem trade_of_knows (h : r.knows id) : r.trade id = id := by
  have hlt : id.index < r.scopes.size := h
  apply Equiv.swap_apply_of_ne_of_ne
  · rintro rfl
    exact Nat.lt_irrefl _ hlt
  · rintro rfl
    exact absurd hlt (Nat.not_lt_of_le (Nat.le_succ _))

theorem scope?_withScope_trade (s t : Scope) (id : ScopeId) :
    ((r.withScope t).withScope s).scope? (r.trade id) =
      ((r.withScope s).withScope t).scope? id := by
  by_cases hnext : id = r.nextScope
  case pos =>
    have hne : id ≠ (r.withScope s).nextScope := by
      rw [nextScope_withScope, hnext]
      exact nextScope_ne_second
    rw [scope?_withScope_of_ne hne, hnext, trade, Equiv.swap_apply_left, scope?_withScope_next,
      ← nextScope_withScope, scope?_withScope_next]
  case neg =>
    by_cases hsecond : id = r.second
    case pos =>
      have hne : r.nextScope ≠ (r.withScope t).nextScope := by
        rw [nextScope_withScope]
        exact nextScope_ne_second
      rw [hsecond, trade, Equiv.swap_apply_right, scope?_withScope_of_ne hne, scope?_withScope_next,
        ← nextScope_withScope (s := s), scope?_withScope_next]
    case neg =>
      have hne (s : Scope) : id ≠ (r.withScope s).nextScope := by
        rwa [nextScope_withScope]
      rw [trade, Equiv.swap_apply_of_ne_of_ne hnext hsecond, scope?_withScope_of_ne (hne t),
        scope?_withScope_of_ne hnext, scope?_withScope_of_ne (hne s),
        scope?_withScope_of_ne hnext]

theorem scopeByName?_withScope_trade {s t : Scope} (hs : r.scopeByName? s.name = none)
    (ht : r.scopeByName? t.name = none) (hne : s.name ≠ t.name) (name : String) :
    ((r.withScope t).withScope s).scopeByName? name =
      (((r.withScope s).withScope t).scopeByName? name).map r.trade := by
  have hlast {s t : Scope} (hs : r.scopeByName? s.name = none) (hne : s.name ≠ t.name) :
      ((r.withScope t).withScope s).scopeByName? s.name = some r.second := by
    rw [scopeByName?_withScope_self, nextScope_withScope]
    rwa [scopeByName?_withScope_of_ne hne]
  have hfirst {s t : Scope} (hs : r.scopeByName? s.name = none) (hne : s.name ≠ t.name) :
      ((r.withScope s).withScope t).scopeByName? s.name = some r.nextScope := by
    rw [scopeByName?_withScope_of_ne hne, scopeByName?_withScope_self hs]
  by_cases hns : name = s.name
  case pos =>
    rw [hns, hlast hs hne, hfirst hs hne, Option.map_some, trade, Equiv.swap_apply_left]
  case neg =>
    by_cases hnt : name = t.name
    case pos =>
      rw [hnt, hlast ht hne.symm, hfirst ht hne.symm, Option.map_some, trade,
        Equiv.swap_apply_right]
    case neg =>
      rw [scopeByName?_withScope_of_ne hns, scopeByName?_withScope_of_ne hnt,
        scopeByName?_withScope_of_ne hnt, scopeByName?_withScope_of_ne hns]
      cases hid : r.scopeByName? name
      case none    => rfl
      case some id => rw [Option.map_some, trade_of_knows (knows_of_scopeByName? hid)]

theorem renumbered_withScope (hr : r.Numbered) {s t : Scope} (hs : r.scopeByName? s.name = none)
    (ht : r.scopeByName? t.name = none) (hne : s.name ≠ t.name) :
    ((r.withScope s).withScope t).Renumbered r.trade ((r.withScope t).withScope s) where
  globals := trade_of_knows hr.globals
  scope   := scope?_withScope_trade s t
  named   := scopeByName?_withScope_trade hs ht hne
  styles  := by
    apply Array.ext_getElem?
    intro i
    rw [Array.getElem?_map]
    show r.styles[i]? = r.styles[i]?.map _
    cases he : r.styles[i]?
    case none   => rfl
    case some e =>
      have hscope : r.trade e.scope = e.scope := trade_of_knows (hr.styles ⟨i⟩ e he)
      simp [StyleEntry.renumber, hscope]
  strays  := rfl

theorem define_comm (hr : r.Numbered) (hne : name ≠ name') (hf : ∀ s, (f s).name = s.name)
    (hg : ∀ s, (g s).name = s.name) :
    ∃ π, ((r.define name f).define name' g).Renumbered π ((r.define name' g).define name f) := by
  -- One scope exists and the other one is added.
  have hmixed {name name' : String} {f g : Scope → Scope} (hne : name ≠ name')
      (hf : ∀ s, (f s).name = s.name) (hg : ∀ s, (g s).name = s.name) {id : ScopeId}
      (hid : r.scopeByName? name = some id) (hnone : r.scopeByName? name' = none) :
      (r.define name f).define name' g = (r.define name' g).define name f := by
    have hnone₁ : (r.modify id f).scopeByName? name' = none := by
      rwa [scopeByName?_modify hf]
    have hid₁ : (r.withScope (g { name := name' })).scopeByName? name = some id := by
      rwa [scopeByName?_withScope_of_ne (by rwa [hg])]
    rw [define_of_some hid, define_of_none hnone₁, define_of_none hnone, define_of_some hid₁,
      modify_withScope (knows_of_scopeByName? hid)]
  cases hid : r.scopeByName? name <;> cases hid' : r.scopeByName? name'
  case none.none =>
    have hfirst : (r.withScope (f { name })).scopeByName? name' = none := by
      rwa [scopeByName?_withScope_of_ne (by rw [hf]; exact hne.symm)]
    have hfirst' : (r.withScope (g { name := name' })).scopeByName? name = none := by
      rwa [scopeByName?_withScope_of_ne (by rwa [hg])]
    rw [define_of_none hid, define_of_none hfirst, define_of_none hid', define_of_none hfirst']
    exact ⟨_, renumbered_withScope hr (by rwa [hf]) (by rwa [hg]) (by rwa [hf, hg])⟩
  case none.some id' => exact ⟨_, .of_eq (hmixed hne.symm hg hf hid' hid).symm⟩
  case some.none id  => exact ⟨_, .of_eq (hmixed hne hf hg hid hid')⟩
  case some.some id id' =>
    have hdiffer : id ≠ id' := by
      rintro rfl
      obtain ⟨s, hs, hname⟩ := scope?_of_scopeByName? hid
      obtain ⟨s', hs', hname'⟩ := scope?_of_scopeByName? hid'
      cases hs.symm.trans hs'
      exact hne (hname.symm.trans hname')
    have hkept' : (r.modify id f).scopeByName? name' = some id' := by
      rwa [scopeByName?_modify hf]
    have hkept : (r.modify id' g).scopeByName? name = some id := by
      rwa [scopeByName?_modify hg]
    have hsame : (r.define name f).define name' g = (r.define name' g).define name f := by
      rw [define_of_some hid, define_of_some hkept', define_of_some hid', define_of_some hkept,
        modify_comm hdiffer]
    exact ⟨_, .of_eq hsame⟩

end UiMarkup.Registry
