import UiMarkup.Registry.Style

namespace UiMarkup

@[simp] theorem Scope.name_set (s : Scope) (kind : EntryKind) (name : String) (value : kind.Value) :
    (s.set kind name value).name = s.name := by
  cases kind <;> rfl

namespace Registry

inductive Call
  | ensureScope (name : String)
  | register (kind : EntryKind) (given : kind ≠ .style) (scope : Option ScopeId) (name : String)
      (value : kind.Value)
  | registerStyle (scope : Option ScopeId) (attrs : Attrs)
  | registerParam (scope : ScopeId) (name : String) (default : Option String)
  | setComponent (scope : ScopeId) (c : Component)

namespace Call

def run (r : Registry) : Call → Registry
  | ensureScope name                 => (r.ensureScope name).2
  | register kind _ scope name value => settle (r.register kind scope name value)
  | registerStyle scope attrs        => settle ((r.registerStyle scope attrs).value.map Prod.snd)
  | registerParam scope name default => settle (r.registerParam scope name default)
  | setComponent scope c             => settle (r.setComponent scope c)
where
  settle : Except RegistryError Registry → Registry
    | .ok r'   => r'
    | .error _ => r

theorem run.settle_cases {motive : Registry → Prop} {r : Registry}
    {result : Except RegistryError Registry} (kept : motive r)
    (ok : ∀ r', result = .ok r' → motive r') : motive (settle r result) := by
  cases result
  case error => exact kept
  case ok r' => exact ok r' rfl

theorem run_setComponent {r r' : Registry} {scope : ScopeId} {c : Component}
    (h : r.setComponent scope c = .ok r') : run r (.setComponent scope c) = r' := by
  rw [run, h]
  rfl

def namesAfter (names : List String) : Call → List String
  | ensureScope name => if name ∈ names then names else names ++ [name]
  | _                => names

end Call

-- The calls that were made of a new registry, the latest one first.
abbrev History := List Call

namespace History

def registry : History → Registry
  | []           => .empty
  | c :: earlier => c.run (registry earlier)

def scopeNames : History → List String
  | []           => ["globals"]
  | c :: earlier => c.namesAfter (scopeNames earlier)

end History

def names (r : Registry) : List String :=
  r.scopes.toList.map (·.name)

variable {r r' : Registry} {id : ScopeId}

@[simp] theorem length_names : r.names.length = r.scopes.size := by
  simp [names]

theorem scopeByName?_eq (name : String) :
    r.scopeByName? name = (r.names.idxOf? name).map ScopeId.mk := by
  rw [scopeByName?, names, List.idxOf?, List.findIdx?_map, ← List.findIdx?_toArray,
    Array.toArray_toList]
  rfl

theorem scopeByName?_eq_none_iff {name : String} :
    r.scopeByName? name = none ↔ name ∉ r.names := by
  rw [scopeByName?_eq, Option.map_eq_none_iff, List.idxOf?_eq_none_iff]

-- What the calls do to the scopes: one of them adds a scope, the others at most change one, which
-- keeps its name.

theorem names_ensureScope (name : String) :
    (r.ensureScope name).2.names = if name ∈ r.names then r.names else r.names ++ [name] := by
  unfold ensureScope
  split
  case h_1 hid =>
    have hmem : name ∈ r.names := by
      refine Decidable.byContradiction fun hn => ?_
      cases (scopeByName?_eq_none_iff.mpr hn).symm.trans hid
    rw [if_pos hmem]
  case h_2 hid =>
    rw [if_neg (scopeByName?_eq_none_iff.mp hid)]
    simp [names]

theorem modifyScope_eq_ok {f : Scope → Scope} (h : r.modifyScope id f = .ok r') :
    id.index < r.scopes.size ∧ r' = { r with scopes := r.scopes.modify id.index f } := by
  unfold modifyScope at h
  split at h
  case isTrue hid => cases h; exact ⟨hid, rfl⟩
  case isFalse    => cases h

theorem scope?_modify (f : Scope → Scope) (i : ScopeId) :
    (r.scopes.modify id.index f)[i.index]? =
      if i = id then (r.scope? i).map f else r.scope? i := by
  rw [Array.getElem?_modify, scope?]
  by_cases hi : i = id
  case pos => rw [if_pos hi, if_pos (congrArg ScopeId.index hi.symm)]
  case neg =>
    have hne : id.index ≠ i.index := fun he => hi (by cases i; cases id; simp_all)
    rw [if_neg hi, if_neg hne]

theorem map_modify {α κ : Type} (xs : Array α) (i : Nat) {f : α → α} {key : α → κ}
    (hf : ∀ a, key (f a) = key a) : (xs.modify i f).toList.map key = xs.toList.map key := by
  apply List.ext_getElem
  case hl => simp
  case h =>
    intro j _ _
    simp only [List.getElem_map, Array.getElem_toList, Array.getElem_modify]
    split
    case isTrue  => exact hf _
    case isFalse => rfl

theorem names_modifyScope {f : Scope → Scope} (hf : ∀ s, (f s).name = s.name)
    (h : r.modifyScope id f = .ok r') : r'.names = r.names := by
  obtain ⟨-, rfl⟩ := modifyScope_eq_ok h
  exact map_modify _ _ hf

theorem names_ensureStyle (s : Scope) (name : String) :
    (r.ensureStyle id s name).value.2.names = r.names := by
  unfold ensureStyle
  split
  case h_1 => rfl
  case h_2 => exact map_modify _ _ fun s => s.name_set ..

@[simp] theorem scopes_restyle (id : StyleId) (style : Style) :
    (r.restyle id style).scopes = r.scopes := by
  unfold restyle
  split <;> rfl

theorem registerStyle_eq_ok {scope : Option ScopeId} {attrs : Attrs}
    (h : (r.registerStyle scope attrs).value.map Prod.snd = .ok r') :
    ∃ name s extended, attrs.get? "name" = some name ∧ r.scope? (scope.getD .globals) = some s ∧
      let out := (r.ensureStyle (scope.getD .globals) s name).value
      r' = out.2.restyle out.1 extended := by
  unfold registerStyle at h
  split at h
  case h_1 => cases h
  case h_2 name hname =>
    dsimp only at h
    split at h
    case h_1 => cases h
    case h_2 s hs =>
      cases h
      exact ⟨name, s, _, hname, hs, rfl⟩

theorem names_run (c : Call) : (c.run r).names = c.namesAfter r.names := by
  have hsettle {result : Except RegistryError Registry}
      (h : ∀ r', result = .ok r' → r'.names = r.names) :
      (Call.run.settle r result).names = r.names :=
    Call.run.settle_cases (motive := (·.names = r.names)) rfl h
  cases c
  case ensureScope name => exact names_ensureScope name
  case register kind _ _ name value =>
    exact hsettle fun _ => names_modifyScope fun s => s.name_set kind name value
  case registerStyle =>
    refine hsettle fun r' h => ?_
    obtain ⟨name, s, extended, -, -, rfl⟩ := registerStyle_eq_ok h
    rw [names, scopes_restyle]
    exact names_ensureStyle s name
  case registerParam => exact hsettle fun _ => names_modifyScope fun _ => rfl
  case setComponent  => exact hsettle fun _ => names_modifyScope fun _ => rfl

theorem History.names_registry (h : History) : h.registry.names = h.scopeNames := by
  induction h
  case nil => rfl
  case cons c earlier hi => rw [registry, names_run, hi, scopeNames]

-- Asking for a scope of a name that exists adds none, so no two scopes have the same name.

theorem Call.nodup_namesAfter {names : List String} (h : names.Nodup) (c : Call) :
    (c.namesAfter names).Nodup := by
  cases c
  case ensureScope name =>
    rw [namesAfter]
    split
    case isTrue     => exact h
    case isFalse hn =>
      have hne : ∀ a ∈ names, a ≠ name := fun a ha he => hn (he ▸ ha)
      simpa [List.nodup_append, h] using hne
  all_goals exact h

theorem History.nodup_scopeNames (h : History) : h.scopeNames.Nodup := by
  induction h
  case nil               => simp [scopeNames]
  case cons c earlier hi => exact c.nodup_namesAfter hi

theorem History.head?_scopeNames (h : History) : h.scopeNames.head? = some "globals" := by
  induction h
  case nil => rfl
  case cons c earlier hi =>
    cases c
    case ensureScope name =>
      rw [scopeNames, Call.namesAfter]
      split
      case isTrue  => exact hi
      case isFalse => simp [List.head?_append, hi]
    all_goals exact hi

end Registry

end UiMarkup
