import UiMarkup.Proofs.Registry.History

namespace UiMarkup.Registry

def Call.value? (kind : EntryKind) (scope : ScopeId) (name : String) : Call → Option kind.Value
  | register kind' _ scope' name' value =>
    if h : kind' = kind then
      if scope'.getD .globals = scope ∧ name' = name then some (h ▸ value) else none
    else none
  | _ => none

namespace History

def Has (h : History) (scope : ScopeId) : Prop :=
  scope.index < h.scopeNames.length

instance {h : History} {scope : ScopeId} : Decidable (h.Has scope) :=
  inferInstanceAs (Decidable (_ < _))

-- The value that was registered latest; a call for a scope that was not there does not count.
def latest? (kind : EntryKind) (scope : ScopeId) (name : String) : History → Option kind.Value
  | [] => none
  | c :: earlier =>
    let before := latest? kind scope name earlier
    if Has earlier scope then (c.value? kind scope name).or before else before

def scopeNamed? (h : History) (name : String) : Option ScopeId :=
  (h.scopeNames.idxOf? name).map ScopeId.mk

end History

variable {r r' : Registry} {kind : EntryKind} {scope : ScopeId} {name : String}

theorem History.has_iff (h : History) : h.Has scope ↔ scope.index < h.registry.scopes.size := by
  rw [Has, ← h.names_registry, length_names]

theorem History.scopeByName?_registry (h : History) :
    h.registry.scopeByName? name = h.scopeNamed? name := by
  rw [scopeByName?_eq, h.names_registry, scopeNamed?]

theorem entry?_modify {f : Scope → Scope} {id : ScopeId}
    (h : r'.scopes = r.scopes.modify id.index f)
    (hf : scope = id → ∀ s, (f s).get? kind name = s.get? kind name) :
    r'.entry? kind scope name = r.entry? kind scope name := by
  unfold entry?
  rw [scope?, h, scope?_modify]
  split
  case isTrue hi => cases r.scope? scope <;> simp [hf hi]
  case isFalse   => rfl

theorem entry?_modifyScope {f : Scope → Scope} {id : ScopeId} (h : r.modifyScope id f = .ok r')
    (hf : scope = id → ∀ s, (f s).get? kind name = s.get? kind name) :
    r'.entry? kind scope name = r.entry? kind scope name :=
  entry?_modify (congrArg scopes (modifyScope_eq_ok h).2) hf

theorem entry?_ensureScope (name' : String) :
    entry? (r.ensureScope name').2 kind scope name = r.entry? kind scope name := by
  unfold ensureScope
  split
  case h_1 => rfl
  case h_2 =>
    unfold entry?
    simp only [scope?, Array.getElem?_push]
    split
    case isTrue hi  => cases kind <;> simp [hi, Scope.get?, Scope.table]
    case isFalse hi => rfl

theorem entry?_registerStyle (hk : kind ≠ .style) {scope' : Option ScopeId} {attrs : Attrs}
    (h : (r.registerStyle scope' attrs).value.map Prod.snd = .ok r') :
    r'.entry? kind scope name = r.entry? kind scope name := by
  obtain ⟨name', s, extended, -, -, rfl⟩ := registerStyle_eq_ok h
  unfold ensureStyle
  split
  case h_1 =>
    unfold entry?
    rw [scope?, scopes_restyle]
    rfl
  case h_2 =>
    exact entry?_modify (scopes_restyle ..) fun _ s => s.get?_set_of_kind_ne _ _ _ hk.symm

theorem register_of_lt {scope : Option ScopeId} (value : kind.Value)
    (h : (scope.getD .globals).index < r.scopes.size) :
    r.register kind scope name value = .ok { r with
      scopes := r.scopes.modify (scope.getD .globals).index (·.set kind name value) } := by
  rw [register, modifyScope, if_pos h]

theorem register_of_not_lt {scope : Option ScopeId} (value : kind.Value)
    (h : ¬(scope.getD .globals).index < r.scopes.size) :
    r.register kind scope name value = .error (.unknownScope (scope.getD .globals)) := by
  rw [register, modifyScope, if_neg h]

theorem entry?_register_self (given : kind ≠ .style) (scope : Option ScopeId) (value : kind.Value) :
    entry? ((Call.register kind given scope name value).run r) kind (scope.getD .globals) name =
      if (scope.getD .globals).index < r.scopes.size then some value
      else r.entry? kind (scope.getD .globals) name := by
  split
  case isTrue hlt =>
    have hscope : r.scope? (scope.getD .globals) = some r.scopes[(scope.getD .globals).index] :=
      Array.getElem?_eq_getElem hlt
    rw [Call.run, register_of_lt value hlt]
    unfold entry?
    rw [scope?, Call.run.settle, scope?_modify, if_pos rfl, hscope]
    exact Scope.get?_set_self ..
  case isFalse hlt =>
    rw [Call.run, register_of_not_lt value hlt]
    rfl

theorem entry?_register_of_ne {kind' : EntryKind} (given : kind' ≠ .style)
    {scope' : Option ScopeId} {name' : String} (value : kind'.Value)
    (hne : ¬(kind' = kind ∧ scope'.getD .globals = scope ∧ name' = name)) :
    entry? ((Call.register kind' given scope' name' value).run r) kind scope name =
      r.entry? kind scope name := by
  refine Call.run.settle_cases
    (motive := fun s => s.entry? kind scope name = r.entry? kind scope name) rfl fun r' h => ?_
  refine entry?_modifyScope h fun hscope s => ?_
  by_cases hk : kind' = kind
  case neg => exact s.get?_set_of_kind_ne _ _ _ hk
  case pos =>
    cases hk
    exact s.get?_set_of_name_ne _ _ fun hname => hne ⟨rfl, hscope.symm, hname⟩

theorem entry?_register {kind' : EntryKind} (given : kind' ≠ .style) (scope' : Option ScopeId)
    (name' : String) (value : kind'.Value) :
    let c := Call.register kind' given scope' name' value
    entry? (c.run r) kind scope name =
      if scope.index < r.scopes.size then (c.value? kind scope name).or (r.entry? kind scope name)
      else r.entry? kind scope name := by
  intro c
  by_cases hsame : kind' = kind ∧ scope'.getD .globals = scope ∧ name' = name
  case pos =>
    obtain ⟨rfl, rfl, rfl⟩ := hsame
    have hv : c.value? kind' (scope'.getD .globals) name' = some value := by
      simp [c, Call.value?]
    rw [hv, Option.some_or]
    exact entry?_register_self given scope' value
  case neg =>
    have hv : c.value? kind scope name = none := by
      simp only [c, Call.value?]
      grind
    rw [hv, Option.none_or, ite_self]
    exact entry?_register_of_ne given value hsame

theorem entry?_run (hk : kind ≠ .style) (c : Call) :
    entry? (c.run r) kind scope name =
      if scope.index < r.scopes.size then (c.value? kind scope name).or (r.entry? kind scope name)
      else r.entry? kind scope name := by
  have hkept {c : Call} (hv : c.value? kind scope name = none)
      (he : entry? (c.run r) kind scope name = r.entry? kind scope name) :
      entry? (c.run r) kind scope name =
        if scope.index < r.scopes.size then (c.value? kind scope name).or (r.entry? kind scope name)
        else r.entry? kind scope name := by
    rw [he, hv, Option.none_or, ite_self]
  have hsettle {result : Except RegistryError Registry}
      (h : ∀ r', result = .ok r' → r'.entry? kind scope name = r.entry? kind scope name) :
      entry? (Call.run.settle r result) kind scope name = r.entry? kind scope name :=
    Call.run.settle_cases
      (motive := fun s => s.entry? kind scope name = r.entry? kind scope name) rfl h
  cases c
  case register kind' given scope' name' value => exact entry?_register given scope' name' value
  case ensureScope name' => exact hkept rfl (entry?_ensureScope name')
  case registerStyle => exact hkept rfl (hsettle fun _ => entry?_registerStyle hk)
  case registerParam =>
    exact hkept rfl (hsettle fun _ h => entry?_modifyScope h fun _ _ => by cases kind <;> rfl)
  case setComponent =>
    exact hkept rfl (hsettle fun _ h => entry?_modifyScope h fun _ _ => by cases kind <;> rfl)

def registerAll (r : Registry) (kind : EntryKind) (given : kind ≠ .style) (scope : ScopeId)
    (entries : Assoc String kind.Value) : Registry :=
  entries.foldl (fun r e => (Call.register kind given (some scope) e.1 e.2).run r) r

theorem registerAll_append (given : kind ≠ .style) (entries entries' : Assoc String kind.Value) :
    r.registerAll kind given scope (entries ++ entries') =
      (r.registerAll kind given scope entries).registerAll kind given scope entries' :=
  List.foldl_append

theorem entry?_registerAll (given : kind ≠ .style) {entries : Assoc String kind.Value}
    (hs : scope.index < r.scopes.size) (name : String) :
    entry? (r.registerAll kind given scope entries) kind scope name =
      (Assoc.get? entries.reverse name).or (r.entry? kind scope name) := by
  induction entries generalizing r
  case nil => rfl
  case cons e entries hi =>
    let c := Call.register kind given (some scope) e.1 e.2
    have hnames : (c.run r).names = r.names := names_run c
    have hs' : scope.index < (c.run r).scopes.size := by
      rwa [← length_names, hnames, length_names]
    have hv : Assoc.get? [e] name = c.value? kind scope name := by
      simp [c, Call.value?, Assoc.get?]
    have hfirst :
        entry? (c.run r) kind scope name = (Assoc.get? [e] name).or (r.entry? kind scope name) := by
      rw [entry?_register, if_pos hs, hv]
    calc
      _ = (Assoc.get? entries.reverse name).or
            ((Assoc.get? [e] name).or (r.entry? kind scope name)) := hfirst ▸ hi hs'
      _ = _ := by rw [List.reverse_cons, Assoc.get?_append, Option.or_assoc]

theorem entry?_registerAll_of_ne {kind' : EntryKind} (given : kind' ≠ .style) {scope' : ScopeId}
    {entries : Assoc String kind'.Value} (hne : ¬(kind' = kind ∧ scope' = scope)) (name : String) :
    entry? (r.registerAll kind' given scope' entries) kind scope name =
      r.entry? kind scope name := by
  induction entries generalizing r
  case nil => rfl
  case cons e entries hi =>
    exact hi.trans (entry?_register_of_ne given e.2 fun h => hne ⟨h.1, h.2.1⟩)

theorem History.entry?_registry (hk : kind ≠ .style) (h : History) :
    h.registry.entry? kind scope name = h.latest? kind scope name := by
  induction h
  case nil =>
    unfold entry? scope?
    simp only [registry, empty, List.getElem?_toArray, List.getElem?_singleton]
    cases kind <;> split <;> rfl
  case cons c earlier hi =>
    simp only [registry, latest?, entry?_run hk, hi, has_iff]

theorem History.lookup?_registry (hk : kind ≠ .style) (h : History) (scope : Option ScopeId) :
    h.registry.lookup? kind scope name =
      (h.latest? kind (scope.getD .globals) name).or (h.latest? kind .globals name) := by
  rw [lookup?, h.entry?_registry hk, h.entry?_registry hk]

theorem const?_of_not_mem {scope : Option ScopeId} (hn : '.' ∉ name.toList) :
    (r.const? scope name).value = r.lookup? .const scope name := by
  rw [value_const?, Text.cutLast?_of_not_mem hn]

theorem const?_qualified {scope : Option ScopeId} (qualifier : String) {bare : String}
    (hb : '.' ∉ bare.toList) :
    (r.const? scope (qualifier ++ "." ++ bare)).value =
      (r.scopeByName? qualifier).bind (r.entry? .const · bare) := by
  rw [value_const?, Text.cutLast?_append qualifier hb]

namespace History

theorem scopeNamed?_of_name (h : History) (hs : h.scopeNames[scope.index]? = some name) :
    h.scopeNamed? name = some scope := by
  obtain ⟨hlt, hname⟩ := List.getElem?_eq_some_iff.mp hs
  have hfirst : h.scopeNames.findIdx? (· == name) = some scope.index := by
    refine List.findIdx?_eq_some_iff_getElem.mpr ⟨hlt, beq_iff_eq.mpr hname, fun j hj he => ?_⟩
    -- Two scopes of the same name are the same.
    refine List.pairwise_iff_getElem.mp h.nodup_scopeNames j scope.index (by omega) hlt hj ?_
    exact (beq_iff_eq.mp he).trans hname.symm
  rw [scopeNamed?, List.idxOf?, hfirst]
  rfl

theorem scopeNamed?_of_not_mem (h : History) (hn : name ∉ h.scopeNames) :
    h.scopeNamed? name = none := by
  rw [scopeNamed?, List.idxOf?_eq_none_iff.mpr hn]
  rfl

-- Calls for scopes that do not exist fail without a trace. All other calls count where they were
-- made for: a plain name is looked up there and then globally, a qualified one only in the scope
-- that it names, and what is registered in a third scope makes no difference.
theorem lookups_follow_calls (h : History) :
    (∀ kind given scope name value, ¬h.Has (scope.getD .globals) →
      h.registry.register kind scope name value = .error (.unknownScope (scope.getD .globals)) ∧
      registry (.register kind given scope name value :: h) = h.registry) ∧
    (∀ kind ≠ .style, ∀ scope name, h.registry.lookup? kind scope name =
      (h.latest? kind (scope.getD .globals) name).or (h.latest? kind .globals name)) ∧
    (∀ scope name, '.' ∉ name.toList → (h.registry.const? scope name).value =
      (h.latest? .const (scope.getD .globals) name).or (h.latest? .const .globals name)) ∧
    (∀ scope qualifier bare, '.' ∉ bare.toList →
      let found := (h.registry.const? scope (qualifier ++ "." ++ bare)).value
      (∀ id, h.scopeNames[id.index]? = some qualifier → found = h.latest? .const id bare) ∧
      (qualifier ∉ h.scopeNames → found = none)) ∧
    (∀ kind given scope name value, ∀ scope',
      scope.getD .globals ≠ scope'.getD .globals → scope.getD .globals ≠ .globals →
      ∀ kind' name',
        (registry (.register kind given scope name value :: h)).lookup? kind' scope' name' =
          h.registry.lookup? kind' scope' name') := by
  refine ⟨?failing, ?plain, ?const, ?qualified, ?others⟩
  case failing =>
    intro kind given scope name value hs
    have herr : h.registry.register kind scope name value = .error _ :=
      register_of_not_lt value fun hlt => hs (h.has_iff.mpr hlt)
    refine ⟨herr, ?_⟩
    rw [registry, Call.run, herr]
    rfl
  case plain =>
    intro kind hk scope name
    exact h.lookup?_registry hk scope
  case const =>
    intro scope name hn
    rw [const?_of_not_mem hn, h.lookup?_registry (by decide)]
  case qualified =>
    intro scope qualifier bare hb found
    have hf : found = (h.scopeNamed? qualifier).bind (h.latest? .const · bare) := by
      simp only [found, const?_qualified qualifier hb, h.scopeByName?_registry,
        h.entry?_registry (show EntryKind.const ≠ .style by decide)]
    refine ⟨fun id hid => ?_, fun hq => ?_⟩
    · rw [hf, h.scopeNamed?_of_name hid, Option.bind_some]
    · rw [hf, h.scopeNamed?_of_not_mem hq, Option.bind_none]
  case others =>
    intro kind given scope name value scope' hne hg kind' name'
    have hkept {id : ScopeId} (hid : scope.getD .globals ≠ id) :
        entry? ((Call.register kind given scope name value).run h.registry) kind' id name' =
          h.registry.entry? kind' id name' :=
      entry?_register_of_ne given value fun hsame => hid hsame.2.1
    rw [registry, lookup?, hkept hne, hkept hg]
    rfl

end History

end UiMarkup.Registry
