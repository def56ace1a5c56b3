namespace UiMarkup

-- Pairs of a key and a value; the first pair of a key counts.
abbrev Assoc (κ α : Type) := List (κ × α)

namespace Assoc

variable {κ α : Type} [DecidableEq κ]

def get? (t : Assoc κ α) (k : κ) : Option α :=
  match t with
  | [] => none
  | (k', v) :: t => if k' = k then some v else get? t k

def contains (t : Assoc κ α) (k : κ) : Bool :=
  (get? t k).isSome

def set (t : Assoc κ α) (k : κ) (v : α) : Assoc κ α :=
  match t with
  | [] => [(k, v)]
  | (k', v') :: t => if k' = k then (k', v) :: t else (k', v') :: set t k v

-- Sets a value in a list that is kept in the order of its keys.
def insert (before : κ → κ → Bool) (t : Assoc κ α) (k : κ) (v : α) : Assoc κ α :=
  match t with
  | [] => [(k, v)]
  | (k', v') :: t =>
    if k' = k then (k', v) :: t
    else if before k k' then (k, v) :: (k', v') :: t
    else (k', v') :: insert before t k v

def erase (t : Assoc κ α) (k : κ) : Assoc κ α :=
  t.filter (·.1 ≠ k)

@[simp] theorem get?_nil (k : κ) : get? ([] : Assoc κ α) k = none := rfl

@[simp] theorem get?_set_self (t : Assoc κ α) (k : κ) (v : α) : get? (set t k v) k = some v := by
  induction t with
  | nil => simp [set, get?]
  | cons p t ih => by_cases h : p.1 = k <;> simp [set, get?, h, ih]

theorem get?_set_of_ne (t : Assoc κ α) {k k' : κ} (v : α) (h : k ≠ k') :
    get? (set t k v) k' = get? t k' := by
  induction t with
  | nil => simp [set, get?, h]
  | cons p t ih =>
    by_cases hk : p.1 = k
    case pos => simp [set, get?, hk, h]
    case neg => simp only [set, hk, if_false, get?, ih]

@[simp] theorem get?_erase_self (t : Assoc κ α) (k : κ) : get? (erase t k) k = none := by
  induction t with
  | nil => rfl
  | cons p t ih =>
    by_cases h : p.1 = k
    case pos => simpa [erase, h] using ih
    case neg => simpa [erase, get?, h] using ih

theorem get?_erase_of_ne (t : Assoc κ α) {k k' : κ} (h : k ≠ k') :
    get? (erase t k) k' = get? t k' := by
  induction t with
  | nil => rfl
  | cons p t ih =>
    by_cases hk : p.1 = k
    case pos => simpa [erase, get?, hk, h] using ih
    case neg => by_cases hk' : p.1 = k' <;> simp_all [erase, get?]

theorem get?_append (t u : Assoc κ α) (k : κ) : get? (t ++ u) k = (get? t k).or (get? u k) := by
  induction t with
  | nil => rfl
  | cons p t ih => by_cases hk : p.1 = k <;> simp [get?, hk, ih]

theorem mem_of_get? {t : Assoc κ α} {k : κ} {v : α} (h : get? t k = some v) : (k, v) ∈ t := by
  induction t with
  | nil => simp at h
  | cons p t ih =>
    by_cases hk : p.1 = k
    case pos =>
      simp only [get?, hk, if_true, Option.some.injEq] at h
      exact List.mem_cons.mpr (.inl (by rw [← hk, ← h]))
    case neg =>
      simp only [get?, hk, if_false] at h
      exact List.mem_cons_of_mem _ (ih h)

theorem get?_of_forall_ne {t : Assoc κ α} {k : κ} (h : ∀ e ∈ t, e.1 ≠ k) : get? t k = none :=
  Option.eq_none_iff_forall_ne_some.mpr fun _ hv => h _ (mem_of_get? hv) rfl

def keys (t : Assoc κ α) : List κ :=
  t.map Prod.fst

theorem mem_keys_iff {t : Assoc κ α} {k : κ} : k ∈ t.keys ↔ (t.get? k).isSome := by
  induction t with
  | nil => simp [keys]
  | cons p t ih =>
    by_cases hk : p.1 = k
    case pos => simp [keys, get?, hk]
    case neg => simpa [keys, get?, hk, Ne.symm hk] using ih

theorem keys_erase (t : Assoc κ α) (k : κ) : (t.erase k).keys = t.keys.filter (· ≠ k) := by
  simp [keys, erase, List.filter_map, Function.comp_def]

theorem keys_set_of_mem {t : Assoc κ α} {k : κ} (v : α) (h : k ∈ t.keys) :
    (t.set k v).keys = t.keys := by
  induction t with
  | nil => simp [keys] at h
  | cons p t ih =>
    by_cases hk : p.1 = k
    case pos => simp [set, keys, hk]
    case neg =>
      have ht : k ∈ keys t := by simpa [keys, Ne.symm hk] using h
      simpa [set, keys, hk] using ih ht

theorem keys_set_of_not_mem {t : Assoc κ α} {k : κ} (v : α) (h : k ∉ t.keys) :
    (t.set k v).keys = t.keys ++ [k] := by
  induction t with
  | nil => rfl
  | cons p t ih =>
    have hk : p.1 ≠ k := fun he => h (by simp [keys, he])
    have ht : k ∉ keys t := fun hm => h (List.mem_cons_of_mem _ hm)
    simpa [set, keys, hk] using ih ht

theorem nodup_keys_set {t : Assoc κ α} (k : κ) (v : α) (h : t.keys.Nodup) :
    (t.set k v).keys.Nodup := by
  by_cases hk : k ∈ t.keys
  case pos => exact keys_set_of_mem v hk ▸ h
  case neg =>
    rw [keys_set_of_not_mem v hk, List.nodup_append]
    refine ⟨h, by simp, ?_⟩
    intro a ha b hb he
    exact hk (List.mem_singleton.mp hb ▸ he ▸ ha)

end Assoc

end UiMarkup
