import UiMarkup.Proofs.Registry.Bounds
import UiMarkup.Proofs.Registry.History

namespace UiMarkup

namespace Assoc

variable {κ α : Type} [DecidableEq κ] {t : Assoc κ α} {k : κ} {v : α}

theorem mem_of_mem_set {p : κ × α} (h : p ∈ t.set k v) : p = (k, v) ∨ p ∈ t := by
  induction t
  case nil => exact .inl (List.mem_singleton.mp h)
  case cons q t hi =>
    by_cases hq : q.1 = k
    case pos =>
      simp only [set, hq, if_true, List.mem_cons] at h
      exact h.imp_right (.tail _)
    case neg =>
      simp only [set, hq, if_false, List.mem_cons] at h
      cases h
      case inl h => exact .inr (h ▸ .head _)
      case inr h => exact (hi h).imp_right (.tail _)

theorem mem_set_of_ne {p : κ × α} (h : p ∈ t) (hp : p.1 ≠ k) : p ∈ t.set k v := by
  induction t
  case nil => cases h
  case cons q t hi =>
    by_cases hq : q.1 = k
    case pos =>
      have ht : p ∈ t := (List.mem_cons.mp h).resolve_left fun he => hp (he ▸ hq)
      simpa [set, hq] using .inr ht
    case neg =>
      simp only [set, hq, if_false, List.mem_cons]
      exact (List.mem_cons.mp h).imp_right hi

theorem get?_of_mem (hk : t.keys.Nodup) (h : (k, v) ∈ t) : t.get? k = some v := by
  induction t
  case nil => cases h
  case cons q t hi =>
    obtain ⟨hq, ht⟩ := List.nodup_cons.mp hk
    cases List.mem_cons.mp h
    case inl he => simp [get?, ← he]
    case inr hm =>
      have hne : q.1 ≠ k := fun he => hq (he ▸ List.mem_map_of_mem hm)
      simpa [get?, hne] using hi ht hm

end Assoc

namespace Registry

variable {r r' : Registry} {id : ScopeId}

-- Names and styles are tied both ways.
structure Linked (r : Registry) : Prop where
  keys   : ∀ {i s}, r.scope? i = some s → s.styles.keys.Nodup
  named  : ∀ {i s name style}, r.scope? i = some s → (name, style) ∈ s.styles →
    ∃ e, r.style? style = some e ∧ e.name = name ∧ e.scope = i ∧
      e.longName = s.name ++ "." ++ name
  listed : ∀ {style e}, r.style? style = some e →
    ∃ s, r.scope? e.scope = some s ∧ (e.name, style) ∈ s.styles

structure KeepsStyles (r r' : Registry) : Prop where
  style : ∀ {style e}, r.style? style = some e →
    ∃ e', r'.style? style = some e' ∧ e'.name = e.name ∧ e'.longName = e.longName ∧
      e'.scope = e.scope

namespace KeepsStyles

theorem of_styles (h : r'.styles = r.styles) : r.KeepsStyles r' where
  style := fun he => ⟨_, (congrArg (·[_]?) h).trans he, rfl, rfl, rfl⟩

theorem refl : r.KeepsStyles r :=
  .of_styles rfl

theorem trans {r₁ r₂ r₃ : Registry} (h₁ : r₁.KeepsStyles r₂) (h₂ : r₂.KeepsStyles r₃) :
    r₁.KeepsStyles r₃ where
  style := by
    intro style e he
    obtain ⟨e', he', hname', hlong', hscope'⟩ := h₁.style he
    obtain ⟨e'', he'', hname, hlong, hscope⟩ := h₂.style he'
    exact ⟨e'', he'', hname.trans hname', hlong.trans hlong', hscope.trans hscope'⟩

end KeepsStyles

theorem Linked.style_unique (h : r.Linked) {style style' : StyleId} {e e' : StyleEntry}
    (he : r.style? style = some e) (he' : r.style? style' = some e') (hscope : e.scope = e'.scope)
    (hname : e.name = e'.name) : style = style' := by
  obtain ⟨s, hs, hm⟩ := h.listed he
  obtain ⟨s', hs', hm'⟩ := h.listed he'
  have hsame : s = s' := Option.some.inj (hs.symm.trans (hscope ▸ hs'))
  have hget := Assoc.get?_of_mem (h.keys hs) hm
  have hget' := Assoc.get?_of_mem (h.keys hs) (hname ▸ hsame ▸ hm')
  exact Option.some.inj (hget.symm.trans hget')

theorem linked_empty : empty.Linked := by
  have hno {i : ScopeId} {s : Scope} (h : empty.scope? i = some s) : s.styles = [] := by
    obtain ⟨n⟩ := i
    cases n
    case zero   => cases h; rfl
    case succ n => simp [scope?, empty] at h
  constructor
  case keys   => exact fun h => hno h ▸ List.nodup_nil
  case named  => exact fun h hm => by simp [hno h] at hm
  case listed => exact fun h => by simp [style?, empty] at h

theorem Linked.modifyScope (h : r.Linked) {f : Scope → Scope} (hr : r.modifyScope id f = .ok r')
    (hf : ∀ s, (f s).name = s.name ∧ (f s).styles = s.styles) : r'.Linked := by
  obtain ⟨-, rfl⟩ := modifyScope_eq_ok hr
  -- The scope was there before, with the same name and the same styles.
  have hback {i : ScopeId} {s : Scope} (hs : (r.scopes.modify id.index f)[i.index]? = some s) :
      ∃ s₀, r.scope? i = some s₀ ∧ s.name = s₀.name ∧ s.styles = s₀.styles := by
    obtain ⟨s₀, hs₀, hmod⟩ := exists_of_scope?_modify hs
    cases hmod
    case inl he => exact ⟨s₀, hs₀, he ▸ ⟨rfl, rfl⟩⟩
    case inr he => exact ⟨s₀, hs₀, he.2 ▸ hf s₀⟩
  constructor
  case keys =>
    intro i s hs
    obtain ⟨s₀, hs₀, -, hstyles⟩ := hback hs
    exact hstyles ▸ h.keys hs₀
  case named =>
    intro i s name style hs hm
    obtain ⟨s₀, hs₀, hname, hstyles⟩ := hback hs
    exact hname ▸ h.named hs₀ (hstyles ▸ hm)
  case listed =>
    intro style e he
    obtain ⟨s, hs, hm⟩ := h.listed he
    rw [scope?, scope?_modify, hs]
    split
    case isTrue  => exact ⟨f s, rfl, (hf s).2 ▸ hm⟩
    case isFalse => exact ⟨s, rfl, hm⟩

theorem Linked.ensureScope (h : r.Linked) (name : String) : (r.ensureScope name).2.Linked := by
  unfold Registry.ensureScope
  split
  case h_1 => exact h
  case h_2 =>
    have hback {i : ScopeId} {s : Scope} (hs : (r.scopes.push { name })[i.index]? = some s) :
        r.scope? i = some s ∨ s.styles = [] := by
      rw [Array.getElem?_push] at hs
      split at hs
      case isTrue  => cases hs; exact .inr rfl
      case isFalse => exact .inl hs
    constructor
    case keys =>
      intro i s hs
      cases hback hs
      case inl hs => exact h.keys hs
      case inr hn => exact hn ▸ List.nodup_nil
    case named =>
      intro i s name style hs hm
      cases hback hs
      case inl hs => exact h.named hs hm
      case inr hn => simp [hn] at hm
    case listed =>
      intro style e he
      obtain ⟨s, hs, hm⟩ := h.listed he
      have hlt : e.scope.index < r.scopes.size := (Array.getElem?_eq_some_iff.mp hs).1
      exact ⟨s, by simpa [scope?, Array.getElem?_push, Nat.ne_of_lt hlt] using hs, hm⟩

theorem keepsStyles_modifyScope {f : Scope → Scope} (hr : r.modifyScope id f = .ok r') :
    r.KeepsStyles r' := by
  obtain ⟨-, rfl⟩ := modifyScope_eq_ok hr
  exact .of_styles rfl

theorem keepsStyles_ensureScope (name : String) : r.KeepsStyles (r.ensureScope name).2 := by
  unfold Registry.ensureScope
  split
  case h_1 => exact .refl
  case h_2 => exact .of_styles rfl

-- A new style gets its place in both: among the styles, and under its name in the scope.

section NewStyle

variable {s : Scope} {name : String}

def withStyle (r : Registry) (id : ScopeId) (s : Scope) (name : String) : Registry where
  scopes := r.scopes.modify id.index (·.set .style name ⟨r.styles.size⟩)
  styles := r.styles.push
    { name, longName := s.name ++ "." ++ name, scope := id, style := .empty }
  strays := r.strays

theorem ensureStyle_of_none (hnone : s.get? .style name = none) :
    (r.ensureStyle id s name).value.2 = r.withStyle id s name := by
  rw [ensureStyle, hnone]
  rfl

theorem scope?_withStyle (i : ScopeId) :
    (r.withStyle id s name).scope? i =
      if i = id then (r.scope? i).map (·.set .style name ⟨r.styles.size⟩) else r.scope? i :=
  scope?_modify _ i

theorem style?_withStyle {style : StyleId} {e : StyleEntry} :
    (r.withStyle id s name).style? style = some e ↔ r.style? style = some e ∨
      style = ⟨r.styles.size⟩ ∧
        e = { name, longName := s.name ++ "." ++ name, scope := id, style := .empty } := by
  have hindex : style = ⟨r.styles.size⟩ ↔ style.index = r.styles.size := by
    cases style; simp
  rw [hindex, style?, withStyle, Array.getElem?_push]
  split
  case isTrue h  => simp [style?, h, eq_comm]
  case isFalse h => simp [style?, h]

variable (h : r.Linked) (hs : r.scope? id = some s)
include h hs

theorem named_withStyle {i : ScopeId} {s' : Scope} {name' : String} {style : StyleId}
    (hs' : (r.withStyle id s name).scope? i = some s') (hm : (name', style) ∈ s'.styles) :
    ∃ e, (r.withStyle id s name).style? style = some e ∧ e.name = name' ∧ e.scope = i ∧
      e.longName = s'.name ++ "." ++ name' := by
  have hold {s₀ : Scope} (hs₀ : r.scope? i = some s₀) (hm : (name', style) ∈ s₀.styles) :
      ∃ e, (r.withStyle id s name).style? style = some e ∧ e.name = name' ∧ e.scope = i ∧
        e.longName = s₀.name ++ "." ++ name' := by
    obtain ⟨e, he, hcalled⟩ := h.named hs₀ hm
    exact ⟨e, style?_withStyle.mpr (.inl he), hcalled⟩
  rw [scope?_withStyle] at hs'
  split at hs'
  case isFalse => exact hold hs' hm
  case isTrue hi =>
    cases hi
    rw [hs] at hs'
    cases hs'
    cases Assoc.mem_of_mem_set hm
    case inl he => cases he; exact ⟨_, style?_withStyle.mpr (.inr ⟨rfl, rfl⟩), rfl, rfl, rfl⟩
    case inr hm =>
      have hcalled := hold hs hm
      exact hcalled

-- The name was free, so a new style does not take the place of another one.
theorem listed_withStyle (hnone : s.get? .style name = none) {style : StyleId} {e : StyleEntry}
    (he : (r.withStyle id s name).style? style = some e) :
    ∃ s', (r.withStyle id s name).scope? e.scope = some s' ∧ (e.name, style) ∈ s'.styles := by
  rw [scope?_withStyle]
  cases style?_withStyle.mp he
  case inl he =>
    obtain ⟨s₀, hs₀, hm⟩ := h.listed he
    rw [hs₀]
    split
    case isFalse       => exact ⟨s₀, rfl, hm⟩
    case isTrue hscope =>
      cases hs.symm.trans (hscope ▸ hs₀)
      have hne : e.name ≠ name := by
        intro hname
        have hget := Assoc.get?_of_mem (h.keys hs) hm
        cases hnone.symm.trans (hname ▸ hget)
      exact ⟨_, rfl, Assoc.mem_set_of_ne hm hne⟩
  case inr hnew =>
    obtain ⟨rfl, rfl⟩ := hnew
    rw [if_pos rfl, hs]
    exact ⟨_, rfl, Assoc.mem_of_get? (Assoc.get?_set_self ..)⟩

theorem keys_withStyle {i : ScopeId} {s' : Scope}
    (hs' : (r.withStyle id s name).scope? i = some s') : s'.styles.keys.Nodup := by
  rw [scope?_withStyle] at hs'
  split at hs'
  case isFalse => exact h.keys hs'
  case isTrue hi =>
    cases hi
    rw [hs] at hs'
    cases hs'
    exact Assoc.nodup_keys_set _ _ (h.keys hs)

theorem Linked.ensureStyle (name : String) : (r.ensureStyle id s name).value.2.Linked := by
  cases hget : s.get? .style name
  case some style =>
    rw [Registry.ensureStyle, hget]
    exact h
  case none =>
    rw [ensureStyle_of_none hget]
    exact ⟨keys_withStyle h hs, named_withStyle h hs, listed_withStyle h hs hget⟩

end NewStyle

theorem keepsStyles_ensureStyle (s : Scope) (name : String) :
    r.KeepsStyles (r.ensureStyle id s name).value.2 := by
  cases hget : s.get? .style name
  case some style =>
    rw [Registry.ensureStyle, hget]
    exact .refl
  case none =>
    rw [ensureStyle_of_none hget]
    exact ⟨fun he => ⟨_, style?_withStyle.mpr (.inl he), rfl, rfl, rfl⟩⟩

theorem style?_restyle (id : StyleId) (style : Style) (i : StyleId) :
    (r.restyle id style).style? i =
      (r.style? i).map fun e => if i = id then { e with style } else e := by
  have hindex : i = id ↔ id.index = i.index := by
    cases i; cases id; simp [eq_comm]
  unfold restyle
  split
  case isTrue =>
    rw [style?, style?, Array.getElem?_modify]
    split
    case isTrue hi  => simp only [hindex.mpr hi, if_true]
    case isFalse hi => simp only [mt hindex.mp hi, if_false, Option.map_id']
  case isFalse hlt =>
    cases he : r.style? i
    case none   => exact he
    case some e =>
      have hi : i.index < r.styles.size := (Array.getElem?_eq_some_iff.mp he).1
      have hne : i ≠ id := fun h => hlt (h ▸ hi)
      rw [Option.map_some, if_neg hne]
      exact he

theorem keepsStyles_restyle (id : StyleId) (style : Style) :
    r.KeepsStyles (r.restyle id style) where
  style := by
    intro i e he
    rw [style?_restyle, he]
    exact ⟨_, rfl, by split <;> exact ⟨rfl, rfl, rfl⟩⟩

theorem Linked.restyle (h : r.Linked) (id : StyleId) (style : Style) :
    (r.restyle id style).Linked := by
  have hscope (i : ScopeId) : (r.restyle id style).scope? i = r.scope? i :=
    congrArg (·[i.index]?) (scopes_restyle id style)
  constructor
  case keys => exact fun hs => h.keys (hscope _ ▸ hs)
  case named =>
    intro i s name i' hs hm
    obtain ⟨e, he, hname, hi, hlong⟩ := h.named (hscope i ▸ hs) hm
    obtain ⟨e', he', hname', hlong', hi'⟩ := (keepsStyles_restyle id style).style he
    exact ⟨e', he', hname'.trans hname, hi'.trans hi, hlong'.trans hlong⟩
  case listed =>
    intro i e' he'
    rw [style?_restyle] at he'
    obtain ⟨e, he, rfl⟩ := Option.map_eq_some_iff.mp he'
    obtain ⟨s, hs, hm⟩ := h.listed he
    exact ⟨s, by rw [hscope]; split <;> exact hs, by split <;> exact hm⟩

theorem Linked.run (h : r.Linked) (c : Call) : (c.run r).Linked := by
  have hsettle {result : Except RegistryError Registry}
      (hr : ∀ r', result = .ok r' → r'.Linked) : (Call.run.settle r result).Linked :=
    Call.run.settle_cases (motive := Linked) h hr
  cases c
  case ensureScope name => exact h.ensureScope name
  case register kind given _ name value =>
    refine hsettle fun _ hr => h.modifyScope hr fun s => ⟨s.name_set .., ?_⟩
    exact s.table_withTable_of_ne _ given
  case registerStyle =>
    refine hsettle fun _ hr => ?_
    obtain ⟨name, s, extended, -, hs, rfl⟩ := registerStyle_eq_ok hr
    exact (h.ensureStyle hs name).restyle _ extended
  case registerParam => exact hsettle fun _ hr => h.modifyScope hr fun _ => ⟨rfl, rfl⟩
  case setComponent  => exact hsettle fun _ hr => h.modifyScope hr fun _ => ⟨rfl, rfl⟩

theorem keepsStyles_run (c : Call) : r.KeepsStyles (c.run r) := by
  have hsettle {result : Except RegistryError Registry}
      (hr : ∀ r', result = .ok r' → r.KeepsStyles r') :
      r.KeepsStyles (Call.run.settle r result) :=
    Call.run.settle_cases (motive := r.KeepsStyles) .refl hr
  cases c
  case ensureScope name => exact keepsStyles_ensureScope name
  case registerStyle =>
    refine hsettle fun _ hr => ?_
    obtain ⟨name, s, extended, -, -, rfl⟩ := registerStyle_eq_ok hr
    exact (keepsStyles_ensureStyle s name).trans (keepsStyles_restyle _ extended)
  all_goals exact hsettle fun _ => keepsStyles_modifyScope

namespace History

theorem linked (h : History) : h.registry.Linked := by
  induction h
  case nil               => exact linked_empty
  case cons c earlier hi => exact hi.run c

theorem keepsStyles (later h : History) : h.registry.KeepsStyles (later ++ h).registry := by
  induction later
  case nil             => exact .refl
  case cons c later hi => exact hi.trans (keepsStyles_run c)

theorem name_globals (h : History) :
    (h.registry.scope? .globals).map (·.name) = some "globals" := by
  have hnames : h.registry.names.head? = some "globals" :=
    h.names_registry ▸ h.head?_scopeNames
  simpa [names, scope?, ScopeId.globals, List.head?_eq_getElem?] using hnames

theorem styles_under_their_names (h : History) :
    (h.registry.scope? .globals).map (·.name) = some "globals" ∧
    h.registry.names.Nodup ∧
    h.registry.Linked ∧
    (∀ style style' e e', h.registry.style? style = some e → h.registry.style? style' = some e' →
      e.scope = e'.scope → e.name = e'.name → style = style') ∧
    ∀ later : History, h.registry.KeepsStyles (later ++ h).registry :=
  ⟨h.name_globals, h.names_registry ▸ h.nodup_scopeNames, h.linked,
    fun _ _ _ _ => h.linked.style_unique, fun later => keepsStyles later h⟩

end History

end Registry

end UiMarkup
