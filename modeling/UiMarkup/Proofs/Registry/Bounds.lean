import UiMarkup.Registry.Style

namespace UiMarkup.Registry

variable {r r' : Registry} {id : ScopeId}

structure Sound (r : Registry) : Prop where
  styles : ∀ {i s name style}, r.scope? i = some s → s.get? .style name = some style →
    style.index < r.styles.size
  strays : r.strays = []

theorem sound_empty : empty.Sound where
  styles := by
    intro i s name style hs hn
    obtain ⟨n⟩ := i
    cases n
    case zero   => cases hs; cases hn
    case succ n => simp [scope?, empty] at hs
  strays := rfl

theorem exists_of_scope?_modify {f : Scope → Scope} {i : ScopeId} {s : Scope}
    (h : (r.scopes.modify id.index f)[i.index]? = some s) :
    ∃ s₀, r.scope? i = some s₀ ∧ (s = s₀ ∨ i = id ∧ s = f s₀) := by
  rw [Array.getElem?_modify] at h
  split at h
  case isTrue hi =>
    obtain ⟨s₀, hs₀, hs⟩ := Option.map_eq_some_iff.mp h
    exact ⟨s₀, hs₀, .inr ⟨by cases i; cases id; simp_all, hs.symm⟩⟩
  case isFalse => exact ⟨s, h, .inl rfl⟩

theorem Sound.modifyScope (h : r.Sound) {f : Scope → Scope} (hr : r.modifyScope id f = .ok r')
    (hf : ∀ s name, (f s).get? .style name = s.get? .style name) : r'.Sound := by
  unfold Registry.modifyScope at hr
  split at hr
  case isFalse => cases hr
  case isTrue =>
    cases hr
    refine { h with styles := ?_ }
    intro i s name style hs hn
    obtain ⟨s₀, hs₀, hmod⟩ := exists_of_scope?_modify hs
    cases hmod
    case inl he => exact h.styles hs₀ (he ▸ hn)
    case inr he => exact h.styles hs₀ ((hf s₀ name).symm.trans (he.2 ▸ hn))

theorem Sound.register (h : r.Sound) {kind : EntryKind} (hk : kind ≠ .style)
    {scope : Option ScopeId} {name : String} {value : kind.Value}
    (hr : r.register kind scope name value = .ok r') : r'.Sound :=
  h.modifyScope hr fun s name' => s.get?_set_of_kind_ne name name' value hk

theorem Sound.registerParam (h : r.Sound) {name : String} {default : Option String}
    (hr : r.registerParam id name default = .ok r') : r'.Sound :=
  h.modifyScope hr fun _ _ => rfl

theorem Sound.setComponent (h : r.Sound) {c : Component} (hr : r.setComponent id c = .ok r') :
    r'.Sound :=
  h.modifyScope hr fun _ _ => rfl

theorem Sound.ensureScope (h : r.Sound) (name : String) : (r.ensureScope name).2.Sound := by
  unfold Registry.ensureScope
  split
  case h_1 => exact h
  case h_2 =>
    refine { h with styles := ?_ }
    intro i s name style hs hn
    simp only [scope?, Array.getElem?_push] at hs
    split at hs
    case isTrue  => cases hs; cases hn
    case isFalse => exact h.styles hs hn

theorem Sound.ensureStyle (h : r.Sound) {s : Scope} (hs : r.scope? id = some s) (name : String) :
    let out := (r.ensureStyle id s name).value
    out.2.Sound ∧ out.1.index < out.2.styles.size := by
  unfold Registry.ensureStyle
  split
  case h_1 style hn => exact ⟨h, h.styles hs hn⟩
  case h_2 =>
    refine ⟨{ h with styles := ?_ }, by simp⟩
    intro i s' name' style' hs' hn'
    simp only [Noted.value_pure, Array.size_push]
    obtain ⟨s₀, hs₀, hmod⟩ := exists_of_scope?_modify hs'
    cases hmod
    case inl he => exact Nat.lt_succ_of_lt (h.styles hs₀ (he ▸ hn'))
    case inr he =>
      rw [he.2] at hn'
      by_cases hname : name = name'
      case pos =>
        rw [hname, Scope.get?_set_self] at hn'
        exact Option.some.inj hn' ▸ Nat.lt_succ_self _
      case neg =>
        rw [Scope.get?_set_of_name_ne _ _ _ hname] at hn'
        exact Nat.lt_succ_of_lt (h.styles hs₀ hn')

theorem Sound.restyle (h : r.Sound) {id : StyleId} (hid : id.index < r.styles.size)
    (style : Style) : (r.restyle id style).Sound := by
  rw [Registry.restyle, if_pos hid]
  exact { h with styles := fun hs hn => by simpa using h.styles hs hn }

theorem Sound.registerStyle (h : r.Sound) {scope : Option ScopeId} {attrs : Attrs} {style : StyleId}
    (hr : (r.registerStyle scope attrs).value = .ok (style, r')) : r'.Sound := by
  unfold Registry.registerStyle at hr
  split at hr
  case h_1 => cases hr
  case h_2 name _ =>
    dsimp only at hr
    split at hr
    case h_1 => cases hr
    case h_2 s hs =>
      have ⟨hsound, hlt⟩ := h.ensureStyle hs name
      cases hr
      exact hsound.restyle hlt _

end UiMarkup.Registry
