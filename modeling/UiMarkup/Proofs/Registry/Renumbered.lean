import Mathlib.Logic.Equiv.Basic
import UiMarkup.Proofs.Registry.History
import UiMarkup.Proofs.Widget.Alike

namespace UiMarkup

abbrev Renumbering := Equiv.Perm ScopeId

def StyleEntry.renumber (π : Renumbering) (e : StyleEntry) : StyleEntry :=
  { e with scope := π e.scope }

namespace Registry

def knows (r : Registry) (id : ScopeId) : Prop :=
  id.index < r.scopes.size

variable {π : Renumbering} {r r₁ r₂ : Registry} {id : ScopeId}

theorem knows_iff : r.knows id ↔ (r.scope? id).isSome := by
  simp [knows, scope?]

theorem knows_of_componentScope? {name : String} (h : r.componentScope? name = some id) :
    r.knows id := by
  have hsome : (r.component? id).isSome := (Option.filter_eq_some_iff.mp h).2
  rw [knows_iff]
  cases hs : r.scope? id
  case none   => simp [component?, hs] at hsome
  case some _ => rfl

-- Scopes that are matched hold the same, and names stand for scopes that are matched.
structure Renumbered (π : Renumbering) (r₁ r₂ : Registry) : Prop where
  globals : π .globals = .globals
  scope   : ∀ id, r₂.scope? (π id) = r₁.scope? id
  named   : ∀ name, r₂.scopeByName? name = (r₁.scopeByName? name).map π
  styles  : r₂.styles = r₁.styles.map (·.renumber π)
  strays  : r₂.strays = r₁.strays

-- What a registration comes to in both registries: the same error, which does not name a scope by
-- its number, or registries that differ in the numbers only.
inductive Matched (π : Renumbering) (r : Registry) :
    Except RegistryError Registry → Except RegistryError Registry → Prop
  | error (e : RegistryError) : Matched π r (.error e) (.error e)
  | ok {r₁ r₂ : Registry} : r₁.Renumbered π r₂ → r₁.scopes.size = r.scopes.size →
    Matched π r (.ok r₁) (.ok r₂)

theorem Renumbered.refl : r.Renumbered (Equiv.refl _) r where
  globals := rfl
  scope   := fun _ => rfl
  named   := fun _ => (Option.map_id_apply).symm
  styles  := (Array.map_id _).symm
  strays  := rfl

theorem Renumbered.of_eq (h : r₁ = r₂) : r₁.Renumbered (Equiv.refl _) r₂ :=
  h ▸ .refl

-- Where every scope keeps its number nothing differs.
theorem Renumbered.eq_of_refl (h : Renumbered (Equiv.refl _) r₁ r₂) : r₂ = r₁ := by
  have hscopes : r₂.scopes = r₁.scopes := by
    apply Array.ext_getElem?
    exact fun i => h.scope ⟨i⟩
  have hstyles : r₂.styles = r₁.styles := h.styles.trans (Array.map_id _)
  have hstrays := h.strays
  cases r₁
  cases r₂
  simp_all

namespace Renumbered

variable (h : r₁.Renumbered π r₂)
include h

theorem entry? (kind : EntryKind) (id : ScopeId) : r₂.entry? kind (π id) = r₁.entry? kind id := by
  funext name
  unfold Registry.entry?
  rw [h.scope]

theorem entries_globals (kind : EntryKind) : r₂.entry? kind .globals = r₁.entry? kind .globals := by
  rw [← h.entry?, h.globals]

theorem lookup? (kind : EntryKind) (id : ScopeId) :
    r₂.lookup? kind (some (π id)) = r₁.lookup? kind (some id) := by
  funext name
  unfold Registry.lookup?
  rw [h.entries_globals, Option.getD_some, Option.getD_some, h.entry?]

theorem lookup?_globals (kind : EntryKind) : r₂.lookup? kind none = r₁.lookup? kind none := by
  funext name
  unfold Registry.lookup?
  rw [Option.getD_none, h.entries_globals]

theorem find? (kind : EntryKind) (id : ScopeId) : r₂.find? kind (π id) = r₁.find? kind id := by
  funext name
  unfold Registry.find?
  rw [h.lookup?]

theorem const? (id : ScopeId) : r₂.const? (some (π id)) = r₁.const? (some id) := by
  funext name
  unfold Registry.const?
  split
  case h_1 => rw [h.lookup?]
  case h_2 qualifier bare _ =>
    rw [h.named]
    cases r₁.scopeByName? qualifier
    case none    => rfl
    case some id => exact congrArg pure (congrFun (h.entry? .const id) bare)

theorem resolve? (id : ScopeId) : r₂.resolve? (π id) = r₁.resolve? id := by
  funext text
  unfold Registry.resolve?
  rw [h.const?]

theorem styleValue? (id : ScopeId) : r₂.styleValue? (π id) = r₁.styleValue? id := by
  funext p text
  unfold Registry.styleValue?
  rw [h.find?, h.find?, h.find?]

theorem findStyle (id : ScopeId) : r₂.findStyle (some (π id)) = r₁.findStyle (some id) := by
  funext name
  unfold Registry.findStyle
  cases Text.cutLast? '.' name
  case none => simp only [pure_bind, h.lookup?]
  case some q =>
    dsimp only
    rw [h.named]
    cases r₁.scopeByName? q.1
    case none    => simp only [Option.map_none, Bind.bind, Noted.because, h.lookup?_globals]
    case some id => simp only [Option.map_some, pure_bind, h.lookup?]

theorem style? (id : StyleId) : r₂.style? id = (r₁.style? id).map (·.renumber π) := by
  unfold Registry.style?
  rw [h.styles, Array.getElem?_map]

theorem component? (id : ScopeId) : r₂.component? (π id) = r₁.component? id := by
  unfold Registry.component?
  rw [h.scope]

theorem params (id : ScopeId) : r₂.params (π id) = r₁.params id := by
  unfold Registry.params
  rw [h.scope]

theorem scopeName (id : ScopeId) : r₂.scopeName (π id) = r₁.scopeName id := by
  unfold Registry.scopeName
  rw [h.scope]

theorem componentScope? (name : String) :
    r₂.componentScope? name = (r₁.componentScope? name).map π := by
  unfold Registry.componentScope?
  rw [h.named]
  cases r₁.scopeByName? name
  case none    => rfl
  case some id => simp only [Option.map_some, Option.filter_some, h.component?]; split <;> rfl

theorem alike (id : ScopeId) (kinds : SubjectId → Option SubjectKind) :
    Env.Alike ⟨r₁, id, kinds⟩ ⟨r₂, π id, kinds⟩ where
  subjectKind := rfl
  style       := fun id => by simp [h.style?, StyleEntry.renumber, Function.comp_def]
  lookup      := fun kind name => (congrFun (h.lookup? kind id) name).symm
  findStyle   := (h.findStyle id).symm
  timeline    := by
    funext name
    unfold Modifier.timeline
    cases Text.cutLast? '.' name
    case none   => simp only [h.lookup?]
    case some q =>
      dsimp only
      rw [h.named]
      cases r₁.scopeByName? q.1
      case none    => rfl
      case some id => simp only [Option.map_some, Option.bind_some, h.lookup?]

theorem knows_iff (id : ScopeId) : r₂.knows (π id) ↔ r₁.knows id := by
  rw [Registry.knows_iff, Registry.knows_iff, h.scope]

theorem modify (id : ScopeId) {f : Scope → Scope} (hf : ∀ s, (f s).name = s.name) :
    Renumbered π { r₁ with scopes := r₁.scopes.modify id.index f }
      { r₂ with scopes := r₂.scopes.modify (π id).index f } where
  globals := h.globals
  scope   := by
    intro i
    have hmodify (r : Registry) (id i : ScopeId) :
        Registry.scope? { r with scopes := r.scopes.modify id.index f } i =
          if i = id then (r.scope? i).map f else r.scope? i := scope?_modify f i
    rw [hmodify, hmodify, h.scope]
    simp only [π.injective.eq_iff]
  named   := by
    intro name
    have hnames (r : Registry) (id : ScopeId) :
        Registry.scopeByName? { r with scopes := r.scopes.modify id.index f } name =
          r.scopeByName? name := by
      rw [scopeByName?_eq, scopeByName?_eq, names, map_modify _ _ hf]
      rfl
    rw [hnames, hnames, h.named]
  styles  := h.styles
  strays  := h.strays

theorem modifyScope (hid : r₁.knows id) {f : Scope → Scope} (hf : ∀ s, (f s).name = s.name) :
    Matched π r₁ (r₁.modifyScope id f) (r₂.modifyScope (π id) f) := by
  have hid₂ : r₂.knows (π id) := (h.knows_iff id).mpr hid
  unfold Registry.modifyScope
  rw [if_pos (show id.index < _ from hid), if_pos (show (π id).index < _ from hid₂)]
  exact .ok (h.modify id hf) (Array.size_modify ..)

theorem register (hid : r₁.knows id) (kind : EntryKind) (name : String) (value : kind.Value) :
    Matched π r₁ (r₁.register kind (some id) name value)
      (r₂.register kind (some (π id)) name value) :=
  h.modifyScope hid fun s => s.name_set kind name value

theorem registerParam (hid : r₁.knows id) (name : String) (default : Option String) :
    Matched π r₁ (r₁.registerParam id name default) (r₂.registerParam (π id) name default) :=
  h.modifyScope hid fun _ => rfl

theorem applyStyleAttr (id : ScopeId) : r₂.applyStyleAttr (π id) = r₁.applyStyleAttr id := by
  funext style attr
  unfold Registry.applyStyleAttr Registry.setProp
  rw [h.resolve?, h.styleValue?]

theorem size_styles : r₂.styles.size = r₁.styles.size := by
  rw [h.styles, Array.size_map]

theorem ensureStyle (id : ScopeId) (s : Scope) (name : String) :
    let out₁ := r₁.ensureStyle id s name
    let out₂ := r₂.ensureStyle (π id) s name
    out₂.notes = out₁.notes ∧ out₂.value.1 = out₁.value.1 ∧
      out₁.value.2.Renumbered π out₂.value.2 ∧
      out₁.value.2.scopes.size = r₁.scopes.size := by
  unfold Registry.ensureStyle
  dsimp only
  split
  case h_1 => exact ⟨rfl, rfl, h, rfl⟩
  case h_2 =>
    have hmodify := h.modify id (f := (·.set .style name ⟨r₁.styles.size⟩)) fun s => s.name_set ..
    rw [h.size_styles]
    refine ⟨rfl, rfl, { hmodify with styles := ?_ }, Array.size_modify ..⟩
    simp [h.styles, StyleEntry.renumber]

theorem restyle (id : StyleId) (style : Style) :
    (r₁.restyle id style).Renumbered π (r₂.restyle id style) := by
  unfold Registry.restyle
  rw [h.size_styles]
  split
  case isTrue =>
    refine { h with styles := ?_ }
    apply Array.ext_getElem?
    intro i
    simp only [h.styles, Array.getElem?_map, Array.getElem?_modify]
    split <;> simp [Function.comp_def, StyleEntry.renumber]
  case isFalse => exact { h with strays := congrArg (· ++ [id]) h.strays }

theorem registerStyle (hid : r₁.knows id) (attrs : Attrs) :
    let out₁ := r₁.registerStyle (some id) attrs
    let out₂ := r₂.registerStyle (some (π id)) attrs
    out₂.notes = out₁.notes ∧
      Matched π r₁ (out₁.value.map Prod.snd) (out₂.value.map Prod.snd) := by
  unfold Registry.registerStyle
  dsimp only
  split
  case h_1 => exact ⟨rfl, .error _⟩
  case h_2 name _ =>
    obtain ⟨s, hs⟩ := Option.isSome_iff_exists.mp (Registry.knows_iff.mp hid)
    have ⟨hnotes, hstyle, hr, hsize⟩ := h.ensureStyle id s name
    have hearlier : ((r₂.ensureStyle (π id) s name).value.2.style?
          (r₁.ensureStyle id s name).value.1).map (·.style) =
        ((r₁.ensureStyle id s name).value.2.style?
          (r₁.ensureStyle id s name).value.1).map (·.style) := by
      simp [hr.style?, StyleEntry.renumber, Function.comp_def]
    rw [Option.getD_some, Option.getD_some, h.scope, hs]
    simp only [Noted.notes_bind, Noted.value_bind, hnotes, hstyle, hearlier, hr.applyStyleAttr]
    refine ⟨rfl, .ok (hr.restyle _ _) ?_⟩
    rw [scopes_restyle, hsize]

end Renumbered

end Registry

end UiMarkup
