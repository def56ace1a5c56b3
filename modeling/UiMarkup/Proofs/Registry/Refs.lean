import UiMarkup.Proofs.Registry.Bounds
import UiMarkup.Proofs.Scene.Refs

namespace UiMarkup

def EntryKind.refs : (kind : EntryKind) → kind.Value → List Ref
  | style, id    => [.style id]
  | font, id     => [.font id]
  | subject, id  => [.subject id]
  | timeline, id => [.timeline id]
  | _, _         => []

def Registry.Call.refs : Registry.Call → List Ref
  | register kind _ _ _ value => kind.refs value
  | _                         => []

def Style.Good (t : Stock) (s : Style) : Prop :=
  AllGood t s.refs

def Scope.Good (t : Stock) (s : Scope) : Prop :=
  ∀ kind, ∀ e ∈ s.table kind, AllGood t (kind.refs e.2)

structure Registry.Good (t : Stock) (r : Registry) : Prop where
  scopes : ∀ id s, r.scope? id = some s → s.Good t
  styles : ∀ id e, r.style? id = some e → e.style.Good t

variable {t : Stock}

namespace Scope.Good

variable {s : Scope}

theorem new (name : String) : Scope.Good t { name } := by
  intro kind e he
  cases kind <;> cases he

variable (h : s.Good t)
include h

theorem mono {t' : Stock} (ht : t.Grows t') : s.Good t' :=
  fun kind e he => (h kind e he).mono ht

theorem set {kind : EntryKind} (name : String) {value : kind.Value}
    (hv : AllGood t (kind.refs value)) : (s.set kind name value).Good t := by
  intro kind' e he
  by_cases hk : kind = kind'
  case neg =>
    rw [Scope.set, table_withTable_of_ne s _ hk] at he
    exact h kind' e he
  case pos =>
    subst hk
    rw [Scope.set, table_withTable_self] at he
    cases Assoc.mem_of_mem_set he
    case inl he => exact he ▸ hv
    case inr he => exact h kind e he

end Scope.Good

theorem Noted.foldlM_induction {α β : Type} {f : β → α → Noted β} {P : β → Prop} {b : β}
    {as : List α} (hb : P b) (hf : ∀ b a, P b → P (f b a).value) : P (as.foldlM f b).value := by
  induction as generalizing b
  case nil          => exact hb
  case cons a as hi => exact hi (hf b a hb)

namespace Style.Good

variable {s : Style}

theorem empty : Style.empty.Good t :=
  .nil

variable (h : s.Good t)
include h

theorem set (p : StyleProp) {v : StyleValue} (hv : AllGood t v.refs) : (s.set p v).Good t := by
  intro ref href
  obtain ⟨e, he, href⟩ := List.mem_flatMap.mp href
  cases Assoc.mem_of_mem_set he
  case inl he => cases he; exact hv ref href
  case inr he => exact h ref (List.mem_flatMap.mpr ⟨e, he, href⟩)

theorem erase (p : StyleProp) : (s.erase p).Good t := by
  intro ref href
  obtain ⟨e, he, href⟩ := List.mem_flatMap.mp href
  exact h ref (List.mem_flatMap.mpr ⟨e, (List.mem_filter.mp he).1, href⟩)

end Style.Good

@[simp] theorem Registry.size_restyle (r : Registry) (id : StyleId) (style : Style) :
    (r.restyle id style).styles.size = r.styles.size := by
  unfold restyle
  split <;> simp

namespace Registry.Good

variable {r r' : Registry}

theorem new : Registry.empty.Good t where
  scopes := by
    intro ⟨n⟩ s hs
    cases n
    case zero   => cases hs; exact .new "globals"
    case succ n => simp [scope?, empty] at hs
  styles := fun id e he => by simp [style?, empty] at he

variable (h : r.Good t)
include h

theorem mono {t' : Stock} (ht : t.Grows t') : r.Good t' where
  scopes := fun id s hs => (h.scopes id s hs).mono ht
  styles := fun id e he => (h.styles id e he).mono ht

theorem lookup? (kind : EntryKind) {scope : Option ScopeId} {name : String} {value : kind.Value}
    (hv : r.lookup? kind scope name = some value) : AllGood t (kind.refs value) := by
  have hentry {id : ScopeId} (hv : r.entry? kind id name = some value) :
      AllGood t (kind.refs value) := by
    obtain ⟨s, hs, hget⟩ := Option.bind_eq_some_iff.mp hv
    exact h.scopes id s hs kind _ (Assoc.mem_of_get? hget)
  cases Option.or_eq_some_iff.mp hv
  case inl hv => exact hentry hv
  case inr hv => exact hentry hv.2

theorem find? (kind : EntryKind) {scope : ScopeId} {name : String} {value : kind.Value}
    (hv : (r.find? kind scope name).value = some value) : AllGood t (kind.refs value) := by
  unfold Registry.find? at hv
  split at hv
  case h_1 hlook => cases hv; exact h.lookup? kind hlook
  case h_2       => cases hv

theorem findStyle {scope : Option ScopeId} {name : String} {id : StyleId}
    (hid : (r.findStyle scope name).value = some id) : AllGood t [.style id] := by
  unfold Registry.findStyle at hid
  split at hid
  case' h_2 => split at hid
  -- Whichever scope the name is looked up in, what is found there is good.
  all_goals
    simp only [Noted.value_bind, Noted.value_pure, Noted.value_because] at hid
    split at hid
    case h_1 hlook => cases hid; exact h.lookup? .style hlook
    case h_2       => cases hid

theorem styleValue? {scope : ScopeId} {p : StyleProp} {text : String} {v : StyleValue}
    (hv : (r.styleValue? scope p text).value = some v) : AllGood t v.refs := by
  unfold Registry.styleValue? at hv
  split at hv
  case h_20 =>
    obtain ⟨font, hfont, rfl⟩ := Option.map_eq_some_iff.mp hv
    exact h.find? .font hfont
  case h_19 =>
    obtain ⟨_, _, rfl⟩ := Option.map_eq_some_iff.mp hv
    exact .nil
  case h_21 =>
    obtain ⟨_, _, rfl⟩ := Option.map_eq_some_iff.mp hv
    exact .nil
  all_goals cases hv; exact .nil

theorem setProp {scope : ScopeId} {text : String} {style : Style} (hs : style.Good t)
    (p : StyleProp) : (r.setProp scope text style p).value.Good t := by
  unfold Registry.setProp
  rw [Noted.value_bind]
  split
  case h_1 hv => exact hs.set p (h.styleValue? hv)
  case h_2    => exact hs

theorem applyStyleAttr {scope : ScopeId} {style : Style} (hs : style.Good t)
    (attr : String × String) : (r.applyStyleAttr scope style attr).value.Good t := by
  unfold Registry.applyStyleAttr
  split
  case isTrue  => exact hs
  case isFalse =>
    rw [Noted.value_bind]
    split
    case h_1 => exact hs
    case h_2 text _ =>
      split
      case h_1 => exact hs
      case h_2 props _ =>
        split
        case isTrue  => exact List.foldlRecOn props _ hs fun _ hs p _ => hs.erase p
        case isFalse => exact Noted.foldlM_induction hs fun _ p hs => h.setProp hs p

theorem earlier (id : StyleId) : (((r.style? id).map StyleEntry.style).getD .empty).Good t := by
  cases he : r.style? id
  case none   => exact .empty
  case some e => exact h.styles id e he

theorem modifyScope {id : ScopeId} {f : Scope → Scope} (hr : r.modifyScope id f = .ok r')
    (hf : ∀ s, s.Good t → (f s).Good t) : r'.Good t := by
  obtain ⟨-, rfl⟩ := modifyScope_eq_ok hr
  refine { h with scopes := fun i s hs => ?_ }
  obtain ⟨s₀, hs₀, hmod⟩ := exists_of_scope?_modify hs
  have hgood := h.scopes i s₀ hs₀
  cases hmod
  case inl he => exact he ▸ hgood
  case inr he => exact he.2 ▸ hf s₀ hgood

theorem ensureScope (name : String) : (r.ensureScope name).2.Good t := by
  unfold Registry.ensureScope
  split
  case h_1 => exact h
  case h_2 =>
    refine { h with scopes := fun i s hs => ?_ }
    simp only [scope?, Array.getElem?_push] at hs
    split at hs
    case isTrue  => cases hs; exact .new name
    case isFalse => exact h.scopes i s hs

theorem ensureStyle {id : ScopeId} {s : Scope} (name : String)
    (ht : (r.ensureStyle id s name).value.2.styles.size ≤ t.styles) :
    (r.ensureStyle id s name).value.2.Good t := by
  cases hget : s.get? .style name
  case some style =>
    rw [Registry.ensureStyle, hget]
    exact h
  case none =>
    rw [ensureStyle_of_none hget] at ht ⊢
    have hlt : r.styles.size < t.styles := by rwa [withStyle, Array.size_push] at ht
    have hnew : AllGood t [.style ⟨r.styles.size⟩] := List.forall_mem_singleton.mpr hlt
    constructor
    case scopes =>
      intro i s' hs'
      rw [scope?_withStyle] at hs'
      split at hs'
      case isFalse => exact h.scopes i s' hs'
      case isTrue  =>
        obtain ⟨s₀, hs₀, rfl⟩ := Option.map_eq_some_iff.mp hs'
        exact (h.scopes i s₀ hs₀).set name hnew
    case styles =>
      intro style e he
      cases style?_withStyle.mp he
      case inl he => exact h.styles style e he
      case inr he => exact he.2 ▸ .empty

theorem restyle (id : StyleId) {style : Style} (hs : style.Good t) :
    (r.restyle id style).Good t where
  scopes := fun i s hi => h.scopes i s <| by rwa [scope?, scopes_restyle] at hi
  styles := by
    intro i e he
    rw [style?_restyle] at he
    obtain ⟨e₀, he₀, rfl⟩ := Option.map_eq_some_iff.mp he
    split
    case isTrue  => exact hs
    case isFalse => exact h.styles i e₀ he₀

theorem registerStyle (scope : Option ScopeId) (attrs : Attrs)
    (hr : (r.registerStyle scope attrs).value.map Prod.snd = .ok r')
    (ht : r'.styles.size ≤ t.styles) : r'.Good t := by
  unfold Registry.registerStyle at hr
  split at hr
  case h_1 => cases hr
  case h_2 name _ =>
    dsimp only at hr
    split at hr
    case h_1 => cases hr
    case h_2 s hs =>
      cases hr
      have hensure := h.ensureStyle name (by simpa using ht)
      exact hensure.restyle _ <| Noted.foldlM_induction (hensure.earlier _) fun _ attr hs =>
        hensure.applyStyleAttr hs attr

theorem run {c : Call} (hc : AllGood t c.refs) (ht : (c.run r).styles.size ≤ t.styles) :
    (c.run r).Good t := by
  cases c
  case ensureScope name => exact h.ensureScope name
  case register kind given scope name value =>
    exact Call.run.settle_cases h fun _ hr => h.modifyScope hr fun _ hs => hs.set name hc
  case registerStyle scope attrs =>
    have hok := Call.run.settle_cases (motive := fun r' => r'.styles.size ≤ t.styles → r'.Good t)
      (fun _ => h) fun _ => h.registerStyle scope attrs
    exact hok ht
  case registerParam =>
    exact Call.run.settle_cases h fun _ hr => h.modifyScope hr fun _ hs => hs
  case setComponent =>
    exact Call.run.settle_cases h fun _ hr => h.modifyScope hr fun _ hs => hs

end Registry.Good

end UiMarkup
