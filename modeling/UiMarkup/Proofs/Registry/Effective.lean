import UiMarkup.Proofs.Registry.Lookup
import UiMarkup.Proofs.Registry.NewScope
import UiMarkup.Proofs.Registry.Styles

namespace UiMarkup

namespace StyleProp

variable {name : String}

def StandsFor (name : String) (p : StyleProp) : Prop :=
  p.name = name ∨ ∃ props ∈ Assoc.get? shorthands name, p ∈ props

instance {p : StyleProp} : Decidable (p.StandsFor name) :=
  inferInstanceAs (Decidable (_ ∨ _))

theorem mem_targets?_iff {p : StyleProp} : p ∈ (targets? name).getD [] ↔ p.StandsFor name := by
  unfold targets? StandsFor
  cases hshort : Assoc.get? shorthands name
  case some props =>
    have hne : p.name ≠ name := fun he => by
      cases hshort.symm.trans (he ▸ p.get?_shorthands_name)
    simp [hne]
  case none =>
    cases hname : ofName? name
    case none =>
      have hne : p.name ≠ name := fun he => by
        cases hname.symm.trans (ofName?_eq_some_iff.mpr he)
      simp [hne]
    case some q =>
      have hq : p = q ↔ p.name = name := by
        rw [← ofName?_eq_some_iff, hname, Option.some.injEq, eq_comm]
      simp [hq]

end StyleProp

theorem Noted.value_foldlM {α β : Type} (f : β → α → Noted β) (b : β) (as : List α) :
    (as.foldlM f b).value = as.foldl (fun b a => (f b a).value) b := by
  induction as generalizing b
  case nil          => rfl
  case cons a as hi => simp [List.foldlM_cons, hi]

theorem Style.get?_foldl_erase (p : StyleProp) (props : List StyleProp) (s : Style) :
    (props.foldl erase s).get? p = if p ∈ props then none else s.get? p := by
  induction props generalizing s
  case nil => simp
  case cons q props hi =>
    rw [List.foldl_cons, hi]
    by_cases hq : q = p
    case pos => simp [hq]
    case neg => simp [get?_erase_of_ne _ hq, Ne.symm hq]

namespace Registry

variable {r r' : Registry} {scope : ScopeId} {p : StyleProp} {name : String}

-- What an attribute says of a property, if it says anything: that there is none, or its value.
def ruling? (r : Registry) (scope : ScopeId) (p : StyleProp) (a : String × String) :
    Option (Option StyleValue) :=
  if a.1 ∈ bookkeeping ∨ ¬p.StandsFor a.1 then none
  else match (r.resolve? scope a.2).value with
    | none      => none
    | some text =>
      if text = "remove" then some none else (r.styleValue? scope p text).value.map some

-- What the last of those attributes says that say anything.
def lastRuling? (r : Registry) (scope : ScopeId) (p : StyleProp) (attrs : Attrs) :
    Option (Option StyleValue) :=
  attrs.reverse.findSome? (r.ruling? scope p)

@[simp] theorem lastRuling?_nil : r.lastRuling? scope p [] = none := rfl

theorem lastRuling?_append (attrs attrs' : Attrs) :
    r.lastRuling? scope p (attrs ++ attrs') =
      (r.lastRuling? scope p attrs').or (r.lastRuling? scope p attrs) := by
  simp [lastRuling?]

theorem lastRuling?_cons (a : String × String) (attrs : Attrs) :
    r.lastRuling? scope p (a :: attrs) =
      (r.lastRuling? scope p attrs).or (r.ruling? scope p a) := by
  simp [lastRuling?]

theorem get?_setProp (text : String) (s : Style) (q : StyleProp) :
    (r.setProp scope text s q).value.get? p =
      if q = p then (r.styleValue? scope p text).value.or (s.get? p) else s.get? p := by
  rw [setProp, Noted.value_bind]
  by_cases hq : q = p
  case pos =>
    rw [if_pos hq, hq]
    cases (r.styleValue? scope p text).value <;> simp
  case neg =>
    rw [if_neg hq]
    cases (r.styleValue? scope q text).value
    case none   => rfl
    case some v => exact s.get?_set_of_ne v hq

theorem get?_foldl_setProp (text : String) (props : List StyleProp) (s : Style) :
    (props.foldl (fun s q => (r.setProp scope text s q).value) s).get? p =
      if p ∈ props then (r.styleValue? scope p text).value.or (s.get? p) else s.get? p := by
  induction props generalizing s
  case nil => simp
  case cons q props hi =>
    rw [List.foldl_cons, hi, get?_setProp]
    by_cases hq : q = p
    case pos => cases (r.styleValue? scope p text).value <;> simp [hq]
    case neg => simp [hq, Ne.symm hq]

theorem get?_applyStyleAttr (s : Style) (a : String × String) :
    (r.applyStyleAttr scope s a).value.get? p = (r.ruling? scope p a).getD (s.get? p) := by
  unfold applyStyleAttr ruling?
  simp only [← StyleProp.mem_targets?_iff]
  by_cases hbook : a.1 ∈ bookkeeping
  case pos => simp [hbook]
  case neg =>
    simp only [hbook, if_false, false_or, Noted.value_bind]
    cases hvalue : (r.resolve? scope a.2).value
    case none => simp
    case some text =>
      cases StyleProp.targets? a.1
      case none => simp
      case some props =>
        by_cases hremove : text = "remove"
        case pos =>
          by_cases hp : p ∈ props <;> simp [hremove, hp, Style.get?_foldl_erase]
        case neg =>
          simp only [hremove, if_false, Noted.value_foldlM, get?_foldl_setProp]
          by_cases hp : p ∈ props
          case neg => simp [hp]
          case pos => cases hv : (r.styleValue? scope p text).value <;> simp [hp]

theorem get?_foldlM_applyStyleAttr (s : Style) (attrs : Attrs) :
    (attrs.foldlM (r.applyStyleAttr scope) s).value.get? p =
      (r.lastRuling? scope p attrs).getD (s.get? p) := by
  rw [Noted.value_foldlM]
  induction attrs generalizing s
  case nil => rfl
  case cons a attrs hi =>
    rw [List.foldl_cons, hi, get?_applyStyleAttr, lastRuling?_cons]
    cases r.lastRuling? scope p attrs <;> rfl

-- Constants and what else the values of properties refer to.

def assets : List EntryKind :=
  [.const, .font, .image, .gradient]

structure SameAssets (r r' : Registry) : Prop where
  entry : ∀ kind ∈ assets, ∀ id name, r'.entry? kind id name = r.entry? kind id name
  const : ∀ scope name, (r'.const? scope name).value = (r.const? scope name).value

namespace SameAssets

theorem refl : r.SameAssets r where
  entry := fun _ _ _ _ => rfl
  const := fun _ _ => rfl

theorem trans {r₁ r₂ r₃ : Registry} (h₁ : r₁.SameAssets r₂) (h₂ : r₂.SameAssets r₃) :
    r₁.SameAssets r₃ where
  entry := fun kind hk id name => (h₂.entry kind hk id name).trans (h₁.entry kind hk id name)
  const := fun scope name => (h₂.const scope name).trans (h₁.const scope name)

variable (h : r.SameAssets r')
include h

theorem find? (kind : EntryKind) (hk : kind ∈ assets) (scope : ScopeId) (name : String) :
    r'.find? kind scope name = r.find? kind scope name := by
  simp only [Registry.find?, lookup?, h.entry kind hk]

theorem styleValue? (p : StyleProp) (text : String) :
    r'.styleValue? scope p text = r.styleValue? scope p text := by
  simp only [Registry.styleValue?, h.find? .gradient (by decide), h.find? .font (by decide),
    h.find? .image (by decide)]

theorem resolve? (text : String) :
    (r'.resolve? scope text).value = (r.resolve? scope text).value := by
  unfold Registry.resolve?
  split
  case h_1 => rfl
  case h_2 => simp only [Noted.value_bind, h.const]

theorem ruling? (p : StyleProp) (a : String × String) :
    r'.ruling? scope p a = r.ruling? scope p a := by
  simp only [Registry.ruling?, h.resolve?, h.styleValue?]

theorem lastRuling? (p : StyleProp) (attrs : Attrs) :
    r'.lastRuling? scope p attrs = r.lastRuling? scope p attrs := by
  have hruling : r'.ruling? scope p = r.ruling? scope p := funext (h.ruling? p)
  simp only [Registry.lastRuling?, hruling]

end SameAssets

def Call.KeepsAssets : Call → Prop
  | register kind .. => kind ∉ assets
  | _                => True

theorem SameAssets.of_names (hnames : r'.names = r.names)
    (hentry : ∀ kind ∈ assets, ∀ id name, r'.entry? kind id name = r.entry? kind id name) :
    r.SameAssets r' where
  entry := hentry
  const := fun given name => by
    simp only [value_const?, lookup?, hentry .const (by decide), scopeByName?_eq, hnames]

theorem sameAssets_ensureScope (name : String) : r.SameAssets (r.ensureScope name).2 where
  entry := fun _ _ _ _ => entry?_ensureScope name
  const := by
    intro given text
    cases hid : r.scopeByName? name
    case some id => rw [ensureScope, hid]
    case none =>
      have hbare : Scope.Bare { name } := fun kind _ => by cases kind <;> rfl
      simp only [ensureScope_of_none hid, value_const?, lookup?_withScope hbare,
        bind_scopeByName?_withScope hbare hid]

theorem sameAssets_run {c : Call} (h : c.KeepsAssets) : r.SameAssets (c.run r) := by
  have hentry (kind) (hk : kind ∈ assets) (id : ScopeId) (name : String) :
      entry? (c.run r) kind id name = r.entry? kind id name := by
    have hstyle : kind ≠ .style := fun he => absurd (he ▸ hk) (by decide)
    have hvalue : c.value? kind id name = none := by
      cases c
      case register kind' _ _ _ _ =>
        have hne : kind' ≠ kind := fun he => h (he ▸ hk)
        simp [Call.value?, hne]
      all_goals rfl
    rw [entry?_run hstyle, hvalue, Option.none_or, ite_self]
  cases c
  case ensureScope name => exact sameAssets_ensureScope name
  all_goals exact .of_names (names_run _) hentry

def styleNamed? (r : Registry) (scope : ScopeId) (name : String) : Option Style :=
  ((r.entry? .style scope name).bind r.style?).map (·.style)

def prop? (r : Registry) (scope : ScopeId) (name : String) (p : StyleProp) : Option StyleValue :=
  (r.styleNamed? scope name).bind (·.get? p)

def Call.Styles (scope : ScopeId) (name : String) : Call → Prop
  | registerStyle given attrs => given.getD .globals = scope ∧ attrs.get? "name" = some name
  | _                         => False

instance {c : Call} : Decidable (c.Styles scope name) :=
  match c with
  | .registerStyle .. => inferInstanceAs (Decidable (_ ∧ _))
  | .ensureScope _    => .isFalse id
  | .register ..      => .isFalse id
  | .registerParam .. => .isFalse id
  | .setComponent ..  => .isFalse id

def Call.styling (scope : ScopeId) (name : String) : Call → Attrs
  | c@(registerStyle _ attrs) => if c.Styles scope name then attrs else []
  | _                         => []

theorem Call.styling_of_not_styles {c : Call} (h : ¬c.Styles scope name) :
    c.styling scope name = [] := by
  cases c
  case registerStyle => exact if_neg h
  all_goals rfl

theorem Linked.style?_of_entry? (h : r.Linked) {style : StyleId}
    (he : r.entry? .style scope name = some style) :
    ∃ e, r.style? style = some e ∧ e.name = name ∧ e.scope = scope := by
  obtain ⟨s, hs, hget⟩ := Option.bind_eq_some_iff.mp he
  obtain ⟨e, hstyle, hname, hscope, -⟩ := h.named hs (Assoc.mem_of_get? hget)
  exact ⟨e, hstyle, hname, hscope⟩

theorem Linked.entry?_of_style? (h : r.Linked) {style : StyleId} {e : StyleEntry}
    (he : r.style? style = some e) : r.entry? .style e.scope e.name = some style := by
  obtain ⟨s, hs, hm⟩ := h.listed he
  exact Option.bind_eq_some_iff.mpr ⟨s, hs, Assoc.get?_of_mem (h.keys hs) hm⟩

theorem Linked.isSome_styleNamed? (h : r.Linked) :
    (r.styleNamed? scope name).isSome ↔ (r.entry? .style scope name).isSome := by
  cases hentry : r.entry? .style scope name
  case none => simp [styleNamed?, hentry]
  case some style =>
    obtain ⟨e, he, -⟩ := h.style?_of_entry? hentry
    simp [styleNamed?, hentry, he]

section Ensure

variable {s : Scope}

theorem entry?_of_scope? {kind : EntryKind} {id : ScopeId} (hs : r.scope? id = some s)
    (name : String) : r.entry? kind id name = s.get? kind name := by
  unfold entry?
  rw [hs]
  rfl

theorem value_ensureStyle_of_some {style : StyleId} (h : s.get? .style name = some style) :
    (r.ensureStyle scope s name).value = (style, r) := by
  simp [ensureStyle, h]

theorem value_ensureStyle_of_none (h : s.get? .style name = none) :
    (r.ensureStyle scope s name).value = (⟨r.styles.size⟩, r.withStyle scope s name) :=
  Prod.ext (by simp [ensureStyle, h]) (ensureStyle_of_none h)

theorem sameAssets_ensureStyle (s : Scope) (name : String) :
    r.SameAssets (r.ensureStyle scope s name).value.2 := by
  refine .of_names (names_ensureStyle s name) fun kind hk id name' => ?_
  cases hget : s.get? .style name
  case some style => rw [value_ensureStyle_of_some hget]
  case none =>
    rw [value_ensureStyle_of_none hget]
    have hstyle : EntryKind.style ≠ kind := fun he => absurd (he ▸ hk) (by decide)
    exact entry?_modify rfl fun _ s => s.get?_set_of_kind_ne _ _ _ hstyle

variable (hs : r.scope? scope = some s)
include hs

theorem entry?_ensureStyle (name : String) :
    entry? (r.ensureStyle scope s name).value.2 .style scope name =
      some (r.ensureStyle scope s name).value.1 := by
  cases hget : s.get? .style name
  case some style =>
    rw [value_ensureStyle_of_some hget]
    exact (entry?_of_scope? hs name).trans hget
  case none =>
    rw [value_ensureStyle_of_none hget]
    have hnew : (r.withStyle scope s name).scope? scope =
        some (s.set .style name ⟨r.styles.size⟩) := by
      rw [scope?_withStyle, if_pos rfl, hs]
      rfl
    exact (entry?_of_scope? hnew name).trans (Scope.get?_set_self ..)

theorem Linked.style?_ensureStyle (h : r.Linked) (name : String) :
    let out := (r.ensureStyle scope s name).value
    ∃ e, out.2.style? out.1 = some e ∧ ∀ p, e.style.get? p = r.prop? scope name p := by
  have hentry : r.entry? .style scope name = s.get? .style name := entry?_of_scope? hs name
  cases hget : s.get? .style name
  case some style =>
    obtain ⟨e, he, -⟩ := h.style?_of_entry? (hentry.trans hget)
    rw [value_ensureStyle_of_some hget]
    refine ⟨e, he, fun p => ?_⟩
    simp [prop?, styleNamed?, hentry, hget, he]
  case none =>
    rw [value_ensureStyle_of_none hget]
    refine ⟨_, style?_withStyle.mpr (.inr ⟨rfl, rfl⟩), fun p => ?_⟩
    simp [prop?, styleNamed?, hentry, hget, Style.get?, Style.empty]

end Ensure

theorem Linked.exists_registerStyle (h : r.Linked) {given : Option ScopeId} {s : Scope}
    (hs : r.scope? (given.getD .globals) = some s) {attrs : Attrs}
    (hname : attrs.get? "name" = some name) :
    ∃ style r', (r.registerStyle given attrs).value = .ok (style, r') ∧
      r'.entry? .style (given.getD .globals) name = some style ∧
      ∃ e, r'.style? style = some e ∧ ∀ p, e.style.get? p =
        (r.lastRuling? (given.getD .globals) p attrs).getD
          (r.prop? (given.getD .globals) name p) := by
  obtain ⟨e, he, hprops⟩ := h.style?_ensureStyle hs name
  let out := (r.ensureStyle (given.getD .globals) s name).value
  let extended := (attrs.foldlM (out.2.applyStyleAttr (given.getD .globals)) e.style).value
  refine ⟨out.1, out.2.restyle out.1 extended, ?value, ?entry, { e with style := extended },
    ?style, fun p => ?prop⟩
  case value =>
    unfold registerStyle
    simp only [hname, hs, Noted.value_bind, he, Option.map_some, Option.getD_some]
    rfl
  case entry =>
    unfold entry? scope?
    rw [scopes_restyle]
    exact entry?_ensureStyle hs name
  case style => simp [style?_restyle, out, he]
  case prop =>
    rw [get?_foldlM_applyStyleAttr, (sameAssets_ensureStyle s name).lastRuling?, hprops]

section Others

variable {c : Call} (hc : ¬c.Styles scope name)
include hc

theorem entry?_run_of_not_styles :
    entry? (c.run r) .style scope name = r.entry? .style scope name := by
  have hsettle {result : Except RegistryError Registry}
      (hr : ∀ r', result = .ok r' → r'.entry? .style scope name = r.entry? .style scope name) :
      entry? (Call.run.settle r result) .style scope name = r.entry? .style scope name :=
    Call.run.settle_cases
      (motive := fun s => s.entry? .style scope name = r.entry? .style scope name) rfl hr
  cases c
  case ensureScope name' => exact entry?_ensureScope name'
  case register kind given scope' name' value =>
    exact entry?_register_of_ne given value fun hsame => given hsame.1
  case registerStyle given attrs =>
    refine hsettle fun r' hr => ?_
    obtain ⟨name', s, extended, hname, -, rfl⟩ := registerStyle_eq_ok hr
    cases hget : s.get? .style name'
    case some style => simp [ensureStyle, hget, entry?, scope?]
    case none =>
      have hscopes : ((r.ensureStyle (given.getD .globals) s name').value.2).scopes =
          r.scopes.modify (given.getD .globals).index (·.set .style name' ⟨r.styles.size⟩) := by
        rw [ensureStyle_of_none hget]
        rfl
      refine entry?_modify ((scopes_restyle ..).trans hscopes) fun hscope s => ?_
      exact s.get?_set_of_name_ne _ _ fun he => hc ⟨hscope.symm, hname.trans (congrArg some he)⟩
  case registerParam => exact hsettle fun _ hr => entry?_modifyScope hr fun _ _ => rfl
  case setComponent  => exact hsettle fun _ hr => entry?_modifyScope hr fun _ _ => rfl

theorem Linked.style?_run (h : r.Linked) {style : StyleId} {e : StyleEntry}
    (he : r.style? style = some e) (hscope : e.scope = scope) (hname : e.name = name) :
    (c.run r).style? style = some e := by
  have hsettle {result : Except RegistryError Registry}
      (hr : ∀ r', result = .ok r' → r'.style? style = some e) :
      (Call.run.settle r result).style? style = some e :=
    Call.run.settle_cases (motive := fun s => s.style? style = some e) he hr
  have hmodify {id : ScopeId} {f : Scope → Scope} (r' : Registry)
      (hr : r.modifyScope id f = .ok r') : r'.style? style = some e := by
    obtain ⟨-, rfl⟩ := modifyScope_eq_ok hr
    exact he
  cases c
  case ensureScope name' =>
    rw [Call.run, Registry.ensureScope]
    split <;> exact he
  case registerStyle given attrs =>
    refine hsettle fun r' hr => ?_
    obtain ⟨name', s, extended, hname', hs, rfl⟩ := registerStyle_eq_ok hr
    rw [style?_restyle]
    cases hget : s.get? .style name'
    case some style' =>
      have hentry : r.entry? .style (given.getD .globals) name' = some style' :=
        (entry?_of_scope? hs name').trans hget
      obtain ⟨e', he', hcalled, hin⟩ := h.style?_of_entry? hentry
      have hne : style ≠ style' := by
        intro hsame
        cases (hsame ▸ he).symm.trans he'
        exact hc ⟨hin.symm.trans hscope, hname'.trans (congrArg some (hcalled.symm.trans hname))⟩
      simp [value_ensureStyle_of_some hget, he, hne]
    case none =>
      have hold : style.index < r.styles.size := (Array.getElem?_eq_some_iff.mp he).1
      have hne : style ≠ ⟨r.styles.size⟩ := fun hsame => Nat.lt_irrefl _ (hsame ▸ hold)
      rw [value_ensureStyle_of_none hget, style?_withStyle.mpr (.inl he)]
      simp [hne]
  case register => exact hsettle hmodify
  case registerParam => exact hsettle hmodify
  case setComponent => exact hsettle hmodify

end Others

theorem Linked.style?_run_iff (h : r.Linked) {c : Call} {style : StyleId} {e : StyleEntry}
    (hc : ¬c.Styles e.scope e.name) :
    (c.run r).style? style = some e ↔ r.style? style = some e := by
  constructor
  case mpr => exact fun he => h.style?_run hc he rfl rfl
  case mp =>
    -- The style was there before, called the same, and the call has kept it.
    intro he
    have hentry := (h.run c).entry?_of_style? he
    rw [entry?_run_of_not_styles hc] at hentry
    obtain ⟨e', he', hname, hscope⟩ := h.style?_of_entry? hentry
    rwa [← Option.some.inj ((h.style?_run hc he' hscope hname).symm.trans he)]

section Scope

variable (h : r.Linked) (hs : (r.scope? scope).isSome)
include h hs

theorem Linked.exists_run_of_styles {c : Call} (hc : c.Styles scope name) :
    ∃ style e, entry? (c.run r) .style scope name = some style ∧
      (c.run r).style? style = some e ∧ ∀ p, e.style.get? p =
        (r.lastRuling? scope p (c.styling scope name)).getD (r.prop? scope name p) := by
  cases c
  case registerStyle given attrs =>
    obtain ⟨rfl, hname⟩ := id hc
    obtain ⟨s, hs⟩ := Option.isSome_iff_exists.mp hs
    obtain ⟨style, r', hr', hentry, e, he, hprops⟩ := h.exists_registerStyle hs hname
    have hrun : (Call.registerStyle given attrs).run r = r' := by
      simp [Call.run, hr', Except.map, Call.run.settle]
    rw [hrun, Call.styling, if_pos hc]
    exact ⟨style, e, hentry, he, hprops⟩
  all_goals cases hc

theorem Linked.prop?_run (c : Call) (name : String) (p : StyleProp) :
    (c.run r).prop? scope name p =
      (r.lastRuling? scope p (c.styling scope name)).getD (r.prop? scope name p) := by
  by_cases hc : c.Styles scope name
  case pos =>
    obtain ⟨style, e, hentry, he, hprops⟩ := h.exists_run_of_styles hs hc
    rw [← hprops, prop?, styleNamed?, hentry]
    simp [he]
  case neg =>
    rw [Call.styling_of_not_styles hc, lastRuling?_nil, Option.getD_none, prop?, styleNamed?,
      entry?_run_of_not_styles hc, prop?, styleNamed?]
    cases hentry : r.entry? .style scope name
    case none => rfl
    case some style =>
      obtain ⟨e, he, hname, hscope⟩ := h.style?_of_entry? hentry
      simp [he, h.style?_run hc he hscope hname]

theorem Linked.isSome_styleNamed?_run (c : Call) (name : String) :
    ((c.run r).styleNamed? scope name).isSome ↔
      (r.styleNamed? scope name).isSome ∨ c.Styles scope name := by
  rw [(h.run c).isSome_styleNamed?, h.isSome_styleNamed?]
  by_cases hc : c.Styles scope name
  case pos =>
    obtain ⟨style, e, hentry, -⟩ := h.exists_run_of_styles hs hc
    simp [hentry, hc]
  case neg => simp [hc, entry?_run_of_not_styles hc]

end Scope

namespace History

def styling (scope : ScopeId) (name : String) : History → Attrs
  | []           => []
  | c :: earlier => styling scope name earlier ++ c.styling scope name

theorem isSome_scope?_of_has {h : History} (hscope : h.Has scope) (later : History) :
    ((later ++ h).registry.scope? scope).isSome := by
  have hle : h.registry.scopes.size ≤ (later ++ h).registry.scopes.size := by
    induction later
    case nil => exact Nat.le_refl _
    case cons c later hi =>
      refine Nat.le_trans hi ?_
      simp only [← length_names, List.cons_append, registry, names_run]
      cases c
      case ensureScope name => simp only [Call.namesAfter]; split <;> simp
      all_goals exact Nat.le_refl _
  simpa [scope?] using Nat.lt_of_lt_of_le (h.has_iff.mp hscope) hle

variable {h later : History}

section Unchanged

variable (hlater : ∀ c ∈ later, c.KeepsAssets)
include hlater

theorem sameAssets_registry (h : History) : h.registry.SameAssets (later ++ h).registry := by
  induction later
  case nil => exact .refl
  case cons c later hi =>
    obtain ⟨hc, hlater⟩ := List.forall_mem_cons.mp hlater
    exact (hi hlater).trans (sameAssets_run hc)

theorem prop?_registry (hscope : h.Has scope) (name : String) (p : StyleProp) :
    (later ++ h).registry.prop? scope name p =
      (h.registry.lastRuling? scope p (later.styling scope name)).getD
        (h.registry.prop? scope name p) := by
  induction later
  case nil => rfl
  case cons c later hi =>
    obtain ⟨-, hlater⟩ := List.forall_mem_cons.mp hlater
    have hstep := (linked (later ++ h)).prop?_run (isSome_scope?_of_has hscope later) c name p
    rw [(sameAssets_registry hlater h).lastRuling?, hi hlater] at hstep
    rw [List.cons_append, registry, hstep, styling, lastRuling?_append]
    cases h.registry.lastRuling? scope p (c.styling scope name) <;> rfl

end Unchanged

theorem style?_registry_iff {style : StyleId} {e : StyleEntry}
    (hlater : ∀ c ∈ later, ¬c.Styles e.scope e.name) (h : History) :
    (later ++ h).registry.style? style = some e ↔ h.registry.style? style = some e := by
  induction later
  case nil => rfl
  case cons c later hi =>
    obtain ⟨hc, hlater⟩ := List.forall_mem_cons.mp hlater
    exact ((linked (later ++ h)).style?_run_iff hc).trans (hi hlater)

theorem isSome_styleNamed?_registry_iff (hscope : h.Has scope) (name : String) :
    ((later ++ h).registry.styleNamed? scope name).isSome ↔
      (h.registry.styleNamed? scope name).isSome ∨ ∃ c ∈ later, c.Styles scope name := by
  induction later
  case nil => simp
  case cons c later hi =>
    have hstep := (linked (later ++ h)).isSome_styleNamed?_run (isSome_scope?_of_has hscope later)
    rw [List.cons_append, registry, hstep, hi, or_assoc]
    simp [or_comm]

-- After any further calls that leave constants, fonts, images and gradients as they are, each
-- property of a style is what was last said of it, or else what it was. The calls that name the
-- style succeed, and what they do not name is as before.
theorem last_effective_decides (h later : History) (hscope : h.Has scope)
    (hlater : ∀ c ∈ later, c.KeepsAssets) (name : String) :
    let r := h.registry
    let r' := (later ++ h).registry
    (∀ p, r'.prop? scope name p =
      (r.lastRuling? scope p (later.styling scope name)).getD (r.prop? scope name p)) ∧
    ((r'.styleNamed? scope name).isSome ↔
      (r.styleNamed? scope name).isSome ∨ ∃ c ∈ later, c.Styles scope name) ∧
    (∀ given attrs, (Call.registerStyle given attrs).Styles scope name →
      ∃ style next, (r'.registerStyle given attrs).value = .ok (style, next) ∧
        next.entry? .style scope name = some style ∧ (next.style? style).isSome) ∧
    ∀ style e, (∀ c ∈ later, ¬c.Styles e.scope e.name) →
      (r'.style? style = some e ↔ r.style? style = some e) := by
  refine ⟨?decides, ?named, ?succeeds, ?others⟩
  case decides  => exact prop?_registry hlater hscope name
  case named    => exact isSome_styleNamed?_registry_iff hscope name
  case others   => exact fun style e hother => style?_registry_iff hother h
  case succeeds =>
    rintro given attrs ⟨rfl, hname⟩
    obtain ⟨s, hs⟩ := Option.isSome_iff_exists.mp (isSome_scope?_of_has hscope later)
    obtain ⟨style, next, hr, hentry, e, he, -⟩ :=
      (linked (later ++ h)).exists_registerStyle hs hname
    exact ⟨style, next, hr, hentry, Option.isSome_of_eq_some he⟩

-- All four sides, an opacity and a colour are set, then one side is taken out through a constant
-- and the opacity is replaced; the last call says nothing that counts.
theorem last_effective_decides_pads :
    let h : History := [.register .const (by decide) none "off" "remove"]
    let later : History :=
      [.registerStyle none [("name", "a"), ("pad_top", "#gone"), ("text_font", "gone")],
        .registerStyle none [("name", "a"), ("pad_left", "#off"), ("bg_opa", "50%")],
        .registerStyle none
          [("name", "a"), ("pad_all", "5"), ("bg_opa", "cover"), ("bg_color", "#f80")]]
    let r' := (later ++ h).registry
    r'.prop? .globals "a" .padTop = some (.int 5) ∧ r'.prop? .globals "a" .padLeft = none ∧
      r'.prop? .globals "a" .bgOpa = some (.opacity 127) ∧
      r'.prop? .globals "a" .bgColor = some (.color ⟨255, 136, 0⟩) ∧
      r'.prop? .globals "a" .textFont = none := by
  intro h later r'
  have hscope : h.Has .globals := by decide
  have hlater : ∀ c ∈ later, c.KeepsAssets := by simp [later, Call.KeepsAssets]
  have hprop := (last_effective_decides h later hscope hlater "a").1
  simp only [r', hprop]
  decide +kernel

end History

end Registry

end UiMarkup
