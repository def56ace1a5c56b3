import UiMarkup.Proofs.Widget.Unsupported

namespace UiMarkup

def Content.edited (c : Content) (edits : List Edit) : Content :=
  edits.foldl (fun c e => e.apply c) c

-- Something is reported, or an object with that content is another one afterwards.
def Edits.Noticed (n : Edits) (c : Content) : Prop :=
  n.notes ≠ [] ∨ c.edited n.value ≠ c

structure Content.Untouched (c : Content) : Prop where
  flags       : c.flags = .none
  states      : c.states = .none
  localStyles : c.localStyles = []

instance {c : Content} : Decidable c.Untouched :=
  decidable_of_iff (c.flags = .none ∧ c.states = .none ∧ c.localStyles = [])
    ⟨fun ⟨h₁, h₂, h₃⟩ => ⟨h₁, h₂, h₃⟩, fun ⟨h₁, h₂, h₃⟩ => ⟨h₁, h₂, h₃⟩⟩

variable {env : Env} {c : Content} {name text : String}

theorem Content.localStyles_edited_ne_nil {edits : List Edit}
    (hall : ∀ e ∈ edits, ∃ p v selector, e = .localStyle p v selector)
    (h : c.localStyles ≠ [] ∨ edits ≠ []) : (c.edited edits).localStyles ≠ [] := by
  induction edits generalizing c
  case nil => exact h.resolve_right fun h => h rfl
  case cons e edits hi =>
    obtain ⟨p, v, selector, rfl⟩ := hall e (.head _)
    refine hi (fun e' he => hall e' (.tail _ he)) (.inl fun hnil => ?_)
    have hset : (c.localStyles.set (p, selector) v).get? (p, selector) = none := by
      rw [show c.localStyles.set (p, selector) v = [] from hnil]
      rfl
    simp at hset

@[simp] theorem Noted.notes_map {α β : Type} (f : α → β) (x : Noted α) :
    (f <$> x).notes = x.notes :=
  List.append_nil _

theorem Registry.notes_find?_ne_nil {r : Registry} {kind : EntryKind} {scope : ScopeId}
    (h : (r.find? kind scope name).value = none) : (r.find? kind scope name).notes ≠ [] := by
  unfold find? at h ⊢
  cases hl : r.lookup? kind (some scope) name
  case none   => simp [Noted.because]
  case some v => simp [hl] at h

theorem Registry.notes_styleValue?_ne_nil {r : Registry} {scope : ScopeId} {p : StyleProp}
    (h : (r.styleValue? scope p text).value = none) : (r.styleValue? scope p text).notes ≠ [] := by
  have hfind {kind : EntryKind} {wrap : kind.Value → StyleValue}
      (h : ((·.map wrap) <$> r.find? kind scope text).value = none) :
      ((·.map wrap) <$> r.find? kind scope text).notes ≠ [] := by
    rw [Noted.notes_map]
    exact notes_find?_ne_nil (by simpa using h)
  unfold styleValue? at h ⊢
  generalize p.kind = kind at h ⊢
  cases kind
  case gradient => exact hfind h
  case font     => exact hfind h
  case image    => exact hfind h
  all_goals simp at h

theorem Noted.notes_collect {α β : Type} (f : α → Noted (List β)) (as : List α) :
    (collect f as).notes = as.flatMap fun a => (f a).notes := by
  induction as
  case nil          => rfl
  case cons a as hi => simp [collect, hi]

theorem StyleProp.targets?_ne_nil {props : List StyleProp} (h : targets? name = some props) :
    props ≠ [] := by
  have hshort : ∀ e ∈ shorthands, e.2 ≠ [] := by decide
  obtain hprops | ⟨-, hprops⟩ := Option.or_eq_some_iff.mp h
  · exact hshort _ (Assoc.mem_of_get? hprops)
  · obtain ⟨p, -, rfl⟩ := Option.map_eq_some_iff.mp hprops
    simp

-- What a style attribute names is set, or else it is reported.
theorem Env.noticed_localStyle (env : Env) (key text : String) (hc : c.localStyles = []) :
    Edits.Noticed (env.localStyle key text) c := by
  unfold localStyle Edits.Noticed
  dsimp only
  cases htargets : StyleProp.targets? (Reading.styleSelector key).1
  case none => exact .inl (by simp [Noted.because])
  case some props =>
    obtain ⟨p, props, rfl⟩ := List.exists_cons_of_ne_nil (StyleProp.targets?_ne_nil htargets)
    dsimp only
    rw [Noted.notes_collect, Noted.value_collect]
    cases hv : (env.registry.styleValue? env.scope p text).value
    case none =>
      left
      have hnotes := Registry.notes_styleValue?_ne_nil hv
      simp [hnotes]
    case some v =>
      right
      refine fun he => Content.localStyles_edited_ne_nil (c := c) ?locals ?some
        (congrArg Content.localStyles he ▸ hc)
      case some => exact .inr (by simp [hv])
      case locals =>
        intro e he
        obtain ⟨q, -, he⟩ := List.mem_flatMap.mp he
        rw [Noted.value_bind] at he
        split at he
        case h_1 w _ => exact ⟨q, w, _, List.mem_singleton.mp he⟩
        case h_2     => cases he

theorem ObjFlags.bits_of_ofName? {f : ObjFlags} (h : ofName? name = some f) : f.bits ≠ 0 := by
  have hnames : ∀ flag ∈ names, ∀ f ∈ ofName? flag, f.bits ≠ 0 := by decide
  have hname : name ∈ names := by
    obtain ⟨i, hi, -⟩ := Option.map_eq_some_iff.mp h
    refine Decidable.byContradiction fun hnot => ?_
    rw [List.idxOf?_eq_none_iff.mpr hnot] at hi
    cases hi
  exact hnames name hname f h

theorem States.single?_ne_none {s : States} (h : single? name = some s) : s ≠ none := by
  have hs := (Option.filter_eq_some_iff.mp h).2
  simp only [Bool.and_eq_true, decide_eq_true_eq] at hs
  exact hs.1

theorem ObjAttr.edited_switch_ne {edit : Bool → Edit} (h : switch? name = some edit)
    (hc : c.Untouched) : c.edited [edit true] ≠ c := by
  obtain h | ⟨-, h⟩ := Option.or_eq_some_iff.mp h
  · obtain ⟨f, hf, rfl⟩ := Option.map_eq_some_iff.mp h
    intro he
    have hflags : c.flags.switch f true = c.flags := congrArg Content.flags he
    rw [hc.flags] at hflags
    refine ObjFlags.bits_of_ofName? hf ?_
    simpa [ObjFlags.switch, ObjFlags.none] using hflags
  · obtain ⟨s, hs, rfl⟩ := Option.map_eq_some_iff.mp h
    intro he
    have hstates : c.states.switch s true = c.states := congrArg Content.states he
    rw [hc.states] at hstates
    refine States.single?_ne_none hs ?_
    have hbits : s.bits = 0 := by simpa [States.switch, States.none] using hstates
    exact congrArg States.mk hbits

theorem Env.noticed_bind (env : Env) (name : String) (binding : Binding) (site : String) :
    Edits.Noticed (env.bind name binding site) c := by
  unfold bind
  split
  case h_2      => exact .inl (by simp [Noted.because])
  case h_1 id _ =>
    right
    intro he
    have hbindings : c.bindings ++ [(id, binding)] = c.bindings := congrArg Content.bindings he
    simp at hbindings

-- One of the words `true` and `?` shows any of them, if there is no style named `?`.
theorem ObjAttr.exists_noticed (h : accepts name) (hstyle : (env.findStyle "?").notes ≠ [])
    (hc : c.Untouched) : ∃ text, Edits.Noticed (edits env name text) c := by
  unfold edits
  cases hprop : Assoc.get? props name
  case some read =>
    refine ⟨"", .inr fun he => ?_⟩
    have hprops : c.props ++ [(read "").value] = c.props := congrArg Content.props he
    simp at hprops
  case none =>
    dsimp only
    split
    case isTrue =>
      have hwords : Text.words "?" = ["?"] := by decide
      have hword : Reading.styleSelector "?" = ("?", .default) := by decide
      refine ⟨"?", .inl ?_⟩
      rw [styles, Noted.notes_collect, hwords, List.flatMap_singleton]
      simp [hword, Env.addStyle, hstyle]
    case isFalse hstyles =>
      split
      case isTrue => exact ⟨"", env.noticed_bind ..⟩
      case isFalse hchecked =>
        split
        case h_1 key hkey => exact ⟨"", env.noticed_localStyle key "" hc.localStyles⟩
        case h_2 hstyle =>
          split
          case h_1 edit hedit => exact ⟨"true", .inr (edited_switch_ne hedit hc)⟩
          case h_2 hswitch    =>
            have hnot : accepts name = false := by
              simp [accepts, Assoc.contains, Text.begins, hprop, hstyles, hchecked, hstyle, hswitch]
            exact absurd h (by rw [hnot]; decide)

def Processor.isObject : Processor → Bool
  | .widget _       => true
  | .dropdownList   => true
  | .calendarHeader => true
  | .tabBar         => true
  | .tab            => true
  | .tabButton      => true
  | _               => false

theorem WidgetKind.not_accepts_own (kind : WidgetKind) :
    ∀ e ∈ Rule.ofKind kind ++ Rule.ofKindLast kind, ¬ObjAttr.accepts e.1 := by
  cases kind <;> decide

theorem WidgetKind.apply_common (kind : WidgetKind) {name : String} (h : ObjAttr.accepts name)
    (env : Env) (text : String) :
    kind.apply env [(name, text)] = ObjAttr.edits env name text := by
  have hne : ∀ e ∈ Rule.ofKind kind ++ Rule.ofKindLast kind, e.1 ≠ name :=
    fun e he hname => kind.not_accepts_own e he (hname ▸ h)
  have hown : Assoc.get? (Rule.ofKind kind) name = none :=
    Assoc.get?_of_forall_ne fun e he => hne e (List.mem_append_left _ he)
  have hlast : ∀ e ∈ Rule.ofKindLast kind, Attrs.get? [(name, text)] e.1 = none :=
    fun e he => if_neg (hne e (List.mem_append_right _ he)).symm
  calc kind.apply env [(name, text)]
      = ObjAttr.apply env [(name, text)] >>= fun common => pure [] >>= fun own =>
          pure [] >>= fun last => pure (common ++ own ++ last) := by
        refine bind_congr fun common =>
          (congrArg (· >>= _) ?own).trans (bind_congr fun own => congrArg (· >>= _) ?last)
        case own  => simp [Noted.collect, hown]
        case last =>
          refine (Noted.collect_congr fun e he => ?_).trans (Noted.collect_eq_nil fun _ => rfl)
          dsimp only
          rw [hlast e he]
    _ = ObjAttr.edits env name text := by simp [ObjAttr.apply, Noted.collect]

namespace Processor

variable {p : Processor}

theorem create_common (hp : p.isObject) (h : ObjAttr.accepts name) (env : Env)
    (parent : Option ObjId) (s : Scene) :
    p.create env parent [(name, text)] s = p.create env parent [] s := by
  have hother {other : String} (hother : ObjAttr.accepts other = false) :
      Attrs.get? [(name, text)] other = none := by
    have hne : name ≠ other := fun he => Bool.false_ne_true (hother.symm.trans (he ▸ h))
    exact if_neg hne
  unfold create
  cases p
  case tab =>
    dsimp only [Attrs.getText]
    rw [hother (by decide)]
    rfl
  case tabButton =>
    dsimp only [makeTabButton, Reading.intAttr]
    rw [hother (by decide)]
    rfl
  case widget | dropdownList | calendarHeader | tabBar => rfl
  all_goals cases hp

theorem apply_common (hp : p.isObject) (h : ObjAttr.accepts name) (env : Env)
    (parent : Option ObjId) (id : ObjId) :
    p.apply env parent (some (.obj id)) [(name, text)] =
      onto (some id) (ObjAttr.edits env name text) := by
  have happly : ObjAttr.apply env [(name, text)] = ObjAttr.edits env name text := by
    simp [ObjAttr.apply, Noted.collect]
  unfold apply
  cases p
  case widget kind => exact congrArg (onto _) (kind.apply_common h env text)
  case dropdownList | calendarHeader | tabBar | tab | tabButton =>
    exact congrArg (onto _) happly
  all_goals cases hp

end Processor

end UiMarkup
