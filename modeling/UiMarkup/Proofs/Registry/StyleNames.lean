import UiMarkup.Proofs.Registry.Effective

namespace UiMarkup.Registry

def Bears (r : Registry) (scope : ScopeId) (name : String) (style : StyleId) : Prop :=
  ∃ e, r.style? style = some e ∧ e.scope = scope ∧ e.name = name

-- Whether a call was made for a style of that name, in a scope that was there.
def History.Styles (scope : ScopeId) (name : String) : History → Prop
  | []           => False
  | c :: earlier => (Has earlier scope ∧ c.Styles scope name) ∨ Styles scope name earlier

variable {r : Registry} {scope : ScopeId} {name : String} {style : StyleId}

theorem Linked.entry?_eq_some_iff (h : r.Linked) :
    r.entry? .style scope name = some style ↔ r.Bears scope name style := by
  constructor
  case mp =>
    intro he
    have ⟨e, hstyle, hname, hscope⟩ := h.style?_of_entry? he
    exact ⟨e, hstyle, hscope, hname⟩
  case mpr =>
    rintro ⟨e, hstyle, rfl, rfl⟩
    exact h.entry?_of_style? hstyle

theorem Linked.entry?_eq_none_iff (h : r.Linked) :
    r.entry? .style scope name = none ↔ ∀ style, ¬r.Bears scope name style := by
  simp [Option.eq_none_iff_forall_ne_some, h.entry?_eq_some_iff]

theorem Linked.lookup?_eq_some_iff (h : r.Linked) (given : Option ScopeId) :
    r.lookup? .style given name = some style ↔
      r.Bears (given.getD .globals) name style ∨
        (∀ other, ¬r.Bears (given.getD .globals) name other) ∧ r.Bears .globals name style := by
  simp [lookup?, Option.or_eq_some_iff, h.entry?_eq_some_iff, h.entry?_eq_none_iff]

theorem value_findStyle (given : Option ScopeId) (name : String) :
    (r.findStyle given name).value = match Text.cutLast? '.' name with
      | none                   => r.lookup? .style given name
      | some (qualifier, bare) => r.lookup? .style (r.scopeByName? qualifier) bare := by
  unfold findStyle
  cases Text.cutLast? '.' name
  case none =>
    cases hstyle : r.lookup? .style given name <;> simp [hstyle]
  case some q =>
    dsimp only
    cases r.scopeByName? q.1
    case none    => cases hstyle : r.lookup? .style none q.2 <;> simp [hstyle]
    case some id => cases hstyle : r.lookup? .style (some id) q.2 <;> simp [hstyle]

theorem findStyle_of_not_mem (hn : '.' ∉ name.toList) (given : Option ScopeId) :
    (r.findStyle given name).value = r.lookup? .style given name := by
  rw [value_findStyle, Text.cutLast?_of_not_mem hn]

-- The scope of a qualified name ends at the last dot, so its own name may have dots.
theorem findStyle_qualified (hn : '.' ∉ name.toList) (given : Option ScopeId) (qualifier : String) :
    (r.findStyle given (qualifier ++ "." ++ name)).value =
      r.lookup? .style (r.scopeByName? qualifier) name := by
  rw [value_findStyle, Text.cutLast?_append qualifier hn]

namespace History

theorem scopeByName?_of_scope? (h : History) {s : Scope} (hs : h.registry.scope? scope = some s) :
    h.registry.scopeByName? s.name = some scope := by
  refine h.scopeByName?_registry.trans (h.scopeNamed?_of_name ?_)
  rw [← h.names_registry, names, List.getElem?_map, Array.getElem?_toList]
  exact congrArg (Option.map _) hs

theorem run_of_not_has {h : History} (hscope : ¬h.Has scope) {c : Call}
    (hc : c.Styles scope name) : c.run h.registry = h.registry := by
  cases c
  case registerStyle given attrs =>
    obtain ⟨rfl, hname⟩ := hc
    have hnone : h.registry.scope? (given.getD .globals) = none := by
      simpa [scope?, h.has_iff] using hscope
    simp [Call.run, registerStyle, hname, hnone, Except.map, Call.run.settle]
  all_goals cases hc

theorem exists_bears_iff (h : History) :
    (∃ style, h.registry.Bears scope name style) ↔ h.Styles scope name := by
  induction h
  case nil => simp [Bears, registry, style?, empty, Styles]
  case cons c earlier hi =>
    simp only [← (linked _).entry?_eq_some_iff] at hi ⊢
    rw [Styles, ← hi, registry]
    by_cases hc : c.Styles scope name
    case neg => simp [hc, entry?_run_of_not_styles hc]
    case pos =>
      by_cases hscope : Has earlier scope
      case neg => simp [hscope, run_of_not_has hscope hc]
      case pos =>
        have hs := isSome_scope?_of_has hscope []
        obtain ⟨style, -, hstyle, -⟩ := (linked earlier).exists_run_of_styles hs hc
        exact iff_of_true ⟨style, hstyle⟩ (.inl ⟨hscope, hc⟩)

-- Which styles there are is said by the calls, and each of them is found: under its long name from
-- any scope, and under its own name from its scope.
theorem styles_found_by_name (h : History) :
    (∀ style e, h.registry.style? style = some e → '.' ∉ e.name.toList →
      (∀ given, (h.registry.findStyle given e.longName).value = some style) ∧
      (h.registry.findStyle (some e.scope) e.name).value = some style) ∧
    (∀ name, '.' ∉ name.toList → ∀ given style,
      (h.registry.findStyle given name).value = some style ↔
        h.registry.Bears (given.getD .globals) name style ∨
          (∀ other, ¬h.registry.Bears (given.getD .globals) name other) ∧
            h.registry.Bears .globals name style) ∧
    ∀ scope name, (∃ style, h.registry.Bears scope name style) ↔ h.Styles scope name := by
  refine ⟨fun style e he hn => ⟨fun given => ?long, ?own⟩, fun name hn given style => ?plain,
    fun _ _ => h.exists_bears_iff⟩
  case long =>
    have ⟨s, hs, hm⟩ := h.linked.listed he
    have ⟨e', he', _, _, hlong⟩ := h.linked.named hs hm
    rw [Option.some.inj (he.symm.trans he'), hlong, findStyle_qualified hn,
      h.scopeByName?_of_scope? hs, h.linked.lookup?_eq_some_iff]
    exact .inl ⟨e, he, rfl, rfl⟩
  case own =>
    rw [findStyle_of_not_mem hn, h.linked.lookup?_eq_some_iff]
    exact .inl ⟨e, he, rfl, rfl⟩
  case plain => rw [findStyle_of_not_mem hn, h.linked.lookup?_eq_some_iff]

theorem styles_found_by_name_dotted :
    let h : History := [.registerStyle none [("name", "s")],
      .registerStyle (some ⟨1⟩) [("name", "s")], .ensureScope "a.b"]
    (h.registry.findStyle (some ⟨7⟩) "a.b.s").value = some ⟨0⟩ ∧
      (h.registry.findStyle (some ⟨1⟩) "s").value = some ⟨0⟩ ∧
      (h.registry.findStyle (some ⟨7⟩) "s").value = some ⟨1⟩ := by
  intro h
  have ⟨hnamed, hplain, _⟩ := styles_found_by_name h
  let e : StyleEntry := { name := "s", longName := "a.b.s", scope := ⟨1⟩, style := .empty }
  let e' : StyleEntry := { name := "s", longName := "globals.s", scope := ⟨0⟩, style := .empty }
  have he : h.registry.styles = #[e, e'] := by decide +kernel
  have hstyle (style : StyleId) : h.registry.style? style = #[e, e'][style.index]? :=
    congrArg (·[style.index]?) he
  have ⟨hlong, hown⟩ := hnamed ⟨0⟩ e (hstyle _) (by decide)
  refine ⟨hlong _, hown, (hplain "s" (by decide) _ _).mpr (.inr ⟨?_, e', hstyle _, rfl, rfl⟩)⟩
  rintro ⟨i⟩ ⟨found, hfound, hscope, -⟩
  rw [hstyle] at hfound
  match i with
  | 0     => cases hfound; cases hscope
  | 1     => cases hfound; cases hscope
  | i + 2 => simp at hfound

end History

end UiMarkup.Registry
