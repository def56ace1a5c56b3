import UiMarkup.Proofs.Loader.Run
import UiMarkup.Proofs.Widget.Refs

namespace UiMarkup

theorem Registry.KeepsStyles.size_le {r r' : Registry} (h : r.KeepsStyles r') :
    r.styles.size ≤ r'.styles.size := by
  refine Nat.le_of_not_lt fun hlt => ?_
  have hlast : r.style? ⟨r'.styles.size⟩ = some r.styles[r'.styles.size] :=
    Array.getElem?_eq_getElem hlt
  obtain ⟨_, he, -⟩ := h.style hlast
  exact Nat.lt_irrefl _ (Array.getElem?_eq_some_iff.mp he).1

namespace Entry

variable {scope : ScopeId} {r : Registry} {s : Scene} (e : Entry)

theorem grows_scene {n n' : Nat} (h : n ≤ n') : (s.stock n).Grows ((e.scene s).stock n') := by
  have hgrow : (s.stock n).Grows ((e.scene s).stock n) := by
    unfold scene
    cases e.request?
    case none   => exact .refl
    case some r => exact Scene.grows_run
  exact { hgrow with styles := h }

theorem refs_call {c : Registry.Call} {n : Nat} (hc : c ∈ e.call? scope s) :
    AllGood ((e.scene s).stock n) c.refs := by
  cases e
  case font name source =>
    obtain ⟨id, hid, rfl⟩ := Option.map_eq_some_iff.mp hc
    unfold Scene.loadFont at hid
    split at hid
    case isFalse   => cases hid
    case isTrue ht =>
      cases hid
      simp [AllGood, Registry.Call.refs, EntryKind.refs, Ref.Good, scene, request?,
        Scene.Request.run, Scene.stock, Scene.loadFont, ht]
  case subject name initial =>
    cases hc
    simp [AllGood, Registry.Call.refs, EntryKind.refs, Ref.Good, scene, request?, Scene.Request.run,
      Scene.stock, Scene.createSubject, Scene.isSome_subjectKind?]
  case timeline name =>
    cases hc
    simp [AllGood, Registry.Call.refs, EntryKind.refs, Ref.Good, scene, request?, Scene.Request.run,
      Scene.stock, Scene.createTimeline]
  case step => cases hc
  all_goals cases hc; exact .nil

theorem good_registry {t : Stock} (h : r.Good t)
    (hc : ∀ c ∈ e.call? scope s, AllGood t c.refs)
    (ht : (e.registry scope r s).styles.size ≤ t.styles) : (e.registry scope r s).Good t := by
  unfold registry at ht ⊢
  cases hcall : e.call? scope s
  case none   => exact h
  case some c => exact h.run (hc c hcall) (by rwa [hcall] at ht)

theorem size_styles_le : r.styles.size ≤ (e.registry scope r s).styles.size :=
  e.registry_induction (motive := fun r' => r.styles.size ≤ r'.styles.size) (Nat.le_refl _)
    fun c _ => (Registry.keepsStyles_run c).size_le

end Entry

theorem Scene.Good.edits {s : Scene} {t : Stock} (h : s.Good t) {edits : List (ObjId × Edit)}
    (he : ∀ e ∈ edits, ∀ o, s.obj? e.1 = some o → AllGood (t.inside o.toContent) e.2.refs) :
    (edits.foldl (fun s (id, e) => s.edit id e) s).Good t := by
  induction edits generalizing s
  case nil => exact h
  case cons e edits hi =>
    refine hi (h.edit (he e (.head _))) fun e' hm o ho => ?_
    obtain ⟨o', ho', hedit⟩ := eq_of_obj?_modify ho
    have hgood := he e' (.tail _ hm) o' ho'
    split at hedit
    case isTrue  => exact hedit ▸ hgood.mono Stock.grows_inside
    case isFalse => exact hedit ▸ hgood

theorem Scene.stock_edits {s : Scene} {n : Nat} {edits : List (ObjId × Edit)} :
    (edits.foldl (fun s (id, e) => s.edit id e) s).stock n = s.stock n := by
  induction edits generalizing s
  case nil             => rfl
  case cons e edits hi => exact hi.trans stock_edit

theorem Processor.good_create (p : Processor) (env : Env) (parent : Option ObjId) (attrs : Attrs)
    {s : Scene} {n : Nat} (hs : s.Good (s.stock n)) :
    let s₁ := (p.create env parent attrs s).value.2
    (s.stock n).Grows (s₁.stock n) ∧ s₁.Good (s.stock n) := by
  have hcreate : (p.create env parent attrs s).value.2 = s ∨ _ := p.exists_request parent
  intro s₁
  cases hcreate
  case inl he =>
    rw [show s₁ = s from he]
    exact ⟨.refl, hs⟩
  case inr hr =>
    have ⟨r, _, hrefs, he⟩ := hr
    rw [show s₁ = r.run s from he]
    exact ⟨Scene.grows_run, hs.run hrefs⟩

namespace Context

variable {c : Context} {s : Scene} {n : Nat} {parent : Option ObjId} {item : Option Item}

-- A section or a span has to be one of the parent, since its attributes go there.
theorem good_apply (hr : c.registry.Good (s.stock n)) (hs : s.Good (s.stock n))
    (hi : ∀ i ∈ item, ∀ q ∈ parent, ∀ o, s.obj? q = some o →
      AllGood ((s.stock n).inside o.toContent) i.refs) (p : Processor) (attrs : Attrs) :
    let edits := (p.apply (c.env s) parent item attrs).value
    (edits.foldl (fun s (id, e) => s.edit id e) s).Good (s.stock n) := by
  refine hs.edits fun e he o ho => ?_
  have henv : (c.env s).Good ((s.stock n).inside o.toContent) :=
    ⟨hr.mono { Stock.Grows.refl with sections := Nat.zero_le _, spans := Nat.zero_le _ }, rfl⟩
  refine p.refs_apply henv (fun i hm => ?_) he
  cases p.target_of_apply he
  case inl hparent => exact hi i hm e.1 hparent o ho
  case inr hobj    =>
    cases hm
    cases i
    case obj => exact .nil
    all_goals cases hobj

variable (parent) in
theorem good_perform (hr : c.registry.Good (s.stock n)) (hs : s.Good (s.stock n)) (p : Processor)
    (attrs : Attrs) :
    let out := c.perform p parent attrs s
    (s.stock n).Grows (out.2.stock n) ∧ out.2.Good (out.2.stock n) := by
  have ⟨hgrow, hs₁⟩ := p.good_create (c.env s) parent attrs hs
  unfold perform
  generalize hmade : (p.create (c.env s) parent attrs s).value = made at hgrow hs₁
  obtain ⟨item, s₁⟩ := made
  cases item
  case none      => exact ⟨hgrow, hs₁.mono hgrow⟩
  case some item =>
    have hpiece : ∀ i ∈ some item, ∀ q ∈ parent, ∀ o, s₁.obj? q = some o →
        AllGood ((s₁.stock n).inside o.toContent) i.refs := by
      intro i hi q hq o ho
      cases hi
      cases hq
      exact p.refs_create hmade ho
    have hout := good_apply (hr.mono hgrow) (hs₁.mono hgrow) hpiece p attrs
    dsimp only at hgrow hout ⊢
    rw [Scene.stock_edits]
    exact ⟨hgrow, hout⟩

end Context

-- All references are good, wherever elements are placed.
def intactness : Condition where
  holds r s := r.Good (s.stock r.styles.size) ∧ s.Good (s.stock r.styles.size)
  home _ _  := True

theorem invariant_intactness : intactness.Invariant := by
  constructor
  case entry =>
    intro r s ⟨hr, hs⟩ scope e
    have hsize : r.styles.size ≤ (e.registry scope r s).styles.size := e.size_styles_le
    have hgrow : (s.stock _).Grows _ := e.grows_scene hsize
    exact ⟨⟨e.good_registry (hr.mono hgrow) (fun c hc => e.refs_call hc) (Nat.le_refl _),
      (hs.mono hgrow).of_objects e.objects_scene⟩, id⟩
  case element =>
    intro c s parent ⟨hr, hs⟩ _ p attrs
    have ⟨hgrow, hout⟩ := Context.good_perform parent hr hs p attrs
    exact ⟨⟨⟨hr.mono hgrow, hout⟩, id⟩, fun _ _ => trivial⟩
  case adorn =>
    intro c s parent root ⟨hr, hs⟩ _ _ p attrs
    have hroot : ∀ i ∈ some (Item.obj root), ∀ q ∈ parent, ∀ o, s.obj? q = some o →
        AllGood ((s.stock c.registry.styles.size).inside o.toContent) i.refs := by
      intro i hi _ _ _ _
      cases hi
      exact .nil
    have hout := Context.good_apply hr hs hroot p attrs
    refine ⟨?_, id⟩
    dsimp only [intactness]
    rw [Scene.stock_edits]
    exact ⟨hr, hout⟩
  case ensureScope =>
    intro r s ⟨hr, hs⟩ name
    have hsize : (r.ensureScope name).2.styles.size = r.styles.size := by
      unfold Registry.ensureScope
      split <;> rfl
    dsimp only [intactness]
    rw [hsize]
    exact ⟨hr.ensureScope name, hs⟩
  case setComponent =>
    intro r s ⟨hr, hs⟩ scope c r' hset
    have hgood := hr.modifyScope hset fun _ hs => hs
    obtain ⟨-, rfl⟩ := Registry.modifyScope_eq_ok hset
    exact ⟨hgood, hs⟩

section Readings

variable (r : Registry) (s : Scene)

def StyleValue.Intact : StyleValue → Prop
  | font id => id.index < s.fonts.size
  | _       => True

def Binding.Intact (c : Content) (subject : SubjectId) : Binding → Prop
  | flag _ _ v    => s.subjectKind? subject = some v.kind
  | state _ _ v   => s.subjectKind? subject = some v.kind
  | style id _ v  => id.index < r.styles.size ∧ s.subjectKind? subject = some v.kind
  | sectionMin id => id.index < c.sections.length
  | sectionMax id => id.index < c.sections.length
  | spanText id _ => id.index < c.spans.length
  | _             => True

def Action.Intact : Action → Prop
  | toggle id           => id.index < s.subjects.size
  | assign id _         => id.index < s.subjects.size
  | increment id ..     => id.index < s.subjects.size
  | playTimeline id _ _ => id.index < s.timelines.size
  | _                   => True

def SectionProp.Intact : SectionProp → Prop
  | styleMain id      => id.index < r.styles.size
  | styleIndicator id => id.index < r.styles.size
  | styleItems id     => id.index < r.styles.size
  | _                 => True

def SpanProp.Intact : SpanProp → Prop
  | style id => id.index < r.styles.size
  | _        => True

structure Scope.Intact (scope : Scope) : Prop where
  styles    : ∀ e ∈ scope.styles, e.2.index < r.styles.size
  fonts     : ∀ e ∈ scope.fonts, e.2.index < s.fonts.size
  subjects  : ∀ e ∈ scope.subjects, e.2.index < s.subjects.size
  timelines : ∀ e ∈ scope.timelines, e.2.index < s.timelines.size

structure Content.Intact (c : Content) : Prop where
  styles      : ∀ e ∈ c.styles, e.1.index < r.styles.size ∧ ∀ p ∈ e.2.1.props, p.2.Intact s
  localStyles : ∀ e ∈ c.localStyles, e.2.Intact s
  bindings    : ∀ e ∈ c.bindings, e.1.index < s.subjects.size ∧ e.2.Intact r s c e.1
  hooks       : ∀ e ∈ c.hooks, e.2.Intact s
  sections    : ∀ props ∈ c.sections, ∀ p ∈ props, p.Intact r
  spans       : ∀ props ∈ c.spans, ∀ p ∈ props, p.Intact r

end Readings

section

variable {r : Registry} {s : Scene} {c : Content} {n : Nat} {t : Stock}

theorem StyleValue.intact {v : StyleValue} (h : AllGood t v.refs) (ht : t.fonts = s.fonts.size) :
    v.Intact s := by
  cases v
  case font id =>
    have hlt : id.index < t.fonts := Ref.good_of_singleton h
    rwa [ht] at hlt
  all_goals trivial

theorem Style.Good.intact {style : Style} (h : style.Good t) (ht : t.fonts = s.fonts.size) :
    ∀ p ∈ style.props, p.2.Intact s :=
  fun p hp => StyleValue.intact (fun ref hr => h ref (List.mem_flatMap.mpr ⟨p, hp, hr⟩)) ht

theorem Binding.intact {subject : SubjectId} {b : Binding}
    (h : AllGood ((s.stock r.styles.size).inside c) (b.refs subject)) :
    subject.index < s.subjects.size ∧ b.Intact r s c subject := by
  cases b <;> simpa [AllGood, refs, Ref.Good, Stock.inside, Scene.stock, Intact,
    Scene.isSome_subjectKind?] using h

theorem Action.intact {a : Action} (h : AllGood ((s.stock n).inside c) a.refs) : a.Intact s := by
  cases a
  case toggle       => exact Scene.isSome_subjectKind?.mp (Ref.good_of_singleton h)
  case assign       => exact Scene.isSome_subjectKind?.mp (Ref.good_of_singleton h)
  case increment    => exact Scene.isSome_subjectKind?.mp (Ref.good_of_singleton h)
  case playTimeline => exact Ref.good_of_singleton h
  all_goals trivial

theorem SectionProp.intact {p : SectionProp}
    (h : AllGood ((s.stock r.styles.size).inside c) p.refs) : p.Intact r := by
  cases p
  case minValue => trivial
  case maxValue => trivial
  all_goals exact Ref.good_of_singleton h

theorem SpanProp.intact {p : SpanProp}
    (h : AllGood ((s.stock r.styles.size).inside c) p.refs) : p.Intact r := by
  cases p
  case text  => trivial
  case style => exact Ref.good_of_singleton h

theorem Content.Good.intact (h : c.Good ((s.stock r.styles.size).inside c)) : c.Intact r s where
  styles e he := by
    have ⟨hstyle, hprops⟩ := List.forall_mem_cons.mp (h.styles e he)
    exact ⟨hstyle, Style.Good.intact hprops rfl⟩
  localStyles e he      := StyleValue.intact (h.localStyles e he) rfl
  bindings e he         := Binding.intact (h.bindings e he)
  hooks e he            := Action.intact (h.hooks e he)
  sections ps hps p hp  := SectionProp.intact (h.sections p (List.mem_flatten.mpr ⟨ps, hps, hp⟩))
  spans ps hps p hp     := SpanProp.intact (h.spans p (List.mem_flatten.mpr ⟨ps, hps, hp⟩))

theorem Scope.Good.intact {scope : Scope} (h : scope.Good (s.stock r.styles.size)) :
    scope.Intact r s where
  styles e he    := Ref.good_of_singleton (h .style e he)
  fonts e he     := Ref.good_of_singleton (h .font e he)
  subjects e he  := Scene.isSome_subjectKind?.mp (Ref.good_of_singleton (h .subject e he))
  timelines e he := Ref.good_of_singleton (h .timeline e he)

end

namespace Loader

theorem Reaches.handles_intact {setup : Setup} {l : Loader} {s : Scene} (h : Reaches setup l s) :
    (∀ scope ∈ l.registry.scopes, scope.Intact l.registry s) ∧
      (∀ e ∈ l.registry.styles, ∀ p ∈ e.style.props, p.2.Intact s) ∧
      ∀ o ∈ s.objects, o.toContent.Intact l.registry s := by
  have ⟨hregistry, hscene⟩ := h.holds invariant_intactness (fun _ => trivial)
    ⟨.new, Scene.good_empty⟩
  refine ⟨?scopes, ?styles, ?objects⟩
  case scopes =>
    intro scope hm
    have ⟨i, hi⟩ := Array.mem_iff_getElem?.mp hm
    exact (hregistry.scopes ⟨i⟩ scope hi).intact
  case styles =>
    intro e hm
    have ⟨i, hi⟩ := Array.mem_iff_getElem?.mp hm
    exact (hregistry.styles ⟨i⟩ e hi).intact rfl
  case objects =>
    intro o hm
    have ⟨i, hi⟩ := Array.mem_iff_getElem?.mp hm
    exact (hscene ⟨i⟩ o hi).intact

theorem intact_with_section :
    let globals := Call.loadGlobals ("<globals><fonts><builtin name='f' src='small'/></fonts>" ++
      "<subjects><int name='n'/></subjects>" ++
      "<styles><style name='s' text_font='f'/></styles></globals>")
    let view := Call.loadView none
      "<view><scale><scale-section style_main='s' bind_min_value='n'/></scale></view>"
    let l := globals.run {} .empty
    let l' := view.run l.1 l.2
    l'.2.objects.toList.map (·.bindings) = [[], [(⟨0⟩, .sectionMin ⟨0⟩)]] ∧
      (∀ scope ∈ l'.1.registry.scopes, scope.Intact l'.1.registry l'.2) ∧
      (∀ e ∈ l'.1.registry.styles, ∀ p ∈ e.style.props, p.2.Intact l'.2) ∧
      ∀ o ∈ l'.2.objects, o.toContent.Intact l'.1.registry l'.2 := by
  intro globals view l l'
  have hglobals : Reaches {} l.1 l.2 := .call .new globals nofun
  have h : Reaches {} l'.1 l'.2 := .call hglobals view nofun
  exact ⟨by decide +kernel, h.handles_intact⟩

end Loader

end UiMarkup
