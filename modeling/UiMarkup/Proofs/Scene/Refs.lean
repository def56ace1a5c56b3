import UiMarkup.Proofs.Registry.Styles
import UiMarkup.Proofs.Scene.Growth

namespace UiMarkup

inductive Ref
  | style (id : StyleId)
  | font (id : FontId)
  | subject (id : SubjectId)
  | timeline (id : TimelineId)
  | scaleSection (id : SectionId)
  | textSpan (id : SpanId)
  | value (subject : SubjectId) (kind : SubjectKind)
deriving DecidableEq

-- What there is to refer to. Sections and spans are those of one object.
structure Stock where
  styles    : Nat
  fonts     : Nat
  timelines : Nat
  kind?     : SubjectId → Option SubjectKind
  sections  : Nat := 0
  spans     : Nat := 0

structure Stock.Grows (t t' : Stock) : Prop where
  styles    : t.styles ≤ t'.styles
  fonts     : t.fonts ≤ t'.fonts
  timelines : t.timelines ≤ t'.timelines
  kind?     : ∀ {id kind}, t.kind? id = some kind → t'.kind? id = some kind
  sections  : t.sections ≤ t'.sections
  spans     : t.spans ≤ t'.spans

theorem Stock.Grows.refl {t : Stock} : t.Grows t :=
  ⟨Nat.le_refl _, Nat.le_refl _, Nat.le_refl _, id, Nat.le_refl _, Nat.le_refl _⟩

def Ref.Good (t : Stock) : Ref → Prop
  | style id        => id.index < t.styles
  | font id         => id.index < t.fonts
  | subject id      => (t.kind? id).isSome
  | timeline id     => id.index < t.timelines
  | scaleSection id => id.index < t.sections
  | textSpan id     => id.index < t.spans
  | value id kind   => t.kind? id = some kind

theorem Ref.Good.mono {t t' : Stock} {ref : Ref} (h : ref.Good t) (ht : t.Grows t') :
    ref.Good t' := by
  cases ref
  case style        => exact Nat.lt_of_lt_of_le h ht.styles
  case font         => exact Nat.lt_of_lt_of_le h ht.fonts
  case timeline     => exact Nat.lt_of_lt_of_le h ht.timelines
  case scaleSection => exact Nat.lt_of_lt_of_le h ht.sections
  case textSpan     => exact Nat.lt_of_lt_of_le h ht.spans
  case value        => exact ht.kind? h
  case subject id   =>
    have ⟨kind, hkind⟩ := Option.isSome_iff_exists.mp h
    exact Option.isSome_iff_exists.mpr ⟨kind, ht.kind? hkind⟩

def StyleValue.refs : StyleValue → List Ref
  | font id => [.font id]
  | _       => []

def Style.refs (s : Style) : List Ref :=
  s.props.flatMap (·.2.refs)

def SectionProp.refs : SectionProp → List Ref
  | styleMain id      => [.style id]
  | styleIndicator id => [.style id]
  | styleItems id     => [.style id]
  | _                 => []

def SpanProp.refs : SpanProp → List Ref
  | style id => [.style id]
  | _        => []

def Binding.refs (subject : SubjectId) : Binding → List Ref
  | flag _ _ v    => [.subject subject, .value subject v.kind]
  | state _ _ v   => [.subject subject, .value subject v.kind]
  | style id _ v  => [.subject subject, .style id, .value subject v.kind]
  | sectionMin id => [.subject subject, .scaleSection id]
  | sectionMax id => [.subject subject, .scaleSection id]
  | spanText id _ => [.subject subject, .textSpan id]
  | _             => [.subject subject]

def Action.refs : Action → List Ref
  | toggle id           => [.subject id]
  | assign id _         => [.subject id]
  | increment id ..     => [.subject id]
  | playTimeline id _ _ => [.timeline id]
  | _                   => []

def Edit.refs : Edit → List Ref
  | addStyle id style _ => .style id :: style.refs
  | localStyle _ v _    => v.refs
  | bind id b           => b.refs id
  | hook _ a            => a.refs
  | sectionProp _ p     => p.refs
  | spanProp _ p        => p.refs
  | _                   => []

def AllGood (t : Stock) (refs : List Ref) : Prop :=
  ∀ ref ∈ refs, ref.Good t

theorem AllGood.nil {t : Stock} : AllGood t [] :=
  List.forall_mem_nil _

theorem AllGood.append {t : Stock} {refs refs' : List Ref} (h : AllGood t refs)
    (h' : AllGood t refs') : AllGood t (refs ++ refs') :=
  List.forall_mem_append.mpr ⟨h, h'⟩

theorem AllGood.mono {t t' : Stock} {refs : List Ref} (h : AllGood t refs) (ht : t.Grows t') :
    AllGood t' refs :=
  fun ref hr => (h ref hr).mono ht

section Lists

variable {α : Type} {P : α → Prop} {a : α}

theorem forall_mem_concat {xs : List α} (h : ∀ x ∈ xs, P x) (ha : P a) : ∀ x ∈ xs ++ [a], P x :=
  List.forall_mem_append.mpr ⟨h, fun _ hx => List.mem_singleton.mp hx ▸ ha⟩

theorem forall_mem_modify {xss : List (List α)} {i : Nat}
    (h : ∀ x ∈ xss.flatten, P x) (ha : P a) : ∀ x ∈ (xss.modify i (· ++ [a])).flatten, P x := by
  induction xss generalizing i
  case nil => simp
  case cons xs xss hi =>
    rw [List.flatten_cons, List.forall_mem_append] at h
    cases i
    case zero   =>
      rw [List.modify_zero_cons, List.flatten_cons, List.forall_mem_append]
      exact ⟨forall_mem_concat h.1 ha, h.2⟩
    case succ i =>
      rw [List.modify_succ_cons, List.flatten_cons, List.forall_mem_append]
      exact ⟨h.1, hi h.2⟩

end Lists

namespace Content

structure Good (t : Stock) (c : Content) : Prop where
  styles      : ∀ e ∈ c.styles, AllGood t (.style e.1 :: e.2.1.refs)
  localStyles : ∀ e ∈ c.localStyles, AllGood t e.2.refs
  bindings    : ∀ e ∈ c.bindings, AllGood t (e.2.refs e.1)
  hooks       : ∀ e ∈ c.hooks, AllGood t e.2.refs
  sections    : ∀ p ∈ c.sections.flatten, AllGood t p.refs
  spans       : ∀ p ∈ c.spans.flatten, AllGood t p.refs

namespace Good

variable {t t' : Stock} {c : Content}

theorem new : Good t {} :=
  ⟨by simp, by simp, by simp, by simp, by simp, by simp⟩

variable (h : c.Good t)
include h

theorem mono (ht : t.Grows t') : c.Good t' where
  styles      := fun e he => (h.styles e he).mono ht
  localStyles := fun e he => (h.localStyles e he).mono ht
  bindings    := fun e he => (h.bindings e he).mono ht
  hooks       := fun e he => (h.hooks e he).mono ht
  sections    := fun p hp => (h.sections p hp).mono ht
  spans       := fun p hp => (h.spans p hp).mono ht

theorem apply {e : Edit} (he : AllGood t e.refs) : (e.apply c).Good t := by
  cases e
  case addStyle id style _ => exact { h with styles := forall_mem_concat h.styles he }
  case removeStyle id sel =>
    exact { h with styles := fun e hm => h.styles e (List.mem_filter.mp hm).1 }
  case removeStyles        => exact { h with styles := nofun }
  case localStyle p v sel =>
    refine { h with localStyles := fun e hm => ?_ }
    cases Assoc.mem_of_mem_set hm
    case inl hm => exact hm ▸ he
    case inr hm => exact h.localStyles e hm
  case bind id b           => exact { h with bindings := forall_mem_concat h.bindings he }
  case hook code a         => exact { h with hooks := forall_mem_concat h.hooks he }
  case addSection          => exact { h with sections := by simpa [Edit.apply] using h.sections }
  case addSpan             => exact { h with spans := by simpa [Edit.apply] using h.spans }
  case sectionProp id p    => exact { h with sections := forall_mem_modify h.sections he }
  case spanProp id p       => exact { h with spans := forall_mem_modify h.spans he }
  all_goals exact { h with }

end Good

end Content

def Stock.inside (t : Stock) (c : Content) : Stock :=
  { t with sections := c.sections.length, spans := c.spans.length }

theorem Stock.Grows.inside {t t' : Stock} (h : t.Grows t') (c : Content) :
    (t.inside c).Grows (t'.inside c) :=
  { h with sections := Nat.le_refl _, spans := Nat.le_refl _ }

theorem Stock.grows_inside {t : Stock} {e : Edit} {c : Content} :
    (t.inside c).Grows (t.inside (e.apply c)) := by
  cases e
  all_goals exact { Grows.refl with sections := by simp [inside, Edit.apply]
                                    spans := by simp [inside, Edit.apply] }

namespace Scene

def Request.refs : Request → List Ref
  | edit _ e => e.refs
  | _        => []

def stock (s : Scene) (styles : Nat) : Stock where
  styles    := styles
  fonts     := s.fonts.size
  timelines := s.timelines.size
  kind?     := s.subjectKind?

def Good (t : Stock) (s : Scene) : Prop :=
  ∀ id o, s.obj? id = some o → o.toContent.Good (t.inside o.toContent)

variable {s : Scene} {t : Stock} {id : ObjId}

theorem good_empty : empty.Good t := by
  intro id o ho
  simp [obj?, empty] at ho

namespace Good

variable (h : s.Good t)
include h

theorem mono {t' : Stock} (ht : t.Grows t') : s.Good t' :=
  fun id o ho => (h id o ho).mono (ht.inside _)

theorem of_objects {s' : Scene} (he : s'.objects = s.objects) : s'.Good t :=
  fun id o ho => h id o (by rwa [obj?, he] at ho)

theorem visit : (s.visit id).Good t :=
  h.of_objects objects_visit

theorem modify {f : Obj → Obj}
    (hf : ∀ o, s.obj? id = some o → (f o).toContent.Good (t.inside (f o).toContent)) :
    (s.modify id f).Good t := by
  intro i o ho
  rw [obj?_modify] at ho
  split at ho
  case isFalse => exact h i o ho
  case isTrue hi =>
    obtain ⟨o', ho', rfl⟩ := Option.map_eq_some_iff.mp ho
    exact hf o' (hi ▸ ho')

-- What ties objects to each other holds no references.
theorem link {f : Obj → Obj} (hf : ∀ o, (f o).toContent = o.toContent) : (s.modify id f).Good t :=
  h.modify fun o ho => hf o ▸ h id o ho

theorem edit {e : Edit}
    (he : ∀ o, s.obj? id = some o → AllGood (t.inside o.toContent) e.refs) : (s.edit id e).Good t :=
  h.modify fun o ho =>
    ((h id o ho).mono Stock.grows_inside).apply ((he o ho).mono Stock.grows_inside)

theorem plainEdit (id : ObjId) (e : Edit) (he : e.refs = []) : (s.edit id e).Good t :=
  h.edit fun _ _ => he ▸ .nil

theorem push (kind : WidgetKind) (parent : Option ObjId) : (s.push kind parent).2.Good t := by
  have hadded {s : Scene} (h : s.Good t) (parent : Option ObjId) :
      (s.added { kind, parent }).Good t := by
    intro i o ho
    rw [obj?_added] at ho
    split at ho
    case isTrue  => exact Option.some.inj ho ▸ .new
    case isFalse => exact h i o ho
  cases parent
  case none   => exact hadded h none
  case some p => exact (hadded h.visit (some p)).link fun _ => rfl

theorem createWidget (kind : WidgetKind) (parent : Option ObjId) :
    (s.createWidget kind parent).2.Good t := by
  by_cases hk : kind = .tabview
  case neg => exact createWidget_of_ne hk ▸ h.push kind parent
  case pos =>
    subst hk
    rw [createWidget_tabview]
    exact ((h.push _ _).push _ _).link fun _ => rfl

theorem dropdownList : (s.dropdownList id).2.Good t := by
  unfold Scene.dropdownList
  split
  case h_1 => exact h.visit
  case h_2 =>
    split
    case isTrue  => exact h
    case isFalse =>
      split
      case h_1 => exact h
      case h_2 => exact (h.push _ _).link fun _ => rfl

theorem addTab (title : String) : (s.addTab id title).2.Good t := by
  have hbutton := (h.visit : (s.visit id).Good t).push .button (s.tabBar? id)
  have htitle (button : ObjId) := hbutton.plainEdit button (.prop (.text title)) rfl
  exact ((htitle _).push .obj (some id)).link fun _ => rfl

theorem run {r : Request} (hr : r.refs = []) : (r.run s).Good t := by
  cases r
  case createWidget kind parent => exact h.createWidget kind parent
  case edit id e                => exact h.plainEdit id e hr
  case look                     => exact h.visit
  case dropdownList             => exact h.dropdownList
  case addTab title             => exact h.addTab title
  case addHeader                => exact h.push _ _
  case loadFont                 => exact h.of_objects objects_loadFont
  all_goals exact h.of_objects rfl

end Good

section Stocks

variable {n : Nat}

@[simp] theorem stock_visit : (s.visit id).stock n = s.stock n := by
  unfold visit
  split <;> rfl

@[simp] theorem stock_modify {f : Obj → Obj} : (s.modify id f).stock n = s.stock n :=
  stock_visit

@[simp] theorem stock_edit {e : Edit} : (s.edit id e).stock n = s.stock n :=
  stock_modify

@[simp] theorem stock_push {kind : WidgetKind} {parent : Option ObjId} :
    (s.push kind parent).2.stock n = s.stock n := by
  cases parent
  case none => rfl
  case some => exact stock_modify.trans stock_visit

@[simp] theorem stock_createWidget {kind : WidgetKind} {parent : Option ObjId} :
    (s.createWidget kind parent).2.stock n = s.stock n := by
  by_cases hk : kind = .tabview
  case neg => rw [createWidget_of_ne hk, stock_push]
  case pos => simp [hk, createWidget_tabview]

@[simp] theorem stock_dropdownList : (s.dropdownList id).2.stock n = s.stock n := by
  unfold dropdownList
  split
  case h_1 => exact stock_visit
  case h_2 =>
    split
    case isTrue  => rfl
    case isFalse => split <;> simp

@[simp] theorem stock_addTab {title : String} : (s.addTab id title).2.stock n = s.stock n := by
  simp [addTab]

theorem isSome_subjectKind? {id : SubjectId} :
    (s.subjectKind? id).isSome ↔ id.index < s.subjects.size := by
  simp [subjectKind?, subject?]

theorem grows_createSubject {initial : SubjectValue} :
    (s.stock n).Grows ((s.createSubject initial).2.stock n) := by
  refine { Stock.Grows.refl with kind? := fun {id kind} h => ?_ }
  have hlt : id.index < s.subjects.size :=
    isSome_subjectKind?.mp <| Option.isSome_iff_exists.mpr ⟨kind, h⟩
  simpa [stock, createSubject, subjectKind?, subject?, Array.getElem?_push_lt hlt, hlt] using h

theorem grows_run {r : Request} : (s.stock n).Grows ((r.run s).stock n) := by
  have heq {s' : Scene} (he : s'.stock n = s.stock n) : (s.stock n).Grows (s'.stock n) :=
    he ▸ .refl
  cases r
  case createWidget   => exact heq stock_createWidget
  case edit           => exact heq stock_edit
  case look           => exact heq stock_visit
  case dropdownList   => exact heq stock_dropdownList
  case addTab         => exact heq stock_addTab
  case addHeader      => exact heq stock_push
  case createSubject  => exact grows_createSubject
  case subjectKind    => exact .refl
  case loadFont =>
    rw [Request.run, loadFont]
    split
    case isFalse => exact .refl
    case isTrue  => exact { Stock.Grows.refl with fonts := by simp [stock] }
  case createTimeline =>
    exact { Stock.Grows.refl with timelines := by simp [stock, Request.run, createTimeline] }
  case addStep =>
    exact { Stock.Grows.refl with timelines := by simp [stock, Request.run, addStep] }

end Stocks

end Scene

end UiMarkup
