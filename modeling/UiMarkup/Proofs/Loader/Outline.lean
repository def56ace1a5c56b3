import UiMarkup.Proofs.Loader.Recorded
import UiMarkup.Proofs.Registry.History
import UiMarkup.Proofs.Scene.Request

namespace UiMarkup

open Markup

-- The tags of the widgets that are created as one object. A tab view has a bar besides.
def singles : List WidgetKind :=
  (Vocabulary.values (α := WidgetKind)).filter (· ≠ .tabview)

def singleTags : List String :=
  singles.map Vocabulary.token

example : singleTags = ["obj", "button", "label", "image", "arc", "bar", "slider", "checkbox",
    "switch", "textarea", "dropdown", "spinner", "spinbox", "canvas", "calendar", "table", "scale",
    "spangroup", "imagebutton", "qrcode"] := by decide

def WidgetTable.NamesSingles (t : WidgetTable) : Prop :=
  ∀ kind ∈ singles, t.get? (Vocabulary.token kind) = some (.widget kind)

instance {t : WidgetTable} : Decidable t.NamesSingles :=
  inferInstanceAs (Decidable (∀ kind ∈ singles, _))

namespace Scene

variable {s : Scene} {id : ObjId}

def outline (s : Scene) : List (String × Option ObjId) :=
  s.objects.toList.map fun o => (Vocabulary.token o.kind, o.parent)

@[simp] theorem length_outline : s.outline.length = s.size := by
  simp [outline, size]

theorem outline_modify {f : Obj → Obj} (hf : ∀ o, (f o).kind = o.kind ∧ (f o).parent = o.parent) :
    (s.modify id f).outline = s.outline :=
  Registry.map_modify _ _ fun o => by rw [(hf o).1, (hf o).2]

theorem outline_edits (edits : List (ObjId × Edit)) :
    (edits.foldl (fun s (id, e) => s.edit id e) s).outline = s.outline := by
  induction edits generalizing s
  case nil => rfl
  case cons e edits hi =>
    exact hi.trans <| outline_modify fun o =>
      ⟨o.kind_edit e.2, congrArg Links.parent (o.toLinks_edit e.2)⟩

theorem outline_push {kind : WidgetKind} {parent : Option ObjId} :
    (s.push kind parent).2.outline = s.outline ++ [(Vocabulary.token kind, parent)] := by
  have hadded {s' : Scene} (h : s'.objects = s.objects) :
      (s'.added { kind, parent }).outline = s.outline ++ [(Vocabulary.token kind, parent)] := by
    simp [outline, added, h]
  cases parent
  case none   => exact hadded rfl
  case some p =>
    rw [push_some, outline_modify]
    · exact hadded objects_visit
    · exact fun _ => ⟨rfl, rfl⟩

theorem outline_createWidget_of_ne {kind : WidgetKind} (h : kind ≠ .tabview)
    (parent : Option ObjId) :
    (s.createWidget kind parent).2.outline = s.outline ++ [(Vocabulary.token kind, parent)] :=
  createWidget_of_ne h ▸ outline_push

end Scene

namespace Markup.Forest

-- The elements from which on there are `levels` levels, and the object that each is in, when the
-- numbers of the objects begin with `next`.
def outline : (levels : Nat) → (parent : Option ObjId) → (next : Nat) → Forest →
    List (String × Option ObjId)
  | _, _, _, empty => []
  | 0, _, _, element .. => []
  | levels + 1, parent, next, element tag _ _ body rest =>
    let inner := body.outline levels (some ⟨next⟩) (next + 1)
    (tag, parent) :: inner ++ rest.outline (levels + 1) parent (next + 1 + inner.length)

def contents : Forest → List (String × Attrs × Forest)
  | empty => []
  | element tag attrs _ body rest =>
    (if tag ∈ Build.wrappers then body.contents else [(tag, attrs, body)]) ++ rest.contents

theorem onlyViews_iff {t : WidgetTable} {f : Forest} :
    f.OnlyViews t ↔ ∀ e ∈ f.contents,
      e.1 = "view" ∧ (t.get? e.2.1.base).isSome ∧ e.2.2.Within t := by
  induction f
  case empty => simp [OnlyViews, contents]
  case element tag attrs brief body rest hbody hrest =>
    by_cases ht : tag ∈ Build.wrappers
    case pos => simp only [OnlyViews, contents, ht, if_true, hbody, hrest, List.forall_mem_append]
    case neg => simp only [OnlyViews, contents, ht, if_false, hrest, List.forall_mem_append,
      List.forall_mem_singleton]

end Markup.Forest

namespace Context

variable {c : Context} {t : WidgetTable}

theorem stageAll_eq_foldl (setup : Setup) (parent : Option ObjId) (f : Forest)
    (out : Option ObjId × Scene) :
    c.stageAll setup parent f out =
      f.contents.foldl (fun out e => c.stage setup parent e.2.1 e.2.2 out.2) out := by
  induction f generalizing out
  case empty => rfl
  case element tag attrs brief body rest hbody hrest =>
    unfold stageAll Forest.contents
    rw [List.foldl_append, hrest]
    by_cases ht : tag ∈ Build.wrappers
    case pos => rw [if_pos ht, if_pos ht, hbody]
    case neg => rw [if_neg ht, if_neg ht]; rfl

theorem enter_widget {kind : WidgetKind} {tag : String} (hp : t.get? tag = some (.widget kind))
    (hkind : kind ≠ .tabview) (parent : Option ObjId) (attrs : Attrs) (s : Scene) :
    let out := c.enter t parent tag attrs s
    out.1 = some s.next ∧ out.2.outline = s.outline ++ [(Vocabulary.token kind, parent)] := by
  unfold enter perform
  rw [hp]
  exact ⟨congrArg some Scene.fst_createWidget,
    (Scene.outline_edits _).trans (Scene.outline_createWidget_of_ne hkind parent)⟩

variable (ht : t.NamesSingles)
include ht

theorem isSome_of_single {tag : String} (htag : tag ∈ singleTags) : (t.get? tag).isSome := by
  have ⟨kind, hkind, he⟩ := List.mem_map.mp htag
  rw [← he, ht kind hkind, Option.isSome_some]

theorem enter_single {tag : String} (htag : tag ∈ singleTags) (parent : Option ObjId)
    (attrs : Attrs) (s : Scene) :
    let out := c.enter t parent tag attrs s
    out.1 = some s.next ∧ out.2.outline = s.outline ++ [(tag, parent)] := by
  have ⟨kind, hkind, he⟩ := List.mem_map.mp htag
  have hne : kind ≠ .tabview := by simpa [singles] using (List.mem_filter.mp hkind).2
  rw [← he]
  exact enter_widget (ht kind hkind) hne parent attrs s

theorem outline_grow {f : Forest} (hf : f.Every fun tag _ => tag ∈ singleTags) (levels : Nat)
    (parent : Option ObjId) (s : Scene) :
    (c.grow t levels parent f s).outline = s.outline ++ f.outline levels parent s.size := by
  induction f generalizing levels parent s
  case empty => simp [grow, Forest.outline]
  case element tag attrs brief body rest hbody hrest =>
    cases levels
    case zero => simp [Forest.outline]
    case succ levels =>
      obtain ⟨htag, hbody₁, hrest₁⟩ := hf
      obtain ⟨hmade, hentered⟩ := enter_single (c := c) ht htag parent attrs s
      unfold grow Forest.outline
      generalize c.enter t parent tag attrs s = entered at hmade hentered ⊢
      obtain ⟨made, s₁⟩ := entered
      dsimp only at hmade hentered ⊢
      rw [hmade]
      have hsize : s₁.size = s.size + 1 := by
        simpa using congrArg List.length hentered
      have hinner := hbody hbody₁ levels (some s.next) s₁
      rw [hsize, hentered] at hinner
      have hsize₂ := congrArg List.length hinner
      simp only [Scene.length_outline, List.length_append, List.length_singleton] at hsize₂
      rw [Option.some_or, hrest hrest₁, hsize₂, hinner]
      simp [Scene.next]

end Context

namespace Loader

theorem loadView_outline {l : Loader} {s : Scene} {text : String} {f body : Forest} {attrs : Attrs}
    (hread : Markup.read text = (f.events, none)) (hview : f.contents = [("view", attrs, body)])
    (hroot : attrs.base ∈ singleTags) (hbody : body.Every fun tag _ => tag ∈ singleTags)
    (ht : l.setup.widgets.NamesSingles) (hmax : 1 ≤ l.setup.config.maxDepth) :
    let root : Forest := .element attrs.base attrs.ofBase false body .empty
    (l.loadView s none text).result = .ok (some ⟨s.size⟩) ∧
      (l.loadView s none text).scene.outline =
        s.outline ++ root.outline l.setup.config.maxDepth none s.size := by
  have hviews : f.OnlyViews l.setup.widgets := by
    rw [Forest.onlyViews_iff, hview, List.forall_mem_singleton]
    exact ⟨rfl, Context.isSome_of_single ht hroot, hbody.mono (Context.isSome_of_single ht)⟩
  have ⟨hscene, hresult⟩ := loadView_views (s := s) hread hviews none
  let c : Context := ⟨l.registry, .globals, none⟩
  have hstage : c.stageAll l.setup none f (none, s) = c.stage l.setup none attrs body s := by
    rw [Context.stageAll_eq_foldl, hview]
    rfl
  obtain ⟨levels, hlevels⟩ := Nat.exists_eq_add_one.mpr hmax
  have ⟨hmade, hentered⟩ := Context.enter_single (c := c) ht hroot none attrs.ofBase s
  intro root
  rw [hscene, hresult, show Context.stageAll _ _ _ _ _ = _ from hstage]
  unfold Context.stage
  dsimp only
  have hsize := congrArg List.length hentered
  simp only [Scene.length_outline, List.length_append, List.length_singleton] at hsize
  rw [hmade, Context.outline_grow ht hbody, hentered, hsize, hlevels]
  exact ⟨rfl, by simp [root, Forest.outline, Scene.next]⟩

theorem outline_of_cut_view :
    let text := "<component><view extends=\"button\"><obj name=\"a\"><label/></obj><label/>" ++
      "</view></component>"
    let l : Loader := { setup := { config := { maxDepth := 2 } } }
    let s := (Scene.empty.createWidget .label none).2
    let o := l.loadView s none text
    o.result = .ok (some ⟨1⟩) ∧ o.scene.outline =
      [("label", none), ("button", none), ("obj", some ⟨1⟩), ("label", some ⟨1⟩)] := by
  intro text l s o
  let body : Forest := .element "obj" [("name", "a")] false
    (.element "label" [] true .empty .empty) (.element "label" [] true .empty .empty)
  let f : Forest := .element "component" [] false
    (.element "view" [("extends", "button")] false body .empty) .empty
  have hread : Markup.read text = (f.events, none) := by decide +kernel
  have hview : f.contents = [("view", [("extends", "button")], body)] := by decide +kernel
  have hbody : body.Every fun tag _ => tag ∈ singleTags := by decide +kernel
  have ⟨hresult, houtline⟩ := loadView_outline (l := l) (s := s) hread hview (by decide +kernel)
    hbody (by decide +kernel) (by decide)
  exact ⟨hresult, houtline.trans (by decide +kernel)⟩

end Loader

end UiMarkup
