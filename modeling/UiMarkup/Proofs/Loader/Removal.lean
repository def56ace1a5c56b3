import UiMarkup.Loader
import UiMarkup.Proofs.Build.Elements
import UiMarkup.Proofs.Scene.Access

namespace UiMarkup

namespace Context

variable {c : Context} {attrs : Attrs} {value : String}

def meaning? (c : Context) (value : String) : Option String :=
  match Text.after? "$" value with
  | some parameter => c.arguments.bind (·.get? parameter)
  | none           => (c.registry.resolve? c.scope value).value

theorem readAttr_eq (c : Context) (a : String × String) :
    c.readAttr a = ((c.meaning? a.2).map (a.1, ·)).toList := by
  unfold meaning?
  cases h : Text.after? "$" a.2
  case none           => exact readAttr_of_not_parameter h
  case some parameter => exact readAttr_of_parameter h

theorem get?_readAttr (c : Context) (a : String × String) (name : String) :
    Assoc.get? (c.readAttr a) name = if a.1 = name then c.meaning? a.2 else none := by
  rw [readAttr_eq]
  cases c.meaning? a.2 <;> simp [Assoc.get?]

-- Names are given once in a document, so what is read under a name comes from the attribute of
-- that name and from no other.
theorem get?_read (h : (Assoc.keys attrs).Nodup) (name : String) :
    (c.read attrs).get? name = (attrs.get? name).bind c.meaning? := by
  rw [read_eq, Attrs.get?, Attrs.get?]
  induction attrs
  case nil => rfl
  case cons a attrs hi =>
    obtain ⟨ha, hkeys⟩ := List.nodup_cons.mp h
    rw [List.flatMap_cons, Assoc.get?_append, get?_readAttr, hi hkeys, Assoc.get?]
    by_cases hname : a.1 = name
    case neg => simp [hname]
    case pos =>
      have hnone : Assoc.get? attrs name = none :=
        Assoc.get?_of_forall_ne fun e he hkey =>
          ha (List.mem_map.mpr ⟨e, he, hkey.trans hname.symm⟩)
      simp [hname, hnone]

def selector (c : Context) (attrs : Attrs) : Selector :=
  (((attrs.get? "selector").bind c.meaning?).map (Reading.selector '|')).getD .default

def style? (c : Context) (value : String) : Option StyleId :=
  (c.meaning? value).bind fun name => (c.registry.findStyle (some c.scope) name).value

-- The styles of an object that an element aims at by the value of its name.
structure Targets (c : Context) (attrs : Attrs) (value : String)
    (entry : StyleId × Style × Selector) : Prop where
  style    : c.style? value = some entry.1
  selector : entry.2.2 = c.selector attrs

instance {entry : StyleId × Style × Selector} : Decidable (c.Targets attrs value entry) :=
  decidable_of_iff (c.style? value = some entry.1 ∧ entry.2.2 = c.selector attrs)
    ⟨fun h => ⟨h.1, h.2⟩, fun h => ⟨h.style, h.selector⟩⟩

theorem Targets.meaning?_ne_none {entry : StyleId × Style × Selector}
    (h : c.Targets attrs value entry) : c.meaning? value ≠ none := by
  intro hnone
  have hstyle := h.style
  rw [Context.style?, hnone] at hstyle
  cases hstyle

theorem removes_eq_decide_targets {id : StyleId} (h : c.style? value = some id)
    (entry : StyleId × Style × Selector) :
    Edit.removes (some id) (c.selector attrs) entry = decide (c.Targets attrs value entry) := by
  rw [Bool.eq_iff_iff, decide_eq_true_iff]
  constructor
  case mp =>
    intro hremoves
    simp only [Edit.removes, Bool.and_eq_true, beq_iff_eq] at hremoves
    exact ⟨h.trans (congrArg some hremoves.1), hremoves.2⟩
  case mpr =>
    intro htargets
    have hid : id = entry.1 := Option.some.inj (h.symm.trans htargets.style)
    simp [Edit.removes, hid, htargets.selector]

theorem selector_read (h : (Assoc.keys attrs).Nodup) :
    Modifier.selector (c.read attrs) = c.selector attrs := by
  rw [Modifier.selector, get?_read h, selector]

theorem removal_read (h : (Assoc.keys attrs).Nodup) (hname : attrs.get? "name" = some value)
    (s : Scene) :
    (Modifier.removal (c.env s) (c.read attrs)).value =
      if c.meaning? value = none then [.removeStyle none (c.selector attrs)]
      else ((c.style? value).map fun id => .removeStyle (some id) (c.selector attrs)).toList := by
  rw [Modifier.removal, get?_read h, hname, selector_read h, Option.bind_some, style?]
  cases c.meaning? value
  case none => rfl
  case some name =>
    simp only [Noted.value_bind, Env.findStyle, env, reduceCtorEq, if_false, Option.bind_some]
    cases (c.registry.findStyle (some c.scope) name).value <;> rfl

theorem enter_removeStyle {t : WidgetTable} {tag : String}
    (h : t.get? tag = some (.modifier .removeStyle)) (parent : ObjId) (attrs : Attrs) (s : Scene) :
    (c.enter t (some parent) tag attrs s).2 =
      (Modifier.removal (c.env s) (c.read attrs)).value.foldl (·.edit parent ·) s := by
  simp [enter, h, perform, Processor.create, Processor.onParent, Processor.apply, Processor.onto,
    Modifier.edits, Item.obj?, List.foldl_map]

end Context

theorem Edit.removes_none (selector : Selector) (entry : StyleId × Style × Selector) :
    removes none selector entry = decide (entry.2.2 = selector) := by
  rw [Bool.eq_iff_iff]
  simp [removes]

namespace Scene

variable {s : Scene} {id i : ObjId}

theorem obj?_edit (e : Edit) :
    (s.edit id e).obj? i = if i = id then (s.obj? i).map (·.edit e) else s.obj? i :=
  obj?_modify

theorem obj?_removeStyle {o : Obj} (h : s.obj? id = some o) (style : Option StyleId)
    (selector : Selector) :
    (s.edit id (.removeStyle style selector)).obj? id =
      some { o with styles := o.styles.filter (!Edit.removes style selector ·) } := by
  simp [obj?_edit, h, Obj.edit, Edit.apply]

end Scene

namespace Build

variable {setup : Setup} {b : Build} {parent : ObjId} {attrs : Attrs} {value : String}

section Handled

variable (ht : setup.widgets.get? "remove_style" = some (.modifier .removeStyle))
  (inst : Instantiate) (hr : b.doc.recording = none) (hd : 0 < b.doc.depth)
  (hmax : b.doc.depth < setup.config.maxDepth) (hp : b.doc.parent? = some parent)
  (hkeys : (Assoc.keys attrs).Nodup) (hname : attrs.get? "name" = some value)
include ht hr hd hmax hp hkeys hname

theorem scene_removal :
    (opening setup inst b "remove_style" attrs).scene =
      if b.context.meaning? value = none then
        b.scene.edit parent (.removeStyle none (b.context.selector attrs))
      else (b.context.style? value).elim b.scene fun id =>
        b.scene.edit parent (.removeStyle (some id) (b.context.selector attrs)) := by
  have hentered : (opening setup inst b "remove_style" attrs).scene =
      (b.context.enter setup.widgets b.doc.parent? "remove_style" attrs b.scene).2 := by
    rw [opening_of_depth_pos hr hd]
    exact (openChild_of_isSome (b := b.setDepth (b.doc.depth + 1)) (Option.isSome_of_eq_some ht)
      hmax).scene_eq
  rw [hentered, hp, Context.enter_removeStyle ht, Context.removal_read hkeys hname]
  split
  case isTrue  => rfl
  case isFalse => cases b.context.style? value <;> rfl

-- The styles that are left, and which elements take away what they aim at and nothing else.
theorem removal_targeted_iff {o : Obj} (ho : b.scene.obj? parent = some o) :
    let after := (opening setup inst b "remove_style" attrs).scene
    let selector := b.context.selector attrs
    let refers := b.context.meaning? value ≠ none
    (refers → after.obj? parent =
      some { o with styles := o.styles.filter (¬b.context.Targets attrs value ·) }) ∧
    (¬refers → after.obj? parent = some { o with styles := o.styles.filter (·.2.2 ≠ selector) }) ∧
    (∀ i ≠ parent, after.obj? i = b.scene.obj? i) ∧
    ((∀ e ∈ o.styles, (∀ o' ∈ after.obj? parent, e ∉ o'.styles) →
      b.context.Targets attrs value e) ↔ refers ∨ ∀ e ∈ o.styles, e.2.2 ≠ selector) := by
  intro after selector refers
  have hafter : after = _ := scene_removal ht inst hr hd hmax hp hkeys hname
  have hrefers (h : refers) : after.obj? parent =
      some { o with styles := o.styles.filter (¬b.context.Targets attrs value ·) } := by
    rw [hafter, if_neg h]
    cases hstyle : b.context.style? value
    case some id =>
      rw [Option.elim_some, Scene.obj?_removeStyle ho]
      simp [Context.removes_eq_decide_targets hstyle]
    case none =>
      have hall : o.styles.filter (¬b.context.Targets attrs value ·) = o.styles :=
        List.filter_eq_self.mpr fun e _ => decide_eq_true fun htargets => by
          cases hstyle.symm.trans htargets.style
      rw [hall]
      exact ho
  have hnot (h : ¬refers) :
      after.obj? parent = some { o with styles := o.styles.filter (·.2.2 ≠ selector) } := by
    rw [hafter, if_pos (Decidable.not_not.mp h), Scene.obj?_removeStyle ho]
    simp [Edit.removes_none, selector]
  refine ⟨hrefers, hnot, fun i hi => ?others, ?targeted⟩
  case others =>
    rw [hafter]
    split
    case isTrue => exact Scene.obj?_modify_of_ne hi
    case isFalse =>
      cases b.context.style? value
      case none    => rfl
      case some id => exact Scene.obj?_modify_of_ne hi
  case targeted =>
    by_cases h : refers
    case pos =>
      refine iff_of_true (fun e he hgone => ?_) (.inl h)
      have hleft := hgone _ (hrefers h)
      simpa [he] using hleft
    case neg =>
      -- Nothing can be aimed at, so every style that goes is one too many.
      have hno (e : StyleId × Style × Selector) : ¬b.context.Targets attrs value e :=
        fun htargets => h htargets.meaning?_ne_none
      have hgone (e : StyleId × Style × Selector) (he : e ∈ o.styles) :
          (∀ o' ∈ after.obj? parent, e ∉ o'.styles) ↔ e.2.2 = selector := by
        simp [hnot h, he]
      simp only [h, hno, false_or, imp_false]
      exact forall₂_congr fun e he => not_congr (hgone e he)

end Handled

theorem removal_targeted_iff_first :
    let style (name : String) : StyleEntry :=
      { name, longName := "globals." ++ name, scope := .globals, style := .empty }
    let registry : Registry := {
      scopes := #[{ name := "globals", styles := [("a", ⟨0⟩), ("b", ⟨1⟩)] }]
      styles := #[style "a", style "b"] }
    let entries : List (StyleId × Style × Selector) :=
      [(⟨0⟩, .empty, .default), (⟨1⟩, .empty, .default)]
    let o : Obj := { kind := .obj, styles := entries }
    let b : Build := {
      doc := { DocState.begin .globals (some ⟨0⟩) with depth := 1 }
      registry, scene := { objects := #[o] } }
    let after := (opening {} (instance? {}) b "remove_style" [("name", "a")]).scene
    after.obj? ⟨0⟩ = some { o with styles := [(⟨1⟩, .empty, .default)] } ∧
      ∀ e ∈ entries, (∀ o' ∈ after.obj? ⟨0⟩, e ∉ o'.styles) →
        b.context.Targets [("name", "a")] "a" e := by
  intro style registry entries o b after
  have ht : ({} : Setup).widgets.get? "remove_style" = some (.modifier .removeStyle) := by
    decide +kernel
  have hrefers : b.context.meaning? "a" ≠ none := by decide +kernel
  have ⟨hleft, _, _, htargeted⟩ := removal_targeted_iff (b := b) ht (instance? {}) rfl (by decide)
    (by decide) rfl (by decide) (rfl : Attrs.get? [("name", "a")] "name" = some "a") (o := o) rfl
  refine ⟨(hleft hrefers).trans ?_, htargeted.mpr (.inl hrefers)⟩
  decide +kernel

end Build

namespace Loader

theorem style_lost_to_unknown_constant :
    let globals := loadGlobals {} .empty "<globals><styles><style name='a'/></styles></globals>"
    let view (inner : String) :=
      globals.loader.loadView globals.scene none ("<view styles='a'>" ++ inner ++ "</view>")
    let styles (inner : String) := ((view inner).scene.obj? ⟨0⟩).map (·.styles)
    let c : Context := { registry := globals.loader.registry, scope := .globals, arguments := none }
    styles "" = some [(⟨0⟩, .empty, .default)] ∧
      styles "<remove_style name='gone'/>" = some [(⟨0⟩, .empty, .default)] ∧
      c.meaning? "#gone" = none ∧ styles "<remove_style name='#gone'/>" = some [] := by
  decide +kernel

end Loader

end UiMarkup
