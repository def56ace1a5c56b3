import UiMarkup.Proofs.Build.Elements
import UiMarkup.Proofs.Registry.History
import UiMarkup.Proofs.Widget.Lookups

namespace UiMarkup

namespace Text

def wordRuns (s : List Char) : List (List Char) :=
  (runs isBlank s).filter (!·.isEmpty)

theorem words_eq_map (s : String) : words s = (wordRuns s.toList).map String.ofList := rfl

theorem wordRuns_append_cons {c : Char} (hc : isBlank c) (l r : List Char) :
    wordRuns (l ++ c :: r) = wordRuns l ++ wordRuns r := by
  simp [wordRuns, runs_append_cons hc]

theorem wordRuns_append_of_getLast? {l : List Char} (h : l.getLast?.all isBlank) (r : List Char) :
    wordRuns (l ++ r) = wordRuns l ++ wordRuns r := by
  obtain rfl | ⟨l, c, rfl⟩ := l.eq_nil_or_concat
  · rfl
  · have hc : isBlank c := by simpa using h
    have hl : wordRuns (l ++ [c]) = wordRuns l := by
      simpa [wordRuns, runs] using wordRuns_append_cons hc l []
    simpa [hl] using wordRuns_append_cons hc l r

theorem wordRuns_append_of_head? {r : List Char} (h : r.head?.all isBlank) (l : List Char) :
    wordRuns (l ++ r) = wordRuns l ++ wordRuns r := by
  cases r
  case nil => simp [wordRuns, runs]
  case cons c r =>
    have hc : isBlank c := by simpa using h
    have hr : wordRuns (c :: r) = wordRuns r := wordRuns_append_cons hc [] r
    rw [hr, wordRuns_append_cons hc]

-- A word between two texts, which does not touch what is before and after it.
structure Stands (before word after : String) : Prop where
  nonempty : word ≠ ""
  unbroken : word.toList.all (!isBlank ·)
  front    : before.toList.getLast?.all isBlank
  back     : after.toList.head?.all isBlank

namespace Stands

variable {before word after : String} (h : Stands before word after)
include h

theorem words_eq : words (before ++ word ++ after) = words before ++ word :: words after := by
  have hword : wordRuns word.toList = [word.toList] := by
    have hne : word.toList ≠ [] := fun he => h.nonempty (String.toList_inj.mp (by simpa using he))
    simp [wordRuns, runs_of_all h.unbroken, hne]
  have hruns : wordRuns (before ++ word ++ after).toList =
      wordRuns before.toList ++ word.toList :: wordRuns after.toList := by
    rw [String.toList_append, String.toList_append, wordRuns_append_of_head? h.back,
      wordRuns_append_of_getLast? h.front, hword]
    simp
  rw [words_eq_map, hruns]
  simp [words_eq_map]

theorem words_cut : words (before ++ after) = words before ++ words after := by
  simp [words_eq_map, wordRuns_append_of_getLast? h.front]

end Stands

end Text

def Env.LessOneStyle (env : Env) (text text' : String) : Prop :=
  ∃ before word after, Text.Stands before word after ∧
    (env.findStyle (Reading.styleSelector word).1).value = none ∧
    text = before ++ word ++ after ∧ text' = before ++ after

-- The second list is the first one without a reference that leads nowhere.
inductive Attrs.Without (env : Env) (p : Processor) : Attrs → Attrs → Prop
  | attr {a : String × String} (front back : Attrs) :
    p.Dangles env a → Without env p (front ++ a :: back) (front ++ back)
  | style {text text' : String} (front back : Attrs) : env.LessOneStyle text text' →
    Without env p (front ++ ("styles", text) :: back) (front ++ ("styles", text') :: back)

variable {env : Env}

namespace Attrs.Without

variable {p : Processor} {attrs attrs' : Attrs} (h : Without env p attrs attrs')
include h

theorem sameOn : SameOn p.plain attrs attrs' := by
  intro other hother
  obtain ⟨hnone, hstyles⟩ := Bool.and_eq_true_iff.mp hother
  cases h
  case attr a front back hd =>
    obtain ⟨ref, href, -⟩ := hd
    have hne : a.1 ≠ other := fun he => by simp [← he, href] at hnone
    simp [Attrs.get?, Assoc.get?_append, Assoc.get?, hne]
  case style =>
    have hne : "styles" ≠ other := fun he => by simp [← he] at hstyles
    simp [Attrs.get?, Assoc.get?_append, Assoc.get?, hne]

theorem value_collect {β : Type} {f g : String × String → Noted (List β)}
    (hfg : ∀ a, (f a).value = (g a).value) (hdangles : ∀ a, p.Dangles env a → (g a).value = [])
    (hstyles : ∀ text text', env.LessOneStyle text text' →
      (g ("styles", text)).value = (g ("styles", text')).value) :
    (Noted.collect f attrs).value = (Noted.collect g attrs').value := by
  simp only [Noted.value_collect, hfg]
  cases h
  case attr hd  => simp [hdangles _ hd]
  case style hs => simp [hstyles _ _ hs]

theorem obj_value_apply (hp : p.ownReferences = []) :
    (ObjAttr.apply env attrs).value = (ObjAttr.apply env attrs').value := by
  refine h.value_collect (fun _ => rfl) (fun _ => ObjAttr.value_edits_of_dangles hp) ?_
  rintro _ _ ⟨before, word, after, hstands, hnone, rfl, rfl⟩
  have hword := Env.value_addStyle_of_none hnone (Reading.styleSelector word).2
  change (ObjAttr.styles env _).value = (ObjAttr.styles env _).value
  simp [ObjAttr.styles, Noted.value_collect, hstands.words_eq, hstands.words_cut, hword]

end Attrs.Without

theorem Attrs.Without.widget_value_apply {kind : WidgetKind} {attrs attrs' : Attrs}
    (h : Without env (.widget kind) attrs attrs') :
    (kind.apply env attrs).value = (kind.apply env attrs').value := by
  have hsame := h.sameOn
  unfold WidgetKind.apply
  simp only [Noted.value_bind, Noted.value_pure]
  rw [h.obj_value_apply rfl]
  refine congr (congrArg HAppend.hAppend (congrArg (_ ++ ·) ?own)) ?last
  case own =>
    refine h.value_collect (fun a => ?alike) ?dangles fun _ _ _ => ?styles
    case alike =>
      split
      case h_1 rule hrule =>
        have hreads := Rule.reads_ofKind kind (Rule.plain_of_mem_companion kind) _
          (Assoc.mem_of_get? hrule)
        rw [rule.edits_congr hreads hsame]
      case h_2 => rfl
    case dangles =>
      rintro a ⟨ref, href, hd⟩
      split
      case h_1 rule hrule =>
        have href' := (Rule.reference?_ofKind kind _ (Assoc.mem_of_get? hrule)).symm.trans href
        exact Rule.value_edits_of_dangles href' hd attrs'
      case h_2 => rfl
    case styles => rw [Rule.get?_ofKind_styles]
  case last =>
    refine congrArg Noted.value (Noted.collect_congr fun e he => ?_)
    rw [hsame e.1 (Rule.plain_of_mem_ofKindLast kind e he)]
    split
    case h_1 text _ => exact e.2.edits_congr (Rule.reads_ofKindLast kind e he) hsame env text
    case h_2        => rfl

-- Without a reference that a reader by name asks for, the reader has nothing in both lists.
theorem Attrs.Without.lacks_or_sameOn {p : Processor} {attrs attrs' : Attrs}
    (h : Without env p attrs attrs') (hkeys : (Assoc.keys attrs).Nodup) {names : List String}
    (hstyles : "styles" ∉ names) :
    (∃ name ∈ names, ∃ ref, p.reference? name = some ref ∧ attrs.Lacks env name ref ∧
      attrs'.Lacks env name ref) ∨ SameOn (names.contains ·) attrs attrs' := by
  cases h
  case attr a front back hd =>
    by_cases ha : a.1 ∈ names
    case pos =>
      obtain ⟨ref, href, hd⟩ := hd
      have hnot : a.1 ∉ Assoc.keys (front ++ back) := by
        simp only [Assoc.keys, List.map_append, List.map_cons] at hkeys ⊢
        exact (List.nodup_cons.mp (List.perm_middle.nodup_iff.mp hkeys)).1
      have hnone : Assoc.get? (front ++ back) a.1 = none :=
        Assoc.get?_of_forall_ne fun e he hkey => hnot (hkey ▸ List.mem_map_of_mem he)
      obtain ⟨hfront, -⟩ :=
        Option.or_eq_none_iff.mp ((Assoc.get?_append front back a.1).symm.trans hnone)
      refine .inl ⟨a.1, ha, ref, href, ?_, ?_⟩
      · simp [Lacks, Attrs.get?, Assoc.get?_append, Assoc.get?, hfront, hd]
      · simp [Lacks, Attrs.get?, hnone]
    case neg =>
      refine .inr fun other hother => ?_
      have hne : a.1 ≠ other := fun he => ha (he ▸ by simpa using hother)
      simp [Attrs.get?, Assoc.get?_append, Assoc.get?, hne]
  case style =>
    refine .inr fun other hother => ?_
    have hne : "styles" ≠ other := fun he => hstyles (he ▸ by simpa using hother)
    simp [Attrs.get?, Assoc.get?_append, Assoc.get?, hne]

namespace Processor

theorem value_onto_congr {edits edits' : Edits} (h : edits.value = edits'.value)
    (target : Option ObjId) : (onto target edits).value = (onto target edits').value := by
  cases target
  case none   => rfl
  case some _ => simp [onto, h]

theorem value_styleEdit_of_none (h : (env.findStyle name).value = none) (edit : StyleId → Edit) :
    (styleEdit env name edit).value = [] := by
  simp [styleEdit, h]

variable {attrs attrs' : Attrs}

theorem value_cellEdits (h : Attrs.Without env tableCell attrs attrs') :
    (cellEdits attrs).value = (cellEdits attrs').value := by
  have hsame := h.sameOn
  have hvalue : tableCell.reference? "value" = none := by decide +kernel
  have hctrl : tableCell.reference? "ctrl" = none := by decide +kernel
  refine h.value_collect (fun a => ?alike) ?dangles fun _ _ _ => rfl
  case alike =>
    unfold tableIndex
    rw [hsame.intAttr "row" (by decide +kernel), hsame.intAttr "column" (by decide +kernel)]
  case dangles =>
    rintro ⟨name, text⟩ ⟨ref, href, -⟩
    dsimp only
    split
    case h_1 => cases hvalue.symm.trans href
    case h_2 => cases hctrl.symm.trans href
    case h_3 => rfl

theorem value_sectionEdits (h : Attrs.Without env scaleSection attrs attrs') (id : SectionId) :
    (sectionEdits env attrs id).value = (sectionEdits env attrs' id).value := by
  refine h.value_collect (fun _ => rfl) ?dangles fun _ _ _ => rfl
  rintro ⟨name, text⟩ ⟨ref, href, hd⟩
  have hplain {n : String} (hn : n ∈ ["min_value", "max_value"]) :
      scaleSection.reference? n = none := by
    revert n
    decide +kernel
  have hstyle {n : String} (hn : n ∈ ["style_main", "style_indicator", "style_items"]) :
      scaleSection.reference? n = some .style := by
    revert n
    decide +kernel
  have hbind {n : String} (hn : n ∈ ["bind_min_value", "bind_max_value"]) :
      scaleSection.reference? n = some (.entry .subject) := by
    revert n
    decide +kernel
  dsimp only
  split
  case h_1 | h_2 => cases (hplain (by simp)).symm.trans href
  case h_3 | h_4 | h_5 =>
    cases (hstyle (by simp)).symm.trans href
    exact value_styleEdit_of_none hd _
  case h_6 | h_7 =>
    cases (hbind (by simp)).symm.trans href
    exact Env.value_bind_of_none hd _ _
  case h_8 => rfl

theorem value_spanEdits (h : Attrs.Without env span attrs attrs') (id : SpanId) :
    (spanEdits env attrs id).value = (spanEdits env attrs' id).value := by
  have htext : span.reference? "text" = none := by decide +kernel
  have hstyle : span.reference? "style" = some .style := by decide +kernel
  have hbind : span.reference? "bind_text" = some (.entry .subject) := by decide +kernel
  refine h.value_collect (fun a => ?alike) ?dangles fun _ _ _ => rfl
  case alike => rw [h.sameOn "bind_text-fmt" (by decide +kernel)]
  case dangles =>
    rintro ⟨name, text⟩ ⟨ref, href, hd⟩
    dsimp only
    split
    case h_1 => cases htext.symm.trans href
    case h_2 =>
      cases hstyle.symm.trans href
      exact value_styleEdit_of_none hd _
    case h_3 =>
      cases hbind.symm.trans href
      exact Env.value_bind_of_none hd _ _
    case h_4 => rfl

theorem columnEdits_without (h : Attrs.Without env tableColumn attrs attrs') :
    columnEdits attrs = columnEdits attrs' := by
  unfold columnEdits tableIndex
  rw [h.sameOn "width" (by decide +kernel), h.sameOn.intAttr "column" (by decide +kernel)]

theorem value_modifier_edits {m : Modifier} (h : Attrs.Without env (modifier m) attrs attrs')
    (hkeys : (Assoc.keys attrs).Nodup) :
    (m.edits env attrs).value = (m.edits env attrs').value := by
  obtain ⟨name, hname, ref, href, hlacks, hlacks'⟩ | hsame :=
    h.lacks_or_sameOn hkeys m.styles_not_mem_attrNames
  case inl =>
    have hmem := m.mem_references name hname ref href
    rw [Modifier.value_edits_of_lacks hmem hlacks, Modifier.value_edits_of_lacks hmem hlacks']
  case inr => rw [Modifier.edits_congr hsame]

theorem value_makeImageSlice (attrs : Attrs) (slice : ImageSlice) (button : ObjId) (s : Scene) :
    (makeImageSlice env attrs slice button s).value =
      let state := ((attrs.get? "state").map fun text => (Reading.token text).value).getD .released
      let source := (attrs.get? "src").bind fun name => (env.findImage name).value
      s.edit button (.imageSource state slice source) := by
  unfold makeImageSlice
  cases attrs.get? "state" <;> cases attrs.get? "src" <;> rfl

theorem makeImageSlice_without {slice : ImageSlice}
    (h : Attrs.Without env (imageSlice slice) attrs attrs') (hkeys : (Assoc.keys attrs).Nodup)
    (button : ObjId) (s : Scene) :
    (makeImageSlice env attrs slice button s).value =
      (makeImageSlice env attrs' slice button s).value := by
  have hstate := h.sameOn "state" (by cases slice <;> decide +kernel)
  rw [value_makeImageSlice, value_makeImageSlice, hstate]
  obtain ⟨name, hname, ref, href, hlacks, hlacks'⟩ | hsame :=
    h.lacks_or_sameOn hkeys (show "styles" ∉ ["src"] by decide)
  case inl =>
    have hsrc : (imageSlice slice).reference? "src" = some (.entry .image) := by
      cases slice <;> decide +kernel
    cases List.mem_singleton.mp hname
    cases hsrc.symm.trans href
    -- An image that is not found is no image, as if none were named.
    have hnone {attrs : Attrs} (hl : attrs.Lacks env "src" (.entry .image)) :
        ((attrs.get? "src").bind fun name => (env.findImage name).value) = none :=
      Option.bind_eq_none_iff.mpr fun name hget => (Registry.value_find? ..).trans (hl name hget)
    rw [hnone hlacks, hnone hlacks']
  case inr => rw [hsame "src" rfl]

theorem value_create_without {p : Processor} (h : Attrs.Without env p attrs attrs')
    (hkeys : (Assoc.keys attrs).Nodup) (parent : Option ObjId) (s : Scene) :
    (p.create env parent attrs s).value = (p.create env parent attrs' s).value := by
  unfold create
  cases p
  case tab       => dsimp only; rw [h.sameOn.getText "text" (by decide +kernel)]
  case tabButton =>
    dsimp only [makeTabButton]
    rw [h.sameOn.intAttr "index" (by decide +kernel)]
  case imageSlice slice =>
    cases parent
    case none => rfl
    case some button =>
      have hmade := makeImageSlice_without h hkeys button s
      simp [hmade]
  case custom kind => cases kind <;> rfl
  all_goals rfl

theorem value_apply_without {p : Processor} (h : Attrs.Without env p attrs attrs')
    (hkeys : (Assoc.keys attrs).Nodup) (parent : Option ObjId) (item : Option Item) :
    (p.apply env parent item attrs).value = (p.apply env parent item attrs').value := by
  unfold apply
  cases p
  case widget kind  => exact value_onto_congr h.widget_value_apply _
  case tableColumn  => rw [columnEdits_without h]
  case tableCell    => exact value_onto_congr (value_cellEdits h) _
  case scaleSection =>
    dsimp only
    split
    case h_1 => exact value_onto_congr (value_sectionEdits h _) _
    case h_2 => rfl
  case span =>
    dsimp only
    split
    case h_1 => exact value_onto_congr (value_spanEdits h _) _
    case h_2 => rfl
  case imageSlice => rfl
  case modifier m =>
    dsimp only
    split
    case h_1 => exact value_onto_congr (value_modifier_edits h hkeys) _
    case h_2 => rfl
  all_goals exact value_onto_congr (h.obj_value_apply rfl) _

end Processor

theorem Attrs.Without.of_lookups {p : Processor} {attrs attrs' : Attrs}
    (h : Without env p attrs attrs') (subjectKind : SubjectId → Option SubjectKind) :
    Without { env with subjectKind } p attrs attrs' := by
  cases h
  case attr a front back hd =>
    obtain ⟨ref, href, hd⟩ := hd
    exact .attr front back ⟨ref, href, by cases ref <;> exact hd⟩
  case style front back hs => exact .style front back hs

theorem Context.perform_without {c : Context} {p : Processor} {s : Scene} {attrs attrs' : Attrs}
    (h : Attrs.Without (c.env s) p attrs attrs') (hkeys : (Assoc.keys attrs).Nodup)
    (parent : Option ObjId) : c.perform p parent attrs s = c.perform p parent attrs' s := by
  unfold perform
  rw [p.value_create_without h hkeys]
  split
  case h_1 => rfl
  case h_2 item s' _ =>
    have h' : Attrs.Without (c.env s') p attrs attrs' := h.of_lookups _
    rw [p.value_apply_without h' hkeys]

namespace Build

variable {setup : Setup} {tag : String} {p : Processor}

theorem createElement_eq (hp : setup.widgets.get? tag = some p) (inst : Instantiate) (b : Build)
    (attrs : Attrs) :
    let done := b.context.perform p b.doc.parent? attrs b.scene
    ∃ log, createElement setup inst b tag attrs = (done.1,
      { b with doc := { b.doc with item := done.1.or b.doc.item }, scene := done.2, log }) := by
  unfold createElement Context.perform Build.make
  simp only [hp, env_eq]
  generalize p.create (b.context.env b.scene) b.doc.parent? attrs b.scene = made
  obtain ⟨⟨item, s⟩, notes⟩ := made
  cases item
  case none      => exact ⟨_, rfl⟩
  case some item => exact ⟨_, rfl⟩

-- An element of a tag in the table comes to the same, whatever it is in, with and without such a
-- reference: the same item, the same scene, and the same everything but the log.
theorem dangling_inert (hp : setup.widgets.get? tag = some p) (inst : Instantiate) (b : Build)
    {attrs attrs' : Attrs} (hkeys : (Assoc.keys attrs).Nodup)
    (h : Attrs.Without b.env p attrs attrs') :
    let full := createElement setup inst b tag attrs
    let less := createElement setup inst b tag attrs'
    full.1 = less.1 ∧ full.2.scene = less.2.scene ∧
      full.2 = { less.2 with log := full.2.log } := by
  intro full less
  obtain ⟨log, hfull⟩ : ∃ log, full = _ := createElement_eq hp inst b attrs
  obtain ⟨log', hless⟩ : ∃ log, less = _ := createElement_eq hp inst b attrs'
  rw [hfull, hless, b.context.perform_without h hkeys]
  exact ⟨rfl, rfl, rfl⟩

-- A slider whose value is bound to no subject, and one that names a style that is not there between
-- two that are.
theorem dangling_inert_slider :
    let registry := Registry.History.registry
      [.registerStyle none [("name", "a")], .registerStyle none [("name", "b")]]
    let element (attrs : Attrs) := createElement {} (instance? {}) { registry } "slider" attrs
    (element [("bind_value", "gone"), ("value", "3")]).2.scene =
      (element [("value", "3")]).2.scene ∧
    (element [("value", "3"), ("styles", "a gone-pressed b")]).2.scene =
      (element [("value", "3"), ("styles", "a  b")]).2.scene := by
  intro registry element
  have hslider : ({} : Setup).widgets.get? "slider" = some (.widget .slider) := by decide +kernel
  have hbound : Attrs.Without ({ registry } : Build).env (.widget .slider)
      [("bind_value", "gone"), ("value", "3")] [("value", "3")] :=
    .attr [] [("value", "3")] ⟨.entry .subject, by decide +kernel, by decide +kernel⟩
  have hstyled : Attrs.Without ({ registry } : Build).env (.widget .slider)
      [("value", "3"), ("styles", "a gone-pressed b")] [("value", "3"), ("styles", "a  b")] :=
    .style [("value", "3")] [] ⟨"a ", "gone-pressed", " b",
      ⟨by decide, by decide, by decide, by decide⟩, by decide +kernel,
      by decide +kernel, by decide +kernel⟩
  exact ⟨(dangling_inert hslider _ _ (by decide) hbound).2.1,
    (dangling_inert hslider _ _ (by decide) hstyled).2.1⟩

end Build

end UiMarkup
