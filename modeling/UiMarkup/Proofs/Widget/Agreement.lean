import UiMarkup.Widget.Processor

namespace UiMarkup

-- Two surroundings give the same meaning to every name, and to a timeline's name if it is `ok`.
structure Env.Agrees (ok : String → Prop) (e₁ e₂ : Env) : Prop where
  subjectKind : e₁.subjectKind = e₂.subjectKind
  style       : e₁.registry.style? = e₂.registry.style?
  lookup      : ∀ kind name,
    e₁.registry.lookup? kind (some e₁.scope) name = e₂.registry.lookup? kind (some e₂.scope) name
  findStyle   : ∀ name, (e₁.findStyle name).value = (e₂.findStyle name).value
  timeline    : ∀ name, ok name →
    (Modifier.timeline e₁ name).value = (Modifier.timeline e₂ name).value

theorem Noted.value_collect_congr {α β : Type} {f g : α → Noted (List β)} {as : List α}
    (h : ∀ a ∈ as, (f a).value = (g a).value) : (collect f as).value = (collect g as).value := by
  rw [value_collect, value_collect]
  exact congrArg List.flatten (List.map_congr_left h)

namespace Env.Agrees

variable {ok : String → Prop} {e₁ e₂ : Env}

theorem subject? (h : e₁.Agrees ok e₂) : e₁.subject? = e₂.subject? :=
  funext (h.lookup .subject)

theorem find? (h : e₁.Agrees ok e₂) (kind : EntryKind) (name : String) :
    e₁.registry.find? kind e₁.scope name = e₂.registry.find? kind e₂.scope name := by
  unfold Registry.find?
  rw [h.lookup]

theorem findImage (h : e₁.Agrees ok e₂) : e₁.findImage = e₂.findImage :=
  funext (h.find? .image)

theorem subjectValue (h : e₁.Agrees ok e₂) : e₁.subjectValue = e₂.subjectValue := by
  funext subject text
  unfold Env.subjectValue
  rw [h.subjectKind]

theorem bind (h : e₁.Agrees ok e₂) : e₁.bind = e₂.bind := by
  funext name binding site
  unfold Env.bind
  rw [h.subject?]

theorem styleValue? (h : e₁.Agrees ok e₂) (p : StyleProp) (text : String) :
    e₁.registry.styleValue? e₁.scope p text = e₂.registry.styleValue? e₂.scope p text := by
  unfold Registry.styleValue?
  rw [h.find?, h.find?, h.find?]

theorem localStyle (h : e₁.Agrees ok e₂) : e₁.localStyle = e₂.localStyle := by
  funext key text
  unfold Env.localStyle
  simp only [h.styleValue?]

-- A style that is looked for in a scope which only one of the two knows is reported by the other.
theorem addStyle (h : e₁.Agrees ok e₂) (name : String) (selector : Selector) :
    (e₁.addStyle name selector).value = (e₂.addStyle name selector).value := by
  unfold Env.addStyle
  rw [Noted.value_bind, Noted.value_bind, h.findStyle, h.style]

theorem objEdits (h : e₁.Agrees ok e₂) (name text : String) :
    (ObjAttr.edits e₁ name text).value = (ObjAttr.edits e₂ name text).value := by
  unfold ObjAttr.edits
  rw [h.bind, h.localStyle]
  split
  case h_1 => rfl
  case h_2 =>
    split
    case isTrue  => exact Noted.value_collect_congr fun w _ => h.addStyle _ _
    case isFalse => rfl

theorem objApply (h : e₁.Agrees ok e₂) (attrs : Attrs) :
    (ObjAttr.apply e₁ attrs).value = (ObjAttr.apply e₂ attrs).value :=
  Noted.value_collect_congr fun a _ => h.objEdits a.1 a.2

theorem ruleEdits (h : e₁.Agrees ok e₂) (attrs : Attrs) (text : String) (rule : Rule) :
    rule.edits e₁ attrs text = rule.edits e₂ attrs text := by
  cases rule
  case image => rw [Rule.edits, Rule.edits, h.findImage]
  case bind  => rw [Rule.edits, Rule.edits, h.bind]
  all_goals rfl

theorem kindApply (h : e₁.Agrees ok e₂) (kind : WidgetKind) (attrs : Attrs) :
    (kind.apply e₁ attrs).value = (kind.apply e₂ attrs).value := by
  unfold WidgetKind.apply
  simp only [Noted.value_bind, h.objApply, h.ruleEdits]

theorem modifierSubject (h : e₁.Agrees ok e₂) (attrs : Attrs) (m : Modifier) :
    Modifier.subject e₁ attrs m = Modifier.subject e₂ attrs m := by
  unfold Modifier.subject
  rw [h.subject?]

variable {attrs : Attrs}

theorem action (h : e₁.Agrees ok e₂) (ha : ∀ a ∈ attrs, a.1 = "timeline" → ok a.2) (m : Modifier) :
    (m.action e₁ attrs).value = (m.action e₂ attrs).value := by
  unfold Modifier.action
  simp only [h.modifierSubject, h.find?]
  split
  case h_6 =>
    split
    case h_1 => rfl
    case h_2 name hname =>
      rw [Noted.value_bind, Noted.value_bind, h.timeline name (ha _ (Assoc.mem_of_get? hname) rfl)]
  all_goals rfl

theorem compare (h : e₁.Agrees ok e₂) (m : Modifier) (binding : SubjectValue → Binding) :
    Modifier.compare e₁ attrs m binding = Modifier.compare e₂ attrs m binding := by
  unfold Modifier.compare
  rw [h.modifierSubject, h.subjectValue]

theorem styleBinding (h : e₁.Agrees ok e₂) :
    (Modifier.styleBinding e₁ attrs).value = (Modifier.styleBinding e₂ attrs).value := by
  unfold Modifier.styleBinding
  rw [h.modifierSubject, h.subjectValue, Noted.value_bind, Noted.value_bind]
  split
  case h_1 => rfl
  case h_2 =>
    split
    case h_1 name _ => rw [Noted.value_bind, Noted.value_bind, h.findStyle]
    case h_2        => rfl

theorem removal (h : e₁.Agrees ok e₂) :
    (Modifier.removal e₁ attrs).value = (Modifier.removal e₂ attrs).value := by
  unfold Modifier.removal
  split
  case h_1      => rfl
  case h_2 name => rw [Noted.value_bind, Noted.value_bind, h.findStyle]

theorem hook (h : e₁.Agrees ok e₂) (ha : ∀ a ∈ attrs, a.1 = "timeline" → ok a.2) (m : Modifier) :
    (m.hook e₁ attrs).value = (m.hook e₂ attrs).value := by
  unfold Modifier.hook
  rw [Noted.value_bind, Noted.value_bind, h.action ha]

theorem modifierEdits (h : e₁.Agrees ok e₂) (ha : ∀ a ∈ attrs, a.1 = "timeline" → ok a.2)
    (m : Modifier) :
    (m.edits e₁ attrs).value = (m.edits e₂ attrs).value := by
  unfold Modifier.edits
  simp only [h.compare]
  split
  case h_1 =>
    split
    case h_1 => rfl
    case h_2 => exact h.addStyle _ _
  case h_2 => exact h.removal
  case h_3 => rfl
  case h_4 => exact h.styleBinding
  case h_5 => rfl
  case h_6 => rfl
  case h_7 => exact h.hook ha m

theorem create (h : e₁.Agrees ok e₂) (p : Processor) (parent : Option ObjId) (s : Scene) :
    p.create e₁ parent attrs s = p.create e₂ parent attrs s := by
  unfold Processor.create Processor.makeImageSlice
  rw [h.findImage]

theorem styleEdit (h : e₁.Agrees ok e₂) (name : String) (edit : StyleId → Edit) :
    (Processor.styleEdit e₁ name edit).value = (Processor.styleEdit e₂ name edit).value := by
  unfold Processor.styleEdit
  rw [Noted.value_map, Noted.value_map, h.findStyle]

theorem sectionEdits (h : e₁.Agrees ok e₂) (id : SectionId) :
    (Processor.sectionEdits e₁ attrs id).value = (Processor.sectionEdits e₂ attrs id).value := by
  refine Noted.value_collect_congr fun a _ => ?_
  dsimp only
  split
  case h_3 => exact h.styleEdit _ _
  case h_4 => exact h.styleEdit _ _
  case h_5 => exact h.styleEdit _ _
  all_goals simp only [h.bind]

theorem spanEdits (h : e₁.Agrees ok e₂) (id : SpanId) :
    (Processor.spanEdits e₁ attrs id).value = (Processor.spanEdits e₂ attrs id).value := by
  refine Noted.value_collect_congr fun a _ => ?_
  dsimp only
  split
  case h_2 => exact h.styleEdit _ _
  all_goals simp only [h.bind]

theorem onto {edits₁ edits₂ : Edits} (h : edits₁.value = edits₂.value) (target : Option ObjId) :
    (Processor.onto target edits₁).value = (Processor.onto target edits₂).value := by
  cases target
  case none   => rfl
  case some i => exact congrArg (List.map (i, ·)) h

theorem apply (h : e₁.Agrees ok e₂) (ha : ∀ a ∈ attrs, a.1 = "timeline" → ok a.2) (p : Processor)
    (parent : Option ObjId) (item : Option Item) :
    (p.apply e₁ parent item attrs).value = (p.apply e₂ parent item attrs).value := by
  unfold Processor.apply
  dsimp only
  split
  case h_1 kind => exact onto (h.kindApply kind attrs) _
  case h_8      => rfl
  case h_9      => rfl
  case h_10 =>
    split
    case h_1 id => exact onto (h.sectionEdits id) _
    case h_2    => rfl
  case h_11 =>
    split
    case h_1 id => exact onto (h.spanEdits id) _
    case h_2    => rfl
  case h_12 => rfl
  case h_13 m =>
    split
    case h_1 => exact onto (h.modifierEdits ha m) _
    case h_2 => rfl
  all_goals exact onto (h.objApply attrs) _

end Env.Agrees

end UiMarkup
