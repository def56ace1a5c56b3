import UiMarkup.Widget.Processor

namespace UiMarkup

-- The same answers and the same reports. In which scope a style was registered is no answer.
structure Env.Alike (e₁ e₂ : Env) : Prop where
  subjectKind : e₁.subjectKind = e₂.subjectKind
  style       : ∀ id, (e₁.registry.style? id).map (·.style) = (e₂.registry.style? id).map (·.style)
  lookup      : ∀ kind name,
    e₁.registry.lookup? kind (some e₁.scope) name = e₂.registry.lookup? kind (some e₂.scope) name
  findStyle   : e₁.findStyle = e₂.findStyle
  timeline    : Modifier.timeline e₁ = Modifier.timeline e₂

namespace Env.Alike

variable {e₁ e₂ : Env} (h : e₁.Alike e₂)
include h

theorem subject? : e₁.subject? = e₂.subject? :=
  funext (h.lookup .subject)

theorem find? (kind : EntryKind) :
    e₁.registry.find? kind e₁.scope = e₂.registry.find? kind e₂.scope := by
  funext name
  unfold Registry.find?
  rw [h.lookup]

theorem findImage : e₁.findImage = e₂.findImage :=
  h.find? .image

theorem subjectValue : e₁.subjectValue = e₂.subjectValue := by
  funext subject text
  unfold Env.subjectValue
  rw [h.subjectKind]

theorem bind : e₁.bind = e₂.bind := by
  funext name binding site
  unfold Env.bind
  rw [h.subject?]

theorem addStyle : e₁.addStyle = e₂.addStyle := by
  funext name selector
  unfold Env.addStyle
  rw [h.findStyle]
  refine bind_congr fun found => ?_
  cases found
  case none    => rfl
  case some id =>
    have hstyle := h.style id
    cases he₁ : e₁.registry.style? id <;> cases he₂ : e₂.registry.style? id <;> simp_all

theorem styleValue? : e₁.registry.styleValue? e₁.scope = e₂.registry.styleValue? e₂.scope := by
  funext p text
  unfold Registry.styleValue?
  rw [h.find?, h.find?, h.find?]

theorem localStyle : e₁.localStyle = e₂.localStyle := by
  funext key text
  unfold Env.localStyle
  rw [h.styleValue?]

theorem objApply : ObjAttr.apply e₁ = ObjAttr.apply e₂ := by
  funext attrs
  have hedits : ObjAttr.edits e₁ = ObjAttr.edits e₂ := by
    funext name text
    unfold ObjAttr.edits ObjAttr.styles
    rw [h.bind, h.localStyle, h.addStyle]
  unfold ObjAttr.apply
  rw [hedits]

theorem kindApply (kind : WidgetKind) : kind.apply e₁ = kind.apply e₂ := by
  funext attrs
  have hrule : Rule.edits e₁ = Rule.edits e₂ := by
    funext attrs text rule
    cases rule
    case image => rw [Rule.edits, Rule.edits, h.findImage]
    case bind  => rw [Rule.edits, Rule.edits, h.bind]
    all_goals rfl
  unfold WidgetKind.apply
  rw [h.objApply, hrule]

theorem modifierSubject : Modifier.subject e₁ = Modifier.subject e₂ := by
  funext attrs m
  unfold Modifier.subject
  rw [h.subject?]

theorem compare : Modifier.compare e₁ = Modifier.compare e₂ := by
  funext attrs m binding
  unfold Modifier.compare
  rw [h.modifierSubject, h.subjectValue]

theorem hook : Modifier.hook e₁ = Modifier.hook e₂ := by
  funext attrs m
  unfold Modifier.hook Modifier.action
  rw [h.modifierSubject, h.find?, h.timeline]

theorem modifierEdits : Modifier.edits e₁ = Modifier.edits e₂ := by
  funext attrs m
  unfold Modifier.edits Modifier.removal Modifier.styleBinding
  rw [h.addStyle, h.findStyle, h.modifierSubject, h.subjectValue, h.compare, h.hook]

theorem create (p : Processor) : p.create e₁ = p.create e₂ := by
  funext parent attrs s
  unfold Processor.create Processor.makeImageSlice
  rw [h.findImage]

theorem apply (p : Processor) : p.apply e₁ = p.apply e₂ := by
  funext parent item attrs
  have hstyle : Processor.styleEdit e₁ = Processor.styleEdit e₂ := by
    funext name edit
    unfold Processor.styleEdit
    rw [h.findStyle]
  unfold Processor.apply Processor.sectionEdits Processor.spanEdits
  rw [h.objApply, hstyle, h.bind, h.modifierEdits]
  cases p
  case widget kind => dsimp only; rw [h.kindApply]
  all_goals rfl

end Env.Alike

end UiMarkup
