import UiMarkup.Diagnostic
import UiMarkup.Markup.Event
import UiMarkup.Paint.Gradient

namespace UiMarkup

abbrev EntryKind.Value : EntryKind → Type
  | .style    => StyleId
  | .const    => String
  | .font     => FontId
  | .image    => ImageSource
  | .subject  => SubjectId
  | .callback => CallbackId
  | .timeline => TimelineId
  | .gradient => Gradient

-- A component: the element its view builds on, and the recorded boundaries of the view.
structure Component where
  base : String
  view : List Event
deriving DecidableEq, Repr, Inhabited

structure Scope where
  name      : String
  styles    : Assoc String StyleId         := []
  consts    : Assoc String String          := []
  fonts     : Assoc String FontId          := []
  images    : Assoc String ImageSource     := []
  subjects  : Assoc String SubjectId       := []
  callbacks : Assoc String CallbackId      := []
  timelines : Assoc String TimelineId      := []
  gradients : Assoc String Gradient        := []
  params    : Assoc String (Option String) := []
  component : Option Component             := none
deriving DecidableEq, Repr, Inhabited

namespace Scope

def table (s : Scope) : (kind : EntryKind) → Assoc String kind.Value
  | .style    => s.styles
  | .const    => s.consts
  | .font     => s.fonts
  | .image    => s.images
  | .subject  => s.subjects
  | .callback => s.callbacks
  | .timeline => s.timelines
  | .gradient => s.gradients

def withTable (s : Scope) : (kind : EntryKind) → Assoc String kind.Value → Scope
  | .style,    t => { s with styles := t }
  | .const,    t => { s with consts := t }
  | .font,     t => { s with fonts := t }
  | .image,    t => { s with images := t }
  | .subject,  t => { s with subjects := t }
  | .callback, t => { s with callbacks := t }
  | .timeline, t => { s with timelines := t }
  | .gradient, t => { s with gradients := t }

def get? (s : Scope) (kind : EntryKind) (name : String) : Option kind.Value :=
  Assoc.get? (s.table kind) name

def set (s : Scope) (kind : EntryKind) (name : String) (value : kind.Value) : Scope :=
  s.withTable kind (Assoc.set (s.table kind) name value)

@[simp] theorem table_withTable_self (s : Scope) (kind : EntryKind)
    (t : Assoc String kind.Value) : (s.withTable kind t).table kind = t := by
  cases kind <;> rfl

theorem table_withTable_of_ne (s : Scope) {kind kind' : EntryKind} (t : Assoc String kind.Value)
    (h : kind ≠ kind') : (s.withTable kind t).table kind' = s.table kind' := by
  cases kind <;> cases kind' <;> first | rfl | exact absurd rfl h

@[simp] theorem get?_set_self (s : Scope) (kind : EntryKind) (name : String)
    (value : kind.Value) : (s.set kind name value).get? kind name = some value := by
  simp [get?, set]

theorem get?_set_of_kind_ne (s : Scope) {kind kind' : EntryKind} (name name' : String)
    (value : kind.Value) (h : kind ≠ kind') :
    (s.set kind name value).get? kind' name' = s.get? kind' name' := by
  simp [get?, set, table_withTable_of_ne _ _ h]

theorem get?_set_of_name_ne (s : Scope) (kind : EntryKind) {name name' : String}
    (value : kind.Value) (h : name ≠ name') :
    (s.set kind name value).get? kind name' = s.get? kind name' := by
  simp [get?, set, Assoc.get?_set_of_ne _ _ h]

end Scope

end UiMarkup
