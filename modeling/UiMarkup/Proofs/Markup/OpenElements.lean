import UiMarkup.Markup.Forest

namespace UiMarkup.Markup

structure Element where
  before : List Event
  tag    : String
  attrs  : Attrs
deriving DecidableEq, Repr

-- The elements that are open after one more boundary, innermost first.
def followed (before : List Event) (outer : List Element) : Event → List Element
  | .opening tag attrs => { before, tag, attrs } :: outer
  | .closing _         => outer.tail

def openFrom (before : List Event) (outer : List Element) : List Event → List Element
  | []          => outer
  | e :: events => openFrom (before ++ [e]) (followed before outer e) events

def openElements (events : List Event) : List Element :=
  openFrom [] [] events

def inView : List Element → List Element
  | []         => []
  | e :: outer => if e.tag = "view" ∨ inView outer ≠ [] then e :: inView outer else []

section Open

variable {before events : List Event} {outer : List Element}

theorem openFrom_append (events' : List Event) :
    openFrom before outer (events ++ events') =
      openFrom (before ++ events) (openFrom before outer events) events' := by
  induction events generalizing before outer
  case nil              => simp [openFrom]
  case cons e events hi => simp [openFrom, hi]

theorem openElements_append (events' : List Event) :
    openElements (events ++ events') = openFrom events (openElements events) events' :=
  openFrom_append events'

theorem openFrom_forest (f : Forest) : openFrom before outer f.events = outer := by
  induction f generalizing before outer
  case empty => rfl
  case element tag attrs brief body rest hbody hrest =>
    rw [Forest.events, openFrom, followed, openFrom_append, hbody, openFrom, followed,
      List.tail_cons, hrest]

theorem openFrom_element (tag : String) (attrs : Attrs) (body : Forest) :
    openFrom before outer (.opening tag attrs :: body.events ++ [.closing tag]) = outer :=
  openFrom_forest (.element tag attrs false body .empty)

-- Elements side by side only open elements inside of what is open already.
theorem openFrom_prefix {f : Forest} (h : events <+: f.events) (before : List Event)
    (outer : List Element) : ∃ inner, openFrom before outer events = inner ++ outer := by
  induction f generalizing before outer events
  case empty => exact ⟨[], by rw [List.prefix_nil.mp h]; rfl⟩
  case element tag attrs brief body rest hbody hrest =>
    cases List.prefix_cons_iff.mp h
    case inl h => exact ⟨[], by rw [h]; rfl⟩
    case inr h =>
      obtain ⟨inside, rfl, left, h⟩ := h
      cases List.append_eq_append_iff.mp h
      case inl h =>
        obtain ⟨_, hinside, -⟩ := h
        have ⟨inner, hinner⟩ := hbody ⟨_, hinside.symm⟩ (before ++ [.opening tag attrs])
          (⟨before, tag, attrs⟩ :: outer)
        exact ⟨inner ++ [⟨before, tag, attrs⟩], by simp [openFrom, followed, hinner]⟩
      case inr h =>
        obtain ⟨after, rfl, hafter⟩ := h
        rw [openFrom, followed, openFrom_append, openFrom_forest]
        cases List.prefix_cons_iff.mp ⟨left, hafter.symm⟩
        case inl h => exact ⟨[⟨before, tag, attrs⟩], by rw [h]; rfl⟩
        case inr h =>
          obtain ⟨_, rfl, hrest₁⟩ := h
          exact hrest hrest₁ _ _

end Open

theorem inView_tail (elements : List Element) : inView elements.tail = (inView elements).tail := by
  cases elements
  case nil          => rfl
  case cons e outer =>
    rw [inView]
    split
    case isTrue       => rfl
    case isFalse hnot => simpa using fun h => hnot (.inr h)

theorem inView_view_ne_nil {e : Element} (h : e.tag = "view") (outer : List Element) :
    inView (e :: outer) ≠ [] := by
  rw [inView, if_pos (.inl h)]
  exact List.cons_ne_nil _ _

theorem inView_append_ne_nil (inner : List Element) {outer : List Element}
    (h : inView outer ≠ []) : inView (inner ++ outer) ≠ [] := by
  induction inner
  case nil => exact h
  case cons e inner hi =>
    rw [List.cons_append, inView, if_pos (.inr hi)]
    exact List.cons_ne_nil _ _

end UiMarkup.Markup
