import UiMarkup.Markup.Forest
import UiMarkup.Markup.Reader

namespace UiMarkup.Markup

-- What is left to read inside of open elements, innermost first: the rest of each of them, its end,
-- and what comes after the outermost one.
inductive Completes : List String → List Event → Prop
  | outside (f : Forest) : Completes [] f.events
  | inside {outer : List String} {events : List Event} (tag : String) (f : Forest) :
    Completes outer events → Completes (tag :: outer) (f.events ++ .closing tag :: events)

namespace Completes

variable {opened : List String} {events : List Event}

theorem nil : Completes [] [] :=
  .outside .empty

theorem close (h : Completes opened events) (tag : String) :
    Completes (tag :: opened) (.closing tag :: events) :=
  .inside tag .empty h

theorem element (h : Completes opened events) (tag : String) (attrs : Attrs) (body : Forest) :
    Completes opened (.opening tag attrs :: (body.events ++ .closing tag :: events)) := by
  cases h
  case outside f => exact .outside (.element tag attrs false body f)
  case inside outer events tag' f h =>
    have hevents : Event.opening tag attrs ::
          (body.events ++ .closing tag :: (f.events ++ .closing tag' :: events)) =
        (Forest.element tag attrs false body f).events ++ .closing tag' :: events := by
      simp [Forest.events]
    rw [hevents]
    exact .inside tag' _ h

theorem opening {tag : String} (h : Completes (tag :: opened) events) (attrs : Attrs) :
    Completes opened (.opening tag attrs :: events) := by
  cases h
  case inside events f h => exact h.element tag attrs f

theorem exists_forest (h : Completes [] events) : ∃ f : Forest, events = f.events := by
  cases h
  case outside f => exact ⟨f, rfl⟩

end Completes

theorem completes_eventsFrom {size : Nat} {opened : List String} {s : List Char}
    {events : List Event} (h : eventsFrom size opened s = (events, none)) :
    Completes opened events := by
  fun_induction eventsFrom size opened s generalizing events
  case case1 opened s hs =>
    cases opened
    case nil      => cases h; exact .nil
    case cons _ _ => cases h
  case case2          => cases h
  case case3 next _ hi => exact hi h
  case case4          => cases h
  case case5 hread hi =>
    cases h
    exact (hi hread).close _
  case case6          => cases h
  case case7          => cases h
  case case8 hread hi =>
    cases h
    exact (hi hread).opening _
  case case9          => cases h
  case case10 hread hi =>
    cases h
    exact (hi hread).element _ _ .empty

theorem exists_forest_of_read {text : String} {events : List Event}
    (h : read text = (events, none)) : ∃ f : Forest, events = f.events :=
  (completes_eventsFrom h).exists_forest

end UiMarkup.Markup
