import UiMarkup.Assoc
import UiMarkup.Style.Property
import UiMarkup.Style.Value

namespace UiMarkup

structure Style where
  props : Assoc StyleProp StyleValue := []
deriving DecidableEq, Repr, Inhabited

namespace Style

def empty : Style := {}

-- Sets a property; one that is present keeps its place.
def set (s : Style) (p : StyleProp) (v : StyleValue) : Style :=
  ⟨Assoc.set s.props p v⟩

def erase (s : Style) (p : StyleProp) : Style :=
  ⟨Assoc.erase s.props p⟩

def remove (s : Style) (p : StyleProp) : Style × Bool :=
  let rest := s.erase p
  (rest, rest.props.length != s.props.length)

def get? (s : Style) (p : StyleProp) : Option StyleValue :=
  Assoc.get? s.props p

def contains (s : Style) (p : StyleProp) : Bool :=
  (s.get? p).isSome

def size (s : Style) : Nat :=
  s.props.length

def isEmpty (s : Style) : Bool :=
  s.props.isEmpty

@[simp] theorem get?_set_self (s : Style) (p : StyleProp) (v : StyleValue) :
    (s.set p v).get? p = some v :=
  Assoc.get?_set_self ..

theorem get?_set_of_ne (s : Style) {p q : StyleProp} (v : StyleValue) (h : p ≠ q) :
    (s.set p v).get? q = s.get? q :=
  Assoc.get?_set_of_ne _ v h

@[simp] theorem get?_erase_self (s : Style) (p : StyleProp) : (s.erase p).get? p = none :=
  Assoc.get?_erase_self ..

theorem get?_erase_of_ne (s : Style) {p q : StyleProp} (h : p ≠ q) :
    (s.erase p).get? q = s.get? q :=
  Assoc.get?_erase_of_ne _ h

end Style

end UiMarkup
