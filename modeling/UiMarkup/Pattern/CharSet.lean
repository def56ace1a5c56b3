import UiMarkup.Text.Blank

namespace UiMarkup

inductive CharSet
  | empty
  | range (first last : Char)
  | digit
  | word
  | blank
  | compl (s : CharSet)
  | union (s t : CharSet)
  | inter (s t : CharSet)
  | diff (s t : CharSet)
deriving DecidableEq, Repr, Inhabited

namespace CharSet

def single (c : Char) : CharSet :=
  .range c c

def symmDiff (s t : CharSet) : CharSet :=
  .union (.diff s t) (.diff t s)

def isWord (c : Char) : Bool :=
  c.isAlphanum || c == '_'

def has (anyCase : Bool) : CharSet → Char → Bool
  | .empty, _ => false
  | .range first last, c =>
    let within (c : Char) : Bool := first ≤ c && c ≤ last
    within c || (anyCase && (within c.toLower || within c.toUpper))
  | .digit, c     => c.isDigit
  | .word, c      => isWord c
  | .blank, c     => Text.isBlank c
  | .compl s, c   => !s.has anyCase c
  | .union s t, c => s.has anyCase c || t.has anyCase c
  | .inter s t, c => s.has anyCase c && t.has anyCase c
  | .diff s t, c  => s.has anyCase c && !t.has anyCase c

end CharSet

end UiMarkup
