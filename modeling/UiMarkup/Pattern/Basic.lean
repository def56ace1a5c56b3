import UiMarkup.Pattern.CharSet

namespace UiMarkup

-- A place in a text: what is before it, the nearest character first, and what is after it.
structure Cursor where
  before : List Char
  after  : List Char
deriving DecidableEq, Repr, Inhabited

inductive Anchor
  | textStart | textEnd
  | lineStart | lineEnd
  | wordEdge | noWordEdge
  | wordStart | wordEnd
  | wordStartHalf | wordEndHalf
deriving DecidableEq, Repr, Inhabited

inductive Pattern
  | empty
  | one (s : CharSet) (anyCase : Bool)
  | anchor (a : Anchor)
  | seq (p q : Pattern)
  | either (p q : Pattern)
  | times (p : Pattern) (least : Nat) (most : Option Nat)
deriving DecidableEq, Repr, Inhabited

namespace Cursor

def all (before : List Char) : List Char → List Cursor
  | []      => [⟨before, []⟩]
  | c :: cs => ⟨before, c :: cs⟩ :: all (c :: before) cs

def pass (k : Cursor) (s : CharSet) (anyCase : Bool) : List Cursor :=
  match k.after with
  | []      => []
  | c :: cs => if s.has anyCase c then [⟨c :: k.before, cs⟩] else []

def wordBefore (k : Cursor) : Bool :=
  k.before.head?.any CharSet.isWord

def wordAfter (k : Cursor) : Bool :=
  k.after.head?.any CharSet.isWord

end Cursor

def Anchor.holds (k : Cursor) : Anchor → Bool
  | .textStart     => k.before.isEmpty
  | .textEnd       => k.after.isEmpty
  | .lineStart     => k.before.head?.all (· == '\n')
  | .lineEnd       => k.after.head?.all (· == '\n')
  | .wordEdge      => k.wordBefore != k.wordAfter
  | .noWordEdge    => k.wordBefore == k.wordAfter
  | .wordStart     => !k.wordBefore && k.wordAfter
  | .wordEnd       => k.wordBefore && !k.wordAfter
  | .wordStartHalf => !k.wordBefore
  | .wordEndHalf   => !k.wordAfter

namespace Pattern

def after (round : List Cursor → List Cursor) : Nat → List Cursor → List Cursor
  | 0, ks     => ks
  | n + 1, ks => after round n (round ks)

def within (round : List Cursor → List Cursor) : Nat → List Cursor → List Cursor
  | 0, ks     => ks
  | n + 1, ks => within round n (ks ++ round ks).eraseDups

-- The places that a match which begins at a place may end at. A round of a repetition that goes
-- on passes a character, so there is no need of more rounds than there are characters left.
def ends : Pattern → Cursor → List Cursor
  | .empty, k         => [k]
  | .one s anyCase, k => k.pass s anyCase
  | .anchor a, k      => if a.holds k then [k] else []
  | .seq p q, k       => ((ends p k).flatMap (ends q)).eraseDups
  | .either p q, k    => (ends p k ++ ends q k).eraseDups
  | .times p least most, k =>
    let round (ks : List Cursor) := (ks.flatMap (ends p)).eraseDups
    let more := match most with
      | some most => min (most - least) k.after.length
      | none      => k.after.length
    within round more (after round least [k])

def isFoundIn (p : Pattern) (s : String) : Bool :=
  (Cursor.all [] s.toList).any fun k => !(ends p k).isEmpty

end Pattern

end UiMarkup
