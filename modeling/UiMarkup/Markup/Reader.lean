import UiMarkup.Markup.Event
import UiMarkup.Markup.Tag
import UiMarkup.Text.Split

namespace UiMarkup.Markup

inductive Piece
  | aside
  | closing (tag : List Char)
  | opening (text : List Char)
  | empty (text : List Char)     -- an element without a body

-- Splits at the first `>` for which `stop` holds of the characters in front of it, latest
-- first.
def cutWhere (stop : List Char → Bool) (read : List Char) : List Char →
    Option (List Char × List Char)
  | [] => none
  | c :: cs => if c = '>' ∧ stop read then some (read.reverse, cs) else cutWhere stop (c :: read) cs

def cutTag (quote : Option Char) : List Char → Option (List Char × List Char)
  | [] => none
  | c :: cs =>
    match quote with
    | none =>
      if c = '>' then some ([], cs)
      else (cutTag (if c = '"' ∨ c = '\'' then some c else none) cs).map fun (t, r) => (c :: t, r)
    | some q => (cutTag (if c = q then none else some q) cs).map fun (t, r) => (c :: t, r)

structure Aside where
  stop   : List Char → Bool
  begins : List Char → Bool
  fault  : MarkupFault

namespace Aside

def beginsWith (lead s : List Char) : Bool :=
  (Text.after lead s).isSome

def comment : Aside where
  stop
    | '-' :: '-' :: read => 3 ≤ read.length
    | _ => false
  begins := beginsWith ['!', '-', '-']
  fault  := .unclosedComment

def characterData : Aside where
  stop
    | ']' :: ']' :: _ => true
    | _ => false
  begins := beginsWith ['!', '[', 'C', 'D', 'A', 'T', 'A', '[']
  fault  := .unclosedCharacterData

-- A document type is closed once every `<` inside it is; its keyword may be in any letter case.
def doctype : Aside where
  stop read := read.count '<' == read.count '>'
  begins t  := beginsWith ['!', 'D', 'O', 'C', 'T', 'Y', 'P', 'E'] (t.map Char.toUpper)
  fault     := .unclosedDoctype

def instruction : Aside where
  stop
    | '?' :: _ => true
    | _ => false
  begins t := 2 ≤ t.length
  fault    := .unclosedInstruction

def read (a : Aside) (s : List Char) : Except MarkupFault (List Char × List Char) :=
  match cutWhere a.stop [] s with
  | some (t, r) => if a.begins t then .ok (t, r) else .error a.fault
  | none        => .error a.fault

end Aside

-- An end tag's name: blanks behind it do not count, unless there is nothing else.
def closingName (s : List Char) : List Char :=
  match (s.reverse.dropWhile Tag.isSpace).reverse with
  | []     => s
  | c :: n => c :: n

abbrev PlacedFault := Nat × MarkupFault

def pieceOfAside (a : Aside) (s : List Char) : Except PlacedFault (Piece × List Char) :=
  match a.read s with
  | .ok (_, r)    => .ok (.aside, r)
  | .error fault => .error (0, fault)

def pieceOfDoctype (s : List Char) : Except PlacedFault (Piece × List Char) :=
  match Aside.doctype.read s with
  | .ok (t, r) =>
    if (t.drop 8).all Tag.isSpace then .error (1 + Text.bytes t, .doctypeWithoutName)
    else .ok (.aside, r)
  | .error fault => .error (0, fault)

def pieceOfTag (s : List Char) : Except PlacedFault (Piece × List Char) :=
  match cutTag none s with
  | some (t, r) =>
    match Text.before ['/'] t with
    | some t => .ok (.empty t, r)
    | none   => .ok (.opening t, r)
  | none => .error (0, .unclosedTag)

def piece (s : List Char) : Except PlacedFault (Piece × List Char) :=
  match s with
  | '!' :: '[' :: _ => pieceOfAside .characterData s
  | '!' :: '-' :: _ => pieceOfAside .comment s
  | '!' :: 'D' :: _ => pieceOfDoctype s
  | '!' :: 'd' :: _ => pieceOfDoctype s
  | '!' :: _        => .error (0, .unknownMarkup)
  | '?' :: _        => pieceOfAside .instruction s
  | '/' :: s        =>
    match cutTag none s with
    | some (t, r) => .ok (.closing (closingName t), r)
    | none        => .error (0, .unclosedTag)
  | s               => pieceOfTag s

theorem length_of_cutWhere {stop : List Char → Bool} {read s t r : List Char}
    (h : cutWhere stop read s = some (t, r)) : r.length < s.length := by
  induction s generalizing read with
  | nil => simp [cutWhere] at h
  | cons c cs ih =>
    simp only [cutWhere] at h
    split at h
    case isTrue => simp_all
    case isFalse =>
      have := ih h
      simp only [List.length_cons]
      omega

theorem length_of_cutTag {quote : Option Char} {s t r : List Char}
    (h : cutTag quote s = some (t, r)) : r.length < s.length := by
  induction s generalizing quote t with
  | nil => simp [cutTag] at h
  | cons c cs ih =>
    have step {q : Option Char} {p : List Char × List Char} (hp : cutTag q cs = some p)
        (e : (c :: p.1, p.2) = (t, r)) : r.length < (c :: cs).length := by
      cases e
      have := ih hp
      simp only [List.length_cons]
      omega
    simp only [cutTag] at h
    split at h
    case h_1 =>
      split at h
      case isTrue => simp_all
      case isFalse =>
        obtain ⟨p, hp, e⟩ := Option.map_eq_some_iff.1 h
        exact step hp e
    case h_2 =>
      obtain ⟨p, hp, e⟩ := Option.map_eq_some_iff.1 h
      exact step hp e

theorem length_of_asideRead {a : Aside} {s t r : List Char} (h : a.read s = .ok (t, r)) :
    r.length < s.length := by
  unfold Aside.read at h
  split at h
  case h_1 hc =>
    split at h
    case isTrue => cases h; exact length_of_cutWhere hc
    case isFalse => simp at h
  case h_2 => simp at h

theorem length_of_pieceOfAside {a : Aside} {s r : List Char} {p : Piece}
    (h : pieceOfAside a s = .ok (p, r)) : r.length < s.length := by
  unfold pieceOfAside at h
  split at h
  case h_1 hr => cases h; exact length_of_asideRead hr
  case h_2 => simp at h

theorem length_of_pieceOfDoctype {s r : List Char} {p : Piece}
    (h : pieceOfDoctype s = .ok (p, r)) : r.length < s.length := by
  unfold pieceOfDoctype at h
  split at h
  case h_1 hr =>
    split at h
    case isTrue => simp at h
    case isFalse => cases h; exact length_of_asideRead hr
  case h_2 => simp at h

theorem length_of_pieceOfTag {s r : List Char} {p : Piece} (h : pieceOfTag s = .ok (p, r)) :
    r.length < s.length := by
  unfold pieceOfTag at h
  split at h
  case h_1 hc => split at h <;> (cases h; exact length_of_cutTag hc)
  case h_2 => simp at h

theorem length_of_piece {s r : List Char} {p : Piece} (h : piece s = .ok (p, r)) :
    r.length < s.length := by
  unfold piece at h
  split at h
  case h_1 => exact length_of_pieceOfAside h
  case h_2 => exact length_of_pieceOfAside h
  case h_3 => exact length_of_pieceOfDoctype h
  case h_4 => exact length_of_pieceOfDoctype h
  case h_5 => simp at h
  case h_6 => exact length_of_pieceOfAside h
  case h_7 =>
    split at h
    case h_1 hc =>
      cases h
      have := length_of_cutTag hc
      simp only [List.length_cons]
      omega
    case h_2 => simp at h
  case h_8 => exact length_of_pieceOfTag h

def toNextPiece (s : List Char) : List Char :=
  s.dropWhile (· != '<')

def positionOf (size : Nat) (rest : List Char) : Nat :=
  size - Text.bytes rest

-- The boundaries in what is left of a text of `size` bytes, inside the elements `opened`,
-- innermost first.
def eventsFrom (size : Nat) (opened : List String) (s : List Char) : List Event × Option Error :=
  match _hs : toNextPiece s with
  | [] => ([], opened.head?.map .unclosed)
  | lt :: rest =>
    match _hp : piece rest with
    | .error (offset, fault) => ([], some (.markup (positionOf size (lt :: rest) + offset) fault))
    | .ok (.aside, next) => eventsFrom size opened next
    | .ok (.closing name, next) =>
      let tag := String.ofList name
      match opened with
      | [] => ([], some (.markup (positionOf size (lt :: rest)) (.unmatchedEnd tag)))
      | o :: outer =>
        if o = tag then
          let (events, error) := eventsFrom size outer next
          (.closing tag :: events, error)
        else ([], some (.markup (positionOf size (lt :: rest)) (.mismatchedEnd o tag)))
    | .ok (.opening text, next) =>
      match Tag.read text with
      | .error error => ([], some error)
      | .ok (tag, attrs) =>
        let (events, error) := eventsFrom size (tag :: opened) next
        (.opening tag attrs :: events, error)
    | .ok (.empty text, next) =>
      match Tag.read text with
      | .error error => ([], some error)
      | .ok (tag, attrs) =>
        let (events, error) := eventsFrom size opened next
        (.opening tag attrs :: .closing tag :: events, error)
termination_by s.length
decreasing_by
  all_goals
    have h₁ := length_of_piece _hp
    have h₂ := Tag.length_dropWhile_le (· != '<') s
    unfold toNextPiece at _hs
    rw [_hs, List.length_cons] at h₂
    omega

def withoutMark : List Char → List Char
  | [] => []
  | c :: cs => if c.toNat = 0xfeff then cs else c :: cs

def read (text : String) : List Event × Option Error :=
  let s := withoutMark text.toList
  eventsFrom (Text.bytes s) [] s

-- The text as a list of characters, which is what a literal is: none of it has to be decoded.
theorem read_ofList (cs : List Char) :
    read (String.ofList cs) =
      eventsFrom (Text.bytes (withoutMark cs)) [] (withoutMark cs) := by
  rw [read, String.toList_ofList]

end UiMarkup.Markup
