import UiMarkup.Attrs
import UiMarkup.Coord
import UiMarkup.Diagnostic
import UiMarkup.Numeric.Binary32
import UiMarkup.Paint.Gradient
import UiMarkup.Subject
import UiMarkup.Text.Split
import UiMarkup.Vocabulary.Basic
import UiMarkup.Vocabulary.Flags

namespace UiMarkup.Reading

def bools : Assoc String Bool := [
  ("true", true), ("1", true), ("on", true), ("yes", true),
  ("false", false), ("0", false), ("off", false), ("no", false)]

def bool (s : String) : Noted Bool :=
  match Assoc.get? bools s with
  | some b => pure b
  | none   => .because false (.notABoolean s)

def int (s : String) : Int :=
  Decimal.leading s.toList

def float (s : String) : Noted Binary32 :=
  match Binary32.ofChars? (Text.trim s.toList) with
  | some x => pure x
  | none   => .because .zero (.notANumber s)

-- Pixels, a percentage with its sign, or `content`.
def size (s : String) : Coord :=
  if s = "content" then Coord.content
  else match Text.before? "%" s with
    | some n => Coord.percent (int n)
    | none   => int s

-- The first two words as sizes; a missing one is 0.
def point (s : String) : Point :=
  match (Text.words s).map size with
  | []          => (0, 0)
  | [x]         => (x, 0)
  | x :: y :: _ => (x, y)

def colorDigits (s : String) : String :=
  ((Text.after? "#" s).or ((Text.after? "0x" s).or (Text.after? "0X" s))).getD s

-- A name of the palette, or hexadecimal digits with or without a mark in front of them.
def color (s : String) : Noted Color :=
  match (Color.named? s).or (Color.ofDigits? (colorDigits s)) with
  | some c => pure c
  | none   => .because .black (.notAColor s)

def isColorLiteral (s : String) : Bool :=
  ((Text.after? "#" s).bind Color.ofDigits?).isSome

-- A value from 0 to 255, or a percentage of 255 rounded down.
def level (s : String) : UInt8 :=
  match Text.before? "%" s with
  | some n => .ofInt (clamp 0 100 (int n) * 255 / 100)
  | none   => .ofInt (clamp 0 255 (int s))

def opacity (s : String) : Opacity :=
  if s = "cover" then .cover
  else if s = "transp" then .transparent
  else level s

def token {α : Type} [Vocabulary α] [Inhabited α] (s : String) : Noted α :=
  match Vocabulary.ofToken? s with
  | some a => pure a
  | none   => .because default (.notAToken s (Vocabulary.title α))

def join {α : Type} [OrOp α] (names : Assoc String α) (unknown : String → Diagnostic)
    (none : α) : List String → Noted α
  | [] => pure none
  | w :: ws => do
    let a ← match Assoc.get? names w with
      | some a    => pure a
      | Option.none => Noted.because none (unknown w)
    let rest ← join names unknown none ws
    return a ||| rest

def borderSides (s : String) : Noted BorderSides :=
  join BorderSides.names .notABorderSide .none ((Text.split '|' s).map Text.trimmed)

def cellControls (s : String) : Noted CellControls :=
  join CellControls.names .notACellControl .none ((Text.split '|' s).map Text.trimmed)

-- The bits that a word adds to a selector: a state, a part, both or nothing.
def selectorToken (w : String) : Selector :=
  ((States.ofName? w).map Selector.ofStates).getD .default |||
  ((Part.ofName? w).map Selector.ofPart).getD .default

def selector (sep : Char) (s : String) : Selector :=
  (Text.split sep s).foldl (fun acc w => acc ||| selectorToken w) .default

-- A style name, and the selector behind its first hyphen.
def styleSelector (s : String) : String × Selector :=
  match Text.cutFirst? '-' s with
  | some (name, rest) => (name, selector '-' rest)
  | none              => (s, .default)

-- One track of a grid: `fr(n)` or `nfr` shares, `content`, or pixels.
def gridTrack (w : String) : Coord :=
  match (Text.after? "fr(" w).bind (Text.before? ")") with
  | some n => Coord.share (int n)
  | none =>
    match Text.before? "fr" w with
    | some n => Coord.share (int n)
    | none   => if w = "content" then Coord.contentTrack else int w

def gridTracks (s : String) : List Coord :=
  (Text.words s).map gridTrack ++ [Coord.lastTrack]

def subjectValue (kind : SubjectKind) (s : String) : Noted SubjectValue :=
  match kind with
  | .int   => pure (.int (int s))
  | .float => .float <$> float s
  | .str   => pure (.str s)
  | .color => .color <$> color s

def intAttr (attrs : Attrs) (name : String) (absent : Int) : Int :=
  ((attrs.get? name).map int).getD absent

def boolAttr (attrs : Attrs) (name : String) : Noted Bool :=
  match attrs.get? name with
  | some s => bool s
  | none   => pure false

end UiMarkup.Reading
