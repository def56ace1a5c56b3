import UiMarkup.Numeric.Decimal
import UiMarkup.Pattern.Basic
import UiMarkup.Text.Split

namespace UiMarkup.Pattern

inductive Piece
  | literal (c : Char)
  | oneOf (s : CharSet)
  | dot | caret | dollar
  | anchor (a : Anchor)
  | times (least : Nat) (most : Option Nat)
  | group (name : Option String) (changes : List (Char × Bool))
  | flags (changes : List (Char × Bool))
  | close
  | bar
deriving DecidableEq, Repr, Inhabited

def charOfHex? (ds : List Char) : Option Char :=
  let n := ds.foldl (fun n c => n * 16 + digit c) 0
  if ds ≠ [] ∧ ds.all isHex ∧ n.isValidChar then some (.ofNat n) else none
where
  isHex (c : Char) : Bool :=
    c.isDigit || ('a' ≤ c && c ≤ 'f') || ('A' ≤ c && c ≤ 'F')
  digit (c : Char) : Nat :=
    if c.isDigit then c.toNat - 48 else c.toLower.toNat - 87

def hexEscape? (count : Nat) : List Char → Option (Piece × List Char)
  | '\x7b' :: s => do
    let (ds, s) ← Text.cutFirst '\x7d' s
    let c ← charOfHex? ds
    return (.literal c, s)
  | s =>
    if s.length < count then none
    else (charOfHex? (s.take count)).map fun c => (.literal c, s.drop count)

def edge? (s : List Char) : Option (Piece × List Char) :=
  let isName (c : Char) : Bool := c.isAlpha || c == '-'
  match s with
  | '\x7b' :: rest =>
    match String.ofList (rest.takeWhile isName), rest.dropWhile isName with
    | "", _                   => some (.anchor .wordEdge, s)
    | "start", '\x7d' :: s      => some (.anchor .wordStart, s)
    | "end", '\x7d' :: s        => some (.anchor .wordEnd, s)
    | "start-half", '\x7d' :: s => some (.anchor .wordStartHalf, s)
    | "end-half", '\x7d' :: s   => some (.anchor .wordEndHalf, s)
    | _, _                    => none
  | _ => some (.anchor .wordEdge, s)

-- What follows a backslash. A letter or a digit that is not listed means nothing.
def escape? : List Char → Option (Piece × List Char)
  | []       => none
  | 'd' :: s => some (.oneOf .digit, s)
  | 'D' :: s => some (.oneOf (.compl .digit), s)
  | 's' :: s => some (.oneOf .blank, s)
  | 'S' :: s => some (.oneOf (.compl .blank), s)
  | 'w' :: s => some (.oneOf .word, s)
  | 'W' :: s => some (.oneOf (.compl .word), s)
  | 'x' :: s => hexEscape? 2 s
  | 'u' :: s => hexEscape? 4 s
  | 'U' :: s => hexEscape? 8 s
  | 'a' :: s => some (.literal '\x07', s)
  | 'f' :: s => some (.literal '\x0c', s)
  | 't' :: s => some (.literal '\t', s)
  | 'n' :: s => some (.literal '\n', s)
  | 'r' :: s => some (.literal '\r', s)
  | 'v' :: s => some (.literal '\x0b', s)
  | 'A' :: s => some (.anchor .textStart, s)
  | 'z' :: s => some (.anchor .textEnd, s)
  | 'b' :: s => edge? s
  | 'B' :: s => some (.anchor .noWordEdge, s)
  | '<' :: s => some (.anchor .wordStart, s)
  | '>' :: s => some (.anchor .wordEnd, s)
  | c :: s   => if c.isAlphanum || 0x80 ≤ c.toNat then none else some (.literal c, s)

def classes : List (String × CharSet) :=
  [ ("alnum", .union .digit letter),
    ("alpha", letter),
    ("ascii", .range '\x00' '\x7f'),
    ("blank", .union (.single ' ') (.single '\t')),
    ("cntrl", .union (.range '\x00' '\x1f') (.single '\x7f')),
    ("digit", .digit),
    ("graph", .range '!' '~'),
    ("lower", .range 'a' 'z'),
    ("print", .range ' ' '~'),
    ("punct", .diff (.range '!' '~') (.union .digit letter)),
    ("space", .union (.single ' ') (.range '\t' '\r')),
    ("upper", .range 'A' 'Z'),
    ("word", .word),
    ("xdigit", .union .digit (.union (.range 'a' 'f') (.range 'A' 'F'))) ]
where
  letter : CharSet := .union (.range 'a' 'z') (.range 'A' 'Z')

def namedClass? (s : List Char) : Option (CharSet × List Char) := do
  let (name, rest) ← Text.cutFirst ':' (Text.after ['^'] s |>.getD s)
  let rest ← Text.after [']'] rest
  let (_, set) ← classes.find? (·.1.toList = name)
  return (if s.head? = some '^' then .compl set else set, rest)

-- The beginning of a set: whether it is what the brackets leave out, and the characters that
-- stand for themselves here only.
def bracketStart (s : List Char) : Bool × CharSet × List Char :=
  let rest := (Text.after ['^'] s).getD s
  let negated := s.head? = some '^'
  match rest with
  | '-' :: _    => (negated, .single '-', rest.dropWhile (· == '-'))
  | ']' :: rest => (negated, .single ']', rest)
  | _           => (negated, .empty, rest)

def bracketItem? : List Char → Option (Piece × List Char)
  | []        => none
  | '\\' :: s => escape? s
  | c :: s    => some (.literal c, s)

def bracketRange? (s : List Char) : Option (CharSet × List Char) := do
  let (first, s) ← bracketItem? s
  match first, s with
  | .literal c, '-' :: next :: rest =>
    if next = ']' || next = '-' then return (.single c, s)
    match ← bracketItem? (next :: rest) with
    | (.literal d, s) => if c ≤ d then return (.range c d, s) else none
    | _               => none
  | .literal c, s => return (.single c, s)
  | .oneOf set, '-' :: next :: _ => if next = ']' || next = '-' then return (set, s) else none
  | .oneOf set, s => return (set, s)
  | _, _ => none

-- The rest of a set whose items so far are `items`, and which is then completed by `complete`.
-- Every round takes a character, so as many rounds as there are characters suffice.
def bracket? : (rounds : Nat) → (complete : CharSet → CharSet) → (items : CharSet) → List Char →
    Option (CharSet × List Char)
  | 0, _, _, _ => none
  | _, _, _, [] => none
  | _ + 1, complete, items, ']' :: s => some (complete items, s)
  | n + 1, complete, items, '&' :: '&' :: s => bracket? n (.inter (complete items)) .empty s
  | n + 1, complete, items, '-' :: '-' :: s => bracket? n (.diff (complete items)) .empty s
  | n + 1, complete, items, '~' :: '~' :: s => bracket? n (.symmDiff (complete items)) .empty s
  | n + 1, complete, items, '[' :: s =>
    match (Text.after [':'] s).bind namedClass? with
    | some (set, s) => bracket? n complete (.union items set) s
    | none => do
      let (negated, first, s) := bracketStart s
      let (set, s) ← bracket? n id first s
      bracket? n complete (.union items (if negated then .compl set else set)) s
  | n + 1, complete, items, s => do
    let (set, s) ← bracketRange? s
    bracket? n complete (.union items set) s

def number? (s : List Char) : Option (Nat × List Char) :=
  let s := Text.trimStart s
  let ds := s.takeWhile Char.isDigit
  let n := ds.foldl (fun n c => n * 10 + Decimal.digit c) 0
  if ds.isEmpty || 0x100000000 ≤ n then none
  else some (n, Text.trimStart (s.dropWhile Char.isDigit))

-- A repetition; how eager it is does not matter for whether there is a match.
def repetition (least : Nat) (most : Option Nat) (s : List Char) : Piece × List Char :=
  (.times least most, (Text.after ['?'] s).getD s)

def counted? (s : List Char) : Option (Piece × List Char) := do
  let (least, s) ← number? s
  match s with
  | '\x7d' :: s => return repetition least (some least) s
  | ',' :: '\x7d' :: s => return repetition least none s
  | ',' :: s => do
    let (most, s) ← number? s
    let s ← Text.after ['\x7d'] s
    if least ≤ most then return repetition least (some most) s else none
  | _ => none

def flagChanges? (s : List Char) : Option (List (Char × Bool)) :=
  let (on, off) := (Text.cutFirst '-' s).getD (s, [])
  if (on ++ off).all (· ∈ ['i', 'm', 's', 'U', 'u', 'R']) && (on ++ off).Nodup &&
      (off ≠ [] || '-' ∉ s) then
    some (on.map (·, true) ++ off.map (·, false))
  else none

def isGroupName (s : List Char) : Bool :=
  match s with
  | []      => false
  | c :: cs => (c.isAlpha || c == '_') && cs.all fun c => CharSet.isWord c || c ∈ ['.', '[', ']']

def group? : List Char → Option (Piece × List Char)
  | '?' :: 'P' :: '<' :: s | '?' :: '<' :: s => do
    let (name, s) ← Text.cutFirst '>' s
    if isGroupName name then return (.group (some (.ofList name)) [], s) else none
  | '?' :: s => do
    let isFlag (c : Char) : Bool := c ≠ ':' && c ≠ ')'
    let changes ← flagChanges? (s.takeWhile isFlag)
    match s.dropWhile isFlag with
    | ':' :: s => return (.group none changes, s)
    | ')' :: s => if changes = [] then none else return (.flags changes, s)
    | _        => none
  | s => some (.group none [], s)

def piece? : List Char → Option (Piece × List Char)
  | []           => none
  | '\\' :: s    => escape? s
  | '(' :: s     => group? s
  | ')' :: s     => some (.close, s)
  | '|' :: s     => some (.bar, s)
  | '.' :: s     => some (.dot, s)
  | '^' :: s     => some (.caret, s)
  | '$' :: s     => some (.dollar, s)
  | '*' :: s     => some (repetition 0 none s)
  | '+' :: s     => some (repetition 1 none s)
  | '?' :: s     => some (repetition 0 (some 1) s)
  | '\x7b' :: s  => counted? s
  | '[' :: s     => do
    let (negated, first, s) := bracketStart s
    let (set, s) ← bracket? (s.length + 1) id first s
    return (.oneOf (if negated then .compl set else set), s)
  | c :: s       => some (.literal c, s)

def pieces? : (rounds : Nat) → List Char → Option (List Piece)
  | _, []    => some []
  | 0, _     => none
  | n + 1, s => do
    let (p, s) ← piece? s
    let ps ← pieces? n s
    return p :: ps

-- Of the flags, those that matter for whether there is a match in a line of text.
structure Flags where
  anyCase   : Bool := false
  multiline : Bool := false
  dotAll    : Bool := false
deriving DecidableEq, Repr, Inhabited

def Flags.change (f : Flags) : List (Char × Bool) → Flags
  | []                => f
  | ('i', on) :: rest => { f with anyCase := on }.change rest
  | ('m', on) :: rest => { f with multiline := on }.change rest
  | ('s', on) :: rest => { f with dotAll := on }.change rest
  | _ :: rest         => f.change rest

-- A group that is open: the flags in force before it, the alternatives that are complete, and the
-- items of the last one, the latest first; a change of flags is an item without a pattern.
structure Frame where
  outside      : Flags := {}
  alternatives : Option Pattern := none
  items        : List (Option Pattern) := []
deriving DecidableEq, Repr, Inhabited

def Frame.add (f : Frame) (p : Option Pattern) : Frame :=
  { f with items := p :: f.items }

def Frame.pattern (f : Frame) : Pattern :=
  let last := (f.items.reverse.filterMap id).foldr .seq .empty
  (f.alternatives.map (.either · last)).getD last

structure Assembly where
  flags : Flags := {}
  names : List String := []
  frame : Frame := {}
  outer : List Frame := []
deriving DecidableEq, Repr, Inhabited

namespace Assembly

def add (a : Assembly) (p : Option Pattern) : Assembly :=
  { a with frame := a.frame.add p }

def step (a : Assembly) : Piece → Option Assembly
  | .literal c => some (a.add (some (.one (.single c) a.flags.anyCase)))
  | .oneOf s   => some (a.add (some (.one s a.flags.anyCase)))
  | .dot       =>
    let s := if a.flags.dotAll then .compl .empty else .compl (.single '\n')
    some (a.add (some (.one s false)))
  | .caret  => some (a.add (some (.anchor (if a.flags.multiline then .lineStart else .textStart))))
  | .dollar => some (a.add (some (.anchor (if a.flags.multiline then .lineEnd else .textEnd))))
  | .anchor p => some (a.add (some (.anchor p)))
  | .times least most =>
    match a.frame.items with
    | some p :: items =>
      some { a with frame := { a.frame with items := some (.times p least most) :: items } }
    | _ => none
  | .bar =>
    some { a with frame := { a.frame with alternatives := some a.frame.pattern, items := [] } }
  | .flags changes => some { a.add none with flags := a.flags.change changes }
  | .group name changes =>
    if name.any (· ∈ a.names) then none
    else some {
      flags := a.flags.change changes
      names := name.toList ++ a.names
      frame := { outside := a.flags }
      outer := a.frame :: a.outer }
  | .close =>
    match a.outer with
    | []         => none
    | f :: outer =>
      some { a with flags := a.frame.outside, frame := f.add (some a.frame.pattern), outer }

end Assembly

def ofText? (s : String) : Option Pattern := do
  let pieces ← pieces? s.toList.length s.toList
  let a ← pieces.foldlM Assembly.step {}
  if a.outer = [] then return a.frame.pattern else none

end UiMarkup.Pattern
