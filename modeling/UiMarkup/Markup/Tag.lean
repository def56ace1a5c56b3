import UiMarkup.Attrs
import UiMarkup.Markup.Reference

namespace UiMarkup.Markup.Tag

def isSpace (c : Char) : Bool :=
  c == ' ' || c == '\t' || c == '\n' || c == '\r'

def skipSpace (s : List Char) : List Char :=
  s.dropWhile isSpace

theorem length_dropWhile_le (p : Char → Bool) (s : List Char) :
    (s.dropWhile p).length ≤ s.length :=
  (List.dropWhile_suffix p).length_le

structure Written where
  key      : List Char
  position : Nat
  value    : List Char

def quoted (quote : Char) : List Char → Option (List Char × List Char)
  | [] => none
  | c :: cs => if c = quote then some ([], cs) else (quoted quote cs).map fun (v, r) => (c :: v, r)

theorem length_of_quoted {quote : Char} {s v r : List Char} (h : quoted quote s = some (v, r)) :
    r.length < s.length := by
  induction s generalizing v with
  | nil => simp [quoted] at h
  | cons c cs ih =>
    simp only [quoted] at h
    split at h
    case isTrue => simp_all
    case isFalse =>
      obtain ⟨⟨v', r'⟩, h', e⟩ := Option.map_eq_some_iff.1 h
      simp only [Prod.mk.injEq] at e
      have := ih (e.2 ▸ h')
      simp only [List.length_cons]
      omega

def afterEquals (size : Nat) (s : List Char) : Except AttrFault (List Char) :=
  match skipSpace s with
  | [] => .error (.equalsExpected size)
  | c :: cs => if c = '=' then .ok cs else .error (.equalsExpected (size - Text.bytes (c :: cs)))

def value (size : Nat) (s : List Char) : Except AttrFault (List Char × List Char) :=
  match skipSpace s with
  | [] => .error (.valueExpected size)
  | c :: cs =>
    if c = '"' ∨ c = '\'' then
      match quoted c cs with
      | some r => .ok r
      | none   => .error (.unclosedQuote size c)
    else .error (.quoteExpected (size - Text.bytes (c :: cs)))

-- The next attribute of a tag of `size` bytes, and what follows it. The first character of a key
-- always belongs to it, whatever it is.
def next (size : Nat) (earlier : List Written) (c : Char) (cs : List Char) :
    Except AttrFault (Written × List Char) := do
  let position := size - Text.bytes (c :: cs)
  let inKey (d : Char) : Bool := !(d == '=' || isSpace d)
  let key := c :: cs.takeWhile inKey
  let rest ← afterEquals size (cs.dropWhile inKey)
  match earlier.find? (·.key = key) with
  | some e => .error (.duplicate position e.position)
  | none =>
    let (v, rest) ← value size rest
    return (⟨key, position, v⟩, rest)

theorem length_of_afterEquals {size : Nat} {s r : List Char} (h : afterEquals size s = .ok r) :
    r.length < s.length := by
  have hl := length_dropWhile_le isSpace s
  unfold afterEquals skipSpace at h
  split at h
  case h_1 => simp at h
  case h_2 c cs e =>
    rw [e] at hl
    split at h
    case isTrue =>
      cases h
      simp only [List.length_cons] at hl
      omega
    case isFalse => simp at h

theorem length_of_value {size : Nat} {s v r : List Char} (h : value size s = .ok (v, r)) :
    r.length < s.length := by
  have hl := length_dropWhile_le isSpace s
  unfold value skipSpace at h
  split at h
  case h_1 => simp at h
  case h_2 c cs e =>
    rw [e] at hl
    split at h
    case isTrue =>
      split at h
      case h_1 p hq =>
        cases h
        have := length_of_quoted hq
        simp only [List.length_cons] at hl
        omega
      case h_2 => simp at h
    case isFalse => simp at h

theorem length_of_next {size : Nat} {earlier : List Written} {c : Char} {cs r : List Char}
    {w : Written} (h : next size earlier c cs = .ok (w, r)) : r.length < (c :: cs).length := by
  simp only [next, bind, Except.bind, pure, Except.pure] at h
  split at h
  case h_1 => simp at h
  case h_2 r₁ h₁ =>
    split at h
    case h_1 => simp at h
    case h_2 =>
      split at h
      case h_1 => simp at h
      case h_2 p h₂ =>
        cases h
        have l₁ := length_of_afterEquals h₁
        have l₂ := length_of_value h₂
        have l₃ := length_dropWhile_le (fun d => !(d == '=' || isSpace d)) cs
        simp only [List.length_cons]
        omega

def attributes (size : Nat) (earlier : List Written) (s : List Char) : Except Error Attrs :=
  match _hs : skipSpace s with
  | [] => .ok []
  | c :: cs =>
    match _hn : next size earlier c cs with
    | .error fault => .error (.attribute fault)
    | .ok (w, rest) =>
      match Reference.resolve w.value with
      | .error fault => .error (.value fault)
      | .ok v => ((.ofList w.key, .ofList v) :: ·) <$> attributes size (earlier ++ [w]) rest
termination_by s.length
decreasing_by
  have h₁ := length_of_next _hn
  have h₂ := length_dropWhile_le isSpace s
  rw [← _hs] at h₁
  unfold skipSpace at h₁
  omega

def read (s : List Char) : Except Error (String × Attrs) := do
  let inName (c : Char) : Bool := !isSpace c
  let attrs ← attributes (Text.bytes s) [] (s.dropWhile inName)
  return (.ofList (s.takeWhile inName), attrs)

end UiMarkup.Markup.Tag
