import UiMarkup.Assoc
import UiMarkup.Markup.Fault
import UiMarkup.Text.Bytes

namespace UiMarkup.Markup.Reference

def names : Assoc (List Char) Char := [
  (['l', 't'], '<'),
  (['g', 't'], '>'),
  (['a', 'm', 'p'], '&'),
  (['a', 'p', 'o', 's'], '\''),
  (['q', 'u', 'o', 't'], '"')]

def digit? (radix : Nat) (c : Char) : Option Nat :=
  let d :=
    if '0' ≤ c ∧ c ≤ '9' then c.toNat - '0'.toNat
    else if 'a' ≤ c ∧ c ≤ 'f' then c.toNat - 'a'.toNat + 10
    else if 'A' ≤ c ∧ c ≤ 'F' then c.toNat - 'A'.toNat + 10
    else radix
  if d < radix then some d else none

-- The number that digits spell after `n`. Digits are judged from left to right, so whichever
-- comes first is reported, a character that is no digit or a number above 32 bits.
def number (radix n : Nat) : List Char → Except CodeFault Nat
  | [] => .ok n
  | c :: cs =>
    match digit? radix c with
    | none => .error .invalidDigit
    | some d =>
      let n := n * radix + d
      if n < 4294967296 then number radix n cs else .error .tooLarge

def unsigned (radix : Nat) : List Char → Except CodeFault Nat
  | []       => .error .empty
  | '+' :: _ => .error .signed
  | '-' :: _ => .error .signed
  | ds       => number radix 0 ds

def character (s : List Char) : Except CodeFault Char := do
  let n ← match s with
    | 'x' :: ds => unsigned 16 ds
    | ds        => unsigned 10 ds
  if n = 0 then .error .nul
  else if n < 0xd800 ∨ 0xdfff < n ∧ n < 0x110000 then .ok (Char.ofNat n)
  else .error (.notACharacter n)

def meaning (start : Nat) : List Char → Except ReferenceFault Char
  | '#' :: s => (character s).mapError .code
  | name =>
    match Assoc.get? names name with
    | some c => .ok c
    | none   => .error (.unknown start (start + Text.bytes name) (.ofList name))

-- Resolves what is left of a value of `size` bytes. `pending` is the part of a reference that
-- was read since its `&`, latest character first, with the position of the `&`.
def resolveFrom (size : Nat) : (position : Nat) → (pending : Option (Nat × List Char)) →
    List Char → Except ReferenceFault (List Char)
  | _, none, [] => .ok []
  | _, some (start, _), [] => .error (.unterminated start size)
  | position, none, c :: cs =>
    if c = '&' then resolveFrom size (position + 1) (some (position, [])) cs
    else (c :: ·) <$> resolveFrom size (position + c.utf8Size) none cs
  | position, some (start, read), c :: cs =>
    if c = ';' then do
      let d ← meaning (start + 1) read.reverse
      (d :: ·) <$> resolveFrom size (position + 1) none cs
    else if c = '&' then .error (.unterminated start size)
    else resolveFrom size (position + c.utf8Size) (some (start, c :: read)) cs

def resolve (s : List Char) : Except ReferenceFault (List Char) :=
  resolveFrom (Text.bytes s) 0 none s

end UiMarkup.Markup.Reference
