import UiMarkup.Text.Blank

namespace UiMarkup

def clamp (lo hi n : Int) : Int :=
  if n < lo then lo else if hi < n then hi else n

namespace Decimal

def minInt : Int := -2147483648
def maxInt : Int := 2147483647

def saturate (n : Int) : Int :=
  clamp minInt maxInt n

def digit (c : Char) : Nat :=
  c.toNat - '0'.toNat

-- No magnitude above this one is kept while digits are read: it already lies outside the 32-bit
-- range on the positive side, and is the end of the range on the negative side.
def ceiling : Nat := 2147483648

def magnitude (digits : List Char) : Nat :=
  digits.foldl (fun n c => min (n * 10 + digit c) ceiling) 0

def sign : List Char → Bool × List Char
  | '-' :: r => (true, r)
  | '+' :: r => (false, r)
  | r        => (false, r)

-- The integer at the beginning of `s`: blanks, an optional sign and a run of digits. Whatever
-- follows is ignored, and without a digit the answer is 0.
def leading (s : List Char) : Int :=
  let (negative, rest) := sign (Text.trimStart s)
  let n : Int := magnitude (rest.takeWhile Char.isDigit)
  saturate (if negative then -n else n)

end Decimal

end UiMarkup
