import UiMarkup.Numeric.Decimal

namespace UiMarkup

structure Binary32 where
  bits : BitVec 32
deriving DecidableEq, Repr, Inhabited

namespace Binary32

def zero : Binary32 := ⟨0⟩

def infinityBits : Nat := 0x7f800000

def signBit : Nat := 0x80000000

def ofMagnitude (negative : Bool) (magnitude : Nat) : Binary32 :=
  ⟨.ofNat 32 (if negative then signBit + magnitude else magnitude)⟩

def infinity (negative : Bool) : Binary32 :=
  ofMagnitude negative infinityBits

def notANumber : Binary32 := ⟨0x7fc00000#32⟩

def isNegative (x : Binary32) : Bool :=
  signBit ≤ x.bits.toNat

def magnitude (x : Binary32) : Nat :=
  x.bits.toNat % signBit

def isNaN (x : Binary32) : Bool :=
  infinityBits < x.magnitude

def tenTo (n : Nat) : Nat :=
  Nat.pow 10 n

-- The integer nearest to `num / den`, of two equally near ones the even one.
def roundQuotient (num den : Nat) : Nat :=
  let q := num / den
  let r := num % den
  if 2 * r < den then q
  else if den < 2 * r then q + 1
  else if q % 2 = 0 then q else q + 1

def scaled (num den : Nat) (e : Int) : Nat × Nat :=
  if e < 0 then (num <<< (-e).toNat, den) else (num, den <<< e.toNat)

-- The exponent of the last place of the number nearest to `num / den`: the quotient has 24
-- binary digits above it, unless it is so small that the exponent stops at -149.
def lastPlace (num den : Nat) : Int :=
  let e : Int := Nat.log2 num - Nat.log2 den - 24
  let (n, d) := scaled num den e
  max (-149) (if 0x1000000 ≤ n / d then e + 1 else e)

-- The magnitude bits of the number nearest to the positive quotient `num / den`, ties to even.
-- Exponent and fraction are adjacent, so a fraction that rounds up to the next power of two carries
-- into the exponent by itself.
def nearestMagnitude (num den : Nat) : Nat :=
  let e := lastPlace num den
  let (n, d) := scaled num den e
  min infinityBits (((e + 149).toNat <<< 23) + roundQuotient n d)

structure Decimal where
  digits   : Nat
  count    : Nat
  exponent : Int

def digitsValue (ds : List Char) : Nat :=
  ds.foldl (fun n c => n * 10 + UiMarkup.Decimal.digit c) 0

def exponent? : List Char → Option Int
  | [] => some 0
  | c :: rest =>
    if c = 'e' ∨ c = 'E' then
      let (negative, ds) := UiMarkup.Decimal.sign rest
      if ds ≠ [] ∧ ds.all Char.isDigit then
        some (if negative then -(digitsValue ds : Int) else digitsValue ds)
      else none
    else none

def decimal? (s : List Char) : Option Decimal :=
  let whole := s.takeWhile Char.isDigit
  let rest := s.dropWhile Char.isDigit
  let (fraction, rest) := match rest with
    | '.' :: r => (r.takeWhile Char.isDigit, r.dropWhile Char.isDigit)
    | r        => ([], r)
  let ds := (whole ++ fraction).dropWhile (· == '0')
  if whole = [] ∧ fraction = [] then none
  else (exponent? rest).map fun e => ⟨digitsValue ds, ds.length, e - fraction.length⟩

-- The number nearest to a decimal. A decimal beyond the largest or below the smallest magnitude
-- by a whole power of ten is settled before any power is computed.
def ofDecimal (negative : Bool) (d : Decimal) : Binary32 :=
  if d.digits = 0 ∨ d.count + d.exponent < -50 then ofMagnitude negative 0
  else if 50 < d.count + d.exponent then infinity negative
  else if d.exponent < 0 then
    ofMagnitude negative (nearestMagnitude d.digits (tenTo (-d.exponent).toNat))
  else ofMagnitude negative (nearestMagnitude (d.digits * tenTo d.exponent.toNat) 1)

def ofChars? (s : List Char) : Option Binary32 :=
  let (negative, body) := UiMarkup.Decimal.sign s
  let word := String.ofList (body.map Char.toLower)
  if word = "inf" ∨ word = "infinity" then some (infinity negative)
  else if word = "nan" then some notANumber
  else (decimal? body).map (ofDecimal negative)

def decode (magnitude : Nat) : Nat × Int :=
  let e : Nat := magnitude >>> 23
  let f := magnitude % 0x800000
  if e = 0 then (f, -149) else (f + 0x800000, (e : Int) - 150)

def decimalPoint (magnitude : Nat) : Int :=
  let (m, q) := decode magnitude
  let (n, d) := scaled m 1 (-q)
  let candidates := (List.range 90).map fun k : Nat => (k : Int) - 45
  let below (k : Int) : Bool :=
    if k < 0 then n * tenTo (-k).toNat < d else n < d * tenTo k.toNat
  (candidates.find? below).getD 45

-- The two neighbours of the magnitude on the grid of decimals with `n` digits, as integers in
-- units of the last digit, the nearer one first and of two equally near ones the greater.
def neighbours (magnitude n : Nat) : List Nat :=
  let (m, q) := decode magnitude
  let shift := n - decimalPoint magnitude
  let (num, den) := scaled m 1 (-q)
  let (num, den) :=
    if shift < 0 then (num, den * tenTo (-shift).toNat) else (num * tenTo shift.toNat, den)
  let d := num / den
  if 2 * (num % den) < den then [d, d + 1] else [d + 1, d]

-- The fewest digits that read back as the magnitude, and the place of the point before which
-- they stand. Nine digits always suffice.
def shortest (magnitude : Nat) : Nat × Int :=
  let point := decimalPoint magnitude
  let readsBack (n d : Nat) : Bool :=
    (ofDecimal false ⟨d, (Nat.toDigits 10 d).length, point - n⟩).magnitude == magnitude
  let hits := (List.range' 1 9).filterMap fun n =>
    ((neighbours magnitude n).find? (readsBack n)).map (n, ·)
  match hits with
  | [] => (0, point)
  | (n, d) :: _ => if d = tenTo n then (1, point + 1) else (d, point)

def usesExponent (magnitude : Nat) : Bool :=
  magnitude ≠ 0 && (magnitude < 0x38d1b717 || 0x5a0e1bca ≤ magnitude)

def trailingZerosCut (ds : List Char) : List Char :=
  (ds.reverse.dropWhile (· == '0')).reverse

def text (x : Binary32) : String :=
  if x.isNaN then "NaN"
  else
    let sign := if x.isNegative then "-" else ""
    if x.magnitude = infinityBits then sign ++ "inf"
    else if x.magnitude = 0 then sign ++ "0.0"
    else
      let (d, point) := shortest x.magnitude
      let ds := trailingZerosCut (Nat.toDigits 10 d)
      sign ++ .ofList (if usesExponent x.magnitude then scientific ds point else plain ds point)
where
  scientific (ds : List Char) (point : Int) : List Char :=
    let fraction := if ds.tail = [] then [] else '.' :: ds.tail
    ds.take 1 ++ fraction ++ 'e' :: (toString (point - 1)).toList
  plain (ds : List Char) (point : Int) : List Char :=
    if point ≤ 0 then '0' :: '.' :: (List.replicate (-point).toNat '0' ++ ds)
    else
      let n := point.toNat
      let whole := ds.take n ++ List.replicate (n - ds.length) '0'
      let fraction := if ds.length ≤ n then ['0'] else ds.drop n
      whole ++ '.' :: fraction

end Binary32

end UiMarkup
