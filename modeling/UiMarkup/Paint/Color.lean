import UiMarkup.Assoc

namespace UiMarkup

structure Color where
  red   : UInt8
  green : UInt8
  blue  : UInt8
deriving DecidableEq, Repr, Inhabited

abbrev Opacity := UInt8

namespace Opacity

def transparent : Opacity := 0
def cover : Opacity := 255

end Opacity

namespace Color

def black : Color := ⟨0, 0, 0⟩
def white : Color := ⟨255, 255, 255⟩

def ofHex (n : Nat) : Color :=
  ⟨.ofNat (n / 65536), .ofNat (n / 256), .ofNat n⟩

def toHex (c : Color) : Nat :=
  c.red.toNat * 65536 + c.green.toNat * 256 + c.blue.toNat

def hexDigit? (c : Char) : Option Nat :=
  if '0' ≤ c ∧ c ≤ '9' then some (c.toNat - '0'.toNat)
  else if 'a' ≤ c ∧ c ≤ 'f' then some (c.toNat - 'a'.toNat + 10)
  else if 'A' ≤ c ∧ c ≤ 'F' then some (c.toNat - 'A'.toNat + 10)
  else none

def hexValue (digits : List Nat) : Nat :=
  digits.foldl (fun n d => n * 16 + d) 0

-- Six hexadecimal digits, or three that are each meant twice: `f80` is `ff8800`.
def ofDigits? (s : String) : Option Color :=
  match s.toList.mapM hexDigit? with
  | some [r, g, b] => some ⟨.ofNat (r * 17), .ofNat (g * 17), .ofNat (b * 17)⟩
  | some [r₁, r₂, g₁, g₂, b₁, b₂] => some (ofHex (hexValue [r₁, r₂, g₁, g₂, b₁, b₂]))
  | _ => none

def palette : Assoc String Color := [
  ("white",       ofHex 0xffffff),
  ("black",       ofHex 0x000000),
  ("red",         ofHex 0xf44336),
  ("pink",        ofHex 0xe91e63),
  ("purple",      ofHex 0x9c27b0),
  ("deep_purple", ofHex 0x673ab7),
  ("indigo",      ofHex 0x3f51b5),
  ("blue",        ofHex 0x2196f3),
  ("light_blue",  ofHex 0x03a9f4),
  ("cyan",        ofHex 0x00bcd4),
  ("teal",        ofHex 0x009688),
  ("green",       ofHex 0x4caf50),
  ("light_green", ofHex 0x8bc34a),
  ("lime",        ofHex 0xcddc39),
  ("yellow",      ofHex 0xffeb3b),
  ("amber",       ofHex 0xffc107),
  ("orange",      ofHex 0xff9800),
  ("deep_orange", ofHex 0xff5722),
  ("brown",       ofHex 0x795548),
  ("blue_grey",   ofHex 0x607d8b),
  ("grey",        ofHex 0x9e9e9e)]

def named? (name : String) : Option Color :=
  Assoc.get? palette name

end Color

end UiMarkup
