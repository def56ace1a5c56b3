namespace UiMarkup

-- A pixel count or one of the encodings below.
abbrev Coord := Int

namespace Coord

def maxPixels : Coord := 536870911

-- The bit that marks an encoded coordinate; its weight is the first number above the pixels.
def mark : Coord := 536870912

def maxPercent : Coord := (maxPixels - 1) / 2

def content : Coord := maxPixels + mark

-- Closes a list of grid tracks.
def lastTrack : Coord := maxPixels

def contentTrack : Coord := maxPixels - 101

def share (n : Int) : Coord :=
  maxPixels - 100 + (if n < 0 then 0 else if 100 < n then 100 else n)

-- A percentage: `maxPercent` is the largest magnitude, and negative percentages are stored above
-- the positive ones.
def percent (n : Int) : Coord :=
  mark + (
    if n < 0 then maxPercent - (if n < -maxPercent then -maxPercent else n)
    else if maxPercent < n then maxPercent
    else n)

def isMarked (c : Coord) : Bool :=
  c / mark % 2 == 1

def isPercent (c : Coord) : Bool :=
  isMarked c && c != content

def percentOf (c : Coord) : Int :=
  if isPercent c then
    let stored := c - mark
    if maxPercent < stored then maxPercent - stored else stored
  else c

end Coord

end UiMarkup
