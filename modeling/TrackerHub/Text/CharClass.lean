/-! # Classes of characters

A class is a list of ranges of code points. The blanks, which several readers skip, are given
here; the larger classes have modules of their own.
-/
namespace TrackerHub.Text

/-- A range of code points, both ends included. -/
abbrev CodeRange := Nat × Nat

def inRanges (ranges : List CodeRange) (code : Nat) : Bool :=
  ranges.any fun r => decide (r.1 ≤ code) && decide (code ≤ r.2)

/-- The ranges of blank characters, in increasing order. -/
def blankRanges : List CodeRange := [
   (0x9, 0xD), (0x1C, 0x20), (0x85, 0x85), (0xA0, 0xA0), (0x1680, 0x1680), (0x2000, 0x200A),
   (0x2028, 0x2029), (0x202F, 0x202F), (0x205F, 0x205F), (0x3000, 0x3000)]

def isBlank (c : Char) : Bool := inRanges blankRanges c.toNat

end TrackerHub.Text
