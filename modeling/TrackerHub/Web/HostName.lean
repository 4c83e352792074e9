import TrackerHub.Text.CharClass.Word
import TrackerHub.Text.Chars

/-! # Host names in ASCII

A label of a host name with other characters than ASCII is written as `xn--` and a line of letters
and digits: first its ASCII characters, then, for every other character in the order of the code
points, the distance from the character before it as a numeral of variable length. The lengths
adapt to the distances seen so far.
-/
namespace TrackerHub.Web.HostName
open TrackerHub.Text

/-- The digit of a value below thirty-six: the letters come first. -/
def digit (n : Nat) : Char := if n < 26 then Char.ofNat (0x61 + n) else Char.ofNat (0x30 + n - 26)

/-- The threshold of the digit at `place` under a bias. A digit below it ends a numeral. -/
def threshold (bias place : Nat) : Nat :=
  if place ≤ bias then 1 else if bias + 26 ≤ place then 26 else place - bias

theorem threshold_pos (bias place : Nat) : 1 ≤ threshold bias place := by
  unfold threshold
  split
  · omega
  · split <;> omega

theorem threshold_le (bias place : Nat) : threshold bias place ≤ 26 := by
  unfold threshold
  split
  · omega
  · split <;> omega

def numeral (bias place n : Nat) : Chars :=
  let t := threshold bias place
  if n < t then [digit n]
  else digit (t + (n - t) % (36 - t)) :: numeral bias (place + 36) ((n - t) / (36 - t))
termination_by n
decreasing_by
  have _h1 := threshold_pos bias place
  have _h2 := threshold_le bias place
  calc (n - threshold bias place) / (36 - threshold bias place)
      ≤ n - threshold bias place := Nat.div_le_self _ _
    _ < n := by omega

/-- Shrinks a distance to the range of the bias and counts the digits that this takes. -/
def shrink (distance place : Nat) : Nat × Nat :=
  if 455 < distance then shrink (distance / 35) (place + 36) else (distance, place)
termination_by distance
decreasing_by exact Nat.div_lt_self (by omega) (by omega)

/-- The bias after a distance, when `count` characters are written. -/
def adapt (distance count : Nat) (first : Bool) : Nat :=
  let d := if first then distance / 700 else distance / 2
  let (d, place) := shrink (d + d / count) 0
  place + 36 * d / (d + 38)

/-- What is written so far: the numerals, the distance since the last, the bias and the number of
characters. -/
structure Progress where
  out : Chars := []
  distance : Nat := 0
  bias : Nat := 72
  count : Nat

/-- Passes one character of the label while the characters with code `code` are written. -/
def Progress.pass (basic code : Nat) (p : Progress) (c : Char) : Progress :=
  if c.toNat < code then { p with distance := p.distance + 1 }
  else if c.toNat = code then {
    out := p.out ++ numeral p.bias 36 p.distance
    distance := 0
    bias := adapt p.distance (p.count + 1) (p.count == basic)
    count := p.count + 1 }
  else p

/-- Writes the characters with the codes given, in rising order. `least` is the least code that is
not yet written. -/
def Progress.writeCodes (basic : Nat) (label : Chars) : List Nat → Nat → Progress → Progress
  | [], _, p => p
  | code :: codes, least, p =>
    -- Every code that is skipped counts once for each place between the characters written.
    let p := { p with distance := p.distance + (code - least) * (p.count + 1) }
    let p := label.foldl (Progress.pass basic code) p
    writeCodes basic label codes (code + 1) { p with distance := p.distance + 1 }

/-- The line of letters and digits for a label. -/
def line (label : Chars) : Chars :=
  let basic := label.filter fun c => c.toNat < 0x80
  let codes := ((label.filter fun c => 0x80 ≤ c.toNat).map Char.toNat).mergeSort.eraseDups
  let written := Progress.writeCodes basic.length label codes 0x80 { count := basic.length }
  basic ++ (if basic.isEmpty then [] else ['-']) ++ written.out

def maxLabel : Nat := 63

def isLabelChar (c : Char) : Bool :=
  if c.toNat < 0x80 then c.isLower || c.isDigit || c == '-' else isAlphanumeric c

/-- A label in ASCII, if it is one. -/
def label? (label : Chars) : Option Chars :=
  let ends := label.head? == some '-' || label.getLast? == some '-'
  if label.isEmpty || ends || (label.drop 2).take 2 == ['-', '-'] || !label.all isLabelChar then none
  else
    let ascii := if isAscii label then label else "xn--".toList ++ line label
    if ascii.length ≤ maxLabel then some ascii else none

/-- The labels of a host name: ideographic full stops separate like the dot. -/
def labels (host : Chars) : List Chars :=
  splitOn '.' (host.map fun c => if ['\u3002', '\uFF0E', '\uFF61'].contains c then '.' else c)

/-- A host name in lower case with ASCII characters only, if it is a host name. -/
def toAscii? (host : Chars) : Option Chars := do
  let parts := labels host
  let dotted := parts.getLast? == some []
  let ascii ← (if dotted then parts.dropLast else parts).mapM label?
  let name := join ['.'] (if dotted then ascii ++ [[]] else ascii)
  if ascii.isEmpty || (if dotted then 254 else 253) < name.length then none else some name

end TrackerHub.Web.HostName
