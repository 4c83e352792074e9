import TrackerHub.Number.Binary64
import TrackerHub.Text.Chars

/-! # Floating-point numbers as decimal text

The shortest text is the one with the fewest digits that reads back as the same number, and of
those the nearest to it. The other forms round the exact value to a given number of digits or of
decimal places. A tie goes to the even digit.
-/
namespace TrackerHub.Binary64
open TrackerHub.Text

/-- A positive decimal number: the significant digits as a number without trailing zeros, and the
power of ten of the first digit. -/
structure Scientific where
  digits : Nat
  exponent : Int
  deriving Repr, DecidableEq

def digitCount (n : Nat) : Nat := (decimal n).length

/-- The power of ten of the first digit of `num / den`, for positive numbers. -/
def leadingPower (num den : Nat) : Int :=
  if den ≤ num then (digitCount (num / den) : Int) - 1
  else
    let guess := digitCount (den / num)
    if den ≤ num * Nat.pow 10 (guess - 1) then -((guess : Int) - 1) else -(guess : Int)

/-- `num / den` in units of `10 ^ p`, as a pair of numerator and denominator. -/
def inTens (num den : Nat) (p : Int) : Nat × Nat :=
  if 0 ≤ p then (num, den * Nat.pow 10 p.toNat) else (num * Nat.pow 10 (-p).toNat, den)

def dropZeros : Nat → Nat → Nat
  | 0, n => n
  | fuel + 1, n => if n ≠ 0 ∧ n % 10 = 0 then dropZeros fuel (n / 10) else n

def scientificOf (units : Nat) (p : Int) : Scientific :=
  ⟨dropZeros (digitCount units) units, p + (digitCount units : Int) - 1⟩

/-- The numbers that read back as `m * 2 ^ e`: the half-way points to its neighbours, as fractions
with one denominator, and whether they belong. -/
structure Neighbourhood where
  low : Nat
  high : Nat
  den : Nat
  closed : Bool

def neighbourhood (m : Nat) (e : Int) : Neighbourhood :=
  -- Below a power of two the numbers lie twice as close.
  let quarter := decide (m = Nat.pow 2 52) && decide (minExponent < e)
  let (a, b) := ratio 1 e
  ⟨(if quarter then 4 * m - 1 else 4 * m - 2) * a, (4 * m + 2) * a, 4 * b, m % 2 == 0⟩

def Neighbourhood.holds (n : Neighbourhood) (units : Nat) (p : Int) : Bool :=
  let (num, den) := if 0 ≤ p then (units * Nat.pow 10 p.toNat, 1) else (units, Nat.pow 10 (-p).toNat)
  let x := num * n.den
  let low := n.low * den
  let high := n.high * den
  if n.closed then decide (low ≤ x) && decide (x ≤ high) else decide (low < x) && decide (x < high)

/-- The shortest decimal on a grid of `count` significant digits or finer, among `fuel` grids. -/
def shortestFrom (near : Neighbourhood) (num den : Nat) (power : Int) : Nat → Nat → Scientific
  | 0, count => scientificOf (divNearestEven (inTens num den (power - count + 1)).1
      (inTens num den (power - count + 1)).2) (power - count + 1)
  | fuel + 1, count =>
    let p := power - count + 1
    let (a, b) := inTens num den p
    let floor := a / b
    let below := near.holds floor p && floor != 0
    let above := near.holds (floor + 1) p
    -- Both neighbours on the grid read back, so that the nearer one counts.
    if below && above then scientificOf (divNearestEven a b) p
    else if below then scientificOf floor p
    else if above then scientificOf (floor + 1) p
    else shortestFrom near num den power fuel (count + 1)

/-- The shortest decimal that reads back as the positive number `m * 2 ^ e`. -/
def shortest (m : Nat) (e : Int) : Scientific :=
  let (num, den) := ratio m e
  shortestFrom (neighbourhood m e) num den (leadingPower num den) 17 1

/-- The digits with a point after the first `places` of them, zeros filled in on either side. -/
def positional (digits : Chars) (exponent : Int) : Chars :=
  if exponent < 0 then
    ['0', '.'] ++ List.replicate ((-exponent).toNat - 1) '0' ++ digits
  else
    let whole := exponent.toNat + 1
    if digits.length ≤ whole then digits ++ List.replicate (whole - digits.length) '0'
    else digits.take whole ++ '.' :: digits.drop whole

def exponentText (e : Int) : Chars :=
  (if e < 0 then '-' else '+') :: padLeft '0' 2 (decimal e.natAbs)

def exponential (digits : Chars) (exponent : Int) : Chars :=
  (match digits with
    | [] => []
    | [d] => [d]
    | d :: ds => d :: '.' :: ds) ++ 'e' :: exponentText exponent

/-- The text of a number without digits, or of a signed one. -/
def signedText (x : Binary64) (body : Nat → Int → Chars) : Chars :=
  match x with
  | .nan => ['n', 'a', 'n']
  | .infinite s => (if s then ['-'] else []) ++ ['i', 'n', 'f']
  | .finite s m e => (if s then ['-'] else []) ++ body m e

/-- The shortest text: positional from `0.0001` up to below `10 ^ 16`, always with a point. -/
def toText (x : Binary64) : Chars :=
  signedText x fun m e =>
    if m = 0 then ['0', '.', '0']
    else
      let s := shortest m e
      let digits := decimal s.digits
      if -4 ≤ s.exponent ∧ s.exponent < 16 then
        let t := positional digits s.exponent
        if t.contains '.' then t else t ++ ['.', '0']
      else exponential digits s.exponent

/-- The text with exactly `places` decimal places. -/
def toFixed (places : Nat) (x : Binary64) : Chars :=
  signedText x fun m e =>
    let (num, den) := ratio m e
    let units := divNearestEven (num * Nat.pow 10 places) den
    let digits := padLeft '0' (places + 1) (decimal units)
    let whole := digits.length - places
    if places = 0 then digits else digits.take whole ++ '.' :: digits.drop whole

def toExponential (places : Nat) (x : Binary64) : Chars :=
  signedText x fun m e =>
    if m = 0 then exponential (List.replicate (places + 1) '0') 0
    else
      let (num, den) := ratio m e
      let lead := leadingPower num den
      let (a, b) := inTens num den (lead - places)
      let digits := decimal (divNearestEven a b)
      exponential (digits.take (places + 1))
        (if digits.length ≤ places + 1 then lead else lead + 1)

/-- The text with at most `count` significant digits, positional from `0.0001` up to below
`10 ^ count`. -/
def toGeneralWith (count : Nat) (x : Binary64) : Chars :=
  signedText x fun m e =>
    if m = 0 then ['0']
    else
      let (num, den) := ratio m e
      let p := leadingPower num den - (count - 1 : Nat)
      let (a, b) := inTens num den p
      let s := scientificOf (divNearestEven a b) p
      let digits := decimal s.digits
      if -4 ≤ s.exponent ∧ s.exponent < count then positional digits s.exponent
      else exponential digits s.exponent

def toGeneral (x : Binary64) : Chars := toGeneralWith 6 x

end TrackerHub.Binary64
