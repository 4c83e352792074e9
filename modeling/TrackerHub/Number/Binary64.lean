/-! # Binary floating-point numbers

Numbers with a mantissa of 53 bits and a bounded exponent, as exact data: every operation computes
the exact rational result and rounds it once, to the nearest number, a tie to the even mantissa.
-/
namespace TrackerHub

/-- A binary floating-point number of 64 bits. A finite one is `mantissa * 2 ^ exponent`, with
`mantissa < 2 ^ 53` and `-1074 ≤ exponent`, and the mantissa is below `2 ^ 52` only at the least
exponent. -/
inductive Binary64 where
  | nan
  | infinite (negative : Bool)
  | finite (negative : Bool) (mantissa : Nat) (exponent : Int)
  deriving Repr, DecidableEq, Inhabited

namespace Binary64

def minExponent : Int := -1074

def maxExponent : Int := 971

def zero (negative : Bool) : Binary64 := .finite negative 0 minExponent

/-- `num / den` rounded to the nearest natural number, a tie to the even one. -/
def divNearestEven (num den : Nat) : Nat :=
  let q := num / den
  let r := num % den
  if 2 * r < den then q
  else if den < 2 * r then q + 1
  else if q % 2 = 0 then q else q + 1

/-- `num / den` in units of `2 ^ e`, as a pair of numerator and denominator. -/
def inUnits (num den : Nat) (e : Int) : Nat × Nat :=
  if 0 ≤ e then (num, den * Nat.pow 2 e.toNat) else (num * Nat.pow 2 (-e).toNat, den)

/-- The exponent at which `num / den` has a mantissa of 53 bits, but not below the least one. -/
def exponentFor (num den : Nat) : Int :=
  -- The leading bits of the two numbers tell the exponent up to one.
  let guess : Int := (num.log2 : Int) - (den.log2 : Int) - 52
  let (a, b) := inUnits num den guess
  let e := if a < Nat.pow 2 52 * b then guess - 1 else guess
  max e minExponent

/-- The nearest floating-point number to `num / den`, for a positive `den`. -/
def ofRatio (negative : Bool) (num den : Nat) : Binary64 :=
  if num = 0 then zero negative
  else
    let e := exponentFor num den
    let (a, b) := inUnits num den e
    let m := divNearestEven a b
    -- Rounding up may carry into one more bit.
    let (m, e) := if m = Nat.pow 2 53 then (Nat.pow 2 52, e + 1) else (m, e)
    if maxExponent < e then .infinite negative else .finite negative m e

/-- The nearest floating-point number to `mantissa * 2 ^ exponent`. -/
def ofScaled (negative : Bool) (mantissa : Nat) (exponent : Int) : Binary64 :=
  let (a, b) := inUnits mantissa 1 (-exponent)
  ofRatio negative a b

/-- The nearest floating-point number to `digits * 10 ^ exponent`. Exponents out of all proportion
to the number of digits are answered without computing the power. -/
def ofDecimal (negative : Bool) (digits : Nat) (exponent : Int) : Binary64 :=
  if digits = 0 then zero negative
  else
    -- A third of the bits is no less than the number of digits, and a quarter of them no more.
    let size : Int := (digits.log2 : Int) / 3 + 1 + exponent
    if 400 < exponent + (digits.log2 : Int) / 4 then .infinite negative
    else if size < -400 then zero negative
    else if 0 ≤ exponent then ofRatio negative (digits * Nat.pow 10 exponent.toNat) 1
    else ofRatio negative digits (Nat.pow 10 (-exponent).toNat)

def ofInt (n : Int) : Binary64 := ofRatio (decide (n < 0)) n.natAbs 1

def isNegative : Binary64 → Bool
  | .nan => false
  | .infinite n => n
  | .finite n _ _ => n

/-- The absolute value of a finite number as a pair of numerator and denominator. -/
def ratio (mantissa : Nat) (exponent : Int) : Nat × Nat := inUnits mantissa 1 (-exponent)

def isZero : Binary64 → Bool
  | .finite _ m _ => m == 0
  | _ => false

def mul : Binary64 → Binary64 → Binary64
  | .nan, _ => .nan
  | _, .nan => .nan
  | .infinite s, .infinite t => .infinite (s != t)
  | .infinite s, .finite t m _ => if m = 0 then .nan else .infinite (s != t)
  | .finite s m _, .infinite t => if m = 0 then .nan else .infinite (s != t)
  | .finite s m e, .finite t n f => ofScaled (s != t) (m * n) (e + f)

/-- A finite number in units of `2 ^ e`, for an `e` that is not above its exponent. -/
def signedUnits (negative : Bool) (mantissa : Nat) (exponent e : Int) : Int :=
  let size : Nat := mantissa * Nat.pow 2 (exponent - e).toNat
  if negative then -(size : Int) else size

def add : Binary64 → Binary64 → Binary64
  | .nan, _ => .nan
  | _, .nan => .nan
  | .infinite s, .infinite t => if s = t then .infinite s else .nan
  | .infinite s, .finite _ _ _ => .infinite s
  | .finite _ _ _, .infinite t => .infinite t
  | .finite s m e, .finite t n f =>
    let low := min e f
    let total := signedUnits s m e low + signedUnits t n f low
    -- The sum is exact so far. A zero is negative only if both summands are.
    if total = 0 then zero (s && t) else ofScaled (decide (total < 0)) total.natAbs low

def truncate? : Binary64 → Option Int
  | .finite s m e =>
    let (a, b) := ratio m e
    let q : Int := ((a / b : Nat) : Int)
    some (if s then -q else q)
  | _ => none

def lt : Binary64 → Binary64 → Bool
  | .nan, _ => false
  | _, .nan => false
  | .infinite s, .infinite t => s && !t
  | .infinite s, .finite _ _ _ => s
  | .finite _ _ _, .infinite t => !t
  | .finite s m e, .finite t n f =>
    let low := min e f
    decide (signedUnits s m e low < signedUnits t n f low)

/-- Whether the two numbers are the same number; the two zeros are. -/
def eq : Binary64 → Binary64 → Bool
  | .nan, _ => false
  | _, .nan => false
  | .infinite s, .infinite t => s == t
  | .finite s m e, .finite t n f => (m == 0 && n == 0) || (s == t && m == n && e == f)
  | _, _ => false

end Binary64

end TrackerHub
