import TrackerHub.Number.Binary64
import TrackerHub.Text.CharClass.Digit
import TrackerHub.Text.Quoted

/-! # Numerals

Reading numbers from scraped text. Digits of every script count; single underscores may stand
between digits; blanks around the numeral are skipped.
-/
namespace TrackerHub.Numeral
open TrackerHub.Text

inductive NumeralError where
  | notAnInteger (text : Chars)
  | tooManyDigits (count : Nat)
  | notANumber (text : Chars)
  deriving Repr, DecidableEq

/-- The greatest number of digits that an integer numeral may have. -/
def maxDigits : Nat := 4300

def NumeralError.message : NumeralError → String
  | .notAnInteger t =>
    "invalid literal for int() with base 10: " ++ String.ofList ((quoted t).take 200)
  | .tooManyDigits n =>
    s!"Exceeds the limit ({maxDigits} digits) for integer string conversion: value has {n} digits; "
      ++ "use sys.set_int_max_str_digits() to increase the limit"
  | .notANumber t => "could not convert string to float: " ++ String.ofList (quoted t)

def isPlainBlank (c : Char) : Bool := c == ' ' || (decide (9 ≤ c.toNat) && decide (c.toNat ≤ 13))

/-- A character as numerals write it in ASCII: a digit of any script as that digit, and a blank as a
space. An ASCII character stays as it is. -/
def plainChar (c : Char) : Char :=
  if c.toNat < 128 then c
  else if isBlank c then ' '
  else
    match digitValue? c with
    | some d => hexDigit d
    | none => c

def plain (s : Chars) : Chars := s.map plainChar

/-- Splits off a sign; the flag says whether it is a minus. -/
def takeSign : Chars → Bool × Chars
  | '-' :: r => (true, r)
  | '+' :: r => (false, r)
  | r => (false, r)

def takeDigits (s : Chars) : Chars × Chars :=
  let p := fun c : Char => c.isDigit || c == '_'
  (s.takeWhile p, s.dropWhile p)

/-- Whether every underscore stands between two characters that `p` allows. -/
def underscoresBetween (p : Char → Bool) : Chars → Bool
  | [] => true
  | '_' :: _ => false
  | [_] => true
  | a :: '_' :: c :: r => p a && p c && underscoresBetween p (c :: r)
  | _ :: r => underscoresBetween p r

def digitsValue (s : Chars) : Nat :=
  s.foldl (fun n c => if c.isDigit then 10 * n + (c.toNat - '0'.toNat) else n) 0

def readInt (s : Chars) : Except NumeralError Int :=
  let (negative, rest) := takeSign ((plain s).dropWhile isPlainBlank)
  let (digits, rest) := takeDigits rest
  let count := digits.countP Char.isDigit
  if digits.isEmpty || !underscoresBetween Char.isDigit digits then .error (.notAnInteger s)
  else if maxDigits < count then .error (.tooManyDigits count)
  else if !(rest.dropWhile isPlainBlank).isEmpty then .error (.notAnInteger s)
  else .ok (if negative then -(digitsValue digits : Int) else digitsValue digits)

/-- Splits off an exponent, if a complete one stands at the beginning. -/
def takeExponent (s : Chars) : Int × Chars :=
  match s with
  | e :: r =>
    if e == 'e' || e == 'E' then
      let (negative, t) := takeSign r
      let digits := t.takeWhile Char.isDigit
      if digits.isEmpty then (0, s)
      else
        ((if negative then -(digitsValue digits : Int) else digitsValue digits),
          t.dropWhile Char.isDigit)
    else (0, s)
  | [] => (0, [])

def readUnsigned? (negative : Bool) (s : Chars) : Option Binary64 :=
  let word := s.map Char.toLower
  if word == ['i', 'n', 'f'] || word == ['i', 'n', 'f', 'i', 'n', 'i', 't', 'y'] then
    some (.infinite negative)
  else if word == ['n', 'a', 'n'] then some .nan
  else
    let whole := s.takeWhile Char.isDigit
    let rest := s.dropWhile Char.isDigit
    let (places, rest) :=
      match rest with
      | '.' :: r => (r.takeWhile Char.isDigit, r.dropWhile Char.isDigit)
      | r => ([], r)
    if whole.isEmpty && places.isEmpty then none
    else
      let (e, rest) := takeExponent rest
      if rest.isEmpty then
        some (Binary64.ofDecimal negative (digitsValue (whole ++ places)) (e - places.length))
      else none

def readFloat (s : Chars) : Except NumeralError Binary64 :=
  let t := trimBy isPlainBlank (plain s)
  let bare := if t.contains '_' then t.filter (· != '_') else t
  let (negative, body) := takeSign bare
  match (if underscoresBetween Char.isDigit t then readUnsigned? negative body else none) with
  | some x => .ok x
  | none => .error (.notANumber s)

end TrackerHub.Numeral
