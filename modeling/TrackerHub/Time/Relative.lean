import TrackerHub.Number.Numeral
import TrackerHub.Text.CharClass.Lower
import TrackerHub.Text.CharClass.Word
import TrackerHub.Time.Calendar

/-! # Relative times

Durations such as `1 week, 2.5 days ago`, counted back from a given moment. A year has 365 days and
a month 31.
-/
namespace TrackerHub.Time
open TrackerHub.Text TrackerHub.Numeral

inductive TimeError where
  | notANumber (token source : Chars)
  | missingUnit (token source : Chars)
  | unknownUnit (unit : Chars)
  | noDuration (source : Chars)
  | noFormat (source : Chars)
  /-- The duration is beyond every floating-point number. -/
  | unbounded
  /-- The number of days is beyond the range of machine integers. -/
  | tooManyDays
  | daysOutOfRange (days : Int)
  | outOfCalendar
  deriving Repr, DecidableEq, Inhabited

def TimeError.message : TimeError → String
  | .notANumber t s =>
    "failed to parse decimal time " ++ String.ofList (quoted t) ++ " in " ++ String.ofList (quoted s)
  | .missingUnit t s =>
    "expected a time unit after " ++ String.ofList (quoted t) ++ " in " ++ String.ofList (quoted s)
  | .unknownUnit u => "Unsupported unit of time " ++ String.ofList (quoted u)
  | .noDuration s => "no duration found in " ++ String.ofList (quoted s)
  | .noFormat s => "no matching date format for " ++ String.ofList (quoted s)
  | .unbounded => "cannot convert float infinity to integer"
  | .tooManyDays => "Python int too large to convert to C int"
  | .daysOutOfRange d => s!"days={d}; must have magnitude <= 999999999"
  | .outOfCalendar => "date value out of range"

/-- Whether the error says that the text cannot be read, and not that its time is out of range. -/
def TimeError.isUnreadable : TimeError → Bool
  | .notANumber _ _ | .missingUnit _ _ | .unknownUnit _ | .noDuration _ | .noFormat _ => true
  | .unbounded | .tooManyDays | .daysOutOfRange _ | .outOfCalendar => false

/-- The units of time, in seconds. -/
def timeUnits : List (String × Nat) := [
  ("year", 365 * 86400), ("yr", 365 * 86400), ("y", 365 * 86400),
  ("month", 31 * 86400), ("mnth", 31 * 86400), ("mo", 31 * 86400),
  ("week", 7 * 86400), ("wk", 7 * 86400), ("w", 7 * 86400),
  ("day", 86400), ("d", 86400),
  ("hour", 3600), ("hr", 3600), ("h", 3600),
  ("minute", 60), ("min", 60), ("m", 60),
  ("second", 1), ("sec", 1), ("s", 1)]

/-- The length of a unit that is spelled exactly so. -/
def timeUnit? (unit : Chars) : Option Nat :=
  (timeUnits.find? fun u => u.1.toList == unit).map (·.2)

/-- The unit without a plural ending; a unit that is known as it stands keeps its end. -/
def singular (unit : Chars) : Chars :=
  if (timeUnit? unit).isNone && unit != ['s'] && endsWith ['s'] unit then unit.dropLast else unit

def unitSeconds (unit : Chars) : Except TimeError Nat :=
  match timeUnit? (singular unit) with
  | some n => .ok n
  | none => .error (.unknownUnit (singular unit))

inductive Token where
  | number (text : Chars)
  | word (text : Chars)
  | sign (c : Char)
  deriving Repr, DecidableEq, Inhabited

def Token.text : Token → Chars
  | .number t => t
  | .word t => t
  | .sign c => [c]

def isSmallLetter (c : Char) : Bool := decide ('a' ≤ c) && decide (c ≤ 'z')

/-- The numeral at the beginning of a text: digits, and a point with more digits. -/
def numeralAt (s : Chars) : Chars :=
  let whole := s.takeWhile isDecimalDigit
  match s.drop whole.length with
  | '.' :: r =>
    let places := r.takeWhile isDecimalDigit
    if places.isEmpty then whole else whole ++ '.' :: places
  | _ => whole

/-- The tokens of a duration: numerals, runs of letters and single signs; `skip` counts the
characters of a token that are still to be passed. -/
def tokensFrom : Nat → Chars → List Token
  | _, [] => []
  | skip + 1, _ :: r => tokensFrom skip r
  | 0, c :: r =>
    if isDecimalDigit c then
      let t := numeralAt (c :: r)
      .number t :: tokensFrom (t.length - 1) r
    else if isSmallLetter c then
      let t := (c :: r).takeWhile isSmallLetter
      .word t :: tokensFrom (t.length - 1) r
    else if isBlank c then tokensFrom 0 r
    else .sign c :: tokensFrom 0 r

/-- The tokens of a duration in any case. -/
def tokens (source : Chars) : List Token := tokensFrom 0 (lower (join [' '] (words source)))

/-- Whether a token only joins the parts of a duration. -/
def Token.isFiller : Token → Bool
  | .sign ',' => true
  | .word w => w == ['a', 'g', 'o'] || w == ['a', 'n', 'd']
  | _ => false

/-- Adds up a duration in seconds: numerals with the unit that follows each. `found` says whether
there was one already. -/
def sumTokens (source : Chars) : Bool → Binary64 → List Token → Except TimeError Binary64
  | found, total, [] => if found then .ok total else .error (.noDuration source)
  | found, total, t :: r =>
    if t.isFiller then sumTokens source found total r
    else
      match t with
      | .number n =>
        match r with
        | [] => .error (.missingUnit n source)
        -- Whatever follows a numeral counts as its unit, be it a numeral or a sign.
        | u :: r =>
          match unitSeconds u.text, readFloat n with
          | .error e, _ => .error e
          | .ok _, .error _ => .error (.notANumber n source)
          | .ok seconds, .ok x =>
            sumTokens source true (total.add (x.mul (.ofInt seconds))) r
      | t => .error (.notANumber t.text source)

/-- A duration in seconds as a whole number of microseconds, the nearest one to its exact value
after the fraction of a second has been turned into microseconds. -/
def microsOf (seconds : Binary64) : Except TimeError Int :=
  match seconds with
  | .finite negative m e =>
    let (a, b) := Binary64.ratio m e
    -- The whole seconds stay exact; only the fraction is rounded, as a product and to a whole
    -- number.
    let fraction := Binary64.ofRatio false (a % b) b
    let (num, den) :=
      match fraction.mul (.ofInt microsPerSecond) with
      | .finite _ m e => Binary64.ratio m e
      | _ => (0, 1)
    let micros := Binary64.divNearestEven (a / b * microsPerSecond * den + num) den
    .ok (if negative then -(micros : Int) else micros)
  | _ => .error .unbounded

/-- Checks that a duration is one that can be added to a date. -/
def checkDuration (micros : Int) : Except TimeError Int :=
  let days := micros / microsPerDay
  -- The number of days goes through a machine integer before its own range is checked.
  if 2147483647 < days ∨ days < -2147483648 then .error .tooManyDays
  else if 999999999 < days ∨ days < -999999999 then .error (.daysOutOfRange days)
  else .ok micros

/-- The moment that lies a duration before `now`. -/
def timeAgo (source : Chars) (now : DateTime) : Except TimeError DateTime := do
  let seconds ← sumTokens source false (.zero false) (tokens source)
  let micros ← microsOf seconds
  let micros ← checkDuration micros
  match now.addMicros? (-micros) with
  | some t => pure t
  | none => throw .outOfCalendar

end TrackerHub.Time
