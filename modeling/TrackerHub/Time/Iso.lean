import TrackerHub.Time.Calendar

/-!
# Reading times in numerals

The reader beside `DateTime.isoText`: year, month and day joined by hyphens, then a time of day and
the offset of a zone, each of which may end early. What a value leaves out is zero, and a time
without an offset has no zone.
-/

namespace TrackerHub.Time

open TrackerHub.Text

/-- Takes a number of exactly `width` digits. -/
def takeFixed? (width : Nat) (s : Chars) : Option (Nat × Chars) :=
  let digits := s.take width
  if digits.length = width ∧ digits.all Char.isDigit then
    (readDecimal? digits).map fun n => (n, s.drop width)
  else none

/-- Takes two digits after a colon, or zero where there is no colon. -/
def takeSixtieth? : Chars → Option (Nat × Chars)
  | ':' :: r => (takeFixed? 2 r).bind fun (n, r) => if n < 60 then some (n, r) else none
  | r => some (0, r)

/-- Takes the microseconds of a fraction; digits after the sixth do not count. -/
def takeFraction? : Chars → Option (Nat × Chars)
  | '.' :: r =>
    let digits := r.takeWhile Char.isDigit
    let micros := digits.take 6 ++ List.replicate (6 - digits.length) '0'
    if digits.isEmpty then none
    else (readDecimal? micros).map fun n => (n, r.dropWhile Char.isDigit)
  | r => some (0, r)

/-- Takes hours below 24 with minutes, seconds and microseconds; gives them in microseconds. -/
def takeClock? (s : Chars) : Option (Nat × Chars) := do
  let (hour, s) ← takeFixed? 2 s
  let (minute, s) ← takeSixtieth? s
  let (second, s) ← takeSixtieth? s
  let (micro, s) ← takeFraction? s
  if hour < 24 then some (((60 * hour + minute) * 60 + second) * microsPerSecond + micro, s)
  else none

/-- Reads the offset of a zone; an empty text is no zone. -/
def isoOffset? : Chars → Option (Option Int)
  | [] => some none
  | ['Z'] => some (some 0)
  | sign :: r =>
    match takeClock? r with
    | some (n, []) =>
      if sign = '+' then some (some (n : Int))
      else if sign = '-' then some (some (-(n : Int)))
      else none
    | _ => none

def takeDate? (s : Chars) : Option (Date × Chars) := do
  let (year, s) ← takeFixed? 4 s
  let (month, s) ← takeFixed? 2 (← dropStart? ['-'] s)
  let (day, s) ← takeFixed? 2 (← dropStart? ['-'] s)
  let date : Date := ⟨year, month, day⟩
  if date.isValid then some (date, s) else none

/-- Reads a date-time; any one character may stand between the date and the time of day. -/
def DateTime.ofIso? (s : Chars) : Option DateTime := do
  let (date, s) ← takeDate? s
  match s with
  | [] => some { date }
  | _ :: s =>
    let (n, s) ← takeClock? s
    let offset ← isoOffset? s
    let seconds := n / microsPerSecond
    some { date, hour := seconds / 3600, minute := seconds / 60 % 60, second := seconds % 60,
           micro := n % microsPerSecond, offset }

end TrackerHub.Time
