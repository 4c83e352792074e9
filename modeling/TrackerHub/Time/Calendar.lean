import TrackerHub.Text.Chars

/-! # Dates and times of day

The calendar runs from the first day of year 1 to the last of year 9999. A date-time holds local
fields and, if it is placed in a zone, the zone's distance from universal time in microseconds.
-/
namespace TrackerHub.Time
open TrackerHub.Text

def isLeap (year : Nat) : Bool := year % 4 == 0 && (year % 100 != 0 || year % 400 == 0)

/-- The days of the months of a common year before each month. -/
def monthStarts : List Nat := [0, 31, 59, 90, 120, 151, 181, 212, 243, 273, 304, 334]

def daysInMonth (year month : Nat) : Nat :=
  if month = 2 then (if isLeap year then 29 else 28)
  else if month = 4 ∨ month = 6 ∨ month = 9 ∨ month = 11 then 30
  else 31

/-- The days of a year before a month. -/
def daysBeforeMonth (year month : Nat) : Nat :=
  monthStarts.getD (month - 1) 0 + (if 2 < month ∧ isLeap year then 1 else 0)

/-- The days of the calendar before a year. -/
def daysBeforeYear (year : Nat) : Nat :=
  let y := year - 1
  365 * y + y / 4 - y / 100 + y / 400

def maxYear : Nat := 9999

structure Date where
  year : Nat
  month : Nat
  day : Nat
  deriving Repr, DecidableEq, Inhabited

/-- The number of a day; the first day of year 1 is day 1. -/
def Date.ordinal (d : Date) : Nat :=
  daysBeforeYear d.year + daysBeforeMonth d.year d.month + d.day

def Date.isValid (d : Date) : Bool :=
  decide (1 ≤ d.year) && decide (d.year ≤ maxYear) && decide (1 ≤ d.month) && decide (d.month ≤ 12)
    && decide (1 ≤ d.day) && decide (d.day ≤ daysInMonth d.year d.month)

def maxOrdinal : Nat := daysBeforeYear (maxYear + 1)

/-- The month that holds the day with the given number (from zero) of its year. -/
def monthOfDay (year dayOfYear : Nat) : Nat :=
  1 + (List.range 11).countP fun m => decide (daysBeforeMonth year (m + 2) ≤ dayOfYear)

def Date.ofOrdinal (ordinal : Nat) : Date :=
  let n := ordinal - 1
  let n400 := n / 146097
  let r400 := n % 146097
  -- The last day of 400 years, or of 4, would begin a fifth part.
  let n100 := min 3 (r400 / 36524)
  let r100 := r400 - n100 * 36524
  let n4 := r100 / 1461
  let r4 := r100 % 1461
  let n1 := min 3 (r4 / 365)
  let dayOfYear := r4 - n1 * 365
  let year := 400 * n400 + 100 * n100 + 4 * n4 + n1 + 1
  let month := monthOfDay year dayOfYear
  ⟨year, month, dayOfYear - daysBeforeMonth year month + 1⟩

/-- The day of the week, Monday being zero. -/
def Date.weekday (d : Date) : Nat := (d.ordinal + 6) % 7

/-- A date and a time of day, to the microsecond, with the offset of its zone. -/
structure DateTime where
  date : Date
  hour : Nat := 0
  minute : Nat := 0
  second : Nat := 0
  micro : Nat := 0
  offset : Option Int := none
  deriving Repr, DecidableEq, Inhabited

def microsPerSecond : Nat := 1000000

def microsPerDay : Nat := 86400 * microsPerSecond

namespace DateTime

/-- The microseconds since the beginning of the calendar, by the local fields. -/
def localMicros (t : DateTime) : Nat :=
  (t.date.ordinal - 1) * microsPerDay
    + ((t.hour * 60 + t.minute) * 60 + t.second) * microsPerSecond + t.micro

/-- The local fields at a number of microseconds since the beginning of the calendar, if the
calendar has that day. -/
def ofLocalMicros? (micros : Int) (offset : Option Int) : Option DateTime :=
  if micros < 0 then none
  else
    let n := micros.toNat
    let day := n / microsPerDay
    if maxOrdinal ≤ day then none
    else
      let rest := n % microsPerDay
      let seconds := rest / microsPerSecond
      some {
        date := Date.ofOrdinal (day + 1)
        hour := seconds / 3600
        minute := seconds / 60 % 60
        second := seconds % 60
        micro := rest % microsPerSecond
        offset := offset }

/-- The date-time that many microseconds later, in the same zone. -/
def addMicros? (t : DateTime) (micros : Int) : Option DateTime :=
  ofLocalMicros? (t.localMicros + micros) t.offset

/-- Whether all fields are in range. -/
def isValid (t : DateTime) : Bool :=
  t.date.isValid && decide (t.hour < 24) && decide (t.minute < 60) && decide (t.second < 60)
    && decide (t.micro < microsPerSecond)

/-- The same fields, taken as universal time if they had no zone. -/
def assumeUniversal (t : DateTime) : DateTime :=
  match t.offset with
  | none => { t with offset := some 0 }
  | some _ => t

end DateTime

def padded (width n : Nat) : Chars := padLeft '0' width (decimal n)

/-- The offset of a zone: sign, hours and minutes with `sep` between them, and seconds and
microseconds where there are any. -/
def offsetText (sep : Chars) (offset : Int) : Chars :=
  let n := offset.natAbs
  let seconds := n / microsPerSecond
  let micro := n % microsPerSecond
  (if offset < 0 then '-' else '+') :: padded 2 (seconds / 3600) ++ sep
    ++ padded 2 (seconds / 60 % 60)
    ++ (if seconds % 60 = 0 ∧ micro = 0 then [] else sep ++ padded 2 (seconds % 60))
    ++ (if micro = 0 then [] else '.' :: padded 6 micro)

/-- The date as year, month and day joined by hyphens. -/
def Date.isoText (d : Date) : Chars :=
  padded 4 d.year ++ '-' :: padded 2 d.month ++ '-' :: padded 2 d.day

/-- The date-time as numerals, largest unit first, with `between` between date and time of day. -/
def DateTime.isoTextWith (between : Char) (t : DateTime) : Chars :=
  t.date.isoText ++ between :: padded 2 t.hour ++ ':' :: padded 2 t.minute ++ ':' :: padded 2 t.second
    ++ (if t.micro = 0 then [] else '.' :: padded 6 t.micro)
    ++ (match t.offset with
      | none => []
      | some o => offsetText [':'] o)

/-- The date-time as numerals, largest unit first. -/
def DateTime.isoText (t : DateTime) : Chars := t.isoTextWith 'T'

def dayNames : List String :=
  ["Monday", "Tuesday", "Wednesday", "Thursday", "Friday", "Saturday", "Sunday"]

def monthNames : List String :=
  ["January", "February", "March", "April", "May", "June", "July", "August", "September",
   "October", "November", "December"]

def shortName (name : String) : Chars := name.toList.take 3

/-- The day as it begins a mail date: `Sat, 20 Aug 2016`. -/
def Date.mailText (d : Date) : Chars :=
  shortName (dayNames.getD d.weekday "") ++ [',', ' '] ++ padded 2 d.day ++ ' '
    :: shortName (monthNames.getD (d.month - 1) "") ++ ' ' :: decimal d.year

/-- The form of every time that the hub writes: `Sat, 20 Aug 2016 13:45:00 +0000`. -/
def DateTime.mailText (t : DateTime) : Chars :=
  t.date.mailText ++ ' ' :: padded 2 t.hour ++ ':' :: padded 2 t.minute ++ ':' :: padded 2 t.second
    ++ ' ' :: (match t.offset with
      | none => []
      | some o => offsetText [] o)

end TrackerHub.Time
