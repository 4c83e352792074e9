import TrackerHub.Text.CharClass.Word
import TrackerHub.Time.Format

/-! # Dates of cookies

When a cookie ends is written as a day, a month and a year, with an optional weekday before them
and an optional clock and zone behind them. Only the universal zone has names.
-/
namespace TrackerHub.Web.CookieDate
open TrackerHub.Text
open Time (Forms)

structure Written where
  day : Chars
  month : Chars
  year : Chars
  clock : Option (Chars × Chars × Option Chars) := none
  zone : Option Chars := none

def number (s : Chars) : Nat := (readDecimal? s).getD 0

/-- Whether the character is an ASCII letter, digit or underscore. -/
def isPlainWord (c : Char) : Bool := c.isAlphanum || c == '_'

/-- The rest after a weekday's name, a comma and blanks, if there is one. -/
def dropWeekday (s : Chars) : Chars :=
  let name := (s.takeWhile Char.isAlpha)
  let isDay (d : String) : Bool :=
    startsWith ((Time.shortName d).map Char.toLower) (name.map Char.toLower)
  if Time.dayNames.any isDay then
    let rest := s.drop name.length
    (if rest.head? == some ',' then rest.drop 1 else rest).dropWhile Numeral.isPlainBlank
  else s

/-- The rests after a separator: one of some marks, or blanks. -/
def separators (marks : Chars) (s : Chars) : List Chars :=
  match s with
  | c :: r =>
    if marks.contains c then [r] else (Time.many Numeral.isPlainBlank 1 r.length s).map (·.2)
  | [] => []

/-- The readings of a clock at the beginning of a text. -/
def clocks (s : Chars) : List ((Chars × Chars × Option Chars) × Chars) :=
  (separators [':'] s).flatMap fun s =>
    (Time.many Char.isDigit 1 1 s).flatMap fun (hour, s) =>
      match s with
      | ':' :: a :: b :: r =>
        if a.isDigit && b.isDigit then
          let plain := ((hour, [a, b], none), r)
          match r with
          | ':' :: c :: d :: r' =>
            if c.isDigit && d.isDigit then [((hour, [a, b], some [c, d]), r'), plain] else [plain]
          | _ => [plain]
        else []
      | _ => []

/-- The readings of a zone at the beginning of a text. -/
def zones (s : Chars) : List (Chars × Chars) :=
  let (sign, digits) :=
    match s with
    | '+' :: r => (['+'], r)
    | '-' :: r => (['-'], r)
    | r => ([], r)
  let numeric := (Time.many Char.isDigit 2 2 digits).map fun (d, r) => (sign ++ d, r)
  let name := s.takeWhile Char.isAlpha
  let half :=
    match s with
    | a :: b :: r =>
      ['a', 'p'].contains a.toLower && b.toLower == 'm' && !(r.head?.any isPlainWord)
    | _ => false
  let named := if half then [] else Time.many Char.isAlpha 1 name.length s
  numeric ++ named

/-- Whether nothing but blanks and one name in parentheses is left. -/
def isEnd (s : Chars) : Bool :=
  match s.dropWhile Numeral.isPlainBlank with
  | [] => true
  | '(' :: r =>
    let name := r.takeWhile isPlainWord
    match r.drop name.length with
    | ')' :: r => !name.isEmpty && r.all Numeral.isPlainBlank
    | _ => false
  | _ => false

/-- The readings of what follows a date, with the rest. -/
def tails (s : Chars) : List (Option (Chars × Chars × Option Chars) × Option Chars) :=
  let timed := (clocks s).map (fun c => (some c.1, c.2)) ++ [(none, s)]
  timed.flatMap fun (clock, rest) =>
    let rest := rest.dropWhile Numeral.isPlainBlank
    let zoned := (zones rest).map (fun z => (some z.1, z.2)) ++ [(none, rest)]
    zoned.filterMap fun (zone, rest) => if isEnd rest then some (clock, zone) else none

def readings (s : Chars) : List Written :=
  (Time.many Char.isDigit 1 1 s).flatMap fun (day, s) =>
    (separators ['-', '/'] s).flatMap fun s =>
      (Time.many isPlainWord 1 s.length s).flatMap fun (month, s) =>
        (separators ['-', '/'] s).flatMap fun s =>
          (Time.many Char.isDigit 1 s.length s).flatMap fun (year, s) =>
            (tails s).map fun (clock, zone) => { day, month, year, clock, zone }

def month? (s : Chars) : Option Nat :=
  let names := Time.monthNames.map fun m => (Time.shortName m).map Char.toLower
  match names.findIdx? (· == s.map Char.toLower) with
  | some i => some (i + 1)
  | none => (readDecimal? s).filter fun n => 1 ≤ n && n ≤ 12

/-- The year that a short numeral means, close to the present year. -/
def fullYear (present year : Int) : Int :=
  if 1000 ≤ year then year
  else
    let m := present % 100
    let full := year + present - m
    if m - year > 50 then full + 100 else if m - year < -50 then full - 100 else full

/-- The seconds of a zone east of the universal one. -/
def zoneSeconds? (zone : Chars) : Option Int :=
  if ["GMT", "UTC", "UT", "Z"].any fun z => z.toList == zone.map Char.toUpper then some 0
  else
    let (sign, digits) :=
      match zone with
      | '+' :: r => ((1 : Int), r)
      | '-' :: r => (-1, r)
      | r => (1, r)
    if !digits.all Char.isDigit then none
    else
      match digits.length with
      | 1 | 2 => some (sign * (3600 * number digits))
      | 3 => some (sign * (3600 * number (digits.take 1) + 60 * number (digits.drop 1)))
      | 4 => some (sign * (3600 * number (digits.take 2) + 60 * number (digits.drop 2)))
      | _ => none

/-- Seconds from 1970 to a date and a clock. The day may lie past the end of its month. -/
def seconds? (year month day hour minute second : Nat) : Option Int :=
  if 1970 ≤ year && 1 ≤ day && day ≤ 31 && hour ≤ 24 && minute ≤ 59 && second ≤ 61 then
    let days := ((⟨year, month, 1⟩ : Time.Date).ordinal + day - 1 : Int)
      - ((⟨1970, 1, 1⟩ : Time.Date).ordinal : Int)
    some (((days * 24 + hour) * 60 + minute) * 60 + second)
  else none

/-- Reads a date as seconds from 1970 on. `present` is the present year. -/
def read? (present : Int) (s : Chars) : Option Int := do
  let w ← (readings (dropWeekday (s.dropWhile isBlank))).head?
  let written := number w.year
  if Time.maxYear < written then none
  let month ← month? w.month
  let (hour, minute, second) := w.clock.getD ([], [], none)
  let t ← seconds? (fullYear present written).toNat month (number w.day) (number hour)
    (number minute) (number (second.getD []))
  let zone ← zoneSeconds? (w.zone.getD "UTC".toList)
  return t - zone

end TrackerHub.Web.CookieDate
