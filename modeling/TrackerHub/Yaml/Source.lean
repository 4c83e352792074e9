import TrackerHub.Number.Numeral
import TrackerHub.Text.Utf8

/-! # The text of a document

A document arrives as bytes or as text. Only printable characters and line breaks may stand in it.
Before it is read, every line break but the two separators of Unicode is turned into a line feed.
-/
namespace TrackerHub.Yaml
open TrackerHub.Text

/-- The parts of a calendar time that can be out of range. -/
inductive CalendarFault where
  | year (n : Nat)
  | month
  | day
  | hour
  | minute
  | second
  /-- The distance from universal time, in minutes, is a day or more. -/
  | offset (minutes : Int)
  deriving Repr, DecidableEq, Inhabited

inductive YamlError where
  | malformed
  | numeral (error : Numeral.NumeralError)
  | notAnInteger (base : Nat) (text : Chars)
  /-- A number was announced, and there is nothing. -/
  | noNumber
  /-- A truth value was announced, and there is none. -/
  | notATruthValue
  /-- A time was announced, and there is none. -/
  | notATime
  | outOfCalendar (fault : CalendarFault)
  /-- An escape names no character. -/
  | noCharacter
  deriving Repr, DecidableEq

/-- A distance of time as a call that makes it. -/
def shownMinutes (minutes : Int) : String :=
  let days := minutes / 1440
  let seconds := minutes % 1440 * 60
  let parts := (if days = 0 then [] else [s!"days={days}"])
    ++ (if seconds = 0 then [] else [s!"seconds={seconds}"])
  "datetime.timedelta(" ++ (if parts.isEmpty then "0" else ", ".intercalate parts) ++ ")"

def CalendarFault.message : CalendarFault → String
  | .year n => s!"year {n} is out of range"
  | .month => "month must be in 1..12"
  | .day => "day is out of range for month"
  | .hour => "hour must be in 0..23"
  | .minute => "minute must be in 0..59"
  | .second => "second must be in 0..59"
  | .offset m =>
    "offset must be a timedelta strictly between -timedelta(hours=24) and timedelta(hours=24), not "
      ++ shownMinutes m ++ "."

def YamlError.message : YamlError → String
  | .malformed => "malformed document"
  | .numeral e => e.message
  | .notAnInteger base t =>
    s!"invalid literal for int() with base {base}: " ++ String.ofList (quoted t)
  | .noNumber => "string index out of range"
  | .notATruthValue => "no truth value"
  | .notATime => "no time"
  | .outOfCalendar f => f.message
  | .noCharacter => "chr() arg not in range(0x110000)"

def isAllowed (c : Char) : Bool :=
  let n := c.toNat
  n == 9 || n == 10 || n == 13 || (decide (0x20 ≤ n) && decide (n ≤ 0x7E)) || n == 0x85
    || (decide (0xA0 ≤ n) && n != 0xFFFE && n != 0xFFFF)

/-- Two bytes as one unit; `high` says whether the first one is the high half. -/
def units16? (high : Bool) : Bytes → Option (List Nat)
  | [] => some []
  | [_] => none
  | a :: b :: r =>
    let unit := if high then 256 * a.toNat + b.toNat else 256 * b.toNat + a.toNat
    (units16? high r).map (unit :: ·)

/-- The characters of units of sixteen bits; pairs of surrogates are joined. -/
def charsOfUnits? : List Nat → Option Chars
  | [] => some []
  | a :: r =>
    if 0xD800 ≤ a ∧ a < 0xDC00 then
      match r with
      | b :: r =>
        if 0xDC00 ≤ b ∧ b < 0xE000 then
          (charsOfUnits? r).map (Char.ofNat (0x10000 + (a - 0xD800) * 0x400 + (b - 0xDC00)) :: ·)
        else none
      | [] => none
    else if 0xDC00 ≤ a ∧ a < 0xE000 then none
    else (charsOfUnits? r).map (Char.ofNat a :: ·)

/-- The text of a document's bytes: UTF-16 behind a byte order mark, else UTF-8. -/
def decodeSource? (b : Bytes) : Option Chars :=
  match b with
  | 0xFF :: 0xFE :: _ => (units16? false b).bind charsOfUnits?
  | 0xFE :: 0xFF :: _ => (units16? true b).bind charsOfUnits?
  | _ => decodeUtf8? b

/-- The text with every line break but the two separators as a line feed. -/
def unifyBreaks : Chars → Chars
  | [] => []
  | '\r' :: '\n' :: r => '\n' :: unifyBreaks r
  | c :: r => (if c == '\r' || c == '\x85' then '\n' else c) :: unifyBreaks r

def isBreak (c : Char) : Bool := c == '\n' || c == '\u2028' || c == '\u2029'

/-- Whether the text is at its end or at the end of a line. -/
def atBreak (s : Chars) : Bool := s.head?.all isBreak

/-- Whether the text is at its end, at the end of a line or at a space. -/
def atSpace (s : Chars) : Bool := s.head?.all fun c => isBreak c || c == ' '

/-- Whether the text is at its end, at the end of a line, at a space or at a tab. -/
def atGap (s : Chars) : Bool := s.head?.all fun c => isBreak c || c == ' ' || c == '\t'

/-- Whether the text begins with three equal marks that stand alone. -/
def atMark (mark : Char) : Chars → Bool
  | a :: b :: c :: r => a == mark && b == mark && c == mark && atGap r
  | _ => false

/-- Whether a line begins or ends a document. -/
def atDocumentMark (s : Chars) : Bool := atMark '-' s || atMark '.' s

def dropSpaces (s : Chars) : Chars := s.dropWhile (· == ' ')

def dropLine (s : Chars) : Chars := s.dropWhile fun c => !isBreak c

/-- Drops the spaces and the comment at the end of a line, and the line break; there must be
nothing else. -/
def endLine (s : Chars) : Except YamlError Chars :=
  let s := dropSpaces s
  let s := if s.head? == some '#' then dropLine s else s
  if atBreak s then .ok (s.drop 1) else .error .malformed

end TrackerHub.Yaml
