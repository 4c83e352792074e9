import TrackerHub.Number.Numeral
import TrackerHub.Page.Node
import TrackerHub.Time.Calendar

/-! # Values of input fields

Fields for numbers, dates and times can have bounds. A value or a bound that is not written in the
form of its field counts as missing, and a missing value is never out of range.
-/
namespace TrackerHub.Page
open Text (Chars)

/-- A value with an order: a number, or the parts of a date or time, the largest first. -/
inductive InputValue where
  | number (x : Binary64)
  | parts (ps : List Nat)

namespace InputValue

def lt : InputValue → InputValue → Bool
  | number a, number b => a.lt b
  | parts a, parts b => decide (a < b)
  | _, _ => false

/-- Reads a year, which has four digits or more. -/
def readYear? (s : Chars) : Option Nat :=
  if 4 ≤ s.length ∧ s.all Char.isDigit then (Text.readDecimal? s).filter fun n => 1 ≤ n else none

def readPart? (low high : Nat) (s : Chars) : Option Nat :=
  if s.length = 2 ∧ s.all Char.isDigit then
    (Text.readDecimal? s).filter fun n => low ≤ n && n ≤ high
  else none

/-- The number of the last week of a year. -/
def weeksIn (year : Nat) : Nat :=
  let weekday := (⟨year, 12, 31⟩ : Time.Date).weekday + 1
  let days := if Time.isLeap year then 366 else 365
  if weekday ≤ 3 then 53 else (days - weekday + 10) / 7

def readMonth? (s : Chars) : Option (List Nat) :=
  match Text.splitOn '-' s with
  | [y, m] => do return [← readYear? y, ← readPart? 1 12 m]
  | _ => none

def readWeek? (s : Chars) : Option (List Nat) :=
  match Text.splitOn '-' s with
  | [y, 'W' :: w] => do
    let year ← readYear? y
    return [year, ← readPart? 1 (weeksIn year) w]
  | _ => none

def readDate? (s : Chars) : Option (List Nat) :=
  match Text.splitOn '-' s with
  | [y, m, d] => do
    let year ← readYear? y
    let month ← readPart? 1 12 m
    return [year, month, ← readPart? 1 (Time.daysInMonth year month) d]
  | _ => none

def readTime? (s : Chars) : Option (List Nat) :=
  match Text.splitOn ':' s with
  | [h, m] => do return [← readPart? 0 23 h, ← readPart? 0 59 m]
  | _ => none

def readMoment? (s : Chars) : Option (List Nat) :=
  match Text.splitOn 'T' s with
  | [d, t] => do return (← readDate? d) ++ (← readTime? t)
  | _ => none

/-- Reads a number: digits, or a point with digits behind it, after a minus sign or none. -/
def readNumber? (s : Chars) : Option Binary64 :=
  let unsigned := (Text.dropStart? ['-'] s).getD s
  let whole := unsigned.takeWhile Char.isDigit
  let isNumber := match unsigned.drop whole.length with
    | [] => !whole.isEmpty
    | c :: places => c == '.' && !places.isEmpty && places.all Char.isDigit
  if isNumber then (Numeral.readFloat s).toOption else none

/-- Reads a value of a field of a type. A line feed at its end does not count. -/
def read? (type : String) (s : Chars) : Option InputValue :=
  let s := if s.getLast? == some '\n' then s.dropLast else s
  match type with
  | "date" => (readDate? s).map parts
  | "month" => (readMonth? s).map parts
  | "week" => (readWeek? s).map parts
  | "time" => (readTime? s).map parts
  | "datetime-local" => (readMoment? s).map parts
  | "number" | "range" => (readNumber? s).map number
  | _ => none

/-- Whether the value of a field is out of its bounds; nothing if it has none. The bounds of a time
of day may run over midnight. -/
def isOutOfRange? (tag : Tag) : Option Bool :=
  let type := String.ofList (((tag.attr? "type".toList).getD []).map Char.toLower)
  let valueOf (name : String) : Option InputValue := (tag.attr? name.toList).bind (read? type)
  let least := valueOf "min"
  let most := valueOf "max"
  if least.isNone && most.isNone then none
  else
    match valueOf "value" with
    | none => some false
    | some v =>
      let below := least.any v.lt
      let above := most.any fun m => m.lt v
      let overMidnight := type == "time" && least.any fun l => most.any fun m => m.lt l
      some (if overMidnight then below && above else below || above)

end InputValue

end TrackerHub.Page
