import TrackerHub.Number.Numeral
import TrackerHub.Text.CharClass.Lower

/-! # Sizes and counts

Numbers as trackers print them: sizes with a unit, and counts with commas.
-/
namespace TrackerHub
open TrackerHub.Text TrackerHub.Numeral

inductive SizeError where
  | unparseable (text : Chars)
  | unknownUnit (unit text : Chars)
  | numeral (error : NumeralError)
  /-- The size is beyond every floating-point number. -/
  | unbounded
  deriving Repr, DecidableEq

def SizeError.message : SizeError → String
  | .unparseable t => "unparseable size " ++ String.ofList (quoted t)
  | .unknownUnit u t =>
    "unknown size unit " ++ String.ofList (quoted u) ++ " in " ++ String.ofList (quoted t)
  | .numeral e => e.message
  | .unbounded => "cannot convert float infinity to integer"

/-- The units of size, in bytes. -/
def sizeUnits : List (String × Nat) := [
  ("", 1), ("b", 1), ("byte", 1), ("bytes", 1),
  ("k", 1000), ("kb", 1000), ("kib", 1024),
  ("m", Nat.pow 1000 2), ("mb", Nat.pow 1000 2), ("mib", Nat.pow 1024 2),
  ("g", Nat.pow 1000 3), ("gb", Nat.pow 1000 3), ("gib", Nat.pow 1024 3),
  ("t", Nat.pow 1000 4), ("tb", Nat.pow 1000 4), ("tib", Nat.pow 1024 4),
  ("p", Nat.pow 1000 5), ("pb", Nat.pow 1000 5), ("pib", Nat.pow 1024 5)]

/-- Splits a size into its numeral and its unit: digits and points, blanks, and letters. -/
def splitSize? (s : Chars) : Option (Chars × Chars) :=
  let p := fun c => isDecimalDigit c || c == '.'
  let numeral := s.takeWhile p
  let unit := (s.dropWhile p).dropWhile isBlank
  if !numeral.isEmpty && unit.all (fun c => decide ('a' ≤ c) && decide (c ≤ 'z')) then
    some (numeral, unit)
  else none

/-- Reads a size as a number of bytes; commas are passed over and case does not matter. -/
def readSize (s : Chars) : Except SizeError Int :=
  match splitSize? (lower (trim (s.filter (· != ',')))) with
  | none => .error (.unparseable s)
  | some (numeral, unit) =>
    match sizeUnits.find? fun u => u.1.toList == unit with
    | none => .error (.unknownUnit unit s)
    | some (_, bytes) =>
      match readFloat numeral with
      | .error e => .error (.numeral e)
      | .ok x =>
        match (x.mul (.ofInt bytes)).truncate? with
        | some n => .ok n
        | none => .error .unbounded

/-- A count without commas; nothing at all counts as zero. -/
def bareNumeral (s : Chars) : Chars :=
  let t := trim (s.filter (· != ','))
  if t.isEmpty then ['0'] else t

def readCount (s : Chars) : Except NumeralError Int := readInt (bareNumeral s)

def readFactor (s : Chars) : Except NumeralError Binary64 := readFloat (bareNumeral s)

end TrackerHub
