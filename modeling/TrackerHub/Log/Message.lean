import TrackerHub.Number.DecimalText
import TrackerHub.Value

/-! # Messages with places for values

A message may hold places for values: a percent sign, flags, a width, a precision and a letter that
says how the value is written. A place may name its value in parentheses. A message whose places do
not fit its values has no text.
-/
namespace TrackerHub.Log
open TrackerHub.Text

structure Placeholder where
  key : Option Chars := none
  flags : Chars := []
  width : Nat := 0
  precision : Option Nat := none
  letter : Char
  deriving Repr, DecidableEq, Inhabited

namespace Placeholder

/-- Reads a placeholder behind its percent sign. -/
def read? (s : Chars) : Option (Placeholder × Chars) := do
  let (key, s) ←
    match s with
    | '(' :: r => (cut? [')'] r).map fun (k, r) => (some k, r)
    | _ => some (none, s)
  let flags := s.takeWhile fun c => ['-', '+', ' ', '#', '0'].contains c
  let s := s.drop flags.length
  let width := s.takeWhile Char.isDigit
  let s := s.drop width.length
  let (precision, s) :=
    match s with
    | '.' :: r =>
      let digits := r.takeWhile Char.isDigit
      (some ((readDecimal? digits).getD 0), r.drop digits.length)
    | _ => (none, s)
  let s :=
    match s with
    | c :: r => if ['h', 'l', 'L'].contains c then r else s
    | [] => []
  match s with
  | letter :: r => some ({ key, flags, width := (readDecimal? width).getD 0, precision, letter }, r)
  | [] => none

def padded (p : Placeholder) (s : Chars) : Chars :=
  let blanks := List.replicate (p.width - s.length) ' '
  if p.flags.contains '-' then s ++ blanks else blanks ++ s

/-- A number with its sign and what comes before its digits, brought to the width with blanks or
zeros. -/
def number (p : Placeholder) (negative : Bool) (start digits : Chars) : Chars :=
  let sign := if negative then ['-'] else if p.flags.contains '+' then ['+']
    else if p.flags.contains ' ' then [' '] else []
  let lead := sign ++ start
  if p.flags.contains '0' && !p.flags.contains '-' then
    lead ++ padLeft '0' (p.width - lead.length) digits
  else p.padded (lead ++ digits)

def integer (p : Placeholder) (base : Nat) (start : Chars) (n : Int) : Chars :=
  let digits := padLeft '0' (p.precision.getD 0) (Nat.toDigits base n.natAbs)
  p.number (decide (n < 0)) (if p.flags.contains '#' then start else []) digits

/-- A floating-point number, written by its absolute value. -/
def floating (p : Placeholder) (write : Binary64 → Chars) (x : Binary64) : Chars :=
  let text := write x
  match text with
  | '-' :: digits => p.number true [] digits
  | digits => p.number false [] digits

/-- The text of a value with every character beyond ASCII escaped. -/
def escapeForeign (s : Chars) : Chars :=
  s.flatMap fun c =>
    let n := c.toNat
    if n < 0x80 then [c]
    else if n < 0x100 then ['\\', 'x'] ++ hex 2 n
    else if n < 0x10000 then ['\\', 'u'] ++ hex 4 n
    else ['\\', 'U'] ++ hex 8 n

/-- The integer that a number is cut off to. -/
def wholeOf? : Value → Option Int
  | .float x => x.truncate?
  | v => v.integer?

def write? (p : Placeholder) (v : Value) : Option Chars :=
  let cutOff (s : Chars) : Chars := p.padded ((p.precision.map s.take).getD s)
  let places := p.precision.getD 6
  match p.letter with
  | 's' => some (cutOff v.plainText.toList)
  | 'r' => some (cutOff v.shown)
  | 'a' => some (cutOff (escapeForeign v.shown))
  | 'c' =>
    match v with
    | .text t => if t.length == 1 then some (p.padded t.toList) else none
    | _ => v.integer?.bind fun n =>
      if 0 ≤ n ∧ n.toNat.isValidChar then some (p.padded [Char.ofNat n.toNat]) else none
  | 'd' | 'i' | 'u' => (wholeOf? v).map (p.integer 10 [])
  | 'x' => v.integer?.map (p.integer 16 ['0', 'x'])
  | 'X' => v.integer?.map fun n => (p.integer 16 ['0', 'x'] n).map Char.toUpper
  | 'o' => v.integer?.map (p.integer 8 ['0', 'o'])
  | 'f' => v.number?.map (p.floating (Binary64.toFixed places))
  | 'F' => v.number?.map fun x => (p.floating (Binary64.toFixed places) x).map Char.toUpper
  | 'e' => v.number?.map (p.floating (Binary64.toExponential places))
  | 'E' => v.number?.map fun x => (p.floating (Binary64.toExponential places) x).map Char.toUpper
  | 'g' => v.number?.map (p.floating (Binary64.toGeneralWith (max places 1)))
  | 'G' =>
    v.number?.map fun x => (p.floating (Binary64.toGeneralWith (max places 1)) x).map Char.toUpper
  | _ => none

end Placeholder

/-- The values for the places of a message: those in order that are left, and those with names. -/
structure Arguments where
  inOrder : List Value
  named : Option (List (Value × Value)) := none

/-- The values that a message is given. A single mapping that is not empty gives named ones. -/
def Arguments.ofList : List Value → Arguments
  | [.map (e :: es)] => { inOrder := [.map (e :: es)], named := some (e :: es) }
  | vs => { inOrder := vs }

/-- The value for a placeholder, and the values afterwards. -/
def Arguments.take? (a : Arguments) (p : Placeholder) : Option (Value × Arguments) :=
  match p.key, a.named with
  | some k, some named =>
    (Value.find? named (.text (String.ofList k))).map fun v => (v, { a with inOrder := [] })
  | some _, none => none
  | none, _ =>
    match a.inOrder with
    | v :: vs => some (v, { a with inOrder := vs })
    | [] => none

/-- Fills the places of a message. `fuel` bounds the number of characters. -/
def fillPlaces : Nat → Arguments → Chars → Option Chars
  | 0, _, _ => none
  | _, a, [] => if a.inOrder.isEmpty || a.named.isSome then some [] else none
  | fuel + 1, a, '%' :: r => do
    let (p, rest) ← Placeholder.read? r
    -- A doubled percent sign takes no value.
    if p.letter == '%' then return '%' :: (← fillPlaces fuel a rest)
    let (v, a) ← a.take? p
    let text ← p.write? v
    return text ++ (← fillPlaces fuel a rest)
  | fuel + 1, a, c :: r => (fillPlaces fuel a r).map (c :: ·)

/-- The text of a message with its values. A message without values is taken as it stands. -/
def message? (s : String) (values : List Value) : Option String :=
  if values.isEmpty then some s
  else (fillPlaces (s.length + 1) (.ofList values) s.toList).map String.ofList

end TrackerHub.Log
