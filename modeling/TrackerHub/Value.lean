import TrackerHub.Number.DecimalText
import TrackerHub.Text.Quoted
import TrackerHub.Time.Calendar

/-! # Values of documents

The values that configuration files, definitions and template contexts are made of. A value has a
plain text, used where a document's value stands in a text, and a shown form, used inside lists,
mappings and messages.
-/
namespace TrackerHub
open TrackerHub.Text

inductive Value where
  | null
  | bool (b : Bool)
  | int (n : Int)
  | float (x : Binary64)
  | text (s : String)
  | date (d : Time.Date)
  | time (t : Time.DateTime)
  | bytes (b : List UInt8)
  | list (items : List Value)
  | tuple (items : List Value)
  | set (items : List Value)
  | map (entries : List (Value × Value))
  deriving Repr, Inhabited

namespace Value

def showByte (mark : Char) (b : UInt8) : Chars :=
  let c := Char.ofNat b.toNat
  if c == mark || c == '\\' then ['\\', c]
  else if c == '\n' then ['\\', 'n']
  else if c == '\r' then ['\\', 'r']
  else if c == '\t' then ['\\', 't']
  else if 32 ≤ b.toNat ∧ b.toNat < 127 then [c]
  else ['\\', 'x'] ++ hex 2 b.toNat

def showBytes (b : List UInt8) : Chars :=
  let has := fun (c : Char) => b.any fun x => x.toNat == c.toNat
  let mark := if has '\'' && !has '"' then '"' else '\''
  'b' :: mark :: b.flatMap (showByte mark) ++ [mark]

def showOffset (offset : Int) : Chars :=
  let perDay : Int := Time.microsPerDay
  let days := offset / perDay
  let rest := (offset % perDay).toNat
  -- The sign of an offset stays with the days; seconds and microseconds are never below zero.
  let seconds := rest / Time.microsPerSecond
  let micros := rest % Time.microsPerSecond
  let parts :=
    (if days = 0 then [] else ["days=".toList ++ decimalInt days])
      ++ (if seconds = 0 then [] else ["seconds=".toList ++ decimal seconds])
      ++ (if micros = 0 then [] else ["microseconds=".toList ++ decimal micros])
  if offset = 0 then "datetime.timezone.utc".toList
  else "datetime.timezone(datetime.timedelta(".toList ++ join [',', ' '] parts ++ [')', ')']

def showTime (t : Time.DateTime) : Chars :=
  let clock := [t.hour, t.minute]
    ++ (if t.micro ≠ 0 then [t.second, t.micro] else if t.second ≠ 0 then [t.second] else [])
  let fields := [t.date.year, t.date.month, t.date.day] ++ clock
  "datetime.datetime(".toList ++ join [',', ' '] (fields.map decimal)
    ++ (match t.offset with
      | none => []
      | some o => ", tzinfo=".toList ++ showOffset o) ++ [')']

mutual

/-- The form of a value inside a list, a mapping or a message. -/
def shown : Value → Chars
  | .null => "None".toList
  | .bool b => if b then "True".toList else "False".toList
  | .int n => decimalInt n
  | .float x => x.toText
  | .text s => quoted s.toList
  | .date d => "datetime.date(".toList
      ++ join [',', ' '] ([d.year, d.month, d.day].map decimal) ++ [')']
  | .time t => showTime t
  | .bytes b => showBytes b
  | .list items => '[' :: join [',', ' '] (shownList items) ++ [']']
  | .tuple items =>
    '(' :: join [',', ' '] (shownList items) ++ (if items.length = 1 then [',', ')'] else [')'])
  | .set items =>
    let parts := shownList items
    if parts.isEmpty then "set()".toList else '\x7b' :: join [',', ' '] parts ++ ['\x7d']
  | .map entries => '\x7b' :: join [',', ' '] (shownEntries entries) ++ ['\x7d']

def shownList : List Value → List Chars
  | [] => []
  | x :: r => shown x :: shownList r

def shownEntries : List (Value × Value) → List Chars
  | [] => []
  | (k, v) :: r => (shown k ++ ':' :: ' ' :: shown v) :: shownEntries r

end

def plainText : Value → String
  | .text s => s
  | .date d => String.ofList d.isoText
  | .time t => String.ofList (t.isoTextWith ' ')
  | v => String.ofList (shown v)

def kindName : Value → String
  | .null => "NoneType"
  | .bool _ => "bool"
  | .int _ => "int"
  | .float _ => "float"
  | .text _ => "str"
  | .date _ => "date"
  | .time _ => "datetime"
  | .bytes _ => "bytes"
  | .list _ => "list"
  | .tuple _ => "tuple"
  | .set _ => "set"
  | .map _ => "dict"

def className (v : Value) : String :=
  match v with
  | .date _ | .time _ => "<class 'datetime." ++ v.kindName ++ "'>"
  | v => "<class '" ++ v.kindName ++ "'>"

/-- Whether the value counts as set: neither null, nor false, nor zero, nor empty. -/
def isTruthy : Value → Bool
  | .null => false
  | .bool b => b
  | .int n => n != 0
  | .float x => !x.isZero
  | .text s => !s.isEmpty
  | .date _ => true
  | .time _ => true
  | .bytes b => !b.isEmpty
  | .list items => !items.isEmpty
  | .tuple items => !items.isEmpty
  | .set items => !items.isEmpty
  | .map entries => !entries.isEmpty

/-- A number as an exact fraction: truth values count as numbers. -/
def number? : Value → Option Binary64
  | .bool b => some (Binary64.ofInt (if b then 1 else 0))
  | .int n => some (Binary64.ofInt n)
  | .float x => some x
  | _ => none

def integer? : Value → Option Int
  | .bool b => some (if b then 1 else 0)
  | .int n => some n
  | _ => none

/-- Whether two keys of a mapping are the same key. Numbers of different kinds are, if they are
equal. -/
def sameKey (a b : Value) : Bool :=
  match a, b with
  | .null, .null => true
  | .text s, .text t => s == t
  | .date d, .date e => decide (d = e)
  | .bytes s, .bytes t => s == t
  -- Moments with an offset are the same if they are the same moment, wherever they are.
  | .time s, .time t =>
    match s.offset, t.offset with
    | some o, some p => decide ((s.localMicros : Int) - o = (t.localMicros : Int) - p)
    | none, none => decide (s.localMicros = t.localMicros)
    | _, _ => false
  | _, _ =>
    match a.integer?, b.integer? with
    | some m, some n => decide (m = n)
    | _, _ =>
      match a.number?, b.number? with
      | some x, some y => x.eq y
      | _, _ => false

/-- Enters a key of a mapping: a new one at the end, a known one in its place. -/
def put (entries : List (Value × Value)) (key value : Value) : List (Value × Value) :=
  if entries.any fun e => e.1.sameKey key then
    entries.map fun e => if e.1.sameKey key then (e.1, value) else e
  else entries ++ [(key, value)]

def find? (entries : List (Value × Value)) (key : Value) : Option Value :=
  (entries.find? fun e => e.1.sameKey key).map (·.2)

end Value

end TrackerHub
