import TrackerHub.Named
import TrackerHub.Number.Numeral
import TrackerHub.Text.Utf8
import TrackerHub.Value

/-! # Reading values by a schema

A schema reads a document's value into a type. What is wrong is collected with its place, so that
one reading reports all of it; some values stop the reading at once. Numbers, truth values and
lists are read leniently, texts are not.
-/
namespace TrackerHub.Schema
open TrackerHub.Text

/-- A step on the way to a value inside a document. -/
inductive Step where
  | key (name : String)
  | index (i : Int)
  deriving Repr, DecidableEq, Inhabited

inductive Fault where
  | missing
  | notText
  | badUnicode
  | shortText
  | shortList
  | notList
  | notMapping
  | notBlock
  | notChoice
  | notInt
  | unreadableInt
  | fractionalInt
  | hugeInt
  | notFinite
  | belowLeast
  | notFloat
  | unreadableFloat
  | notBool
  | unreadableBool
  | refused
  deriving Repr, DecidableEq, Inhabited

/-- A fault at its place. -/
structure Violation where
  place : List Step
  fault : Fault
  deriving Repr, DecidableEq

/-- The outcome of a reading: a result, all that is wrong, or what stopped the reading. -/
inductive Outcome (ε α : Type) where
  | good (x : α)
  | bad (violations : List Violation)
  | stopped (cause : ε)
  deriving Repr

namespace Outcome

variable {ε α β : Type}

def map (f : α → β) : Outcome ε α → Outcome ε β
  | good x => good (f x)
  | bad vs => bad vs
  | stopped c => stopped c

/-- Joins two outcomes: a stop ends the reading, and faults are collected in order. -/
def seq (f : Outcome ε (α → β)) (x : Unit → Outcome ε α) : Outcome ε β :=
  match f with
  | stopped c => stopped c
  | good f => (x ()).map f
  | bad vs =>
    -- The right side is read in any case, so that its faults are found too.
    match x () with
    | stopped c => stopped c
    | good _ => bad vs
    | bad ws => bad (vs ++ ws)

instance : Applicative (Outcome ε) where
  pure := good
  seq := seq
  map := map

/-- Goes on with a result, if there is one. -/
def andThen (x : Outcome ε α) (f : α → Outcome ε β) : Outcome ε β :=
  match x with
  | good x => f x
  | bad vs => bad vs
  | stopped c => stopped c

/-- Puts a step before the places of all faults. -/
def under (step : Step) : Outcome ε α → Outcome ε α
  | bad vs => bad (vs.map fun v => { v with place := step :: v.place })
  | o => o

def fault (f : Fault) : Outcome ε α := bad [⟨[], f⟩]

/-- Reads all items and collects what is wrong. -/
def all (f : α → Outcome ε β) : List α → Outcome ε (List β)
  | [] => good []
  | x :: r => List.cons <$> f x <*> all f r

end Outcome

variable {ε α : Type}

/-- The text of a value that is a text or its bytes. -/
def textOf? (badUnicode : Fault) : Value → Option (Outcome ε String)
  | .text s => some (.good s)
  | .bytes b =>
    match decodeUtf8? b with
    | some cs => some (.good (String.ofList cs))
    | none => some (.fault badUnicode)
  | _ => none

def text (v : Value) : Outcome ε String := (textOf? .badUnicode v).getD (.fault .notText)

def filledText (v : Value) : Outcome ε String :=
  (text v).andThen fun s => if s.isEmpty then .fault .shortText else .good s

/-- Blanks that numerals may stand between. -/
def trimmed (s : Chars) : Chars := trim s

/-- The text without single underscores inside it. -/
def dropUnderscores? (s : Chars) : Option Chars :=
  if s.head? == some '_' || s.getLast? == some '_' || !s.contains '_' || contains ['_', '_'] s then
    none
  else some (s.filter (· != '_'))

/-- The number of a plain numeral: digits without leading zeros behind an optional minus. -/
def plainInt (s : Chars) : Except Fault Int :=
  let (negative, digits) :=
    match s with
    | '-' :: r => (true, r)
    | r => (false, r)
  match readDecimal? digits with
  | none => .error .unreadableInt
  | some n =>
    if digits.head? == some '0' ∧ digits ≠ ['0'] then .error .unreadableInt
    else if Numeral.maxDigits < digits.length then .error .hugeInt
    else .ok (if negative then -(n : Int) else n)

/-- The numeral without the zeros before its first digit. -/
def dropLeadingZeros? : Chars → Option Chars
  | [] => none
  | '0' :: r =>
    let rest := r.dropWhile fun c => c == '0' || c == '_'
    match rest with
    -- Nothing but zeros: the last character stays.
    | [] => some (('0' :: r).drop r.length)
    | '.' :: _ => some ('0' :: rest)
    | c :: _ => if c.isDigit then some rest else none
  | c :: r => if c.isDigit || c == '-' then some (c :: r) else none

/-- The numeral without what a lenient reading passes over: blanks, a plus, leading zeros, zeros
behind a point, and single underscores. -/
def bareInt? (s : Chars) : Option Chars := do
  let s := trimmed s
  let s := match s with
    | '+' :: r => r
    | r => r
  let s ← dropLeadingZeros? s
  let whole := s.takeWhile (· != '.')
  let s :=
    if (s.drop whole.length).isEmpty || !((s.drop (whole.length + 1)).all (· == '0')) then s
    else whole
  some ((dropUnderscores? s).getD s)

def intOfText (s : Chars) : Except Fault Int :=
  match plainInt s with
  | .ok n => .ok n
  | .error .hugeInt => .error .hugeInt
  | .error _ =>
    match bareInt? s with
    | some t => plainInt t
    | none => .error .unreadableInt

/-- The greatest integers that a number with a point may stand for. -/
def intRange : Int := 9223372036854775808

def intOfFloat (x : Binary64) : Except Fault Int :=
  match x.truncate? with
  | none => .error .notFinite
  | some n =>
    if !(Binary64.ofInt n).eq x then .error .fractionalInt
    else if -intRange < n ∧ n < intRange then .ok n
    else .error .hugeInt

def ofExcept {α : Type} : Except Fault α → Outcome ε α
  | .ok x => .good x
  | .error f => .fault f

def int (v : Value) : Outcome ε Int :=
  match v.integer? with
  | some n => .good n
  | none =>
    match textOf? .unreadableInt v with
    | some o => o.andThen fun s => ofExcept (intOfText s.toList)
    | none =>
      match v with
      | .float x => ofExcept (intOfFloat x)
      | _ => .fault .notInt

def intFrom (least : Int) (v : Value) : Outcome ε Int :=
  (int v).andThen fun n => if n < least then .fault .belowLeast else .good n

/-- Reads a number with a point from a text without underscores. -/
def plainFloat? (s : Chars) : Option Binary64 :=
  let (negative, body) := Numeral.takeSign s
  if isAscii s then Numeral.readUnsigned? negative body else none

def floatOfText (s : Chars) : Except Fault Binary64 :=
  match plainFloat? (trimmed s) with
  | some x => .ok x
  | none =>
    match (dropUnderscores? s).bind plainFloat? with
    | some x => .ok x
    | none => .error .unreadableFloat

def float (v : Value) : Outcome ε Binary64 :=
  match textOf? .unreadableFloat v with
  | some o => o.andThen fun s => ofExcept (floatOfText s.toList)
  | none =>
    match v with
    | .float x => .good x
    | _ =>
      match v.integer? with
      | some n =>
        match Binary64.ofInt n with
        | .infinite _ => .fault .notFloat
        | x => .good x
      | none => .fault .notFloat

def truthWords : List (String × Bool) := [
  ("0", false), ("f", false), ("n", false), ("no", false), ("off", false), ("false", false),
  ("1", true), ("t", true), ("y", true), ("on", true), ("yes", true), ("true", true)]

def boolOfInt (n : Int) : Outcome ε Bool :=
  if n = 0 then .good false else if n = 1 then .good true else .fault .unreadableBool

def bool (v : Value) : Outcome ε Bool :=
  match textOf? .unreadableBool v with
  | some o => o.andThen fun s =>
    match truthWords.find? fun w => w.1.toList == s.toList.map Char.toLower with
    | some (_, b) => .good b
    | none => .fault .unreadableBool
  | none =>
    match v with
    | .bool b => .good b
    -- Beyond the range of machine integers a number is not even looked at.
    | .int n => if -intRange ≤ n ∧ n < intRange then boolOfInt n else .fault .notBool
    | .float x =>
      match intOfFloat x with
      | .ok n => boolOfInt n
      | .error _ => .fault .notBool
    | _ => .fault .notBool

def choice (words : List String) (v : Value) : Outcome ε String :=
  match v with
  | .text s => if words.contains s then .good s else .fault .notChoice
  | _ => .fault .notChoice

def list (item : Value → Outcome ε α) (v : Value) : Outcome ε (List α) :=
  let items := fun (xs : List Value) =>
    Outcome.all (fun (x, i) => (item x).under (.index i)) (xs.zipIdx.map fun (x, i) => (x, (i : Int)))
  match v with
  | .list xs | .tuple xs | .set xs => items xs
  | _ => .fault .notList

def keyStep (key : Value) : Step :=
  match key with
  | .text s => .key s
  | v =>
    match v.integer? with
    | some n => if -intRange ≤ n ∧ n < intRange then .index n else .key (String.ofList v.shown)
    | none => .key (String.ofList v.shown)

/-- Reads the entries of a mapping whose keys are texts; a repeated key takes its last value. -/
def mapping (value : Value → Outcome ε α) (v : Value) : Outcome ε (Named α) :=
  match v with
  | .map entries =>
    let entry := fun (k, x) =>
      Prod.mk <$> ((text k).under (.key "[key]")).under (keyStep k)
        <*> (value x).under (keyStep k)
    (Outcome.all entry entries).map Named.ofList
  | _ => .fault .notMapping

/-- The entries of a block of named fields. -/
abbrev Entries := List (Value × Value)

def block (fields : Entries → Outcome ε α) (v : Value) : Outcome ε α :=
  match v with
  | .map entries => fields entries
  | _ => .fault .notBlock

/-- Reads a field that may be left out. -/
def field (name : String) (usual : α) (read : Value → Outcome ε α) (entries : Entries) :
    Outcome ε α :=
  match Value.find? entries (.text name) with
  | some v => (read v).under (.key name)
  | none => .good usual

/-- Reads a field that must be there. -/
def required (name : String) (read : Value → Outcome ε α) (entries : Entries) : Outcome ε α :=
  match Value.find? entries (.text name) with
  | some v => (read v).under (.key name)
  | none => Outcome.under (.key name) (.fault .missing)

end TrackerHub.Schema
