import TrackerHub.Text.CharClass.Lower
import TrackerHub.Value
import TrackerHub.Yaml.Node

/-! # Values of a document

Each kind of node has a value. A mapping takes over the entries of the mappings under its merge
keys, unless it has them itself; a key may stand only once, and the last one counts. Lists,
mappings and sets cannot be keys.
-/
namespace TrackerHub.Yaml
open TrackerHub.Text

/-- The text of a node that should be a scalar; a mapping may have one under its default key. -/
def Node.text? : Node → Option Chars
  | .scalar _ text => some text
  | .sequence _ _ => none
  | .mapping _ entries => defaultText entries
where
  /-- The text under the default key. -/
  defaultText : List (Node × Node) → Option Chars
  | [] => none
  | (.scalar .value _, v) :: _ => v.text?
  | (.sequence .value _, v) :: _ => v.text?
  | (.mapping .value _, v) :: _ => v.text?
  | _ :: r => defaultText r

def Node.kind : Node → Kind
  | .scalar k _ => k
  | .sequence k _ => k
  | .mapping k _ => k

def digitIn? (base : Nat) (c : Char) : Option Nat :=
  match hexDigit? c with
  | some d => if d < base then some d else none
  | none => none

/-- The letter that may stand behind a zero to announce a base. -/
def baseLetter (base : Nat) : Char := if base = 2 then 'b' else if base = 8 then 'o' else 'x'

/-- Reads an integer in base 2, 8 or 16. -/
def readInBase (base : Nat) (s : Chars) : Except YamlError Int :=
  let (negative, body) := Numeral.takeSign (trim s)
  let body :=
    match body with
    | '0' :: c :: r => if c.toLower == baseLetter base then r else body
    | _ => body
  let digits := body.mapM (digitIn? base)
  match digits with
  | some (d :: ds) =>
    let n := (d :: ds).foldl (fun n d => base * n + d) 0
    .ok (if negative then -(n : Int) else n)
  | _ => .error (.notAnInteger base s)

def readDecimalInt (s : Chars) : Except YamlError Int :=
  (Numeral.readInt s).mapError .numeral

/-- Reads an integer in any of its spellings. -/
def readIntText (text : Chars) : Except YamlError Int := do
  let s := text.filter (· != '_')
  if s.isEmpty then throw .noNumber
  let (negative, t) := Numeral.takeSign s
  let n ←
    match t with
    | ['0'] => pure 0
    | '0' :: 'b' :: r => readInBase 2 r
    | '0' :: 'x' :: r => readInBase 16 r
    | '0' :: _ => readInBase 8 t
    | [] => throw .noNumber
    | _ =>
      if t.contains ':' then do
        let parts ← (splitOn ':' t).mapM readDecimalInt
        pure (parts.foldl (fun n d => 60 * n + d) 0)
      else readDecimalInt t
  pure (if negative then -n else n)

/-- Reads a number with a point in any of its spellings. -/
def readFloatText (text : Chars) : Except YamlError Binary64 := do
  let s := lower (text.filter (· != '_'))
  if s.isEmpty then throw .noNumber
  let (negative, t) := Numeral.takeSign s
  let read := fun (t : Chars) => (Numeral.readFloat t).mapError YamlError.numeral
  let x ←
    if t == ['.', 'i', 'n', 'f'] then pure (.infinite false)
    else if t == ['.', 'n', 'a', 'n'] then pure .nan
    else if t.contains ':' then do
      let parts ← (splitOn ':' t).mapM read
      let step := fun (state : Binary64 × Int) (d : Binary64) =>
        (state.1.add (d.mul (.ofInt state.2)), 60 * state.2)
      pure (parts.reverse.foldl step (.zero false, 1)).1
    else read t
  pure (x.mul (.ofInt (if negative then -1 else 1)))

def sixtyFourValue? (c : Char) : Option Nat :=
  if 'A' ≤ c ∧ c ≤ 'Z' then some (c.toNat - 65)
  else if 'a' ≤ c ∧ c ≤ 'z' then some (c.toNat - 71)
  else if '0' ≤ c ∧ c ≤ '9' then some (c.toNat + 4)
  else if c == '+' then some 62
  else if c == '/' then some 63
  else none

/-- Reads base 64, passing over all characters that are none of its own. `place` is the place in
the present group of four, `bits` are those that are left over, `pads` counts the marks at the
end. -/
def readBase64 : Nat → Nat → Nat → Chars → Option Bytes
  | place, _, _, [] => if place = 0 then some [] else none
  | place, bits, pads, c :: r =>
    if c == '=' then
      if 2 ≤ place ∧ 4 ≤ place + pads + 1 then some []
      else readBase64 place bits (if 2 ≤ place then pads + 1 else pads) r
    else
      match sixtyFourValue? c with
      | none => readBase64 place bits pads r
      | some v =>
        match place with
        | 0 => readBase64 1 v 0 r
        | 1 => (readBase64 2 (v % 16) 0 r).map (UInt8.ofNat (bits * 4 + v / 16) :: ·)
        | 2 => (readBase64 3 (v % 4) 0 r).map (UInt8.ofNat (bits * 16 + v / 4) :: ·)
        | _ => (readBase64 0 0 0 r).map (UInt8.ofNat (bits * 64 + v) :: ·)

/-- A day of the calendar, if there is one. -/
def calendarDate (year month day : Nat) : Except CalendarFault Time.Date :=
  if year < 1 ∨ Time.maxYear < year then .error (.year year)
  else if month < 1 ∨ 12 < month then .error .month
  else if day < 1 ∨ Time.daysInMonth year month < day then .error .day
  else .ok ⟨year, month, day⟩

/-- The microseconds of the digits of a fraction; digits beyond the sixth are dropped. -/
def fractionMicros (digits : Chars) : Nat :=
  let d := digits.take 6
  (readDecimal? (d ++ List.replicate (6 - d.length) '0')).getD 0

def timeValue (t : TimeText) : Except CalendarFault Value := do
  match t.clock with
  | none => pure (.date (← calendarDate t.year t.month t.day))
  | some (hour, minute, second, fraction) =>
    match t.zone with
    | some m => if m ≤ -1440 ∨ 1440 ≤ m then throw (.offset m)
    | none => pure ()
    let date ← calendarDate t.year t.month t.day
    if 23 < hour then throw .hour
    if 59 < minute then throw .minute
    if 59 < second then throw .second
    pure (.time {
      date := date, hour := hour, minute := minute, second := second,
      micro := fractionMicros fraction, offset := t.zone.map (· * 60 * Time.microsPerSecond) })

def scalarValue (kind : Kind) (text : Chars) : Except YamlError Value :=
  match kind with
  | .null => .ok .null
  | .bool =>
    match truthWords.find? fun w => w.1.toList == lower text with
    | some (_, b) => .ok (.bool b)
    | none => .error .notATruthValue
  | .int => (readIntText text).map .int
  | .float => (readFloatText text).map .float
  | .time =>
    match readTimeText? text with
    | some t => (timeValue t).mapError .outOfCalendar
    | none => .error .notATime
  | .text => .ok (.text (String.ofList text))
  | .binary =>
    match if isAscii text then readBase64 0 0 0 text else none with
    | some b => .ok (.bytes b)
    | none => .error .malformed
  | _ => .error .malformed

/-- Whether the value may be a key. -/
def isKeyable : Value → Bool
  | .list _ | .tuple _ | .set _ | .map _ => false
  | _ => true

/-- The entries of a mapping under the merge keys of another one come first; `fuel` bounds the
depth of merging. -/
def mergedEntries : Nat → List (Node × Node) → Except YamlError (List (Node × Node))
  | 0, _ => .error .malformed
  | fuel + 1, entries => do
    let taken ← entries.mapM fun (k, v) =>
      if k.kind = .merge then
        match v with
        | .mapping _ es => mergedEntries fuel es
        | .sequence _ items => do
          let groups ← items.mapM fun item =>
            match item with
            | .mapping _ es => mergedEntries fuel es
            | _ => .error .malformed
          -- Of several mappings the first one counts, but of several entries the last one.
          pure groups.reverse.flatten
        | .scalar _ _ => .error .malformed
      else pure []
    let own := (entries.filter fun e => e.1.kind != .merge).map fun (k, v) =>
      match k with
      | .scalar .value text => (.scalar .text text, v)
      | k => (k, v)
    pure (taken.flatten ++ own)

def Node.depth : Node → Nat
  | .scalar _ _ => 1
  | .sequence _ items => 1 + depthList items
  | .mapping _ entries => 1 + depthEntries entries
where
  depthList : List Node → Nat
  | [] => 0
  | n :: r => max n.depth (depthList r)
  depthEntries : List (Node × Node) → Nat
  | [] => 0
  | (k, v) :: r => max (max k.depth v.depth) (depthEntries r)

/-- The value of a node; `fuel` bounds its depth. -/
def valueFrom : Nat → Node → Except YamlError Value
  | 0, _ => .error .malformed
  | fuel + 1, node => do
    let mapping := fun (entries : List (Node × Node)) => do
      let merged ← mergedEntries (fuel + 1) entries
      merged.foldlM (fun acc (k, v) => do
        let key ← valueFrom fuel k
        if !isKeyable key then throw YamlError.malformed
        let value ← valueFrom fuel v
        pure (Value.put acc key value)) []
    match node.kind, node with
    | .list, .sequence _ items => pure (.list (← items.mapM (valueFrom fuel)))
    | .map, .mapping _ entries => pure (.map (← mapping entries))
    | .set, .mapping _ entries => pure (.set ((← mapping entries).map (·.1)))
    | .pairs, .sequence _ items =>
      let pairs ← items.mapM fun item =>
        match item with
        | .mapping _ [(k, v)] => do
          let key ← valueFrom fuel k
          let value ← valueFrom fuel v
          pure (Value.tuple [key, value])
        | _ => throw .malformed
      pure (.list pairs)
    | .list, _ | .map, _ | .set, _ | .pairs, _ => throw .malformed
    | kind, node =>
      match node.text? with
      | some text => scalarValue kind text
      | none => throw .malformed

/-- Reads the value of a document's text; an empty document is null. -/
def load (source : Chars) : Except YamlError Value := do
  match ← Node.ofTokens (← tokens source) with
  | none => pure .null
  | some node => valueFrom (node.depth + 1) node

def loadBytes (source : Bytes) : Except YamlError Value :=
  match decodeSource? source with
  | some text => load text
  | none => .error .malformed

end TrackerHub.Yaml
