import TrackerHub.Named
import TrackerHub.Text.Chars

/-! # Files of variables

A file of variables has a line `NAME=value` for each. Values may be quoted, lines may begin with
`export`, and a value may name other variables as `$` with the name in braces, with a default behind
a colon and a dash. A line that cannot be read is passed over.
-/
namespace TrackerHub.Dotenv
open TrackerHub.Text

def isLineEnd (c : Char) : Bool := c == '\n' || c == '\r'

def isGap (c : Char) : Bool := isBlank c && !isLineEnd c

/-- The text without one line end at its beginning. -/
def dropLineEnd : Chars → Chars
  | '\r' :: '\n' :: r => r
  | c :: r => if isLineEnd c then r else c :: r
  | [] => []

/-- The text after the present line. A carriage return ends a line by itself here. -/
def skipLine (s : Chars) : Chars := (s.dropWhile fun c => !isLineEnd c).drop 1

/-- The text without the word `export` and the blanks behind it. -/
def dropExport (s : Chars) : Chars :=
  match dropStart? "export".toList s with
  | some (c :: r) => if isGap c then r.dropWhile isGap else s
  | _ => s

/-- Reads the name of a variable, or fails with the text where it failed. A comment has no name. -/
def readName (s : Chars) : Except Chars (Option Chars × Chars) :=
  match s with
  | '#' :: _ => .ok (none, s)
  | '\'' :: r =>
    let name := r.takeWhile (· != '\'')
    match r.drop name.length with
    | _ :: rest => if name.isEmpty then .error s else .ok (some name, rest)
    | [] => .error s
  | _ =>
    let name := s.takeWhile fun c => c != '=' && c != '#' && !isBlank c
    if name.isEmpty then .error s else .ok (some name, s.drop name.length)

/-- The positions of a mark at which a quoted text may end: at the first mark without a backslash
before it, else at the last one with it. `last` is the last position of a mark behind a backslash. -/
def closing? (mark : Char) : Nat → Option Nat → Chars → Option Nat
  | _, last, [] => last
  | i, last, '\\' :: c :: r =>
    if c == mark then closing? mark (i + 2) (some (i + 1)) r else closing? mark (i + 1) last (c :: r)
  | i, last, c :: r => if c == mark then some i else closing? mark (i + 1) last r

/-- The character that a backslash before another stands for inside double quotes. -/
def escaped? (c : Char) : Option Char :=
  [('\\', '\\'), ('\'', '\''), ('"', '"'), ('a', '\x07'), ('b', '\x08'), ('f', '\x0c'),
    ('n', '\n'), ('r', '\r'), ('t', '\t'), ('v', '\x0b')].findSome? fun e =>
    if e.1 == c then some e.2 else none

def unescape (mark : Char) : Chars → Chars
  | '\\' :: c :: r =>
    let known := if mark == '"' then escaped? c else if c == '\\' || c == '\'' then some c else none
    match known with
    | some d => d :: unescape mark r
    | none => '\\' :: unescape mark (c :: r)
  | c :: r => c :: unescape mark r
  | [] => []

/-- A bare value: a comment behind blanks is left out, and so are blanks at the end. -/
def bareValue : Chars → Chars := fun line =>
  dropEndWhile isBlank (go line)
where
  go : Chars → Chars
  | [] => []
  | c :: r =>
    if isBlank c && (r.dropWhile isBlank).head? == some '#' then [] else c :: go r

/-- Reads the value behind an equals sign. -/
def readValue (s : Chars) : Except Chars (Chars × Chars) :=
  let quotedBy (mark : Char) (r : Chars) : Except Chars (Chars × Chars) :=
    match closing? mark 0 none r with
    | some n => .ok (unescape mark (r.take n), r.drop (n + 1))
    | none => .error s
  match s with
  | '\'' :: r => quotedBy '\'' r
  | '"' :: r => quotedBy '"' r
  | _ =>
    let line := s.takeWhile fun c => !isLineEnd c
    .ok (bareValue line, s.drop line.length)

/-- The text after the comment and the end of a line. -/
def finishLine (s : Chars) : Except Chars Chars :=
  let s :=
    match s.dropWhile isGap with
    | '#' :: r => r.dropWhile fun c => !isLineEnd c
    | _ => s
  match s.dropWhile isGap with
  | [] => .ok []
  | c :: r => if isLineEnd c then .ok (dropLineEnd (c :: r)) else .error s

/-- A variable with its value, if it has one. -/
abbrev Binding := Chars × Option Chars

/-- Reads one line: a variable or nothing, and the rest. -/
def readLine (s : Chars) : Except Chars (Option Binding × Chars) := do
  let s := s.dropWhile isBlank
  if s.isEmpty then return (none, [])
  let (name, s) ← readName (dropExport s)
  let s := s.dropWhile isGap
  match s with
  | '=' :: r =>
    let (value, s) ← readValue (r.dropWhile isGap)
    let rest ← finishLine s
    return (name.map fun n => (n, some value), rest)
  | _ =>
    let rest ← finishLine s
    return (name.map fun n => (n, none), rest)

/-- The variables of a text, in order. `fuel` bounds the number of lines. -/
def readLines : Nat → Chars → List Binding
  | 0, _ => []
  | _, [] => []
  | fuel + 1, c :: r =>
    match readLine (c :: r) with
    | .ok (b, rest) => b.toList ++ readLines fuel rest
    -- The reading goes on behind the line where it failed, not behind the one where it began.
    | .error rest => readLines fuel (skipLine rest)

/-- Splits off a variable in braces behind a dollar sign, with its default. -/
def takeVariable? : Chars → Option (Chars × Chars × Chars)
  | '$' :: '\x7b' :: r =>
    let name := r.takeWhile fun c => c != '\x7d' && c != ':'
    match r.drop name.length with
    | '\x7d' :: rest => some (name, [], rest)
    | ':' :: '-' :: r =>
      let usual := r.takeWhile (· != '\x7d')
      match r.drop usual.length with
      | _ :: rest => some (name, usual, rest)
      | [] => none
    | _ => none
  | _ => none

/-- A value with the variables it names filled in. `skip` counts characters to be passed. -/
def fill (lookUp : Chars → Option Chars) : Nat → Chars → Chars
  | _, [] => []
  | skip + 1, _ :: r => fill lookUp skip r
  | 0, c :: r =>
    match takeVariable? (c :: r) with
    | some (name, usual, rest) =>
      (lookUp name).getD usual ++ fill lookUp (r.length - rest.length) r
    | none => c :: fill lookUp 0 r

/-- The values of some variables. A value may name variables of the surroundings, which come first,
and variables that stand before it. -/
def values (surroundings : Named String) (bindings : List Binding) : Named (Option String) :=
  bindings.foldl (fun done (name, value) =>
    let lookUp (n : Chars) : Option Chars :=
      let key := String.ofList n
      match surroundings.find? key with
      | some v => some v.toList
      | none => ((Named.find? done key).map fun v => (v.getD "").toList)
    Named.put done (String.ofList name)
      (value.map fun v => String.ofList (fill lookUp 0 v))) []

/-- The variables that a file of variables adds to those of the surroundings. -/
def extend (surroundings : Named String) (text : Chars) : Named String :=
  let added := (values surroundings (readLines (text.length + 1) text)).filterMap fun (name, value) =>
    if (surroundings.find? name).isSome then none else value.map fun v => (name, v)
  surroundings ++ added

end TrackerHub.Dotenv
