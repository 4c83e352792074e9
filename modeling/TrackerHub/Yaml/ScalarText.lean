import TrackerHub.Yaml.Source

/-! # Scalars as they are written

A scalar is written plain, between quotation marks, or as a block of lines. Each reader takes the
text behind the opening mark and returns the scalar with the unread rest.
-/
namespace TrackerHub.Yaml
open TrackerHub.Text

/-- The empty lines inside a quoted scalar; `start` says whether a line begins here. -/
def quotedBreaks : Bool → Chars → Except YamlError (Chars × Chars)
  | _, [] => .ok ([], [])
  | start, c :: r =>
    if start && atDocumentMark (c :: r) then .error .malformed
    else if c == ' ' || c == '\t' then quotedBreaks false r
    else if isBreak c then (quotedBreaks true r).map fun (breaks, rest) => (c :: breaks, rest)
    else .ok ([], c :: r)

/-- Blanks inside a quoted scalar: a single line break is a space, of several the first is
dropped. -/
def quotedBlanks (s : Chars) : Except YamlError (Chars × Chars) :=
  let blanks := s.takeWhile fun c => c == ' ' || c == '\t'
  match s.drop blanks.length with
  | [] => .error .malformed
  | c :: r =>
    if isBreak c then
      (quotedBreaks true r).map fun (breaks, rest) =>
        let first := if c != '\n' then [c] else if breaks.isEmpty then [' '] else []
        (first ++ breaks, rest)
    else .ok (blanks, c :: r)

def escapes : List (Char × Char) := [
  ('0', '\x00'), ('a', '\x07'), ('b', '\x08'), ('t', '\t'), ('\t', '\t'), ('n', '\n'), ('v', '\x0b'),
  ('f', '\x0c'), ('r', '\r'), ('e', '\x1b'), (' ', ' '), ('"', '"'), ('\\', '\\'), ('/', '/'),
  ('N', '\x85'), ('_', '\u00a0'), ('L', '\u2028'), ('P', '\u2029')]

/-- The number of hexadecimal digits that follow a letter behind a backslash. -/
def escapeDigits? (c : Char) : Option Nat :=
  match c with
  | 'x' => some 2
  | 'u' => some 4
  | 'U' => some 8
  | _ => none

def readEscape : Chars → Except YamlError (Chars × Chars)
  | [] => .error .malformed
  | c :: r =>
    match escapes.find? fun e => e.1 == c with
    | some (_, x) => .ok ([x], r)
    | none =>
      match escapeDigits? c with
      | some n =>
        let digits := r.take n
        match if digits.length = n then readHex? digits else none with
        | some code =>
          if code < 0x110000 then .ok ([Char.ofNat code], r.drop n) else .error .noCharacter
        | none => .error .malformed
      | none => if isBreak c then quotedBreaks true r else .error .malformed

/-- Reads a quoted scalar up to its closing mark; only double quotes know escapes. `fuel` bounds
the number of pieces. -/
def quotedFrom (double : Bool) : Nat → Chars → Except YamlError (Chars × Chars)
  | 0, _ => .error .malformed
  | fuel + 1, s =>
    let go := fun (piece rest : Chars) =>
      (quotedFrom double fuel rest).map fun (text, rest) => (piece ++ text, rest)
    match s with
    | [] => .error .malformed
    | c :: r =>
      if c == ' ' || c == '\t' || isBreak c then do
        let (blanks, rest) ← quotedBlanks (c :: r)
        go blanks rest
      else if double then
        if c == '"' then .ok ([], r)
        else if c == '\\' then do
          let (piece, rest) ← readEscape r
          go piece rest
        else go [c] r
      else if c == '\'' then
        match r with
        | '\'' :: r => go ['\''] r
        | _ => .ok ([], r)
      else go [c] r

def readQuoted (double : Bool) (s : Chars) : Except YamlError (Chars × Chars) :=
  quotedFrom double (s.length + 1) s

/-- How the end of a block scalar is kept. -/
inductive Chomping where
  | clip
  | strip
  | keep
  deriving Repr, DecidableEq

def chomping? (c : Char) : Option Chomping :=
  if c == '+' then some .keep else if c == '-' then some .strip else none

def indentDigit? (c : Char) : Option Nat :=
  if c.isDigit then some (c.toNat - '0'.toNat) else none

/-- The marks behind the opening of a block scalar, in either order. -/
def blockMarks (s : Chars) : Except YamlError (Chomping × Option Nat × Chars) :=
  let (chomping, increment, rest) :=
    match s with
    | [] => (none, none, [])
    | c :: r =>
      match chomping? c, indentDigit? c with
      | some k, _ =>
        match r.head?.bind indentDigit? with
        | some n => (some k, some n, r.drop 1)
        | none => (some k, none, r)
      | none, some n =>
        match r.head?.bind chomping? with
        | some k => (some k, some n, r.drop 1)
        | none => (none, some n, r)
      | none, none => (none, none, c :: r)
  if increment == some 0 || !atSpace rest then .error .malformed
  else .ok (chomping.getD .clip, increment, rest)

/-- Empty lines at the beginning of a block scalar: their line breaks, the greatest indentation
among them and the next line, the column that is reached, and the rest. -/
def leadingLines : Nat → Nat → Chars → Chars × Nat × Nat × Chars
  | column, deepest, [] => ([], deepest, column, [])
  | column, deepest, c :: r =>
    if c == ' ' then leadingLines (column + 1) (max deepest (column + 1)) r
    else if isBreak c then
      let (breaks, deepest, column, rest) := leadingLines 0 deepest r
      (c :: breaks, deepest, column, rest)
    else ([], deepest, column, c :: r)

/-- Empty lines inside a block scalar: their line breaks, the column that is reached, and the
rest. -/
def emptyLines (indent : Nat) : Nat → Chars → Chars × Nat × Chars
  | column, [] => ([], column, [])
  | column, c :: r =>
    if c == ' ' && decide (column < indent) then emptyLines indent (column + 1) r
    else if isBreak c then
      let (breaks, column, rest) := emptyLines indent 0 r
      (c :: breaks, column, rest)
    else ([], column, c :: r)

def atBlank (s : Chars) : Bool := s.head?.any fun c => c == ' ' || c == '\t'

/-- The lines of a block scalar from the first one on: the text, its last line break, the line
breaks after that one, and the rest. -/
def blockLines (folded : Bool) (indent : Nat) : Nat → Chars → Chars → Chars × Chars × Chars × Chars
  | 0, breaks, s => (breaks, [], [], s)
  | fuel + 1, breaks, s =>
    let line := s.takeWhile fun c => !isBreak c
    let rest := s.drop line.length
    let lineBreak := rest.take 1
    let (more, column, next) :=
      if rest.isEmpty then ([], indent + 1, []) else emptyLines indent 0 (rest.drop 1)
    if column = indent ∧ !next.isEmpty then
      let joint :=
        if folded && lineBreak == ['\n'] && !atBlank s && !atBlank next then
          (if more.isEmpty then [' '] else [])
        else lineBreak
      let (text, last, tail, rest) := blockLines folded indent fuel more next
      (breaks ++ line ++ joint ++ text, last, tail, rest)
    else (breaks ++ line, lineBreak, more, next)

/-- Reads a block scalar behind its opening mark. `least` is the least indentation it may have. -/
def readBlock (folded : Bool) (least : Nat) (s : Chars) : Except YamlError (Chars × Chars) := do
  let (chomping, increment, s) ← blockMarks s
  let s ← endLine s
  let (breaks, indent, column, first) :=
    match increment with
    | none =>
      let (breaks, deepest, column, first) := leadingLines 0 0 s
      (breaks, max least deepest, column, first)
    | some n =>
      let indent := least + n - 1
      let (breaks, column, first) := emptyLines indent 0 s
      (breaks, indent, column, first)
  let (text, last, tail, rest) :=
    if column = indent ∧ !first.isEmpty then
      blockLines folded indent (first.length + 1) breaks first
    else ([], [], breaks, first)
  match chomping with
  | .strip => pure (text, rest)
  | .clip => pure (text ++ last, rest)
  | .keep => pure (text ++ last ++ tail, rest)

/-- The blanks inside or behind a plain scalar. -/
structure PlainGap where
  /-- What the blanks mean inside the scalar, unless the scalar ends here. -/
  joint : Chars
  /-- Whether a line ends in them. -/
  newLine : Bool
  /-- The column behind them, if a line ends in them. -/
  column : Nat
  rest : Chars
  deriving Repr

/-- The lines between two lines of a plain scalar: their line breaks, the column that is reached
and the rest; nothing if a document ends there. -/
def plainBreaks? : Bool → Nat → Chars → Option (Chars × Nat × Chars)
  | _, column, [] => some ([], column, [])
  | start, column, c :: r =>
    if start && atDocumentMark (c :: r) then none
    else if c == ' ' then plainBreaks? false (column + 1) r
    else if isBreak c then
      (plainBreaks? true 0 r).map fun (breaks, column, rest) => (c :: breaks, column, rest)
    else some ([], column, c :: r)

/-- The blanks behind a piece of a plain scalar. -/
def plainGap (s : Chars) : PlainGap :=
  let spaces := s.takeWhile (· == ' ')
  match s.drop spaces.length with
  | [] => ⟨spaces, false, 0, []⟩
  | c :: r =>
    if isBreak c then
      match plainBreaks? true 0 r with
      | none => ⟨[], true, 0, r⟩
      | some (breaks, column, rest) =>
        let first := if c != '\n' then [c] else if breaks.isEmpty then [' '] else []
        ⟨first ++ breaks, true, column, rest⟩
    else ⟨spaces, false, 0, c :: r⟩

/-- The marks between and around the entries of collections in brackets. -/
def flowMarks : List Char := [',', '[', ']', '\x7b', '\x7d']

/-- Whether a plain scalar ends here. Inside brackets more marks end it. -/
def plainEnds (inFlow : Bool) (c : Char) (r : Chars) : Bool :=
  atGap [c] || (c == ':' && (atGap r || (inFlow && r.head?.any flowMarks.contains)))
    || (inFlow && (c == '?' || flowMarks.contains c))

/-- The longest piece of a plain scalar without blanks. -/
def plainPiece (inFlow : Bool) : Chars → Chars × Chars
  | [] => ([], [])
  | c :: r =>
    if plainEnds inFlow c r then ([], c :: r)
    else
      let (piece, rest) := plainPiece inFlow r
      (c :: piece, rest)

/-- A plain scalar, whether a line ends behind it, and the rest. -/
structure PlainScalar where
  text : Chars
  newLine : Bool
  rest : Chars
  deriving Repr

/-- Reads a plain scalar whose further lines are indented by at least `indent`; `joint` stands
before the next piece. -/
def plainFrom (inFlow : Bool) (indent : Nat) : Nat → Chars → Bool → Chars → PlainScalar
  | 0, _, newLine, s => ⟨[], newLine, s⟩
  | fuel + 1, joint, newLine, s =>
    let (piece, rest) := if s.head? == some '#' then ([], s) else plainPiece inFlow s
    if piece.isEmpty then ⟨[], newLine, s⟩
    else
      let gap := plainGap rest
      if gap.joint.isEmpty || gap.rest.head? == some '#'
          || (!inFlow && gap.newLine && decide (gap.column < indent)) then
        ⟨joint ++ piece, gap.newLine, gap.rest⟩
      else
        let more := plainFrom inFlow indent fuel gap.joint gap.newLine gap.rest
        ⟨joint ++ piece ++ more.text, more.newLine, more.rest⟩

def readPlain (inFlow : Bool) (indent : Nat) (s : Chars) : PlainScalar :=
  plainFrom inFlow indent (s.length + 1) [] false s

end TrackerHub.Yaml
