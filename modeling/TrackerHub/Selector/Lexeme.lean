import TrackerHub.Text.Chars

/-! # The smallest parts of selectors

Blanks and comments, identifiers with escapes, quoted values and the formulas for positions. Each
reader answers what it read and the rest, or nothing.
-/
namespace TrackerHub.Selector

open Text (Chars)

def isLineEnd (c : Char) : Bool := c == '\n' || c == '\x0c' || c == '\r'

def isBlank (c : Char) : Bool := c == ' ' || c == '\t' || isLineEnd c

/-- The rest of `s` after one blank; a carriage return and a line feed are one. -/
def passBlank? : Chars → Option Chars
  | '\r' :: '\n' :: r => some r
  | c :: r => if isBlank c then some r else none
  | [] => none

/-- The rest of `s` behind the next `*/`. -/
def passComment? : Chars → Option Chars
  | '*' :: '/' :: r => some r
  | _ :: r => passComment? r
  | [] => none

/-- The rest of `s` after blanks and comments; `fuel` bounds their number. -/
def skipFrom : Nat → Chars → Chars
  | 0, s => s
  | fuel + 1, s =>
    match s with
    | '/' :: '*' :: r =>
      match passComment? r with
      | some rest => skipFrom fuel rest
      | none => s
    | c :: r => if isBlank c then skipFrom fuel r else s
    | [] => []

def skip (s : Chars) : Chars := skipFrom s.length s

/-- The number of characters at the end of `s` that are blanks and comments only. -/
def trailing : Chars → Nat
  | [] => 0
  | c :: r => if (skip (c :: r)).isEmpty then r.length + 1 else trailing r

def isNameStart (c : Char) : Bool := c.isAlpha || c == '_' || decide (0xa0 ≤ c.toNat)

def isNameChar (c : Char) : Bool := isNameStart c || c.isDigit || c == '-'

/-- The length of the escape that `s` begins with: a backslash and up to six hexadecimal digits with
a blank behind them, or one other character of the line, or the end. -/
def escapeLength? : Chars → Option Nat
  | '\\' :: r =>
    let digits := (r.take 6).takeWhile fun c => (Text.hexDigit? c).isSome
    if !digits.isEmpty then
      let rest := r.drop digits.length
      some (1 + digits.length + (rest.length - ((passBlank? rest).getD rest).length))
    else
      match r with
      | [] => some 1
      | c :: _ => if isLineEnd c then none else some 2
  | _ => none

/-- The length of the longest run of name characters and escapes that `s` begins with. -/
def runLength (ok : Char → Bool) : Nat → Chars → Nat
  | 0, _ => 0
  | fuel + 1, s =>
    match escapeLength? s with
    | some n => n + runLength ok fuel (s.drop n)
    | none =>
      match s with
      | c :: r => if ok c then 1 + runLength ok fuel r else 0
      | [] => 0

/-- The length of the identifier that `s` begins with. -/
def identLength? (s : Chars) : Option Nat :=
  let dash := match s with
    | '-' :: _ => 1
    | _ => 0
  let first := runLength isNameStart s.length (s.drop dash)
  if first > 0 then
    let n := dash + first
    some (n + runLength isNameChar s.length (s.drop n))
  else
    match s with
    | '-' :: '-' :: r => some (2 + runLength isNameChar s.length r)
    | _ => none

def readIdent? (s : Chars) : Option (Chars × Chars) :=
  (identLength? s).map fun n => (s.take n, s.drop n)

/-- The text without its escapes. In a quoted text an escaped line end stands for nothing. -/
def unescapeFrom (quoted : Bool) : Nat → Chars → Chars
  | 0, s => s
  | _, [] => []
  | fuel + 1, c :: r =>
    match escapeLength? (c :: r) with
    | none =>
      match c, quoted, passBlank? r with
      | '\\', true, some rest => unescapeFrom quoted fuel rest
      | _, _, _ => c :: unescapeFrom quoted fuel r
    | some n =>
      let rest := unescapeFrom quoted fuel ((c :: r).drop n)
      let digits := (r.take 6).takeWhile fun c => (Text.hexDigit? c).isSome
      match Text.readHex? digits with
      | some code =>
        (if code = 0 ∨ ¬ code.isValidChar then '\ufffd' else Char.ofNat code) :: rest
      | none =>
        match r with
        | d :: _ => d :: rest
        | [] => '\ufffd' :: rest

/-- The text that an identifier or the inside of a quoted value stands for. -/
def unescape (quoted : Bool) (s : Chars) : Chars := unescapeFrom quoted s.length s

/-- The length of a quoted text's inside and closing quote, from behind its opening quote. -/
def quotedLength? (quote : Char) : Nat → Chars → Option Nat
  | 0, _ => none
  | fuel + 1, s =>
    match s with
    | [] => none
    | '\\' :: r =>
      match r with
      | '\r' :: '\n' :: r => (quotedLength? quote fuel r).map (· + 3)
      | _ :: r => (quotedLength? quote fuel r).map (· + 2)
      | [] => none
    | c :: r =>
      if c == quote then some 1
      else if isLineEnd c then none
      else (quotedLength? quote fuel r).map (· + 1)

/-- The length of identifiers that follow each other. -/
def identsLength? : Nat → Chars → Option Nat
  | 0, _ => none
  | fuel + 1, s =>
    match identLength? s with
    | none => none
    | some n => some (n + (identsLength? fuel (s.drop n)).getD 0)

/-- Reads a value as it is written: a quoted text or identifiers. -/
def readValue? (s : Chars) : Option (Chars × Chars) :=
  let n? := match s with
    | '"' :: r => (quotedLength? '"' (s.length + 1) r).map (· + 1)
    | '\'' :: r => (quotedLength? '\'' (s.length + 1) r).map (· + 1)
    | _ => identsLength? s.length s
  n?.map fun n => (s.take n, s.drop n)

/-- The text that a value stands for. -/
def valueText (value : Chars) : Chars :=
  match value with
  | '"' :: r => unescape true r.dropLast
  | '\'' :: r => unescape true r.dropLast
  | _ => unescape false value

/-- Reads values with commas between them, up to a closing bracket; the answer holds them as they
are written. -/
def readValues? : Nat → Chars → Option (List Chars × Chars)
  | 0, _ => none
  | fuel + 1, s =>
    match readValue? s with
    | none => none
    | some (v, rest) =>
      match skip rest with
      | ',' :: r => (readValues? fuel (skip r)).map fun (vs, rest) => (v :: vs, rest)
      | ')' :: r => some ([v], r)
      | _ => none

/-- Reads a formula for positions: `even`, `odd`, a number, or a number of steps and an offset. -/
def readPosition? (s : Chars) : Option ((Option Int × Int) × Chars) :=
  let word (w : String) := (s.take w.length).map Char.toLower == w.toList
  if word "even" then some ((some 2, 0), s.drop 4)
  else if word "odd" then some ((some 2, 1), s.drop 3)
  else
    let (sign, body) : Int × Chars := match s with
      | '-' :: r => (-1, r)
      | '+' :: r => (1, r)
      | _ => (1, s)
    let digits := body.takeWhile Char.isDigit
    let rest := body.drop digits.length
    let number (ds : Chars) : Int := ((Text.readDecimal? ds).getD 0 : Nat)
    match rest with
    | n :: after =>
      if n == 'n' || n == 'N' then
        let step := sign * (if digits.isEmpty then 1 else number digits)
        let offset? : Option (Int × Chars) := match skip after with
          | c :: r =>
            if c == '+' || c == '-' then
              let ds := (skip r).takeWhile Char.isDigit
              if ds.isEmpty then none
              else some ((if c == '-' then -1 else 1) * number ds, (skip r).drop ds.length)
            else none
          | [] => none
        match offset? with
        | some (offset, rest) => some ((some step, offset), rest)
        | none => some ((some step, 0), after)
      else if digits.isEmpty then none
      else some ((none, sign * number digits), rest)
    | [] => if digits.isEmpty then none else some ((none, sign * number digits), [])

end TrackerHub.Selector
