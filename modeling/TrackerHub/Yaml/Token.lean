import TrackerHub.Yaml.ScalarText

/-! # Tokens of a document

A document is cut into tokens from left to right. Indentation becomes tokens of its own: the
beginning and the end of each block. Whether a token is the key of an entry is known only at the
colon behind it, so each token that may be a key leaves a slot before it, and the colon fills the
slot.
-/
namespace TrackerHub.Yaml
open TrackerHub.Text

inductive Token where
  | version (major : Nat)
  | tagHandle (handle start : Chars)
  | otherDirective
  | documentStart
  | documentEnd
  | blockSequence
  | blockMapping
  | blockEnd
  | openSequence
  | closeSequence
  | openMapping
  | closeMapping
  | blockEntry
  | flowEntry
  | key
  | value
  | alias (name : Chars)
  | anchor (name : Chars)
  | tag (handle : Option Chars) (suffix : Chars)
  | scalar (plain : Bool) (text : Chars)
  deriving Repr, DecidableEq

/-- A token, or a slot before a token that may be a key. -/
inductive Item where
  | token (t : Token)
  | slot (id : Nat)
  deriving Repr, DecidableEq

/-- A token that may be a key: its slot, its place, and whether it must be one. -/
structure PossibleKey where
  slot : Nat
  required : Bool
  index : Nat
  line : Nat
  column : Nat
  deriving Repr, DecidableEq

structure Scanner where
  rest : Chars
  index : Nat := 0
  line : Nat := 0
  column : Nat := 0
  /-- The tokens so far, the last one first. -/
  items : List Item := []
  /-- The number of slots so far. -/
  slots : Nat := 0
  /-- The column of the innermost block, or -1 outside all blocks. -/
  indent : Int := -1
  /-- The columns of the blocks around it. -/
  outer : List Int := []
  /-- Whether a key may begin here. -/
  keyAllowed : Bool := true
  /-- The possible key at the present depth of brackets. -/
  possible : Option PossibleKey := none
  /-- The possible keys at the depths around it; there are as many as open brackets. -/
  around : List (Option PossibleKey) := []
  deriving Repr

namespace Scanner

def inFlow (s : Scanner) : Bool := !s.around.isEmpty

/-- Moves on to `rest`, a tail of the text. -/
def moveTo (s : Scanner) (rest : Chars) : Scanner :=
  let passed := s.rest.take (s.rest.length - rest.length)
  let (line, column) := passed.foldl (fun (line, column) c =>
    if isBreak c then (line + 1, 0) else if c == '\uFEFF' then (line, column) else (line, column + 1))
    (s.line, s.column)
  { s with rest := rest, index := s.index + passed.length, line := line, column := column }

def push (s : Scanner) (t : Token) : Scanner := { s with items := .token t :: s.items }

/-- Passes over the blank part of a text up to the next token; the flag says whether a line ends
in it. -/
def nextTokenFrom : Bool → Bool → Chars → Bool × Chars
  | _, passed, [] => (passed, [])
  | comment, passed, c :: r =>
    if isBreak c then nextTokenFrom false true r
    else if comment then nextTokenFrom true passed r
    else if c == ' ' then nextTokenFrom false passed r
    else if c == '#' then nextTokenFrom true passed r
    else (passed, c :: r)

/-- Drops a possible key. A key that is required must not be dropped. -/
def dropKey (k : PossibleKey) : Except YamlError (Option PossibleKey) :=
  if k.required then .error .malformed else .ok none

/-- Drops the possible key if it is too far behind: on another line, or more than 1024 characters
away. -/
def dropStale (s : Scanner) : Option PossibleKey → Except YamlError (Option PossibleKey)
  | none => .ok none
  | some k =>
    if k.line ≠ s.line ∨ 1024 < s.index - k.index then dropKey k else .ok (some k)

def dropStaleKeys (s : Scanner) : Except YamlError Scanner := do
  let possible ← s.dropStale s.possible
  let around ← s.around.mapM s.dropStale
  pure { s with possible := possible, around := around }

def giveUpKey (s : Scanner) : Except YamlError Scanner :=
  match s.possible with
  | none => .ok s
  | some k => (dropKey k).map fun _ => { s with possible := none }

/-- Notes that the next token may be a key. -/
def noteKey (s : Scanner) : Except YamlError Scanner :=
  if s.keyAllowed then do
    let s ← s.giveUpKey
    let k : PossibleKey := {
      -- Where the entries of a block begin, nothing but a key can stand.
      slot := s.slots, required := !s.inFlow && decide (s.indent = s.column), index := s.index,
      line := s.line, column := s.column }
    pure { s with possible := some k, items := .slot s.slots :: s.items, slots := s.slots + 1 }
  else .ok s

/-- Closes the blocks that are indented by more than `column`; `fuel` bounds their number. -/
def closeBlocksFrom : Nat → Int → Scanner → Scanner
  | 0, _, s => s
  | fuel + 1, column, s =>
    if column < s.indent then
      match s.outer with
      | [] => s
      | i :: outer =>
        closeBlocksFrom fuel column { s.push .blockEnd with indent := i, outer := outer }
    else s

/-- Closes the blocks that are indented by more than `column`. Inside brackets there are none. -/
def closeBlocks (column : Int) (s : Scanner) : Scanner :=
  if s.inFlow then s else closeBlocksFrom s.outer.length column s

/-- Whether a block at the column lies inside the innermost one. -/
def isDeeper (s : Scanner) (column : Nat) : Bool := decide (s.indent < column)

def openBlock (s : Scanner) (column : Nat) : Scanner :=
  { s with indent := column, outer := s.indent :: s.outer }

/-- Opens a block at the present column, if it is deeper than the innermost one. -/
def openBlockHere (t : Token) (s : Scanner) : Scanner :=
  if s.isDeeper s.column then (s.openBlock s.column).push t else s

def skip (s : Scanner) (count : Nat) : Scanner := s.moveTo (s.rest.drop count)

/-- Ends all blocks before a mark between documents. -/
def betweenDocuments (s : Scanner) : Except YamlError Scanner := do
  let s ← (s.closeBlocks (-1)).giveUpKey
  pure { s with keyAllowed := false }

def isNameChar (c : Char) : Bool := c.isAlphanum || c == '-' || c == '_'

def isTagChar (c : Char) : Bool :=
  c.isAlphanum || "-;/?:@&=+$,_.!~*'()[]".toList.contains c

def percentRun : Chars → Except YamlError (Bytes × Chars)
  | '%' :: a :: b :: r =>
    match hexDigit? a, hexDigit? b with
    | some high, some low =>
      (percentRun r).map fun (bytes, rest) => (UInt8.ofNat (16 * high + low) :: bytes, rest)
    | _, _ => .error .malformed
  | '%' :: _ => .error .malformed
  | s => .ok ([], s)

/-- Reads the characters of a tag; `fuel` bounds the number of pieces. -/
def tagTextFrom : Nat → Chars → Except YamlError (Chars × Chars)
  | 0, _ => .error .malformed
  | fuel + 1, s =>
    let piece := s.takeWhile isTagChar
    let rest := s.drop piece.length
    match rest with
    | '%' :: _ => do
      let (bytes, rest) ← percentRun rest
      match decodeUtf8? bytes with
      | some text =>
        let (more, rest) ← tagTextFrom fuel rest
        pure (piece ++ text ++ more, rest)
      | none => throw .malformed
    | _ => .ok (piece, rest)

/-- Reads the characters of a tag; there must be some. -/
def tagText (s : Chars) : Except YamlError (Chars × Chars) :=
  if s.head?.any fun c => isTagChar c || c == '%' then tagTextFrom (s.length + 1) s
  else .error .malformed

def tagHandle : Chars → Except YamlError (Chars × Chars)
  | '!' :: r =>
    if r.head? == some ' ' then .ok (['!'], r)
    else
      let name := r.takeWhile isNameChar
      match r.drop name.length with
      | '!' :: rest => .ok ('!' :: name ++ ['!'], rest)
      | _ => .error .malformed
  | _ => .error .malformed

def readTag (s : Chars) : Except YamlError (Token × Chars) := do
  let (t, rest) ←
    match s.drop 1 with
    | '<' :: r => do
      let (suffix, rest) ← tagText r
      match rest with
      | '>' :: rest => pure (Token.tag none suffix, rest)
      | _ => throw .malformed
    | r =>
      if atGap r then pure (.tag none ['!'], r)
      else if (r.takeWhile fun c => !isBreak c && c != ' ').contains '!' then do
        let (handle, rest) ← tagHandle s
        let (suffix, rest) ← tagText rest
        pure (.tag (some handle) suffix, rest)
      else do
        let (suffix, rest) ← tagText r
        pure (.tag (some ['!']) suffix, rest)
  if atSpace rest then pure (t, rest) else throw .malformed

def readDirective (s : Chars) : Except YamlError (Token × Chars) := do
  let s := s.drop 1
  let name := s.takeWhile isNameChar
  let s := s.drop name.length
  if name.isEmpty || !atSpace s then throw .malformed
  let (t, s) ←
    if name == ['Y', 'A', 'M', 'L'] then do
      let s := dropSpaces s
      let major := s.takeWhile Char.isDigit
      match readDecimal? major, s.drop major.length with
      | some n, '.' :: r =>
        let minor := r.takeWhile Char.isDigit
        let rest := r.drop minor.length
        if minor.isEmpty || !atSpace rest then throw .malformed else pure (Token.version n, rest)
      | _, _ => throw .malformed
    else if name == ['T', 'A', 'G'] then do
      let (handle, s) ← tagHandle (dropSpaces s)
      if s.head? != some ' ' then throw .malformed
      let (start, s) ← tagText (dropSpaces s)
      if atSpace s then pure (.tagHandle handle start, s) else throw .malformed
    else pure (.otherDirective, dropLine s)
  pure (t, ← endLine s)

def readName (s : Chars) : Except YamlError (Chars × Chars) :=
  let name := s.takeWhile isNameChar
  let rest := s.drop name.length
  if !name.isEmpty && (atGap rest || rest.head?.any fun c => "?:,]\x7d%@`".toList.contains c) then
    .ok (name, rest)
  else .error .malformed

/-- Adds a token that may be a key and that ends at `rest`. -/
def pushKeyable (s : Scanner) (t : Token) (rest : Chars) : Except YamlError Scanner := do
  let s ← s.noteKey
  pure ({ s with keyAllowed := false }.push t |>.moveTo rest)

def openBracket (t : Token) (s : Scanner) : Except YamlError Scanner := do
  let s ← s.noteKey
  pure ({ s with around := s.possible :: s.around, possible := none, keyAllowed := true }.push t
    |>.skip 1)

def closeBracket (t : Token) (s : Scanner) : Except YamlError Scanner := do
  let s ← s.giveUpKey
  match s.around with
  | [] => throw .malformed
  | k :: around =>
    pure ({ s with possible := k, around := around, keyAllowed := false }.push t |>.skip 1)

/-- Adds a mark before an entry or a key of a block, which may open the block `t`. -/
def pushBlockMark (t mark : Token) (s : Scanner) : Except YamlError Scanner := do
  let s ←
    if s.inFlow then pure s
    else if s.keyAllowed then pure (s.openBlockHere t)
    else throw .malformed
  let keyAllowed := match mark with
    | .blockEntry => true
    | _ => !s.inFlow
  let s ← { s with keyAllowed := keyAllowed }.giveUpKey
  pure (s.push mark |>.skip 1)

/-- Puts tokens, the last one first, in the place of a slot. -/
def fillSlot (id : Nat) (tokens : List Item) (items : List Item) : List Item :=
  items.flatMap fun i => if i = .slot id then tokens else [i]

/-- Adds the colon behind a key, which fills the slot before the key. -/
def pushValue (s : Scanner) : Except YamlError Scanner :=
  match s.possible with
  | some k =>
    let opens := !s.inFlow && s.isDeeper k.column
    -- The items stand in reverse: the block is opened before its key.
    let filling := if opens then [.token .key, .token .blockMapping] else [Item.token .key]
    let s := if opens then s.openBlock k.column else s
    let s := { s with
      items := fillSlot k.slot filling s.items, possible := none, keyAllowed := false }
    .ok (s.push .value |>.skip 1)
  | none => s.pushBlockMark .blockMapping .value

def pushBlock (folded : Bool) (s : Scanner) : Except YamlError Scanner := do
  let s ← { s with keyAllowed := true }.giveUpKey
  let least := (s.indent + 1).toNat
  let (text, rest) ← readBlock folded (max least 1) (s.rest.drop 1)
  pure (s.push (.scalar false text) |>.moveTo rest)

def pushQuoted (double : Bool) (s : Scanner) : Except YamlError Scanner := do
  let (text, rest) ← readQuoted double (s.rest.drop 1)
  s.pushKeyable (.scalar false text) rest

def pushPlain (s : Scanner) : Except YamlError Scanner := do
  let p := readPlain s.inFlow (s.indent + 1).toNat s.rest
  let s ← s.pushKeyable (.scalar true p.text) p.rest
  pure { s with keyAllowed := p.newLine }

/-- Whether a plain scalar may begin here. -/
def plainBegins (inFlow : Bool) (c : Char) (r : Chars) : Bool :=
  !(atGap [c] || "-?:,[]\x7b\x7d#&*!|>'\"%@`".toList.contains c)
    || (!atGap r && (c == '-' || (!inFlow && (c == '?' || c == ':'))))

def pushNext (c : Char) (r : Chars) (s : Scanner) : Except YamlError Scanner :=
  let here := c :: r
  let free := s.inFlow || atGap r
  -- The order of the cases counts: what ends a document is recognised before what begins a scalar.
  if c == '%' && s.column == 0 then do
    let s ← s.betweenDocuments
    let (t, rest) ← readDirective here
    pure (s.push t |>.moveTo rest)
  else if s.column == 0 && atMark '-' here then do
    let s ← s.betweenDocuments
    pure (s.push .documentStart |>.skip 3)
  else if s.column == 0 && atMark '.' here then do
    let s ← s.betweenDocuments
    pure (s.push .documentEnd |>.skip 3)
  else if c == '[' then s.openBracket .openSequence
  else if c == '\x7b' then s.openBracket .openMapping
  else if c == ']' then s.closeBracket .closeSequence
  else if c == '\x7d' then s.closeBracket .closeMapping
  else if c == ',' then do
    let s ← { s with keyAllowed := true }.giveUpKey
    pure (s.push .flowEntry |>.skip 1)
  else if c == '-' && atGap r then s.pushBlockMark .blockSequence .blockEntry
  else if c == '?' && free then s.pushBlockMark .blockMapping .key
  else if c == ':' && free then s.pushValue
  else if c == '*' then do
    let (name, rest) ← readName r
    s.pushKeyable (.alias name) rest
  else if c == '&' then do
    let (name, rest) ← readName r
    s.pushKeyable (.anchor name) rest
  else if c == '!' then do
    let (t, rest) ← readTag here
    s.pushKeyable t rest
  else if c == '|' && !s.inFlow then s.pushBlock false
  else if c == '>' && !s.inFlow then s.pushBlock true
  else if c == '\'' then s.pushQuoted false
  else if c == '"' then s.pushQuoted true
  else if plainBegins s.inFlow c r then s.pushPlain
  else throw .malformed

/-- The next place where a token begins. -/
def toNextToken (s : Scanner) : Scanner :=
  -- A byte order mark is passed over only at the very beginning.
  let start := if s.index == 0 && s.rest.head? == some '\uFEFF' then s.rest.drop 1 else s.rest
  let (passed, rest) := nextTokenFrom false false start
  let s := s.moveTo rest
  if passed && !s.inFlow then { s with keyAllowed := true } else s

/-- Cuts the rest of a document into tokens; `fuel` bounds their number. -/
def run : Nat → Scanner → Except YamlError Scanner
  | 0, _ => .error .malformed
  | fuel + 1, s => do
    let s ← s.toNextToken.dropStaleKeys
    let s := s.closeBlocks s.column
    match s.rest with
    | [] => (s.closeBlocks (-1)).giveUpKey
    | c :: r => run fuel (← s.pushNext c r)

end Scanner

def tokens (source : Chars) : Except YamlError (List Token) := do
  if !source.all isAllowed then throw .malformed
  let text := unifyBreaks source
  let s ← Scanner.run (text.length + 1) { rest := text }
  pure (s.items.reverse.filterMap fun
    | .token t => some t
    | .slot _ => none)

end TrackerHub.Yaml
