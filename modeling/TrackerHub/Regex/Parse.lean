import TrackerHub.Number.Numeral
import TrackerHub.Regex.Pattern
import TrackerHub.Text.CharClass.Word
import TrackerHub.Text.CharName

/-! # Reading patterns

The text of a pattern is cut into marks, a mark being one character or a character behind a
backslash; the marks are read from left to right. Reading keeps count of the groups, so that a
reference can only name a group that is complete.
-/
namespace TrackerHub.Regex
open TrackerHub.Text

inductive PatternError where
  | malformed
  | countTooLarge
  /-- A repetition count has more digits than are ever read. -/
  | countTooLong (digits : Nat)
  /-- Two alphabets are chosen for the whole pattern. -/
  | alphabetClash
  deriving Repr, DecidableEq, Inhabited

inductive Mark where
  | plain (c : Char)
  | escaped (c : Char)
  deriving Repr, DecidableEq, Inhabited

/-- Cuts a text into marks; a backslash at the end is no mark. -/
def marks? : Chars → Option (List Mark)
  | [] => some []
  | ['\\'] => none
  | '\\' :: c :: r => (marks? r).map (.escaped c :: ·)
  | c :: r => (marks? r).map (.plain c :: ·)

structure ReadState where
  input : List Mark
  flags : Flags := {}
  nextGroup : Nat := 1
  names : List (String × Nat) := []
  /-- The complete groups with their widths. -/
  complete : List (Nat × (Nat × Nat)) := []
  /-- Inside a look behind, the number of the next group at its beginning. -/
  behindFrom : Option Nat := none
  /-- The groups that conditions ask for. -/
  asked : List Nat := []
  deriving Repr, Inhabited

abbrev Reader := StateT ReadState (Except PatternError)

def fail {α : Type} : Reader α := throw .malformed

def peek : Reader (Option Mark) := do pure (← get).input.head?

def next : Reader (Option Mark) := do
  let s ← get
  match s.input with
  | [] => pure none
  | m :: r => set { s with input := r }; pure (some m)

def accept (c : Char) : Reader Bool := do
  let s ← get
  match s.input with
  | .plain d :: r => if c == d then do set { s with input := r }; pure true else pure false
  | _ => pure false

def expect (c : Char) : Reader Unit := do
  if ← accept c then pure () else fail

/-- Takes characters that satisfy `p`, at most `limit` of them. -/
def takeChars (p : Char → Bool) (limit : Nat) : Reader Chars := do
  let s ← get
  let rec go : Nat → List Mark → Chars × List Mark
    | 0, ms => ([], ms)
    | n + 1, .plain c :: r =>
      if p c then
        let (cs, rest) := go n r
        (c :: cs, rest)
      else ([], .plain c :: r)
    | _, ms => ([], ms)
  let (cs, rest) := go limit s.input
  set { s with input := rest }
  pure cs

/-- Takes the characters up to a closing one, which is taken too; there must be some. -/
def takeUntil (closing : Char) : Reader Chars := do
  let s ← get
  let spelled := fun (m : Mark) =>
    match m with
    | .plain c => [c]
    | .escaped c => ['\\', c]
  let body := s.input.takeWhile fun m => decide (m ≠ .plain closing)
  match s.input.drop body.length with
  | [] => fail
  | _ :: rest =>
    if body.isEmpty then fail
    else
      set { s with input := rest }
      pure (body.flatMap spelled)

def isOctal (c : Char) : Bool := decide ('0' ≤ c) && decide (c ≤ '7')

def octalValue (s : Chars) : Nat := s.foldl (fun n c => 8 * n + (c.toNat - '0'.toNat)) 0

/-- A character given by exactly `count` hexadecimal digits. -/
def readHexChar (count : Nat) : Reader Nat := do
  let digits ← takeChars (fun c => (hexDigit? c).isSome) count
  match if digits.length = count then readHex? digits else none with
  | some n => if n < 0x110000 then pure n else fail
  | none => fail

def readNamedChar : Reader Nat := do
  expect '\x7b'
  let name ← takeUntil '\x7d'
  match charNamed? (String.ofList name) with
  | some n => pure n
  | none => fail

def kindOf? (c : Char) : Option SetItem :=
  match c with
  | 'd' => some (.kind .digit false)
  | 'D' => some (.kind .digit true)
  | 's' => some (.kind .blank false)
  | 'S' => some (.kind .blank true)
  | 'w' => some (.kind .word false)
  | 'W' => some (.kind .word true)
  | _ => none

def controlOf? (c : Char) : Option Nat :=
  match c with
  | 'a' => some 7
  | 'b' => some 8
  | 'f' => some 12
  | 'n' => some 10
  | 'r' => some 13
  | 't' => some 9
  | 'v' => some 11
  | '\\' => some 92
  | _ => none

def isAsciiLetter (c : Char) : Bool := c.isAlpha

/-- The character that an escaped `x`, `u`, `U` or `N` introduces. -/
def readCodedChar? (c : Char) : Reader (Option Nat) := do
  match c with
  | 'x' => some <$> readHexChar 2
  | 'u' => some <$> readHexChar 4
  | 'U' => some <$> readHexChar 8
  | 'N' => some <$> readNamedChar
  | _ => pure none

def readSetEscape (c : Char) : Reader SetItem := do
  match controlOf? c, kindOf? c with
  | some n, _ => pure (.char n)
  | _, some k => pure k
  | none, none =>
    match ← readCodedChar? c with
    | some n => pure (.char n)
    | none =>
      if isOctal c then
        let more ← takeChars isOctal 2
        let n := octalValue (c :: more)
        if n ≤ 0o377 then pure (.char n) else fail
      else if c.isDigit || isAsciiLetter c then fail
      else pure (.char c.toNat)

/-- Whether a group is complete and may be referred to. -/
def checkReference (group : Nat) : Reader (Nat × Nat) := do
  let s ← get
  match s.complete.find? fun e => e.1 == group with
  | none => fail
  | some (_, w) =>
    match s.behindFrom with
    | some first => if first ≤ group then fail else pure w
    | none => pure w

/-- A reference or an octal character: `c` is the escaped digit, which is not zero. -/
def readNumberEscape (c : Char) : Reader Pattern := do
  let second ← takeChars Char.isDigit 1
  let third ←
    if isOctal c && second.all isOctal && !second.isEmpty then takeChars isOctal 1 else pure []
  -- Three octal digits are a character; anything else is the number of a group.
  if !third.isEmpty then
    let n := octalValue (c :: second ++ third)
    if n ≤ 0o377 then pure (.char n) else fail
  else
    let group := Numeral.digitsValue (c :: second)
    let w ← checkReference group
    pure (.reference group w)

def readEscape (c : Char) : Reader Pattern := do
  match c with
  | 'A' => pure (.place .textStart)
  | 'Z' => pure (.place .textEnd)
  | 'b' => pure (.place .boundary)
  | 'B' => pure (.place .noBoundary)
  | '0' => do
    let more ← takeChars isOctal 2
    pure (.char (octalValue more))
  | _ =>
    match kindOf? c, controlOf? c with
    | some k, _ => pure (.set false [k])
    | _, some n => pure (.char n)
    | none, none =>
      match ← readCodedChar? c with
      | some n => pure (.char n)
      | none =>
        if c.isDigit then readNumberEscape c
        else if isAsciiLetter c then fail
        else pure (.char c.toNat)

/-- The first of two ends of a range. -/
def rangeEnd? : SetItem → Option Nat
  | .char n => some n
  | _ => none

/-- A member of a set that begins with the given mark. -/
def readSetMember : Mark → Reader SetItem
  | .escaped c => readSetEscape c
  | .plain c => pure (.char c.toNat)

/-- The members of a set up to its closing bracket. -/
def readSetItems : Nat → List SetItem → Reader (List SetItem)
  | 0, _ => fail
  | fuel + 1, items => do
    match ← next with
    | none => fail
    | some m =>
      -- A bracket that stands first is a member of the set.
      if m = .plain ']' ∧ !items.isEmpty then pure items
      else
        let first ← readSetMember m
        if ← accept '-' then
          match ← next with
          | none => fail
          | some (.plain ']') => pure (items ++ [first, .char '-'.toNat])
          | some m =>
            let second ← readSetMember m
            match rangeEnd? first, rangeEnd? second with
            | some a, some b =>
              if b < a then fail else readSetItems fuel (items ++ [.range a b])
            | _, _ => fail
        else readSetItems fuel (items ++ [first])

/-- No repetition count may reach this one. -/
def countLimit : Nat := 4294967295

/-- A repetition count. No digits are the count zero. -/
def readCount (digits : Chars) : Reader Nat := do
  if Numeral.maxDigits < digits.length then throw (.countTooLong digits.length)
  else if countLimit ≤ Numeral.digitsValue digits then throw .countTooLarge
  else pure (Numeral.digitsValue digits)

/-- The bounds of a repetition behind an opening brace; nothing if the brace stands for itself. -/
def readBounds? : Reader (Option (Nat × Option Nat)) := do
  let start ← get
  if (← peek) = some (.plain '\x7d') then pure none
  else
    let low ← takeChars Char.isDigit start.input.length
    let comma ← accept ','
    let high ← if comma then takeChars Char.isDigit start.input.length else pure low
    if !(← accept '\x7d') then
      set start
      pure none
    else
      let least ← readCount low
      if high.isEmpty then pure (some (least, none))
      else
        let most ← readCount high
        if most < least then fail else pure (some (least, some most))

/-- Whether the text may name a group. -/
def isGroupName (s : Chars) : Bool :=
  match s with
  | [] => false
  | c :: r => isWordChar c && !isDecimalDigit c && r.all isWordChar

def flagOf? (c : Char) : Option Flags :=
  match c with
  | 'i' => some { ignoreCase := true }
  | 'm' => some { multiline := true }
  | 's' => some { dotAll := true }
  | 'x' => some { verbose := true }
  | 'a' => some { ascii := true }
  | 'u' => some { unicode := true }
  | 't' => some { loopless := true }
  | _ => none

/-- The switches that are turned on, beginning with the letter `c`, and the character after them. -/
def readFlagsOn : Nat → Flags → Char → Reader (Flags × Char)
  | 0, _, _ => fail
  | fuel + 1, on, c => do
    match flagOf? c with
    | none => fail
    | some f =>
      let on := on.union f
      if on.ascii && on.unicode then fail
      else
        match ← next with
        | some (.plain d) =>
          if d == ')' || d == '-' || d == ':' then pure (on, d) else readFlagsOn fuel on d
        | _ => fail

/-- The switches that are turned off, beginning with the letter `c`, up to a colon. -/
def readFlagsOff : Nat → Flags → Char → Reader Flags
  | 0, _, _ => fail
  | fuel + 1, off, c => do
    match flagOf? c with
    | none => fail
    | some f =>
      if f.ascii || f.unicode then fail
      else
        let off := off.union f
        match ← next with
        | some (.plain ':') => pure off
        | some (.plain d) => readFlagsOff fuel off d
        | _ => fail

/-- What follows an opening parenthesis and a question mark. -/
inductive GroupHead where
  | capture (name : Option Chars)
  | plain (on off : Flags)
  | atomic
  | look (behind negated : Bool)
  | condition (group : Nat)
  | reference (p : Pattern)
  | nothing
  | flags (on : Flags)

/-- Reads switches that begin with the letter `c`. -/
def readFlagGroup (c : Char) : Reader GroupHead := do
  let fuel := (← get).input.length + 2
  let (on, ended) ← if c == '-' then pure (({} : Flags), '-') else readFlagsOn fuel {} c
  if ended == ')' then pure (.flags on)
  else if on.loopless then fail
  else if ended == ':' then pure (.plain on {})
  else
    match ← next with
    | some (.plain d) =>
      let off ← readFlagsOff fuel {} d
      if !off.loopless && (on.inter off).isEmpty then pure (.plain on off) else fail
    | _ => fail

def skipComment : Reader GroupHead := do
  let s ← get
  match s.input.dropWhile fun m => decide (m ≠ .plain ')') with
  | [] => fail
  | _ :: r => set { s with input := r }; pure .nothing

def readCondition : Reader GroupHead := do
  let name ← takeUntil ')'
  let s ← get
  let group ←
    if isGroupName name then
      match s.names.find? fun e => e.1.toList == name with
      | some (_, g) => pure g
      | none => fail
    else
      match Numeral.readInt name with
      | .ok n =>
        if n ≤ 0 || 1073741823 ≤ n then fail
        else
          set { s with asked := s.asked ++ [n.toNat] }
          pure n.toNat
      | .error _ => fail
  if s.behindFrom.isSome then
    let _ ← checkReference group
  pure (.condition group)

/-- Reads what an opening parenthesis and a question mark introduce. -/
def readGroupHead : Reader GroupHead := do
  match ← next with
  | some (.plain 'P') =>
    if ← accept '<' then
      let name ← takeUntil '>'
      if isGroupName name then pure (.capture (some name)) else fail
    else if ← accept '=' then
      let name ← takeUntil ')'
      match (← get).names.find? fun e => e.1.toList == name with
      | some (_, g) => do
        let w ← checkReference g
        pure (.reference (.reference g w))
      | none => fail
    else fail
  | some (.plain ':') => pure (.plain {} {})
  | some (.plain '#') => skipComment
  | some (.plain '=') => pure (.look false false)
  | some (.plain '!') => pure (.look false true)
  | some (.plain '<') =>
    if ← accept '=' then pure (.look true false)
    else if ← accept '!' then pure (.look true true)
    else fail
  | some (.plain '(') => readCondition
  | some (.plain '>') => pure .atomic
  | some (.plain c) => readFlagGroup c
  | _ => fail

def openGroup (name : Option Chars) : Reader Nat := do
  let s ← get
  match name with
  | none => set { s with nextGroup := s.nextGroup + 1 }
  | some n =>
    let n := String.ofList n
    if s.names.any fun e => e.1 == n then fail
    else set { s with nextGroup := s.nextGroup + 1, names := s.names ++ [(n, s.nextGroup)] }
  pure s.nextGroup

def closeGroup (group : Nat) (body : Pattern) : Reader Unit :=
  modify fun s => { s with complete := s.complete ++ [(group, body.width)] }

def isRepeatable : Pattern → Bool
  | .place _ => false
  | .loop _ _ _ _ => false
  | _ => true

/-- Takes the mark behind a quantifier that says how greedy it is. -/
def readGreed : Reader Greed := do
  if ← accept '?' then pure .lazy
  else if ← accept '+' then pure .possessive
  else pure .greedy

/-- Puts a quantifier behind the last part. -/
def addLoop (parts : List Pattern) (least : Nat) (most : Option Nat) : Reader (List Pattern) := do
  match parts.reverse with
  | [] => fail
  | p :: before =>
    if !isRepeatable p then fail
    else pure (before.reverse ++ [.loop least most (← readGreed) p])

mutual

/-- Alternatives up to a closing parenthesis or the end. `nested` says whether they stand inside a
group. -/
def readAlt : Nat → Bool → Bool → Reader Pattern
  | 0, _, _ => fail
  | fuel + 1, verbose, nested => do
    let first ← readSeq fuel verbose (!nested) []
    readMore fuel verbose nested [first]

/-- The alternatives after those read so far. -/
def readMore : Nat → Bool → Bool → List Pattern → Reader Pattern
  | 0, _, _, _ => fail
  | fuel + 1, verbose, nested, choices => do
    if ← accept '|' then
      let s ← get
      -- The alternative before may have set the switches of the whole pattern.
      let verbose := if nested then verbose else s.flags.verbose
      let p ← readSeq fuel verbose false []
      readMore fuel verbose nested (choices ++ [p])
    else
      match choices with
      | [p] => pure p
      | _ => pure (.alt choices)

/-- Parts one after another, up to a bar, a closing parenthesis or the end. `first` says whether the
switches of the whole pattern may still be set. -/
def readSeq : Nat → Bool → Bool → List Pattern → Reader Pattern
  | 0, _, _, _ => fail
  | fuel + 1, verbose, first, parts => do
    match ← peek with
    | none => pure (.seq parts)
    | some (.plain '|') => pure (.seq parts)
    | some (.plain ')') => pure (.seq parts)
    | some m =>
      let _ ← next
      match m with
      | .escaped c =>
        let p ← readEscape c
        readSeq fuel verbose first (parts ++ [p])
      | .plain c =>
        if verbose && (c == ' ' || (decide (9 ≤ c.toNat) && decide (c.toNat ≤ 13))) then
          readSeq fuel verbose first parts
        else if verbose && c == '#' then
          let s ← get
          set { s with input := (s.input.dropWhile fun m => decide (m ≠ Mark.plain '\n')).drop 1 }
          readSeq fuel verbose first parts
        else
          match c with
          | '[' =>
            let negated ← accept '^'
            let items ← readSetItems (fuel + 1) []
            readSeq fuel verbose first (parts ++ [.set negated items])
          | '?' => addLoop parts 0 (some 1) >>= readSeq fuel verbose first
          | '*' => addLoop parts 0 none >>= readSeq fuel verbose first
          | '+' => addLoop parts 1 none >>= readSeq fuel verbose first
          | '\x7b' =>
            match ← readBounds? with
            | none => readSeq fuel verbose first (parts ++ [.char c.toNat])
            | some (least, most) => addLoop parts least most >>= readSeq fuel verbose first
          | '.' => readSeq fuel verbose first (parts ++ [.any])
          | '^' => readSeq fuel verbose first (parts ++ [.place .lineStart])
          | '$' => readSeq fuel verbose first (parts ++ [.place .lineEnd])
          | '(' =>
            let head ← if ← accept '?' then readGroupHead else pure (.capture none)
            match head with
            | .flags on =>
              if !first || !parts.isEmpty then fail
              else
                modify fun s => { s with flags := s.flags.union on }
                readSeq fuel (← get).flags.verbose first parts
            | .nothing => readSeq fuel verbose first parts
            | .reference p => readSeq fuel verbose first (parts ++ [p])
            | _ =>
              let p ← readGroup fuel verbose head
              readSeq fuel verbose first (parts ++ [p])
          | _ => readSeq fuel verbose first (parts ++ [.char c.toNat])

/-- The inside of a group with the given head, and its closing parenthesis. -/
def readGroup : Nat → Bool → GroupHead → Reader Pattern
  | 0, _, _ => fail
  | fuel + 1, verbose, head => do
    match head with
    | .capture name =>
      let group ← openGroup name
      let body ← readAlt fuel verbose true
      expect ')'
      closeGroup group body
      pure (.group (some group) {} {} body)
    | .plain on off =>
      let body ← readAlt fuel ((verbose || on.verbose) && !off.verbose) true
      expect ')'
      pure (.group none on off body)
    | .atomic =>
      let body ← readAlt fuel verbose true
      expect ')'
      pure (.atomic body)
    | .look behind negated =>
      -- Inside a look behind only groups from before it may be referred to; the outermost one
      -- counts.
      let outer := (← get).behindFrom
      if behind && outer.isNone then
        modify fun s => { s with behindFrom := some s.nextGroup }
      let body ← readAlt fuel verbose true
      if behind && outer.isNone then
        modify fun s => { s with behindFrom := none }
      expect ')'
      pure (.look behind negated body)
    | .condition group =>
      let yes ← readSeq fuel verbose false []
      let no ← if ← accept '|' then some <$> readSeq fuel verbose false [] else pure none
      expect ')'
      pure (.condition group yes no)
    | _ => fail

end

/-- No look behind may go back further. -/
def lookLimit : Nat := 4294967295

mutual

/-- Whether every look behind has one width, which is within the limit. -/
def looksFixed : Pattern → Bool
  | .look behind _ body =>
    (!behind || (decide (body.width.1 ≤ lookLimit) && decide (body.width.1 = body.width.2)))
      && looksFixed body
  | .seq parts => allFixed parts
  | .alt choices => allFixed choices
  | .group _ _ _ body => looksFixed body
  | .loop _ _ _ body => looksFixed body
  | .atomic body => looksFixed body
  | .condition _ yes no =>
    looksFixed yes && (match no with
      | some n => looksFixed n
      | none => true)
  | _ => true

def allFixed : List Pattern → Bool
  | [] => true
  | p :: r => looksFixed p && allFixed r

end

mutual

def repeats : Pattern → Bool
  | .loop _ _ _ _ => true
  | .look _ _ body => repeats body
  | .seq parts => anyRepeats parts
  | .alt choices => anyRepeats choices
  | .group _ _ _ body => repeats body
  | .atomic body => repeats body
  | .condition _ yes no =>
    repeats yes || (match no with
      | some n => repeats n
      | none => false)
  | _ => false

def anyRepeats : List Pattern → Bool
  | [] => false
  | p :: r => repeats p || anyRepeats r

end

/-- A pattern with its switches and the number of its groups. -/
structure Regex where
  pattern : Pattern
  flags : Flags
  groups : Nat
  deriving Repr, Inhabited

def parse (text : Chars) : Except PatternError Regex :=
  match marks? text with
  | none => .error .malformed
  | some ms =>
    match (readAlt (4 * ms.length + 8) false false).run { input := ms } with
    | .error e => .error e
    | .ok (p, s) =>
      if s.flags.ascii && s.flags.unicode then .error .alphabetClash
      else if !s.input.isEmpty then .error .malformed
      -- A condition may ask for a later group, so that its number is checked at the end.
      else if s.asked.any fun g => decide (s.nextGroup ≤ g) then .error .malformed
      else if looksFixed p && !(s.flags.loopless && repeats p) then .ok ⟨p, s.flags, s.nextGroup - 1⟩
      else .error .malformed

end TrackerHub.Regex
