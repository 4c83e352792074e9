import TrackerHub.Yaml.Kind

/-! # Writing sections

A document of named sections, each with named texts, is written in blocks: names in order, two
spaces of indentation, lines folded behind column 80, and only ASCII characters. A text is written
plain where it reads back as a text; else between single quotes; else, with escapes, between
double quotes. A name that is empty, long or of several lines is marked by a question mark and
its value by a colon on a line of its own.
-/
namespace TrackerHub.Yaml.Write
open TrackerHub.Text

inductive Style where
  | plain
  | single
  | double
  deriving Repr, DecidableEq

/-- The column behind which lines are folded. -/
def lineWidth : Nat := 80

/-- The greatest length of a name that stands before its colon. -/
def longestName : Nat := 122

def isLineEnd (c : Char) : Bool := c == '\n' || c == '\x85' || c == '\u2028' || c == '\u2029'

def isGap (c : Char) : Bool := isLineEnd c || c == '\x00' || c == ' ' || c == '\t' || c == '\r'

def atGap (s : Chars) : Bool := s.head?.all isGap

/-- Whether the character needs no escape between single quotes. -/
def isSimple (c : Char) : Bool := c == '\n' || (decide (0x20 ≤ c.toNat) && decide (c.toNat ≤ 0x7E))

/-- Whether a mark inside a text, behind the character `before`, keeps it from being plain. -/
def marksInside : Char → Chars → Bool
  | _, [] => false
  | before, c :: r =>
    (c == ':' && atGap r) || (c == '#' && isGap before) || marksInside c r

/-- Whether marks keep a text from being plain. -/
def hasMarks : Chars → Bool
  | [] => false
  | c :: r =>
    startsWith ['-', '-', '-'] (c :: r) || startsWith ['.', '.', '.'] (c :: r)
      || "#,[]\x7b\x7d&*!|>'\"%@`".toList.contains c
      || ((c == '?' || c == ':' || c == '-') && atGap r)
      || marksInside c r

/-- Whether a space and the end of a line stand side by side, in the order that `p` and `q` give. -/
def hasPair (p q : Char → Bool) : Chars → Bool
  | a :: b :: r => (p a && q b) || hasPair p q (b :: r)
  | _ => false

/-- Whether the text may stand between single quotes. -/
def allowsSingle (s : Chars) : Bool :=
  let isSpace := fun (c : Char) => c == ' '
  s.all isSimple && !hasPair isLineEnd isSpace s && !hasPair isSpace isLineEnd s

/-- Whether the text may be written plain. -/
def allowsPlain (s : Chars) : Bool :=
  decide (kindOfPlain s = .text) && s.all isSimple && !s.any isLineEnd && !hasMarks s
    && s.head? != some ' ' && s.getLast? != some ' '

def styleOf (s : Chars) : Style :=
  if allowsPlain s then .plain else if allowsSingle s then .single else .double

def newLine (indent : Nat) : Chars := '\n' :: List.replicate indent ' '

/-- The inside of a plain or single-quoted text from a column on: quotes are doubled, line ends
are written twice, and a single space behind the line width becomes a new line. `before` is the
character before, if there is one. -/
def foldLines (quoted split : Bool) (indent : Nat) : Option Char → Nat → Chars → Chars
  | _, _, [] => []
  | before, column, c :: r =>
    if c == ' ' then
      let alone := before.isSome && before != some ' ' && r.head?.any (· != ' ')
      if alone && split && decide (lineWidth < column) then
        newLine indent ++ foldLines quoted split indent (some c) indent r
      else ' ' :: foldLines quoted split indent (some c) (column + 1) r
    else if c == '\n' then
      -- The first of several line ends is written twice, since one alone is read as a space.
      let breaks := if before == some '\n' then ['\n'] else ['\n', '\n']
      let pad := if r.head? == some '\n' then [] else List.replicate indent ' '
      breaks ++ pad ++ foldLines quoted split indent (some c) pad.length r
    else if c == '\'' && quoted then
      '\'' :: '\'' :: foldLines quoted split indent (some c) (column + 2) r
    else c :: foldLines quoted split indent (some c) (column + 1) r

/-- The letters that stand for characters behind a backslash. -/
def shortEscapes : List (Char × Char) := [
  ('\x00', '0'), ('\x07', 'a'), ('\x08', 'b'), ('\t', 't'), ('\n', 'n'), ('\x0b', 'v'), ('\x0c', 'f'),
  ('\r', 'r'), ('\x1b', 'e'), ('"', '"'), ('\\', '\\'), ('\x85', 'N'), ('\u00a0', '_'),
  ('\u2028', 'L'), ('\u2029', 'P')]

def isEscaped (c : Char) : Bool :=
  c == '"' || c == '\\' || !(decide (0x20 ≤ c.toNat) && decide (c.toNat ≤ 0x7E))

def escape (c : Char) : Chars :=
  let upper := fun (s : Chars) => s.map Char.toUpper
  match shortEscapes.find? fun e => e.1 == c with
  | some (_, letter) => ['\\', letter]
  | none =>
    if c.toNat ≤ 0xFF then '\\' :: 'x' :: upper (hex 2 c.toNat)
    else if c.toNat ≤ 0xFFFF then '\\' :: 'u' :: upper (hex 4 c.toNat)
    else '\\' :: 'U' :: upper (hex 8 c.toNat)

/-- The inside of a double-quoted text from a column on. A line is folded behind a backslash;
`first` says whether the text begins here, `fresh` whether an escape stands before. -/
def escapeLines (split : Bool) (indent : Nat) : Bool → Bool → Nat → Chars → Chars
  | _, _, _, [] => []
  | first, fresh, column, c :: r =>
    let mayFold := split && !first && !r.isEmpty
    if isEscaped c then
      let e := escape c
      let column := column + e.length
      if mayFold && decide (lineWidth < column - 1) then
        -- A space that begins a line is escaped, since it is read as indentation.
        let mark := if r.head? == some ' ' then ['\\'] else []
        e ++ '\\' :: newLine indent ++ mark
          ++ escapeLines split indent false true (indent + mark.length) r
      else e ++ escapeLines split indent false true column r
    else if mayFold && (c == ' ' || fresh) && decide (lineWidth < column) then
      let mark := if c == ' ' then ['\\'] else []
      '\\' :: newLine indent ++ mark
        ++ c :: escapeLines split indent false false (indent + mark.length + 1) r
    else c :: escapeLines split indent false false (column + 1) r

/-- A text in its style; `column` is the one where it begins. -/
def scalar (split : Bool) (indent column : Nat) (s : Chars) : Chars :=
  match styleOf s with
  | .plain => foldLines false split indent none column s
  | .single => '\'' :: foldLines true split indent none (column + 1) s ++ ['\'']
  | .double => '"' :: escapeLines split indent true false (column + 1) s ++ ['"']

/-- Whether a name stands before its colon on one line. -/
def isSimpleName (s : Chars) : Bool :=
  !s.isEmpty && !s.any isLineEnd && decide (s.length ≤ longestName)

/-- An entry of a block: its name, and its value from the column behind the colon on. The flag
tells the value whether the colon begins its line. -/
def entry (indent : Nat) (name : Chars) (value : Bool → Nat → Chars) : Chars :=
  if isSimpleName name then
    let head := scalar false (indent + 2) indent name ++ [':']
    head ++ value false (indent + head.length)
  else
    '?' :: ' ' :: scalar true (indent + 2) (indent + 2) name ++ newLine indent ++ ':'
      :: value true (indent + 1)

def sectionText (texts : List (Chars × Chars)) : Chars :=
  join (newLine 2) (texts.map fun (name, text) =>
    entry 2 name fun _ column => ' ' :: scalar true 4 (column + 1) text)

/-- Whether a text comes before another or is equal to it, character by character. -/
def comesBefore (a b : Chars) : Bool := decide (String.ofList a ≤ String.ofList b)

/-- The entries in the order of their names. -/
def sortByName {α : Type} (entries : List (Chars × α)) : List (Chars × α) :=
  entries.mergeSort fun a b => comesBefore a.1 b.1

def document (sections : List (Chars × List (Chars × Chars))) : Chars :=
  if sections.isEmpty then ['\x7b', '\x7d', '\n']
  else
    join ['\n'] ((sortByName sections).map fun (name, texts) =>
      entry 0 name fun ownLine _ =>
        if texts.isEmpty then [' ', '\x7b', '\x7d']
        else (if ownLine then [' '] else newLine 2) ++ sectionText (sortByName texts)) ++ ['\n']

end TrackerHub.Yaml.Write
