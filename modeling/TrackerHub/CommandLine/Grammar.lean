import TrackerHub.Text.CharClass.Digit
import TrackerHub.Text.Chars

/-! # Reading command lines

A command line is a row of words. A grammar says which options may stand in it, and which slots take
its other words. A word that begins with a dash is an option, unless it is a dash alone, a negative
number or holds a space. An option may be cut short as long as no other one begins the same way, and
its value may follow it behind an equals sign. Two dashes alone end the options: all words behind them
are arguments.
-/
namespace TrackerHub.CommandLine
open TrackerHub.Text

/-- Why a command line is not carried out: it asks for help, or it is wrong. -/
inductive Refusal where
  | help
  | wrong
  deriving Repr, DecidableEq, Inhabited

/-- What an option does to what has been read. One that takes a value may refuse it. -/
inductive Effect (σ : Type) where
  | mark (f : σ → σ)
  | take (f : String → σ → Option σ)

/-- An option with its name, dashes included. -/
structure Switch (σ : Type) where
  name : String
  effect : Effect σ

inductive Extent where
  | one
  | many
  /-- One argument and all that follows it, options included. -/
  | rest
  deriving Repr, DecidableEq, Inhabited

/-- A slot for words. Filling it also tells whether some of its words are left over. -/
structure Slot (σ : Type) where
  extent : Extent
  fill : List String → σ → Except Refusal (σ × Bool)

/-- A grammar. Every grammar has the options `-h` and `--help` besides its own. -/
structure Grammar (σ : Type) where
  switches : List (Switch σ)
  slots : List (Slot σ)

inductive Mark (σ : Type) where
  | argument
  | divider
  | unknown
  | help
  /-- The option `-h` with a value. -/
  | valuedHelp
  /-- The option `-h` with more letters behind it. -/
  | cluster (tail : Chars)
  | switch (s : Switch σ) (value : Option String)

def Mark.isOption {σ : Type} : Mark σ → Bool
  | argument | divider => false
  | _ => true

def Mark.isDivider {σ : Type} : Mark σ → Bool
  | divider => true
  | _ => false

/-- Whether a word is a negative number. A newline may stand behind it. -/
def isNegativeNumber (word : Chars) : Bool :=
  let digits (s : Chars) : Bool := s.all isDecimalDigit
  let word := if endsWith ['\n'] word then word.dropLast else word
  match word with
  | '-' :: r =>
    match cut? ['.'] r with
    | none => !r.isEmpty && digits r
    | some (whole, part) => digits whole && !part.isEmpty && digits part
  | _ => false

/-- What the letters behind `-h` come to. -/
def clusterRefusal : Chars → Refusal
  | '-' :: _ => .wrong
  | 'h' :: '=' :: _ => .wrong
  | 'h' :: c :: r => clusterRefusal (c :: r)
  | _ => .help

namespace Grammar

variable {σ : Type} (g : Grammar σ)

/-- The marks of the long options that begin with a text. -/
def candidates (start : Chars) (value : Option String) : List (Mark σ) :=
  (if startsWith start "--help".toList then
    [if value.isSome then Mark.valuedHelp else Mark.help] else [])
    ++ (g.switches.filter fun s => startsWith start s.name.toList).map fun s => .switch s value

/-- The mark of an option that is written in full. -/
def inFull? (name : Chars) (value : Option String) : Option (Mark σ) :=
  if name == "-h".toList || name == "--help".toList then
    some (if value.isSome then .valuedHelp else .help)
  else (g.switches.find? fun s => s.name.toList == name).map fun s => .switch s value

/-- The mark of a word that begins with a dash and fits no option. -/
def strange (word : Chars) : Mark σ :=
  if isNegativeNumber word || word.contains ' ' then .argument else .unknown

/-- The mark of a word other than two dashes alone. -/
def markOf (word : String) : Except Refusal (Mark σ) :=
  let w := word.toList
  let parts := cut? ['='] w
  let name := (parts.map (·.1)).getD w
  let value := parts.map fun p => String.ofList p.2
  if w.head? != some '-' || w.length == 1 then .ok .argument
  else
    match g.inFull? w none <|> (if value.isSome then g.inFull? name value else none) with
    | some m => .ok m
    | none =>
      match dropStart? "-h".toList w with
      | some tail => .ok (.cluster tail)
      | none =>
        match if startsWith "--".toList w then g.candidates name value else [] with
        | [] => .ok (strange w)
        | [m] => .ok m
        | _ => .error .wrong

/-- The words with their marks. Behind two dashes alone all are arguments. -/
def scan : List String → Except Refusal (List (String × Mark σ))
  | [] => .ok []
  | w :: ws =>
    if w == "--" then .ok ((w, .divider) :: ws.map fun v => (v, .argument))
    else do
      let m ← g.markOf w
      return (w, m) :: (← scan ws)

end Grammar

/-- How many of some words a slot takes, if it can be filled from them. -/
def Extent.count? {σ : Type} (e : Extent) (words : List (String × Mark σ)) : Option Nat :=
  match e with
  | .many => some (words.takeWhile fun w => !w.2.isOption).length
  | _ =>
    let dividers := (words.takeWhile fun w => w.2.isDivider).length
    match words.drop dividers with
    | (_, .argument) :: more =>
      some (match e with
        | .one => dividers + 1 + (more.takeWhile fun w => w.2.isDivider).length
        | _ => words.length)
    | _ => none

/-- What has been read so far, the slots and words that are left, and whether some words are left
over. -/
structure Reading (σ : Type) where
  value : σ
  slots : List (Slot σ)
  words : List (String × Mark σ)
  leftOver : Bool := false

namespace Reading

variable {σ : Type}

def fillSlots (value : σ) (leftOver : Bool) :
    List (Slot σ) → List (String × Mark σ) → Except Refusal (Reading σ)
  | [], words => .ok ⟨value, [], words, leftOver⟩
  | s :: rest, words =>
    match s.extent.count? words with
    | none => .ok ⟨value, s :: rest, words, leftOver⟩
    | some n => do
      let texts := (words.take n).map (·.1)
      let (value, more) ← s.fill (if s.extent = .rest then texts else texts.erase "--") value
      fillSlots value (leftOver || more) rest (words.drop n)

/-- Carries out an option with the words that follow it. -/
def option (value : σ) (following : List (String × Mark σ)) :
    Mark σ → Except Refusal (σ × List (String × Mark σ) × Bool)
  | .help => .error .help
  | .valuedHelp => .error .wrong
  | .cluster tail => .error (clusterRefusal tail)
  | .switch s none =>
    match s.effect, following with
    | .mark f, _ => .ok (f value, following, false)
    | .take f, (v, .argument) :: rest =>
      match f v value with
      | some value => .ok (value, rest, false)
      | none => .error .wrong
    | .take _, _ => .error .wrong
  | .switch s (some v) =>
    match s.effect with
    | .mark _ => .error .wrong
    | .take f =>
      match f v value with
      | some value => .ok (value, following, false)
      | none => .error .wrong
  | _ => .ok (value, following, true)

/-- Takes slots and options in turn. Every step but the last one takes a word, so that `fuel` need
not be greater than their number and one. -/
def finish : Nat → Reading σ → Except Refusal (σ × Bool)
  | 0, _ => .error .wrong
  | fuel + 1, r =>
    match r.words with
    | (_, m) :: following =>
      if m.isOption then do
        let (value, words, more) ← option r.value following m
        finish fuel ⟨value, r.slots, words, r.leftOver || more⟩
      else do
        let after ← fillSlots r.value r.leftOver r.slots r.words
        if !r.words.any fun w => w.2.isOption then
          if after.slots.isEmpty then return (after.value, after.leftOver || !after.words.isEmpty)
          else throw .wrong
        else if after.words.length < r.words.length then finish fuel after
        else
          let words := r.words.dropWhile fun w => !w.2.isOption
          finish fuel { after with words, leftOver := true }
    | [] => do
      let after ← fillSlots r.value r.leftOver r.slots []
      if after.slots.isEmpty then return (after.value, after.leftOver) else throw .wrong

end Reading

/-- Reads words into a value, and tells whether some are left over. -/
def Grammar.read {σ : Type} (g : Grammar σ) (value : σ) (words : List String) :
    Except Refusal (σ × Bool) := do
  let marked ← g.scan words
  Reading.finish (marked.length + 1) ⟨value, g.slots, marked, false⟩

end TrackerHub.CommandLine
