import TrackerHub.Regex.Parse
import TrackerHub.Text.CharClass.Fold

/-! # Matching

Patterns are matched by trying, from left to right, each way in which a part can match before
going on with the rest. A repetition goes on as long as it makes progress, so that matching ends.
-/
namespace TrackerHub.Regex
open TrackerHub.Text

def inKind (ascii : Bool) (k : CharKind) (c : Char) : Bool :=
  match k, ascii with
  | .digit, true => c.isDigit
  | .digit, false => isDecimalDigit c
  | .blank, true => c == ' ' || (decide (9 ≤ c.toNat) && decide (c.toNat ≤ 13))
  | .blank, false => isBlank c
  | .word, true => decide (c.toNat < 128) && isWordChar c
  | .word, false => isWordChar c

/-- Whether a character is the given one, under the switches. -/
def sameChar (f : Flags) (expected : Nat) (c : Char) : Bool :=
  if f.ignoreCase then
    (kinOf f.ascii (foldCase f.ascii expected)).contains (foldCase f.ascii c.toNat)
  else c.toNat == expected

def inItem (f : Flags) (c : Char) : SetItem → Bool
  | .char n => sameChar f n c
  | .range a b =>
    if f.ignoreCase then
      ((kinOf f.ascii (foldCase f.ascii c.toNat)).flatMap (capitalsOf f.ascii)).any fun x =>
        decide (a ≤ x) && decide (x ≤ b)
    else decide (a ≤ c.toNat) && decide (c.toNat ≤ b)
  | .kind k negated =>
    let d := if f.ignoreCase then Char.ofNat (foldCase f.ascii c.toNat) else c
    inKind f.ascii k d != negated

def inSet (f : Flags) (negated : Bool) (items : List SetItem) (c : Char) : Bool :=
  items.any (inItem f c) != negated

/-- How far a match has come: the place in the text, and what the groups have matched, the latest
first. -/
structure Progress where
  pos : Nat
  captures : List (Nat × (Nat × Nat)) := []
  deriving Repr, DecidableEq, Inhabited

/-- What a group has matched last. -/
def Progress.capture? (p : Progress) (group : Nat) : Option (Nat × Nat) :=
  (p.captures.find? fun e => e.1 == group).map (·.2)

/-- What is to be done after a part has matched. -/
abbrev Continuation := Progress → Option Progress

def holdsAt (text : Array Char) (f : Flags) (pos : Nat) : Place → Bool
  | .textStart => pos == 0
  | .textEnd => pos == text.size
  | .lineStart => pos == 0 || (f.multiline && text[pos - 1]? == some '\n')
  | .lineEnd =>
    pos == text.size || (pos + 1 == text.size && text[pos]? == some '\n')
      || (f.multiline && text[pos]? == some '\n')
  -- An empty text has neither a boundary nor a place that is none.
  | .boundary => text.size != 0 && wordAt text f pos != wordBefore text f pos
  | .noBoundary => text.size != 0 && wordAt text f pos == wordBefore text f pos
where
  wordAt (text : Array Char) (f : Flags) (pos : Nat) : Bool :=
    (text[pos]?).any (inKind f.ascii .word)
  /-- Whether a word character stands before. -/
  wordBefore (text : Array Char) (f : Flags) (pos : Nat) : Bool :=
    pos != 0 && (text[pos - 1]?).any (inKind f.ascii .word)

def matchOne (text : Array Char) (p : Char → Bool) (s : Progress) (k : Continuation) :
    Option Progress :=
  match text[s.pos]? with
  | some c => if p c then k { s with pos := s.pos + 1 } else none
  | none => none

def roomFor (most : Option Nat) (count : Nat) : Bool :=
  match most with
  | some m => decide (count < m)
  | none => true

/-- As many rounds as possible, then fewer. A round that would begin where the one before began is
not tried. -/
def greedyRounds (body : Progress → Continuation → Option Progress) (least : Nat)
    (most : Option Nat) : Nat → Nat → Option Nat → Progress → Continuation → Option Progress
  | 0, _, _, _, _ => none
  | fuel + 1, count, last, s, k =>
    if count < least then
      body s fun t => greedyRounds body least most fuel (count + 1) last t k
    else if roomFor most count && last != some s.pos then
      match body s fun t => greedyRounds body least most fuel (count + 1) (some s.pos) t k with
      | some r => some r
      | none => k s
    else k s

/-- As few rounds as possible, then more. -/
def lazyRounds (body : Progress → Continuation → Option Progress) (least : Nat)
    (most : Option Nat) : Nat → Nat → Option Nat → Progress → Continuation → Option Progress
  | 0, _, _, _, _ => none
  | fuel + 1, count, last, s, k =>
    if count < least then
      body s fun t => lazyRounds body least most fuel (count + 1) last t k
    else
      match k s with
      | some r => some r
      | none =>
        if roomFor most count && last != some s.pos then
          body s fun t => lazyRounds body least most fuel (count + 1) (some s.pos) t k
        else none

/-- As many rounds as possible, each matched in its first way only. -/
def possessiveRounds (body : Progress → Continuation → Option Progress) (least : Nat)
    (most : Option Nat) : Nat → Nat → Option Nat → Progress → Option Progress
  | 0, _, _, _ => none
  | fuel + 1, count, last, s =>
    if count < least then
      match body s some with
      | some t => possessiveRounds body least most fuel (count + 1) last t
      | none => none
    else if roomFor most count && last != some s.pos then
      match body s some with
      | some t => possessiveRounds body least most fuel (count + 1) (some s.pos) t
      | none => some s
    else some s

/-- Whether the text at `pos` repeats the text from `a` to `b`. -/
def repeatsAt (text : Array Char) (f : Flags) (a b pos : Nat) : Bool :=
  (List.range (b - a)).all fun i =>
    match text[a + i]?, text[pos + i]? with
    | some c, some d =>
      if f.ignoreCase then foldCase f.ascii c.toNat == foldCase f.ascii d.toNat else c == d
    | _, _ => false

mutual

/-- Matches a pattern at a place and goes on with `k`; the first way that succeeds is the answer. -/
def matchPattern (text : Array Char) (f : Flags) :
    Pattern → Progress → Continuation → Option Progress
  | .char c, s, k => matchOne text (sameChar f c) s k
  | .any, s, k => matchOne text (fun c => f.dotAll || c != '\n') s k
  | .set negated items, s, k => matchOne text (inSet f negated items) s k
  | .place p, s, k => if holdsAt text f s.pos p then k s else none
  | .seq parts, s, k => matchSeq text f parts s k
  | .alt choices, s, k => matchAlt text f choices s k
  | .group index on off body, s, k =>
    matchPattern text (f.inside on off) body s fun t =>
      match index with
      | some i => k { t with captures := (i, (s.pos, t.pos)) :: t.captures }
      | none => k t
  | .loop least most greed body, s, k =>
    -- Behind the least rounds every round but the last one moves on, so that the fuel is not used
    -- up.
    let fuel := least + 2 * (text.size - s.pos) + 3
    match greed with
    | .greedy => greedyRounds (matchPattern text f body) least most fuel 0 none s k
    | .lazy => lazyRounds (matchPattern text f body) least most fuel 0 none s k
    | .possessive =>
      match possessiveRounds (matchPattern text f body) least most fuel 0 none s with
      | some t => k t
      | none => none
  | .look behind negated body, s, k =>
    -- A look behind has one width, so that its beginning is known.
    let start := if behind then body.width.1 else 0
    let found :=
      if start ≤ s.pos then
        matchPattern text f body { s with pos := s.pos - start } some
      else none
    match found, negated with
    | some t, false => k { t with pos := s.pos }
    | none, true => k s
    | _, _ => none
  | .atomic body, s, k =>
    match matchPattern text f body s some with
    | some t => k t
    | none => none
  | .reference group _, s, k =>
    match s.capture? group with
    | some (a, b) =>
      if repeatsAt text f a b s.pos then k { s with pos := s.pos + (b - a) } else none
    | none => none
  | .condition group yes no, s, k =>
    if (s.capture? group).isSome then matchPattern text f yes s k
    else
      match no with
      | some n => matchPattern text f n s k
      | none => k s

def matchSeq (text : Array Char) (f : Flags) :
    List Pattern → Progress → Continuation → Option Progress
  | [], s, k => k s
  | p :: r, s, k => matchPattern text f p s fun t => matchSeq text f r t k

/-- Matches the first of the patterns with which the rest succeeds. -/
def matchAlt (text : Array Char) (f : Flags) :
    List Pattern → Progress → Continuation → Option Progress
  | [], _, _ => none
  | p :: r, s, k =>
    match matchPattern text f p s k with
    | some t => some t
    | none => matchAlt text f r s k

end

structure Found where
  start : Nat
  stop : Nat
  captures : List (Nat × (Nat × Nat))
  deriving Repr, DecidableEq

namespace Regex

def matchAt? (r : Regex) (text : Array Char) (pos : Nat) : Option Found :=
  (matchPattern text r.flags r.pattern { pos := pos } some).map fun s => ⟨pos, s.pos, s.captures⟩

/-- The leftmost match. -/
def search? (r : Regex) (text : Array Char) : Option Found :=
  (List.range (text.size + 1)).findSome? (r.matchAt? text)

end Regex

def slice (text : Array Char) (a b : Nat) : Chars := (text.toList.drop a).take (b - a)

def Found.whole (m : Found) (text : Array Char) : Chars := slice text m.start m.stop

/-- The characters that a group has matched last. -/
def Found.group? (m : Found) (text : Array Char) (group : Nat) : Option Chars :=
  (m.captures.find? fun e => e.1 == group).map fun e => slice text e.2.1 e.2.2

end TrackerHub.Regex
