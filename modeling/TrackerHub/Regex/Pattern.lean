/-! # Patterns

A pattern describes texts by characters, classes, alternatives, repetitions and references to what
its groups have matched.
-/
namespace TrackerHub.Regex

structure Flags where
  ignoreCase : Bool := false
  multiline : Bool := false
  dotAll : Bool := false
  verbose : Bool := false
  ascii : Bool := false
  unicode : Bool := false
  /-- Refuses repetitions; a switch of whole patterns only. -/
  loopless : Bool := false
  deriving Repr, DecidableEq, Inhabited

namespace Flags

def union (a b : Flags) : Flags :=
  ⟨a.ignoreCase || b.ignoreCase, a.multiline || b.multiline, a.dotAll || b.dotAll,
   a.verbose || b.verbose, a.ascii || b.ascii, a.unicode || b.unicode,
   a.loopless || b.loopless⟩

def inter (a b : Flags) : Flags :=
  ⟨a.ignoreCase && b.ignoreCase, a.multiline && b.multiline, a.dotAll && b.dotAll,
   a.verbose && b.verbose, a.ascii && b.ascii, a.unicode && b.unicode,
   a.loopless && b.loopless⟩

def diff (a b : Flags) : Flags :=
  ⟨a.ignoreCase && !b.ignoreCase, a.multiline && !b.multiline, a.dotAll && !b.dotAll,
   a.verbose && !b.verbose, a.ascii && !b.ascii, a.unicode && !b.unicode,
   a.loopless && !b.loopless⟩

def isEmpty (f : Flags) : Bool := decide (f = {})

/-- The switches inside a group that turns some on and some off; a choice of alphabet replaces the
one outside. -/
def inside (outer on off : Flags) : Flags :=
  let base := if on.ascii || on.unicode then { outer with ascii := false, unicode := false } else outer
  (base.union on).diff off

end Flags

inductive CharKind where
  | digit
  | blank
  | word
  deriving Repr, DecidableEq, Inhabited

inductive SetItem where
  | char (c : Nat)
  | range (first last : Nat)
  | kind (k : CharKind) (negated : Bool)
  deriving Repr, DecidableEq, Inhabited

/-- A condition on a place in the text. -/
inductive Place where
  | lineStart
  | lineEnd
  | textStart
  | textEnd
  | boundary
  | noBoundary
  deriving Repr, DecidableEq, Inhabited

/-- How a repetition chooses between another round and going on. -/
inductive Greed where
  | greedy
  | lazy
  | possessive
  deriving Repr, DecidableEq, Inhabited

inductive Pattern where
  | char (c : Nat)
  | any
  | set (negated : Bool) (items : List SetItem)
  | place (p : Place)
  | seq (parts : List Pattern)
  | alt (choices : List Pattern)
  | group (index : Option Nat) (on off : Flags) (body : Pattern)
  | loop (least : Nat) (most : Option Nat) (greed : Greed) (body : Pattern)
  | look (behind negated : Bool) (body : Pattern)
  | atomic (body : Pattern)
  | reference (group : Nat) (width : Nat × Nat)
  | condition (group : Nat) (yes : Pattern) (no : Option Pattern)
  deriving Repr, Inhabited

namespace Pattern

/-- No width is counted beyond this one. -/
def widthLimit : Nat := Nat.pow 2 64

mutual

/-- The least and the greatest number of characters that the pattern matches. -/
def width : Pattern → Nat × Nat
  | .char _ => (1, 1)
  | .any => (1, 1)
  | .set _ _ => (1, 1)
  | .place _ => (0, 0)
  | .seq parts => seqWidth parts
  | .alt choices => altWidth choices
  | .group _ _ _ body => width body
  | .loop least most _ body =>
    let (low, high) := width body
    (min (low * least) widthLimit,
      match most with
      | some m => min (high * m) widthLimit
      | none => if high = 0 then 0 else widthLimit)
  | .look _ _ _ => (0, 0)
  | .atomic body => width body
  | .reference _ w => w
  | .condition _ yes no =>
    let (low, high) := width yes
    match no with
    | some n => (min low (width n).1, max high (width n).2)
    | none => (0, high)

def seqWidth : List Pattern → Nat × Nat
  | [] => (0, 0)
  | p :: r =>
    let (a, b) := width p
    let (c, d) := seqWidth r
    (min (a + c) widthLimit, min (b + d) widthLimit)

def altWidth : List Pattern → Nat × Nat
  | [] => (widthLimit, 0)
  | p :: r =>
    let (a, b) := width p
    let (c, d) := altWidth r
    (min a c, max b d)

end

end Pattern

end TrackerHub.Regex
