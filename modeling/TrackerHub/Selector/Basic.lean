import TrackerHub.Page.Direction

/-! # Selectors

A selector is a list of tests that an element has to pass. A test may look at the element itself or
at the elements before and below it, which then have selectors of their own. A list of selectors
stands for its alternatives.
-/
namespace TrackerHub

open Text (Chars)

namespace Selector

inductive Combinator where
  | descendant
  | child
  | sibling
  | adjacent
  deriving Repr, DecidableEq, Inhabited

inductive Comparison where
  | equals
  | startsWith
  | endsWith
  | contains
  | hasWord
  | startsDashed
  deriving Repr, DecidableEq, Inhabited

/-- A test of an attribute's value; `anyCase` tells whether the case of letters does not count. -/
structure ValueTest where
  how : Comparison
  value : Chars
  anyCase : Bool
  deriving Repr, DecidableEq, Inhabited

/-- Which positions among the siblings count: `step * n + offset` for some natural number `n`, or
`offset` alone if there is no step. -/
structure Position where
  step : Option Int
  offset : Int
  fromEnd : Bool
  deriving Repr, DecidableEq, Inhabited

/-- A test that depends on the page and has no parameter. -/
inductive State where
  | root
  | scope
  | empty
  | defined
  /-- A text field that shows its placeholder. -/
  | blankContent
  /-- The first submit button of its form. -/
  | defaultButton
  /-- A radio button in a group without a checked one. -/
  | uncheckedGroup
  | inRange
  | outOfRange
  deriving Repr, DecidableEq, Inhabited

end Selector

mutual

/-- A selector: nothing matches it, or what passes all its tests. -/
inductive Selector where
  | never
  | all (tests : List Selector.Test)

inductive Selector.Test where
  /-- The element's name, after a name space unless none is written. -/
  | name (space : Option Chars) (name : Chars)
  | id (id : Chars)
  | cls (name : Chars)
  | attr (name : Chars) (value : Option Selector.ValueTest)
  | state (s : Selector.State)
  /-- The element's text, or a piece of its own text, has one of the parts. -/
  | text (own : Bool) (parts : List Chars)
  | lang (ranges : List Chars)
  | direction (d : Page.Direction)
  | anyOf (alternatives : List Selector)
  | noneOf (alternatives : List Selector)
  /-- The position among the siblings of the same name, or among those that match `among`. -/
  | nth (position : Selector.Position) (sameName : Bool) (among : List Selector)
  /-- An element before or around this one matches. -/
  | behind (how : Selector.Combinator) (other : Selector)
  /-- An element after or inside this one matches. -/
  | ahead (how : Selector.Combinator) (other : Selector)

end

namespace Selector

instance : Inhabited Selector := ⟨.never⟩

inductive Fault where
  | malformed
  /-- It names a part of a page that is no element. -/
  | unsupported
  deriving Repr, DecidableEq, Inhabited

end Selector

end TrackerHub
