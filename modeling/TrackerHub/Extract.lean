import TrackerHub.Definition.Basic
import TrackerHub.Selector.Match
import TrackerHub.Selector.Read

/-! # Values from pages

A block of a definition finds a value under a place of a page: a fixed text, or the text or an
attribute of the first element that its selector matches, cleaned up by filters.
-/
namespace TrackerHub

open Text (Chars)
open Page (Place)

inductive ExtractError where
  | selector (fault : Selector.Fault)
  | missingAttribute (name : String)
  | noCase (block : String)
  | filter (error : Filter.FilterError)
  deriving Repr, Inhabited

namespace ExtractError

/-- The wording of an error; that of a selector's fault is not fixed. -/
def message : ExtractError → String
  | selector _ => ""
  | missingAttribute name =>
    "Requested attribute " ++ String.ofList (Text.quoted name.toList) ++ " doesn't exist"
  | noCase block => "None of the cases match for " ++ block
  | filter e => e.message

end ExtractError

def readSelectors (s : String) : Except ExtractError (List Selector) :=
  (Selector.read s.toList).mapError .selector

namespace Block

/-- Whether the block gives a value at a place: it has a fixed text, or its selector matches an
element below. -/
def isFound (b : Block) (p : Place) : Except ExtractError Bool :=
  if !b.text.isEmpty then .ok true
  else if b.isEmpty then .ok false
  else (readSelectors b.selector).map fun l => (p.selectOne? l).isSome

def filtered (b : Block) (value : Chars) (now : Time.DateTime) : Except ExtractError String :=
  ((Filter.runAll b.filters value now).mapError .filter).map String.ofList

/-- The element alone, without the elements that the block removes. -/
def trimmed (b : Block) (p : Place) : Except ExtractError Place :=
  if b.remove.isEmpty then .ok p
  else (readSelectors b.remove).map fun l =>
    -- The copy is cut off from the page, so that nothing around the element is matched.
    let copy := p.alone
    let gone := (copy.select l).map fun q => q.tag.id
    { copy with children := Page.Node.withoutOf (fun id => gone.contains id) copy.children }

/-- The value of the first case that the element, or one below it, matches. -/
def caseValue (b : Block) (p : Place) : Named String → Except ExtractError String
  | [] => .error (.noCase b.label)
  | (pattern, value) :: rest => do
    let l ← readSelectors pattern
    if p.isMatch l || (p.selectOne? l).isSome then return value
    caseValue b p rest

/-- The value that the block takes from an element. -/
def valueOf (b : Block) (p : Place) (now : Time.DateTime) : Except ExtractError String := do
  if !b.text.isEmpty then b.filtered b.text.toList now
  else
    let p ← b.trimmed p
    if !b.cases.isEmpty then
      let v ← b.caseValue p b.cases
      b.filtered v.toList now
    else if !b.attr.isEmpty then
      match p.tag.attr? b.attr.toList with
      | none => .error (.missingAttribute b.attr)
      | some v => b.filtered v now
    else b.filtered (Text.trim p.text) now

/-- The value that the block finds under a place. It is empty if nothing matches the selector. -/
def find (b : Block) (p : Place) (now : Time.DateTime) : Except ExtractError String := do
  if !b.text.isEmpty then b.filtered b.text.toList now
  else if b.isEmpty then b.valueOf p now
  else
    let l ← readSelectors b.selector
    match p.selectOne? l with
    | none => return ""
    | some q => b.valueOf q now

end Block

namespace Page.Place

/-- The nearest sibling before an element that matches the selector. The selector is read only if
there is such a sibling at all. -/
def previousMatch? (p : Place) (selector : String) : Except ExtractError (Option Place) :=
  match p.previous with
  | [] => .ok none
  | siblings => (readSelectors selector).map fun l => siblings.find? fun q => q.isMatch l

end Page.Place

end TrackerHub
