import TrackerHub.Page.Place
import TrackerHub.Text.CharClass.Direction

/-! # The direction of text

An element's text runs to the right or to the left. Its `dir` attribute says which; without one it
runs as the text of the element around it, and on request as its first character with a direction
does.
-/
namespace TrackerHub.Page
open Text (Chars)

inductive Direction where
  | right
  | left
  deriving Repr, DecidableEq, Inhabited

namespace Direction

/-- The direction of the first character that has one. -/
def ofText? (s : Chars) : Option Direction :=
  s.findSome? fun c =>
    if Text.runsRight c then some right
    else if Text.runsLeft c then some left
    else none

/-- What a `dir` attribute says: nothing, a direction, or that the text decides. -/
inductive Said where
  | nothing
  | fixed (d : Direction)
  | byText
  deriving DecidableEq

/-- What the `dir` attribute of a tag says. -/
def said (tag : Tag) : Said :=
  match String.ofList (((tag.attr? "dir".toList).getD []).map Char.toLower) with
  | "ltr" => .fixed right
  | "rtl" => .fixed left
  | "auto" => .byText
  | _ => .nothing

/-- The elements whose text does not decide for the element around them. -/
def isolated : List String := ["bdi", "script", "style", "textarea", "iframe"]

mutual

/-- The direction that the text of a node decides. -/
def ofNode? : Node → Option Direction
  | .text kind s => if kind = .hidden then none else ofText? s
  | .element tag children =>
    if isolated.contains (String.ofList tag.name) || said tag != .nothing then none
    else ofNodes? children

/-- The direction that the text of the first of some nodes decides. -/
def ofNodes? : List Node → Option Direction
  | [] => none
  | n :: rest => (ofNode? n).or (ofNodes? rest)

end

def textTypes : List String := ["text", "search", "tel", "url", "email"]

/-- The text that a field of a form holds, if the element is one with text. -/
def fieldText? (p : Place) : Option Chars :=
  match String.ofList p.tag.name with
  | "textarea" => some (p.children.filterMap fun n =>
      match n with
      | .text kind s => if kind = .hidden then none else some s
      | .element _ _ => none).flatten
  | "input" =>
    let type := ((p.tag.attr? "type".toList).getD []).map Char.toLower
    if textTypes.contains (String.ofList type) then some ((p.tag.attr? "value".toList).getD [])
    else none
  | _ => none

/-- The direction that an element decides by itself. `root` is the number of the page's root. -/
def own? (root : Nat) (p : Place) : Option Direction :=
  let isRoot := p.tag.id == root
  let last : Option Direction := if isRoot then some right else none
  match said p.tag with
  | .fixed d => some d
  | .nothing =>
    if isRoot then some right
    else if p.tag.name == "input".toList
        && ((p.tag.attr? "type".toList).getD []).map Char.toLower == "tel".toList then some right
    else if p.tag.name == "bdi".toList then ofNodes? p.children
    else none
  | .byText =>
    match fieldText? p with
    | some [] => last
    | some s => some ((ofText? s).getD right)
    | none => (ofNodes? p.children).or last

/-- The direction of an element: what it or the nearest element around it decides. -/
def of? (root : Nat) (p : Place) : Option Direction :=
  (p :: p.ancestors).findSome? (own? root)

end Direction

end TrackerHub.Page
