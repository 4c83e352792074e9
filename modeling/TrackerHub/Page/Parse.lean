import TrackerHub.Page.Node
import TrackerHub.Page.Token

/-! # From tokens to a page tree

`parse` builds the tree of a page. Missing `html`, `head` and `body` elements are supplied, some start
tags close the element they stand in, and an end tag closes what is open inside its element unless
a part of a table or of the page's frame stands in between. Every source has a tree.
-/
namespace TrackerHub.Page

open Text (Chars)

/-- A page: its top nodes. -/
abbrev Document := List Node

/-- An element whose end was not read yet, with its children so far, the last one first. -/
structure OpenElement where
  tag : Tag
  children : List Node := []

/-- A page that is read only in part. -/
structure Builder where
  /-- The open elements, the innermost first. -/
  stack : List OpenElement := []
  /-- The finished top nodes, the last one first. -/
  done : List Node := []
  nextId : Nat := 1
  /-- The text read since the last tag. -/
  pending : Chars := []
  /-- The number of start tags of the page's frame that were passed over and not closed yet. -/
  passed : Nat := 0
  sawHead : Bool := false
  sawBody : Bool := false

namespace Builder

/-- The elements that have no inside. -/
def voids : List String := [
  "area", "base", "basefont", "br", "col", "frame", "hr", "img", "input", "isindex", "link", "meta",
  "param"]

/-- The elements that the start of another element closes: the open element, then the beginning
ones. -/
def closings : List (String × List String) := [
  ("a", ["a", "fieldset", "table", "td", "th"]),
  ("address", ["dd", "dl", "dt", "form", "li", "ul"]),
  ("b", ["center", "p", "td", "th"]),
  ("big", ["p"]),
  ("caption", ["col", "colgroup", "tbody", "tfoot", "thead", "tr"]),
  ("col", ["col", "colgroup", "tbody", "tfoot", "thead", "tr"]),
  ("colgroup", ["colgroup", "tbody", "tfoot", "thead", "tr"]),
  ("dd", ["dt"]),
  ("dir", ["dd", "dl", "dt", "form", "ul"]),
  ("dl", ["form", "li"]),
  ("dt", ["dd", "dl"]),
  ("font", ["center", "td", "th"]),
  ("form", ["form"]),
  ("h1", ["fieldset", "form", "li", "p", "table"]),
  ("h2", ["fieldset", "form", "li", "p", "table"]),
  ("h3", ["fieldset", "form", "li", "p", "table"]),
  ("h4", ["fieldset", "form", "li", "p", "table"]),
  ("h5", ["fieldset", "form", "li", "p", "table"]),
  ("h6", ["fieldset", "form", "li", "p", "table"]),
  ("head", [
    "a", "abbr", "acronym", "address", "b", "bdo", "big", "blockquote", "body", "br", "center",
    "cite", "code", "dd", "dfn", "dir", "div", "dl", "dt", "em", "fieldset", "font", "form",
    "frameset", "h1", "h2", "h3", "h4", "h5", "h6", "hr", "i", "iframe", "img", "kbd", "li",
    "listing", "map", "menu", "ol", "p", "pre", "q", "s", "samp", "small", "span", "strike",
    "strong", "sub", "sup", "table", "tt", "u", "ul", "var", "xmp"]),
  ("hr", ["form"]),
  ("i", ["center"]),
  ("legend", ["fieldset"]),
  ("li", ["li"]),
  ("link", ["body", "frameset"]),
  ("listing", ["dd", "dl", "dt", "fieldset", "form", "li", "table", "ul"]),
  ("menu", ["dd", "dl", "dt", "form", "ul"]),
  ("ol", ["form"]),
  ("option", ["optgroup", "option"]),
  ("p", [
    "address", "blockquote", "body", "caption", "center", "col", "colgroup", "dd", "dir", "div",
    "dl", "dt", "frameset", "h1", "h2", "h3", "h4", "h5", "h6", "head", "hr", "li", "listing",
    "menu", "ol", "p", "pre", "table", "tbody", "td", "tfoot", "th", "title", "tr", "ul", "xmp"]),
  ("pre", ["dd", "dl", "dt", "fieldset", "form", "li", "table", "ul"]),
  ("s", ["p"]),
  ("script", ["noscript"]),
  ("small", ["p"]),
  ("span", ["td", "th"]),
  ("strike", ["p"]),
  ("style", ["body", "frameset"]),
  ("tbody", ["tbody", "tfoot"]),
  ("td", ["tbody", "td", "tfoot", "th", "tr"]),
  ("tfoot", ["tbody"]),
  ("th", ["tbody", "td", "tfoot", "th", "tr"]),
  ("thead", ["tbody", "tfoot"]),
  ("title", ["body", "frameset"]),
  ("tr", ["tbody", "tfoot", "tr"]),
  ("tt", ["p"]),
  ("u", ["p", "td", "th"]),
  ("ul", ["address", "form", "menu", "ol", "pre"]),
  ("xmp", ["dd", "dl", "dt", "fieldset", "form", "li", "table", "ul"])]

/-- Whether the start of the element `new` closes the open element `old`. -/
def closes (new old : Chars) : Bool :=
  match closings.find? fun e => e.1.toList == old with
  | some (_, news) => news.any fun n => n.toList == new
  | none => false

/-- How firmly an element stays open: an end tag does not close elements firmer than its own. -/
def firmness (name : Chars) : Nat :=
  match String.ofList name with
  | "div" => 150
  | "td" | "th" => 160
  | "tr" => 170
  | "thead" | "tbody" | "tfoot" => 180
  | "table" => 190
  | "head" | "body" => 200
  | "html" => 220
  | _ => 100

def add (b : Builder) (n : Node) : Builder :=
  match b.stack with
  | [] => { b with done := n :: b.done }
  | top :: rest => { b with stack := { top with children := n :: top.children } :: rest }

/-- The kind of the texts at the current place: that of the innermost element which sets one. -/
def kind (b : Builder) : TextKind :=
  (b.stack.findSome? fun e => TextKind.ofElement? e.tag.name).getD .shown

/-- A text as the page keeps it: blanks alone shrink to a line feed if they hold one, else to a
space, except where line breaks count. -/
def shrunk (b : Builder) (s : Chars) : Chars :=
  let keeps := b.stack.any fun e => e.tag.name == "pre".toList || e.tag.name == "textarea".toList
  if keeps || !s.all Token.isBlank then s
  else if s.contains '\n' then ['\n'] else [' ']

/-- Finishes the text read since the last tag. -/
def flush (b : Builder) : Builder :=
  if b.pending.isEmpty then b
  else { b.add (.text b.kind (b.shrunk b.pending)) with pending := [] }

def push (b : Builder) (name : Chars) (attrs : List (Chars × Chars)) : Builder :=
  let b := b.flush
  { b with
    stack := { tag := { id := b.nextId, name, attrs } } :: b.stack
    nextId := b.nextId + 1
    sawHead := b.sawHead || name == "head".toList || name == "body".toList
    sawBody := b.sawBody || name == "body".toList }

def pop (b : Builder) : Builder :=
  let b := b.flush
  match b.stack with
  | [] => b
  | top :: rest => { b with stack := rest }.add (.element top.tag top.children.reverse)

def popMany : Nat → Builder → Builder
  | 0, b => b
  | n + 1, b => popMany n b.pop

def current? (b : Builder) : Option Chars := b.stack.head?.map fun e => e.tag.name

def isOpen (b : Builder) (name : String) : Bool := b.stack.any fun e => e.tag.name == name.toList

/-- Closes the elements that the start of `new` closes. -/
def closeFor (new : Chars) (b : Builder) : Builder :=
  popMany (b.stack.takeWhile fun e => closes new e.tag.name).length b

/-- The elements that belong into the head of a page. -/
def headElements : List String := ["script", "style", "meta", "link", "title", "base"]

/-- Supplies the elements of the page's frame that an element needs around it. -/
def supply (new : Chars) (b : Builder) : Builder :=
  let name := String.ofList new
  if name == "html" then b
  else
    let b := if b.stack.isEmpty then b.push "html".toList [] else b
    if name == "body" || name == "head" then b
    else if b.stack.length ≤ 1 && headElements.contains name then
      if b.sawHead then b else b.push "head".toList []
    else if name == "noframes" || name == "frame" || name == "frameset" then b
    else if b.sawBody || b.isOpen "body" || b.isOpen "head" then b
    else b.push "body".toList []

/-- Whether a start tag is passed over because the page has that part of its frame already. -/
def isMisplaced (name : Chars) (b : Builder) : Bool :=
  match String.ofList name with
  | "html" => !b.stack.isEmpty
  | "head" => b.stack.length != 1
  | "body" => b.isOpen "body"
  | _ => false

/-- The attributes that hold a list of words: the element's name, or `*`, with their names. -/
def wordLists : List (String × List String) := [
  ("*", ["class", "accesskey", "dropzone"]), ("a", ["rel", "rev"]), ("link", ["rel", "rev"]),
  ("td", ["headers"]), ("th", ["headers"]), ("form", ["accept-charset"]), ("object", ["archive"]),
  ("area", ["rel"]), ("icon", ["sizes"]), ("iframe", ["sandbox"]), ("output", ["for"])]

/-- An attribute as the page keeps it: the words of a list stand one space apart. -/
def keptAttr (name : Chars) (a : Chars × Chars) : Chars × Chars :=
  let isList := wordLists.any fun (e, names) =>
    (e == "*" || e.toList == name) && names.any fun n => n.toList == a.1
  if isList then (a.1, Text.join [' '] (Text.words a.2)) else a

def start (name : Chars) (attrs : List (Chars × Chars)) (closed : Bool) (b : Builder) : Builder :=
  let b := supply name (closeFor name b)
  if isMisplaced name b then { b with passed := b.passed + 1 }
  else
    let b := b.push name (attrs.map (keptAttr name))
    if closed || voids.contains (String.ofList name) then b.pop else b

def stop (name : Chars) (b : Builder) : Builder :=
  if b.passed > 0 && ["html", "head", "body"].contains (String.ofList name) then
    { b with passed := b.passed - 1 }
  else if b.stack.any fun e => e.tag.name == name then
    let inner := b.stack.takeWhile fun e => e.tag.name != name
    -- The end tag closes what stands inside its element, unless something firmer is among it.
    if inner.any fun e => firmness name < firmness e.tag.name then b
    else popMany (inner.length + 1) b
  else b

/-- Reads a text. Text needs a body around it; blanks do not. -/
def text (s : Chars) (b : Builder) : Builder :=
  let append (s : Chars) (b : Builder) : Builder := { b with pending := b.pending ++ s }
  let outside := match b.current? with
    | none => true
    | some name => name == "html".toList || name == "head".toList
  if outside then
    let blanks := s.takeWhile Token.isBlank
    let rest := s.drop blanks.length
    -- Blanks before the first element are no part of the page.
    let b := if b.nextId == 1 then b else append blanks b
    if rest.isEmpty then b
    else
      let b := if b.current? == some "head".toList then closeFor ['p'] b else b
      append rest (supply ['p'] b)
  else append s b

def step (b : Builder) : Token → Builder
  | .text s => b.text s
  | .start name attrs closed => b.start name attrs closed
  | .stop name => b.stop name
  | .hidden => b.flush.add (.text .hidden [])

/-- The page, all open elements closed. -/
def finish (b : Builder) : Document := (popMany b.stack.length b).flush.done.reverse

end Builder

/-- The tree of a page's source. A byte order mark before it does not count. -/
def parse (source : Chars) : Document :=
  let source := if source.head? == some '\uFEFF' then source.drop 1 else source
  ((Token.scan source).foldl Builder.step {}).finish

end TrackerHub.Page
