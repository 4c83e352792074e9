import TrackerHub.ApiError
import TrackerHub.Named
import TrackerHub.Number.Numeral
import TrackerHub.Text.Chars

/-! # Markup documents

Feeds are trees of elements. An element that holds others is written with one line for each of
them, two spaces deeper; an element without contents closes itself. Text and attributes are
escaped differently, so that neither can be taken for markup.

A name that stands in a name space has that space before it, in braces. The document declares the
spaces of its names, and the names are written with the prefixes of their spaces.
-/
namespace TrackerHub.Feed
open TrackerHub.Text

/-- An element with its attributes and either text or further elements. -/
inductive Element where
  | mk (name : String) (attributes : List (String × String)) (text : String)
    (children : List Element)
  deriving Repr, Inhabited

def leaf (name text : String) : Element := .mk name [] text []

def node (name : String) (children : List Element) : Element := .mk name [] "" children

def escapeTextChar (c : Char) : Chars :=
  if c == '&' then "&amp;".toList
  else if c == '<' then "&lt;".toList
  else if c == '>' then "&gt;".toList
  else [c]

def escapeAttributeChar (c : Char) : Chars :=
  if c == '"' then "&quot;".toList
  else if c == '\r' then "&#13;".toList
  else if c == '\n' then "&#10;".toList
  else if c == '\t' then "&#09;".toList
  else escapeTextChar c

def attributesText (attributes : List (String × String)) : Chars :=
  attributes.flatMap fun (name, value) =>
    ' ' :: name.toList ++ ['=', '"'] ++ value.toList.flatMap escapeAttributeChar ++ ['"']

def newLine (depth : Nat) : Chars := '\n' :: List.replicate (2 * depth) ' '

mutual

/-- The text of an element that stands at the given depth. -/
def Element.write (depth : Nat) : Element → Chars
  | .mk name attributes text children =>
    let head := '<' :: name.toList ++ attributesText attributes
    let lines := writeLines (depth + 1) children
    if lines.isEmpty && text.isEmpty then head ++ [' ', '/', '>']
    else
      head ++ '>' :: text.toList.flatMap escapeTextChar ++ lines
        ++ (if lines.isEmpty then [] else newLine depth) ++ ['<', '/'] ++ name.toList ++ ['>']

/-- The texts of the elements, each on a line of its own. -/
def writeLines (depth : Nat) : List Element → Chars
  | [] => []
  | e :: r => newLine depth ++ e.write depth ++ writeLines depth r

end

/-! ## Names -/

/-- The name space of the attributes that the feed adds to its items. -/
def attributeSpace : String := "http://torznab.com/schemas/2015/feed"

/-- The name spaces that have a prefix of their own. -/
def knownSpaces : Named String := [
  ("http://www.w3.org/XML/1998/namespace", "xml"),
  ("http://www.w3.org/1999/xhtml", "html"),
  ("http://www.w3.org/1999/02/22-rdf-syntax-ns#", "rdf"),
  ("http://schemas.xmlsoap.org/wsdl/", "wsdl"),
  ("http://www.w3.org/2001/XMLSchema", "xs"),
  ("http://www.w3.org/2001/XMLSchema-instance", "xsi"),
  ("http://purl.org/dc/elements/1.1/", "dc"),
  (attributeSpace, "torznab")]

def nameIn (space name : String) : String :=
  String.ofList ('\x7b' :: space.toList ++ '\x7d' :: name.toList)

/-- The name space of a name and its last part, if it stands in one. -/
def spaceAndName? (name : String) : Option (String × String) :=
  match name.toList with
  | '\x7b' :: r =>
    (cut? ['\x7d'] r.reverse).map fun (last, space) =>
      (String.ofList space.reverse, String.ofList last.reverse)
  | _ => none

/-- Whether a name begins with a name space that does not end. -/
def hasOpenSpace (name : String) : Bool :=
  name.toList.head? == some '\x7b' && !name.toList.contains '\x7d'

/-- The prefix of a name space, when some spaces are declared: a new one has its own, or a number. -/
def prefixOf (declared : Named String) (space : String) : String :=
  match declared.find? space with
  | some p => p
  | none => (Named.find? knownSpaces space).getD s!"ns{declared.length}"

/-- The declared name spaces and that of a name. The space `xml` need not be declared. -/
def declare (declared : Named String) (name : String) : Named String :=
  match spaceAndName? name with
  | none => declared
  | some (space, _) =>
    let p := prefixOf declared space
    if p == "xml" then declared else declared.put space p

def writtenName (declared : Named String) (name : String) : String :=
  match spaceAndName? name with
  | none => name
  | some (space, last) => prefixOf declared space ++ ":" ++ last

mutual

/-- The names of elements and attributes in an element, in the order of the document. -/
def Element.names : Element → List String
  | .mk name attributes _ children => name :: attributes.map (·.1) ++ namesOf children

def namesOf : List Element → List String
  | [] => []
  | e :: r => e.names ++ namesOf r

end

mutual

def Element.renamed (f : String → String) : Element → Element
  | .mk name attributes text children =>
    .mk (f name) (attributes.map fun (k, v) => (f k, v)) text (renamedAll f children)

def renamedAll (f : String → String) : List Element → List Element
  | [] => []
  | e :: r => e.renamed f :: renamedAll f r

end

/-- The element with declarations of name spaces, by their prefixes, before its attributes. -/
def Element.declaring (declared : Named String) : Element → Element
  | .mk name attributes text children =>
    let sorted := declared.mergeSort fun a b => decide (a.2 ≤ b.2)
    .mk name (sorted.map (fun (space, p) => ("xmlns:" ++ p, space)) ++ attributes) text children

def document (root : Element) : String :=
  let declared := root.names.foldl declare []
  let element := (root.renamed (writtenName declared)).declaring declared
  "<?xml version='1.0' encoding='utf-8'?>\n" ++ String.ofList (element.write 0)

/-! ## Answers -/

structure Rendered where
  payload : String
  mediaType : String := "application/xml"
  deriving Repr, DecidableEq, Inhabited

inductive Fault where
  | longNumber
  | openSpace
  deriving Repr, DecidableEq

def longNumberText : String :=
  s!"Exceeds the limit ({Numeral.maxDigits} digits) for integer string conversion; "
    ++ "use sys.set_int_max_str_digits() to increase the limit"

def Fault.message : Fault → String
  | longNumber => longNumberText
  | openSpace => "not enough values to unpack (expected 2, got 1)"

def Fault.told (f : Fault) : ApiError := (Raised.unforeseen f.message).told

/-- Whether an integer has too many digits to be written. -/
def isTooLong (n : Int) : Bool := decide (Nat.pow 10 Numeral.maxDigits ≤ n.natAbs)

/-- An answer, if the integers and the names in it can be written. -/
def checked (numbers : List Int) (names : List String) (r : Rendered) : Except Fault Rendered :=
  if numbers.any isTooLong then .error .longNumber
  else if names.any hasOpenSpace then .error .openSpace
  else .ok r

end TrackerHub.Feed
