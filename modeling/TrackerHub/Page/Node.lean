import TrackerHub.Text.Chars

/-! # Page trees

A page is a tree of elements and texts. Each element carries a number that no other element of the
page has, so an element can be found again after the page was edited. An edit keeps the numbers.
-/
namespace TrackerHub.Page

open Text (Chars)

/-- What a text belongs to. Only elements of the same kind show it as part of their own text. -/
inductive TextKind where
  | shown
  | style
  | script
  | template
  /-- The reading aid of a ruby text. -/
  | rubyText
  /-- The brackets around the reading aid of a ruby text. -/
  | rubyAside
  /-- A comment or a declaration, which no element shows. -/
  | hidden
  deriving Repr, DecidableEq, Inhabited

/-- The kind of the texts directly inside an element of this name, if the element sets one. -/
def TextKind.ofElement? (name : Chars) : Option TextKind :=
  match String.ofList name with
  | "style" => some .style
  | "script" => some .script
  | "template" => some .template
  | "rt" => some .rubyText
  | "rp" => some .rubyAside
  | _ => none

/-- The head of an element: its number, its name in lower case and its attributes. -/
structure Tag where
  id : Nat
  name : Chars
  attrs : List (Chars × Chars) := []
  deriving Repr, DecidableEq, Inhabited

def Tag.attr? (t : Tag) (name : Chars) : Option Chars :=
  (t.attrs.find? fun a => a.1 == name).map (·.2)

/-- The kind of the texts that an element shows. -/
def Tag.shows (t : Tag) : TextKind := (TextKind.ofElement? t.name).getD .shown

def Tag.classes (t : Tag) : List Chars :=
  (Text.splitOn ' ' ((t.attr? "class".toList).getD [])).filter fun c => !c.isEmpty

inductive Node where
  | text (kind : TextKind) (content : Chars)
  | element (tag : Tag) (children : List Node)
  deriving Repr, Inhabited

namespace Node

mutual

/-- The texts of one kind in a node, in document order. -/
def texts (kind : TextKind) : Node → List Chars
  | text k s => if k = kind then [s] else []
  | element _ children => textsOf kind children

def textsOf (kind : TextKind) : List Node → List Chars
  | [] => []
  | n :: rest => n.texts kind ++ textsOf kind rest

end

mutual

/-- The tags of a node's elements, in document order. -/
def tags : Node → List Tag
  | text _ _ => []
  | element t children => t :: tagsOf children

def tagsOf : List Node → List Tag
  | [] => []
  | n :: rest => n.tags ++ tagsOf rest

end

def isElement (name : Chars) : Node → Bool
  | text _ _ => false
  | element t _ => t.name == name

def hasId (id : Nat) : Node → Bool
  | text _ _ => false
  | element t _ => t.id == id

mutual

/-- A node without the elements whose number satisfies `gone`; nothing is left if it is one. -/
def without (gone : Nat → Bool) : Node → List Node
  | text k s => [text k s]
  | element t children => if gone t.id then [] else [element t (withoutOf gone children)]

def withoutOf (gone : Nat → Bool) : List Node → List Node
  | [] => []
  | n :: rest => n.without gone ++ withoutOf gone rest

end

mutual

/-- A node in which the element with this number has more children at its end. -/
def appendAt (id : Nat) (more : List Node) : Node → Node
  | text k s => text k s
  | element t children =>
    if t.id = id then element t (appendAtOf id more children ++ more)
    else element t (appendAtOf id more children)

def appendAtOf (id : Nat) (more : List Node) : List Node → List Node
  | [] => []
  | n :: rest => n.appendAt id more :: appendAtOf id more rest

end

mutual

def childrenOf? (id : Nat) : Node → Option (List Node)
  | text _ _ => none
  | element t children => if t.id = id then some children else childrenOfAny? id children

/-- The children of the element with this number among some nodes. -/
def childrenOfAny? (id : Nat) : List Node → Option (List Node)
  | [] => none
  | n :: rest => (n.childrenOf? id).or (childrenOfAny? id rest)

end

end Node

end TrackerHub.Page
