import TrackerHub.Page.Node

/-! # Places in a page

A place is an element together with everything around it: the siblings before and after it and the
elements above it. The page as a whole is the place of an element around its top nodes. `below` lists
the places under a place in document order.
-/
namespace TrackerHub.Page

open Text (Chars)

/-- An element above a place, with the element's own siblings, the nearest first. -/
structure Level where
  tag : Tag
  before : List Node
  after : List Node
  deriving Inhabited

/-- An element and what is around it. Siblings before it are listed from the nearest on. -/
structure Place where
  tag : Tag
  children : List Node
  before : List Node := []
  after : List Node := []
  above : List Level := []
  deriving Inhabited

namespace Place

/-- The tag around the top nodes of a page, which no source can write. -/
def rootTag : Tag := { id := 0, name := "[document]".toList }

def ofPage (nodes : List Node) : Place := { tag := rootTag, children := nodes }

def isPage (p : Place) : Bool := p.tag.name == rootTag.name

def node (p : Place) : Node := .element p.tag p.children

/-- The element alone, as a tree of its own. -/
def alone (p : Place) : Place := { tag := p.tag, children := p.children }

def parent? (p : Place) : Option Place :=
  match p.above with
  | [] => none
  | l :: above =>
    some {
      tag := l.tag
      children := p.before.reverse ++ p.node :: p.after
      before := l.before
      after := l.after
      above }

/-- The places of the elements around this one, the nearest first. -/
def ancestors (p : Place) : List Place :=
  go p.above.length p
where
  go : Nat → Place → List Place
  | 0, _ => []
  | n + 1, p =>
    match p.parent? with
    | some q => q :: go n q
    | none => []

/-- The outermost place around this one, which may be itself. -/
def top (p : Place) : Place := p.ancestors.getLast?.getD p

/-- The places of the elements in `nodes`, which follow `before` under the levels `above`. -/
def among (above : List Level) (before : List Node) : List Node → List Place
  | [] => []
  | n :: rest =>
    match n with
    | .text _ _ => among above (n :: before) rest
    | .element tag children =>
      { tag, children, before, after := rest, above } :: among above (n :: before) rest

def childPlaces (p : Place) : List Place :=
  among (⟨p.tag, p.before, p.after⟩ :: p.above) [] p.children

/-- The places of the siblings before an element, the nearest first. -/
def previous (p : Place) : List Place :=
  match p.parent? with
  | none => []
  | some q => (q.childPlaces.takeWhile fun c => c.before.length < p.before.length).reverse

/-- The places of the siblings after an element, the nearest first. -/
def next (p : Place) : List Place :=
  match p.parent? with
  | none => []
  | some q => q.childPlaces.filter fun c => p.before.length < c.before.length

mutual

/-- The places in a node that follows `before` and comes before `after`, in document order. -/
def within (above : List Level) (before after : List Node) : Node → List Place
  | .text _ _ => []
  | .element tag children =>
    { tag, children, before, after, above } ::
      withinAll (⟨tag, before, after⟩ :: above) [] children

/-- The places in some nodes that follow `before`, in document order. -/
def withinAll (above : List Level) (before : List Node) : List Node → List Place
  | [] => []
  | n :: rest => within above before rest n ++ withinAll above (n :: before) rest

end

/-- The places of all elements under a place, in document order. -/
def below (p : Place) : List Place :=
  withinAll (⟨p.tag, p.before, p.after⟩ :: p.above) [] p.children

/-- The text that an element shows. -/
def text (p : Place) : Chars := (Node.textsOf p.tag.shows p.children).flatten

def pieces (p : Place) : List Chars := Node.textsOf p.tag.shows p.children

def find? (id : Nat) (p : Place) : Option Place := p.below.find? fun q => q.tag.id == id

end Place

end TrackerHub.Page
