import TrackerHub.Page.InputValue
import TrackerHub.Selector.Basic
import TrackerHub.Selector.Lexeme
import TrackerHub.Text.CharClass.Fold

/-! # Which elements a selector matches

A selector is matched at a place of a page. `Place.select` lists the matching elements under a place
in document order.
-/
namespace TrackerHub.Selector

open Text (Chars)
open Page (Place Tag Node)

/-- The rest of `s` after `start`, if `s` begins with it. -/
def ValueTest.dropStart? (t : ValueTest) (start s : Chars) : Option Chars :=
  if t.anyCase then Text.dropStartFold? start s else Text.dropStart? start s

/-- Whether the two texts are the same; the second may have one more line feed. -/
def ValueTest.same (t : ValueTest) (a b : Chars) : Bool :=
  match t.dropStart? a b with
  | some [] | some ['\n'] => true
  | _ => false

/-- The words of a text between single blanks. -/
def wordsOf : Chars → List Chars
  | [] => [[]]
  | c :: r =>
    if isBlank c then [] :: wordsOf r
    else
      match wordsOf r with
      | [] => [[c]]
      | w :: ws => (c :: w) :: ws

/-- The ends of a text, the longest first. -/
def endsOf : Chars → List Chars
  | [] => [[]]
  | c :: r => (c :: r) :: endsOf r

def ValueTest.holds (t : ValueTest) (actual : Chars) : Bool :=
  match t.how with
  | .equals => t.same t.value actual
  | .startsWith => (t.dropStart? t.value actual).isSome
  | .endsWith => (endsOf actual).any (t.same t.value)
  | .contains => (endsOf actual).any fun e => (t.dropStart? t.value e).isSome
  | .hasWord =>
    !t.value.isEmpty && !t.value.any isBlank &&
      (wordsOf actual).any fun w => t.dropStart? t.value w == some []
  | .startsDashed =>
    t.same t.value actual || (t.dropStart? (t.value ++ ['-']) actual).isSome

/-- The value of an attribute whose name is given without regard to case. -/
def attrAnyCase? (tag : Tag) (name : Chars) : Option Chars :=
  (tag.attrs.find? fun a => a.1.map Char.toLower == name.map Char.toLower).map (·.2)

/-- Whether a position, counted from one, is among those meant. -/
def Position.has (p : Position) (index : Nat) : Bool :=
  let i : Int := index
  match p.step with
  | none => i == p.offset
  | some a =>
    if a = 0 then i == p.offset
    else (i - p.offset) % a == 0 && decide (0 ≤ (i - p.offset) / a)

def isBlankText (s : Chars) : Bool := s.all isBlank

/-- Whether a node is a text that is no comment and not blank, blank in the given sense. -/
def isSubstantial (blank : Char → Bool) : Node → Bool
  | .text kind s => kind != .hidden && !s.all blank
  | .element _ _ => true

/-- Whether a node is a text that is no comment. -/
def textPiece? : Node → Option Chars
  | .text kind s => if kind = .hidden then none else some s
  | .element _ _ => none

mutual

/-- The pieces of all text in a node but comments. -/
def allTexts : Node → List Chars
  | .text kind s => if kind = .hidden then [] else [s]
  | .element _ children => allTextsOf children

def allTextsOf : List Node → List Chars
  | [] => []
  | n :: rest => allTexts n ++ allTextsOf rest

end

/-- Whether a language tag is in a range of languages. -/
def inLanguage (range tag : Chars) : Bool :=
  let rec parts : List Chars → List Chars → Bool
    | [], _ => true
    | _ :: _, [] => false
    | r :: rs, s :: ss =>
      if r.isEmpty then false
      else if s == r then parts rs ss
      -- A part of one letter begins an extension, which a range does not reach into.
      else if s.length == 1 then false
      else parts (r :: rs) ss
  let ranges := match Text.splitOn '-' (Text.lower range) with
    | first :: rest =>
      first :: (rest.filter fun r => r != ['*']) ++
        (if rest.getLast? == some ['*'] then [[]] else [])
    | [] => []
  let tags := Text.splitOn '-' (Text.lower tag)
  match ranges, tags with
  | r :: rs, s :: ss =>
    if rs.isEmpty && ss.isEmpty && r.isEmpty && s.isEmpty then true
    else if (r != ['*'] && r != s) || (r == ['*'] && ss.isEmpty && s.isEmpty) then false
    else parts rs ss
  | _, _ => false

/-- The language of an element: that of the nearest element around it which gives one, else that
of the page's head. -/
def languageOf (p : Place) : Option Chars :=
  let chain := p :: p.ancestors
  let given := chain.filterMap fun q => attrAnyCase? q.tag "lang".toList
  match given.find? fun l => !l.isEmpty with
  | some l => some l
  | none =>
    match given.getLast? with
    | some l => some l
    | none =>
      let child (name : String) (q : Place) : Option Place :=
        q.childPlaces.find? fun c => c.tag.name == name.toList
      match (child "html" p.top).bind (child "head") with
      | none => none
      | some head =>
        head.childPlaces.findSome? fun m =>
          if m.tag.name == "meta".toList &&
              (attrAnyCase? m.tag "http-equiv".toList).any
                (fun v => v.map Char.toLower == "content-language".toList) then
            (attrAnyCase? m.tag "content".toList).filter fun c => !c.isEmpty
          else none

def isForm (tag : Tag) : Bool := tag.name == "form".toList

/-- Whether an attribute has this value, in any case. -/
def hasValue (tag : Tag) (name value : String) : Bool :=
  (attrAnyCase? tag name.toList).any fun v => v.map Char.toLower == value.toList

/-- The form around an element, else the outermost place. -/
def formOf (p : Place) : Place := (p.ancestors.find? fun q => isForm q.tag).getD p.top

/-- Where selectors are matched from. -/
structure Scope where
  /-- The number of the element that selectors are matched for. -/
  scope : Nat
  root : Nat

/-- The scope of a place: the root is the first top element of a page, or the outermost element if
there is no page around it. -/
def Scope.of (p : Place) : Scope :=
  let top := p.top
  let root := if top.isPage then (top.childPlaces.head?.getD top).tag.id else top.tag.id
  { scope := if p.above.isEmpty then root else p.tag.id, root }

def State.holds (env : Scope) (p : Place) : State → Bool
  | .root =>
    p.tag.id == env.root && !(p.before ++ p.after).any (isSubstantial Text.isBlank)
  | .scope => p.tag.id == env.scope
  | .empty => !p.children.any (isSubstantial isBlank)
  | .defined => !p.tag.name.contains '-' || p.tag.name.contains ':'
  | .blankContent =>
    let s := (allTextsOf p.children).flatten
    s.isEmpty || s == ['\n']
  | .defaultButton =>
    match p.ancestors.find? fun q => isForm q.tag with
    | none => false
    | some form =>
      let buttons := (form.below.takeWhile fun q => !isForm q.tag).filter fun q =>
        (q.tag.name == "input".toList || q.tag.name == "button".toList) &&
          hasValue q.tag "type" "submit"
      buttons.head?.any fun q => q.tag.id == p.tag.id
  | .uncheckedGroup =>
    let form := formOf p
    let name := p.tag.attr? "name".toList
    !form.below.any fun q =>
      q.tag.id != p.tag.id && q.tag.name == "input".toList && hasValue q.tag "type" "radio" &&
        attrAnyCase? q.tag "name".toList == name &&
        (attrAnyCase? q.tag "checked".toList).isSome && (formOf q).tag.id == form.tag.id
  | .inRange => Page.InputValue.isOutOfRange? p.tag == some false
  | .outOfRange => Page.InputValue.isOutOfRange? p.tag == some true

/-- The elements before or around an element that a combinator leads to, the nearest first. -/
def Combinator.behind (p : Place) : Combinator → List Place
  | .descendant => p.ancestors
  | .child => p.parent?.toList
  | .sibling => p.previous
  | .adjacent => p.previous.head?.toList

/-- The elements after or inside an element that a combinator leads to. -/
def Combinator.ahead (p : Place) : Combinator → List Place
  | .descendant => p.below
  | .child => p.childPlaces
  | .sibling => p.next
  | .adjacent => p.next.head?.toList

/-- Whether a name space that a selector writes holds the elements of a page. -/
def isPageSpace (space : Option Chars) : Bool :=
  match space with
  | none => true
  | some s => s == ['*']

mutual

def holds (env : Scope) (p : Place) : Selector → Bool
  | .never => false
  | .all tests => holdsAll env p tests

/-- Whether an element passes all tests. -/
def holdsAll (env : Scope) (p : Place) : List Test → Bool
  | [] => true
  | t :: ts => passes env p t && holdsAll env p ts

def holdsAny (env : Scope) (p : Place) : List Selector → Bool
  | [] => false
  | s :: ss => holds env p s || holdsAny env p ss

def passes (env : Scope) (p : Place) : Test → Bool
  | .name space n =>
    isPageSpace space && (n == ['*'] || n.map Char.toLower == p.tag.name.map Char.toLower)
  | .id id => p.tag.attr? "id".toList == some id
  | .cls c => p.tag.classes.contains c
  | .attr name value =>
    match attrAnyCase? p.tag name, value with
    | none, _ => false
    | some _, none => true
    | some actual, some t => t.holds actual
  | .state s => s.holds env p
  | .text own parts =>
    let pieces := if own then p.children.filterMap textPiece? else [(allTextsOf p.children).flatten]
    parts.any fun part => pieces.any (Text.contains part)
  | .lang ranges => (languageOf p).any fun l => ranges.any fun r => inLanguage r l
  | .direction d => Page.Direction.of? env.root p == some d
  | .anyOf alternatives => holdsAny env p alternatives
  | .noneOf alternatives => !holdsAny env p alternatives
  | .nth position sameName among =>
    let counts (q : Place) : Bool :=
      if sameName then q.tag.name == p.tag.name
      else among.isEmpty || holdsAny env q among
    counts p &&
      -- A position is one more than the number of counted elements before it.
      position.has (1 + ((if position.fromEnd then p.next else p.previous).filter counts).length)
  | .behind how other => (how.behind p).any fun q => holds env q other
  | .ahead how other => (how.ahead p).any fun q => holds env q other

end

end TrackerHub.Selector

namespace TrackerHub.Page.Place

def isMatch (p : Place) (selectors : List Selector) : Bool :=
  !p.isPage && Selector.holdsAny (Selector.Scope.of p) p selectors

/-- The elements under a place that match one of the selectors, in document order. -/
def select (p : Place) (selectors : List Selector) : List Place :=
  let env := Selector.Scope.of p
  p.below.filter fun q => Selector.holdsAny env q selectors

/-- The first element under a place that matches one of the selectors. -/
def selectOne? (p : Place) (selectors : List Selector) : Option Place :=
  let env := Selector.Scope.of p
  p.below.find? fun q => Selector.holdsAny env q selectors

end TrackerHub.Page.Place
