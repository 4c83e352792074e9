import TrackerHub.Selector.Basic
import TrackerHub.Selector.Lexeme

/-! # Reading selectors

`Selector.read` reads a list of selectors. Pseudo-classes that stand for a selector of their own are
given by tables, each written with the pseudo-classes of the tables before it.
-/
namespace TrackerHub.Selector

open Text (Chars)

/-- Pseudo-classes that stand for a list of selectors. -/
abbrev Shorthands := List (String × List Selector)

/-- How a list of selectors is read. -/
inductive Mode where
  | whole
  | inner
  /-- Inside brackets, where a selector may be missing. -/
  | forgiving
  /-- Inside brackets, where each selector begins with how it stands to the element. -/
  | relative
  deriving DecidableEq

/-- The part of a list of selectors read so far. -/
structure Reading where
  /-- The finished alternatives, the last one first. -/
  done : List Selector := []
  /-- The tests of the element being read, the last one first. -/
  tests : List Test := []
  /-- Whether anything was read for this element. -/
  found : Bool := false
  /-- Whether nothing can match this element. -/
  never : Bool := false
  /-- The element before this one in the same alternative. -/
  before : Option (Combinator × Selector) := none
  /-- How the element stands to the one before it, in relative selectors. -/
  lead : Combinator := .descendant
  /-- The elements before this one in a relative selector, the last one first. -/
  chain : List (Combinator × Selector) := []

namespace Reading

def add (r : Reading) (t : Test) : Reading := { r with tests := t :: r.tests, found := true }

def current (r : Reading) : Selector :=
  if r.never then .never
  else
    let link : List Test := match r.before with
      | some (c, s) => [.behind c s]
      | none => []
    .all (r.tests.reverse ++ link)

def next (r : Reading) : Reading := { r with tests := [], found := false, never := false }

/-- The selector of a chain of relative elements, the last one first. -/
def chained (links : List (Combinator × Selector)) : Selector :=
  let step (rest : List Test) (link : Combinator × Selector) : List Test :=
    match link.2 with
    | .never => [.ahead link.1 .never]
    | .all tests => [.ahead link.1 (.all (tests ++ rest))]
  .all (links.foldl step [])

def close (r : Reading) : Reading :=
  { r.next with done := r.current :: r.done, before := none }

/-- Finishes a relative alternative. -/
def closeChain (r : Reading) : Reading :=
  { r.next with done := chained ((r.lead, r.current) :: r.chain) :: r.done, lead := .descendant,
                chain := [] }

def combine (mode : Mode) (how : Option Combinator) (r : Reading) : Except Fault Reading :=
  match mode, how with
  | .relative, none => if r.found then .ok r.closeChain else .error .malformed
  | .relative, some c =>
    if r.found then .ok { r.next with chain := (r.lead, r.current) :: r.chain, lead := c }
    else if r.lead = .descendant then .ok { r.next with lead := c }
    else .error .malformed
  | mode, none =>
    if r.found then .ok r.close
    else if mode = .forgiving then .ok { r.next with done := .never :: r.done, before := none }
    else .error .malformed
  | _, some c =>
    if r.found then .ok { r.next with before := some (c, r.current) } else .error .malformed

def finish (mode : Mode) (r : Reading) : Except Fault (List Selector) :=
  if r.found then
    .ok (if mode = .relative then r.closeChain else r.close).done.reverse
  else if mode = .forgiving && (r.done.isEmpty || r.before.isNone) then
    .ok (.never :: r.done).reverse
  else .error .malformed

end Reading

/-- The combinator that a character writes; a comma separates alternatives. -/
def combinatorOf? (c : Char) : Option (Option Combinator) :=
  match c with
  | ',' => some none
  | '>' => some (some .child)
  | '+' => some (some .adjacent)
  | '~' => some (some .sibling)
  | _ => none

/-- Reads a combinator: a mark among blanks, or blanks alone. One blank may stand before a mark. -/
def readCombinator? (s : Chars) : Option (Option Combinator × Chars) :=
  let markAt (s : Chars) : Option (Option Combinator × Chars) :=
    match s with
    | c :: r => (combinatorOf? c).map fun how => (how, skip r)
    | [] => none
  let rec go : Nat → Chars → Option (Option Combinator × Chars)
    | 0, _ => none
    | fuel + 1, s =>
      match markAt s with
      | some found => some found
      | none =>
        match passBlank? s with
        | some rest =>
          if (markAt rest).isSome then go fuel rest else some (some .descendant, skip rest)
        | none =>
          match s with
          | '/' :: '*' :: r => (passComment? r).bind (go fuel)
          | _ => none
  go (s.length + 1) s

def readComparison? : Chars → Option ((Comparison × Bool) × Chars)
  | '=' :: r => some ((.equals, false), r)
  | '!' :: '=' :: r => some ((.equals, true), r)
  | '~' :: '=' :: r => some ((.hasWord, false), r)
  | '^' :: '=' :: r => some ((.startsWith, false), r)
  | '|' :: '=' :: r => some ((.startsDashed, false), r)
  | '*' :: '=' :: r => some ((.contains, false), r)
  | '$' :: '=' :: r => some ((.endsWith, false), r)
  | _ => none

/-- Reads a name that may follow a name space and a bar; the name space may be `*` or missing. -/
def readSpaced? (s : Chars) : Option ((Option Chars × Chars) × Chars) :=
  let plain := (readIdent? s).map fun (n, rest) => ((none, unescape false n), rest)
  let (space, rest) : Chars × Chars := match s with
    | '*' :: r => (['*'], r)
    | _ => match readIdent? s with
      | some (n, r) => (unescape false n, r)
      | none => ([], s)
  match rest with
  | '|' :: r =>
    match readIdent? r with
    | some (n, rest) => some ((some space, unescape false n), rest)
    | none => plain
  | _ => plain

def readAttr? (s : Chars) : Option (Test × Chars) := do
  let ((_, name), rest) ← readSpaced? (skip s)
  match skip rest with
  | ']' :: r => return (.attr name none, r)
  | r =>
    let ((how, negated), r) ← readComparison? r
    let (written, r) ← readValue? (skip r)
    let isType := name.map Char.toLower == "type".toList
    let (anyCase, r) ← match skip r with
      | ']' :: r => some (isType, r)
      | c :: r =>
        match skip r with
        | ']' :: r =>
          if c == 'i' || c == 'I' then some (true, r)
          else if c == 's' || c == 'S' then some (false, r)
          else none
        | _ => none
      | [] => none
    let test : Test := .attr name (some ⟨how, valueText written, anyCase⟩)
    return (if negated then .noneOf [.all [test]] else test, r)

/-- Reads an element's name: an identifier or `*`, each with or without a name space. -/
def readName? (s : Chars) : Option (Test × Chars) :=
  let (space, rest) : Chars × Chars := match s with
    | '*' :: r => (['*'], r)
    | _ => match readIdent? s with
      | some (n, r) => (unescape false n, r)
      | none => ([], s)
  let plain : Option (Test × Chars) :=
    if space.isEmpty then none else some (.name none space, rest)
  match rest with
  | '|' :: '*' :: r => some (.name (some space) ['*'], r)
  | '|' :: r =>
    match readIdent? r with
    | some (n, rest) => some (.name (some space) (unescape false n), rest)
    | none => plain
  | _ => plain

/-- The pseudo-classes that nothing matches. -/
def neverStates : List String := [
  "active", "autofill", "current", "focus", "focus-visible", "focus-within", "future", "host",
  "hover", "local-link", "past", "paused", "picture-in-picture", "playing", "popover-open",
  "seeking", "stalled", "buffering", "volume-locked", "target", "target-within", "user-invalid",
  "user-valid", "visited"]

/-- The tests of the pseudo-classes that look at an element's position. -/
def positionTests (name : String) : Option (List Test) :=
  let at1 (fromEnd sameName : Bool) : Test :=
    .nth { step := none, offset := 1, fromEnd } sameName []
  match name with
  | "first-child" => some [at1 false false]
  | "last-child" => some [at1 true false]
  | "only-child" => some [at1 false false, at1 true false]
  | "first-of-type" => some [at1 false true]
  | "last-of-type" => some [at1 true true]
  | "only-of-type" => some [at1 false true, at1 true true]
  | _ => none

/-- The tests of a pseudo-class without brackets, or that nothing matches it. -/
def simplePseudo (short : Shorthands) (name : String) : Option (Option (List Test)) :=
  match name with
  | "root" => some (some [.state .root])
  | "scope" => some (some [.state .scope])
  | "empty" => some (some [.state .empty])
  | "defined" => some (some [.state .defined])
  | _ =>
    match short.find? fun e => e.1 == name with
    | some (_, alternatives) => some (some [.anyOf alternatives])
    | none =>
      match positionTests name with
      | some tests => some (some tests)
      | none => if neverStates.contains name then some none else none

def directionOf? (word : Chars) : Option Page.Direction :=
  match String.ofList (word.map Char.toLower) with
  | "ltr" => some .right
  | "rtl" => some .left
  | _ => none

/-- Splits values that were unescaped as a whole. -/
def splitValues : Nat → Chars → List Chars
  | 0, _ => []
  | fuel + 1, s =>
    match readValue? s with
    | some (v, rest) => valueText v :: splitValues fuel rest
    | none =>
      match skip s with
      | ',' :: r => splitValues fuel (skip r)
      | _ =>
        match s with
        | _ :: r => splitValues fuel r
        | [] => []

/-- Whether blanks with a word `of` among them come next, and the rest after them. -/
def readOf? (s : Chars) : Option Chars :=
  let gap (s : Chars) : Option Chars :=
    let rest := skip s
    if rest.length < s.length && ((s.take (s.length - rest.length)).any isBlank) then some rest
    else none
  match gap s with
  | some (o :: f :: r) =>
    if (o == 'o' || o == 'O') && (f == 'f' || f == 'F') then gap r else none
  | _ => none

mutual

/-- Reads a list of selectors up to the last `tail` characters, or to its closing bracket. -/
def readList (short : Shorthands) (mode : Mode) (tail : Nat) :
    Nat → Reading → Chars → Except Fault (List Selector × Chars)
  | 0, _, _ => .error .malformed
  | fuel + 1, r, s =>
    if s.length ≤ tail then
      if mode = .whole then (r.finish mode).map fun l => (l, s) else .error .malformed
    else
      match skip s with
      | ')' :: rest =>
        if mode = .whole || (!r.found && mode != .forgiving) then .error .malformed
        else (r.finish mode).map fun l => (l, rest)
      | _ =>
        match s with
        | ':' :: ':' :: rest =>
          .error (if (identLength? rest).isSome then .unsupported else .malformed)
        | ':' :: rest => do
          let (r, rest) ← readPseudo short tail fuel r rest
          readList short mode tail fuel r rest
        | '&' :: rest => readList short mode tail fuel (r.add (.state .scope)) rest
        | '@' :: p :: rest =>
          if (p == 'p' || p == 'P') && (identLength? rest).isSome then .error .unsupported
          else .error .malformed
        | '#' :: rest =>
          match readIdent? rest with
          | some (n, rest) => readList short mode tail fuel (r.add (.id (unescape false n))) rest
          | none => .error .malformed
        | '.' :: rest =>
          match readIdent? rest with
          | some (n, rest) => readList short mode tail fuel (r.add (.cls (unescape false n))) rest
          | none => .error .malformed
        | '[' :: rest =>
          match readAttr? rest with
          | some (t, rest) => readList short mode tail fuel (r.add t) rest
          | none => .error .malformed
        | _ =>
          match readName? s with
          | some (t, rest) =>
            if r.found then .error .malformed else readList short mode tail fuel (r.add t) rest
          | none =>
            match readCombinator? s with
            | some (how, rest) => do
              let r ← r.combine mode how
              readList short mode tail fuel r rest
            | none => .error .malformed

def readPseudo (short : Shorthands) (tail : Nat) :
    Nat → Reading → Chars → Except Fault (Reading × Chars)
  | 0, _, _ => .error .malformed
  | fuel + 1, r, s =>
    match readIdent? s with
    | none => .error .malformed
    | some (written, rest) =>
      let name := String.ofList ((unescape false written).map Char.toLower)
      match rest with
      | '(' :: inside => readBracket short tail fuel name r (skip inside)
      | _ =>
        match simplePseudo short name with
        | some (some tests) => .ok (tests.foldl Reading.add r, rest)
        | some none => .ok ({ r with never := true, found := true }, rest)
        | none => .error .malformed

def readBracket (short : Shorthands) (tail : Nat) :
    Nat → String → Reading → Chars → Except Fault (Reading × Chars)
  | 0, _, _, _ => .error .malformed
  | fuel + 1, name, r, s =>
    let inner (mode : Mode) : Except Fault (List Selector × Chars) :=
      readList short mode tail fuel {} s
    let anyOf (mode : Mode) : Except Fault (Reading × Chars) :=
      (inner mode).map fun (l, rest) => (r.add (.anyOf l), rest)
    match name with
    | "not" => (inner .inner).map fun (l, rest) => (r.add (.noneOf l), rest)
    | "has" => anyOf .relative
    | "is" | "where" => anyOf .forgiving
    | "matches" => anyOf .inner
    | "contains" | "-soup-contains" | "-soup-contains-own" =>
      match readValues? s.length s with
      | some (_, rest) =>
        -- The values are unescaped as a whole and split after that, so that an escaped comma splits
        -- too.
        let all := unescape false ((s.take (s.length - rest.length)).dropLast)
        .ok (r.add (.text (name == "-soup-contains-own") (splitValues all.length all)), rest)
      | none => anyOf .inner
    | "lang" =>
      match readValues? s.length s with
      | some (values, rest) => .ok (r.add (.lang (values.map valueText)), rest)
      | none => .error .malformed
    | "dir" =>
      match directionOf? (s.take 3), skip (s.drop 3) with
      | some d, ')' :: rest => .ok (r.add (.direction d), rest)
      | _, _ => .error .malformed
    | "nth-child" | "nth-last-child" =>
      match readPosition? s with
      | none => .error .malformed
      | some ((step, offset), rest) =>
        let position : Position := { step, offset, fromEnd := name == "nth-last-child" }
        match skip rest with
        | ')' :: rest => .ok (r.add (.nth position false []), rest)
        | _ =>
          match readOf? rest with
          | none => .error .malformed
          | some rest => do
            let (l, rest) ← readList short .inner tail fuel {} rest
            return (r.add (.nth position false l), rest)
    | "nth-of-type" | "nth-last-of-type" =>
      match readPosition? s with
      | none => .error .malformed
      | some ((step, offset), rest) =>
        let position : Position := { step, offset, fromEnd := name == "nth-last-of-type" }
        match skip rest with
        | ')' :: rest => .ok (r.add (.nth position true []), rest)
        | _ => .error .malformed
    | "current" | "host" | "host-context" =>
      (inner .inner).map fun (_, rest) => ({ r with never := true, found := true }, rest)
    | _ => .error .malformed

end

def readWith (short : Shorthands) (s : Chars) : Except Fault (List Selector) :=
  (readList short .whole (trailing s) (2 * s.length + 2) {} (skip s)).map (·.1)

/-- The alternatives that a selector of this library stands for. -/
def known (short : Shorthands) (s : String) : List Selector :=
  match readWith short s.toList with
  | .ok l => l
  | .error _ => []

/-- The alternatives, the last of which has one more test. -/
def withState (s : State) (l : List Selector) : List Selector :=
  match l.reverse with
  | .all tests :: rest => (.all (tests ++ [.state s]) :: rest).reverse
  | _ => l

def controls : String :=
  ":is(input:not([type=hidden]), button, select, textarea, fieldset, optgroup, option)"

/-- The input fields that can have bounds and have one. -/
def bounded : String :=
  "input:is([type=date], [type=month], [type=week], [type=time], [type=datetime-local], " ++
    "[type=number], [type=range]):is([min], [max])"

/-- The pseudo-classes that stand for a selector without pseudo-classes of this kind. -/
def firstShorthands : Shorthands :=
  let links := known [] ":is(a, area)[href]"
  [ ("link", links), ("any-link", links),
    ("checked", known [] (":is(input[type=checkbox], input[type=radio])[checked], " ++
      "option[selected]")),
    ("indeterminate", withState .uncheckedGroup (known []
      ("input[type=checkbox][indeterminate], " ++
        "input[type=radio]:is(:not([name]), [name=\"\"]):not([checked]), " ++
        "progress:not([value]), " ++
        "input[type=radio][name]:not([name='']):not([checked])"))),
    ("disabled", known [] (controls ++ "[disabled], optgroup[disabled] > option, " ++
      "fieldset[disabled] > :is(input:not([type=hidden]), button, select, textarea, fieldset), " ++
      "fieldset[disabled] > :not(legend:nth-of-type(1)) " ++
      ":is(input:not([type=hidden]), button, select, textarea, fieldset)")),
    ("required", known [] ":is(input, select, textarea)[required]"),
    ("optional", known [] ":is(input, select, textarea):not([required])"),
    ("in-range", withState .inRange (known [] bounded)),
    ("out-of-range", withState .outOfRange (known [] bounded)),
    ("open", known [] ":is(details, dialog)[open]"),
    ("muted", known [] ":is(video, audio)[muted]"),
    ("placeholder-shown", withState .blankContent (known []
      ("input:is(:not([type]), [type=\"\"], [type=text], [type=search], [type=url], [type=tel], " ++
        "[type=email], [type=password], [type=number])[placeholder]:not([placeholder='']):is(" ++
        ":not([value]), [value=\"\"]), textarea[placeholder]:not([placeholder=''])"))) ]

/-- The first shorthands and those written with them. -/
def secondShorthands : Shorthands :=
  firstShorthands ++
  [ ("default", withState .defaultButton (known firstShorthands
      ":checked, form :is(button, input)[type=\"submit\"]")),
    ("enabled", known firstShorthands (controls ++ ":not(:disabled)")),
    ("read-write", known firstShorthands
      (":is(textarea, input:is(:not([type]), [type=\"\"], [type=date], [type=datetime-local], " ++
        "[type=email], [type=month], [type=number], [type=password], [type=search], [type=tel], " ++
        "[type=text], [type=time], [type=url], [type=week])):not([readonly], :disabled), " ++
        ":is([contenteditable=\"\"], [contenteditable=\"true\" i])")) ]

def shorthands : Shorthands :=
  secondShorthands ++ [("read-only", known secondShorthands ":not(:read-write)")]

def read (s : Chars) : Except Fault (List Selector) :=
  readWith shorthands (s.map fun c => if c == '\x00' then '\ufffd' else c)

end TrackerHub.Selector
