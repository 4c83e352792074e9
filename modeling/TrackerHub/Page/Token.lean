import TrackerHub.Page.CharRef

/-! # Tokens of pages

`Token.scan` cuts the source of a page into start tags, end tags, texts and hidden parts. Nothing
is refused: what is no tag is text, and a tag that the source breaks off is dropped. After the start
tag of an element whose inside is raw, everything up to its end tag is text.
-/
namespace TrackerHub.Page

open Text (Chars)

inductive Token where
  | text (content : Chars)
  | start (name : Chars) (attrs : List (Chars × Chars)) (closed : Bool)
  | stop (name : Chars)
  /-- A comment or a declaration. -/
  | hidden
  deriving Repr, Inhabited

namespace Token

def isBlank (c : Char) : Bool := c == ' ' || c == '\t' || c == '\n' || c == '\x0c' || c == '\r'

/-- The source with every line end written as a line feed, and no NUL. -/
def normalize : Chars → Chars
  | '\r' :: '\n' :: r => '\n' :: normalize r
  | '\r' :: r => '\n' :: normalize r
  | '\x00' :: r => '\ufffd' :: normalize r
  | c :: r => c :: normalize r
  | [] => []

/-- The text in lower case, ASCII letters only. -/
def lower (s : Chars) : Chars := s.map Char.toLower

/-- The part of `s` up to the first of the marks and the part behind that mark; without a mark all
of `s` and nothing. -/
def upTo (marks : List Chars) : Chars → Chars × Chars
  | [] => ([], [])
  | c :: r =>
    match marks.findSome? fun m => Text.dropStart? m (c :: r) with
    | some rest => ([], rest)
    | none =>
      let (a, b) := upTo marks r
      (c :: a, b)

/-- Passes a comment after its opening `<!--`. -/
def passComment (s : Chars) : Chars :=
  match s with
  | '>' :: r => r
  | '-' :: '>' :: r => r
  | _ => (upTo ["-->".toList, "--!>".toList] s).2

/-- Reads the value of an attribute after `=` and blanks. -/
def readValue (s : Chars) : Chars × Chars :=
  match s with
  | '"' :: r => let (v, rest) := upTo [['"']] r; (CharRef.resolve true v, rest)
  | '\'' :: r => let (v, rest) := upTo [['\'']] r; (CharRef.resolve true v, rest)
  | _ =>
    let v := s.takeWhile fun c => !isBlank c && c != '>'
    (CharRef.resolve true v, s.drop v.length)

def readAttr (first : Char) (s : Chars) : (Chars × Chars) × Chars :=
  let more := s.takeWhile fun c => !isBlank c && c != '/' && c != '>' && c != '='
  let rest := s.drop more.length
  let name := lower (first :: more)
  match rest.dropWhile isBlank with
  | '=' :: r =>
    match r.dropWhile isBlank with
    -- The value is missing, and the tag ends here.
    | '>' :: r => ((name, []), '>' :: r)
    | r => let (v, rest) := readValue r; ((name, v), rest)
  | _ => ((name, []), rest)

/-- Reads the attributes of a tag up to its closing `>`, the first of several with one name counts.
The answer tells whether the tag closes itself. There is none if the source ends before the tag. -/
def readAttrs : Nat → List (Chars × Chars) → Chars → Option (List (Chars × Chars) × Bool × Chars)
  | 0, _, _ => none
  | fuel + 1, attrs, s =>
    match s.dropWhile isBlank with
    | [] => none
    | '>' :: r => some (attrs, false, r)
    | '/' :: '>' :: r => some (attrs, true, r)
    | '/' :: r => readAttrs fuel attrs r
    | c :: r =>
      let (a, rest) := readAttr c r
      readAttrs fuel (if attrs.any fun b => b.1 == a.1 then attrs else attrs ++ [a]) rest

def readTag (s : Chars) : Option (Chars × List (Chars × Chars) × Bool × Chars) :=
  let name := s.takeWhile fun c => !isBlank c && c != '/' && c != '>'
  (readAttrs (s.length + 1) [] (s.drop name.length)).map fun (attrs, closed, rest) =>
    (lower name, attrs, closed, rest)

/-- How the inside of an element is read. -/
inductive Inside where
  /-- Tags and references count. -/
  | markup
  /-- Only references count. -/
  | references
  /-- Nothing counts but the end tag. -/
  | raw
  /-- As `raw`, but a comment can hide the end tag of a script inside a script. -/
  | script
  /-- Nothing counts at all. -/
  | allRaw
  deriving DecidableEq

def Inside.of (name : Chars) : Inside :=
  match String.ofList name with
  | "title" | "textarea" => .references
  | "style" | "xmp" | "iframe" | "noembed" | "noframes" => .raw
  | "script" => .script
  | "plaintext" => .allRaw
  | _ => .markup

/-- Whether `s` begins with the name of a tag, in any case, and the name ends there. -/
def namesTag (name s : Chars) : Bool :=
  lower (s.take name.length) == name &&
    match s.drop name.length with
    | c :: _ => isBlank c || c == '/' || c == '>'
    | [] => false

/-- The raw inside of an element before its end tag, and the rest from the end tag on. -/
def rawInside (name : Chars) : Chars → Chars × Chars
  | [] => ([], [])
  | c :: r =>
    if c == '<' && r.head? == some '/' && namesTag name (r.drop 1) then ([], c :: r)
    else
      let (a, b) := rawInside name r
      (c :: a, b)

/-- How deep a script is inside a comment: not, in a comment, or in a script in a comment. -/
inductive ScriptDepth where
  | plain
  | comment
  | nested
  deriving DecidableEq

/-- The inside of a script before its end tag, and the rest from the end tag on. -/
def scriptInside (depth : ScriptDepth) : Chars → Chars × Chars
  | [] => ([], [])
  | c :: r =>
    let isStop := c == '<' && r.head? == some '/' && namesTag "script".toList (r.drop 1)
    if isStop && depth != .nested then ([], c :: r)
    else
      let next : ScriptDepth :=
        match depth with
        | .plain => if Text.startsWith "<!--".toList (c :: r) then .comment else .plain
        | .comment =>
          if Text.startsWith "-->".toList (c :: r) then .plain
          else if c == '<' && namesTag "script".toList r then .nested
          else .comment
        | .nested =>
          if Text.startsWith "-->".toList (c :: r) then .plain
          else if isStop then .comment
          else .nested
      let (a, b) := scriptInside next r
      (c :: a, b)

/-- The tokens for the inside of an element that has just begun, and the rest after it. -/
def readInside (name : Chars) (s : Chars) : List Token × Chars :=
  let asText (t : Chars) : List Token := if t.isEmpty then [] else [text t]
  match Inside.of name with
  | .markup => ([], s)
  | .references => let (a, b) := rawInside name s; (asText (CharRef.resolve false a), b)
  | .raw => let (a, b) := rawInside name s; (asText a, b)
  | .script => let (a, b) := scriptInside .plain s; (asText a, b)
  | .allRaw => (asText s, [])

/-- Whether a markup begins with `<` and the characters after it. -/
def opensMarkup : Chars → Bool
  | '/' :: _ :: _ => true
  | c :: _ => c.isAlpha || c == '!' || c == '?'
  | [] => false

/-- Reads the markup after a `<` at which `opensMarkup` holds. -/
def readMarkup (s : Chars) : List Token × Chars :=
  match s with
  | '!' :: '-' :: '-' :: r => ([hidden], passComment r)
  | '!' :: r => ([hidden], (upTo [['>']] r).2)
  | '?' :: r => ([hidden], (upTo [['>']] r).2)
  | '/' :: '>' :: r => ([], r)
  | '/' :: c :: r =>
    if c.isAlpha then
      match readTag (c :: r) with
      | some (name, _, _, rest) => ([stop name], rest)
      | none => ([], [])
    else ([hidden], (upTo [['>']] (c :: r)).2)
  | _ =>
    match readTag s with
    | none => ([], [])
    | some (name, attrs, closed, rest) =>
      if closed then ([start name attrs true], rest)
      else
        let (inside, rest) := readInside name rest
        (start name attrs false :: inside, rest)

def readText : Chars → Chars × Chars
  | [] => ([], [])
  | c :: r =>
    if c == '<' && opensMarkup r then ([], c :: r)
    else
      let (a, b) := readText r
      (c :: a, b)

/-- The tokens of normalized source; `fuel` bounds their number. -/
def scanFrom : Nat → Chars → List Token
  | 0, _ => []
  | fuel + 1, s =>
    match s with
    | [] => []
    | c :: r =>
      if c == '<' && opensMarkup r then
        let (ts, rest) := readMarkup r
        ts ++ scanFrom fuel rest
      else
        let (t, rest) := readText s
        text (CharRef.resolve false t) :: scanFrom fuel rest

def scan (source : Chars) : List Token :=
  let s := normalize source
  scanFrom (s.length + 1) s

end Token

end TrackerHub.Page
