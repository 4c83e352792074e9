import TrackerHub.Text.CharClass.Word
import TrackerHub.Value

/-! # Templates

A template is a text with actions between double braces: the value at a path, a section that is
repeated for each item of a value, and a section that depends on whether a value is set. A hyphen
inside the braces trims the text on its side.
-/
namespace TrackerHub
open TrackerHub.Text

namespace Template

inductive TemplateError where
  | unclosed (source : String)
  | badArgument (argument word source : String)
  | unsupported (action source : String)
  | unfinished (source : String)
  | noValue (path : String)
  | noFields (key path : String)
  | notIterable (path : String)
  deriving Repr, DecidableEq, Inhabited

def TemplateError.message : TemplateError → String
  | .unclosed s => s!"unclosed action in {quote s}"
  | .badArgument a w s => s!"invalid argument {quote a} to {quote w} in {quote s}"
  | .unsupported a s => s!"unsupported action {quote a} in {quote s}"
  | .unfinished s => s!"unexpected end of template {quote s}"
  | .noValue p => s!"no value for {quote p}"
  | .noFields k p => s!"can't evaluate {quote k} in {quote p}"
  | .notIterable p => s!"range can't iterate over {quote p}"

inductive Token where
  | text (s : Chars)
  | action (s : Chars)
  deriving Repr, DecidableEq, Inhabited

def opening : Chars := ['\x7b', '\x7b']

def closing : Chars := ['\x7d', '\x7d']

/-- The end of an action at the beginning of a text: whether the text after it is trimmed, and the
rest. -/
def actionEnd? (s : Chars) : Option (Bool × Chars) :=
  let r := s.dropWhile isBlank
  match dropStart? closing r with
  | some rest => some (false, rest)
  | none =>
    match r with
    -- Without a blank before it the hyphen belongs to the action.
    | '-' :: t => if s.head?.any isBlank then (dropStart? closing t).map (true, ·) else none
    | _ => none

/-- The text of an action up to its end, whether the text after it is trimmed, and the rest. -/
def actionBody? : Chars → Option (Chars × Bool × Chars)
  | [] => (actionEnd? []).map fun (trimmed, rest) => ([], trimmed, rest)
  | c :: r =>
    match actionEnd? (c :: r) with
    | some (trimmed, rest) => some ([], trimmed, rest)
    | none => (actionBody? r).map fun (body, trimmed, rest) => (c :: body, trimmed, rest)

/-- An action behind its opening mark. -/
structure Action where
  body : Chars
  trimBefore : Bool
  trimAfter : Bool
  rest : Chars
  deriving Repr, DecidableEq

def readAction? (s : Chars) : Option Action :=
  let (before, s) :=
    match s with
    | '-' :: c :: r => if isBlank c then (true, r) else (false, s)
    | _ => (false, s)
  (actionBody? (s.dropWhile isBlank)).map fun (body, after, rest) => ⟨body, before, after, rest⟩

/-- A text as a piece, unless it is empty. -/
def textToken (s : Chars) : List Token := if s.isEmpty then [] else [.text s]

/-- Cuts a template into pieces; `fuel` bounds the number of actions. Nothing is returned if an
action is not closed. -/
def tokensFrom : Nat → Bool → Chars → Option (List Token)
  | 0, _, _ => none
  | fuel + 1, trimStart, s =>
    let before := fun (t : Chars) => if trimStart then t.dropWhile isBlank else t
    match cut? opening s with
    | none => some (textToken (before s))
    | some (chunk, rest) =>
      match readAction? rest with
      | none => none
      | some a =>
        let chunk := before chunk
        -- Both neighbours may trim a text: the one before it at its beginning, this one at its end.
        let chunk := if a.trimBefore then dropEndWhile isBlank chunk else chunk
        (tokensFrom fuel a.trimAfter a.rest).map fun more =>
          textToken chunk ++ .action a.body :: more

def tokens? (source : Chars) : Option (List Token) := tokensFrom (source.length + 1) false source

/-- Where a value is found: from the root or from the current value, by the keys one after
another. -/
structure Path where
  text : String
  fromRoot : Bool
  keys : List String
  deriving Repr, DecidableEq, Inhabited

/-- Whether the text may name a field. -/
def isKey : Chars → Bool
  | [] => false
  | c :: r => (c.isAlpha || c == '_') && r.all isWordChar

def readPath? (s : Chars) : Option Path :=
  let text := String.ofList s
  match s with
  | ['.'] => some ⟨text, false, []⟩
  | ['$'] => some ⟨text, true, []⟩
  | _ =>
    let (root, r) :=
      match s with
      | '$' :: r => (true, r)
      | _ => (false, s)
    match splitOn '.' r with
    | [] :: k :: ks =>
      if (k :: ks).all isKey then some ⟨text, root, (k :: ks).map String.ofList⟩ else none
    | _ => none

/-- The path as it is named when a value is missing. -/
def Path.label (p : Path) : String :=
  if p.fromRoot && !p.keys.isEmpty then String.ofList (p.text.toList.drop 1) else p.text

inductive Node where
  | text (s : String)
  | field (path : Path)
  | range (path : Path) (body : List Node)
  | choice (path : Path) (yes no : List Node)
  deriving Repr, Inhabited

def splitAction (body : Chars) : Chars × Chars :=
  let word := body.takeWhile (· != ' ')
  (word, trim ((body.drop word.length).drop 1))

def readArgument (source : String) (word argument : Chars) : Except TemplateError Path :=
  match readPath? argument with
  | some p => .ok p
  | none => .error (.badArgument (String.ofList argument) (String.ofList word) source)

/-- Reads parts up to one of the closing words: the parts, the word, and the rest. -/
def readNodes (source : String) : Nat → List String → List Token →
    Except TemplateError (List Node × String × List Token)
  | 0, _, _ => .error (.unfinished source)
  | _ + 1, ends, [] => if ends.isEmpty then .ok ([], "", []) else .error (.unfinished source)
  | fuel + 1, ends, .text s :: r => do
    let (nodes, word, rest) ← readNodes source fuel ends r
    pure (.text (String.ofList s) :: nodes, word, rest)
  | fuel + 1, ends, .action body :: r => do
    let (word, argument) := splitAction body
    let name := String.ofList word
    if ends.contains name then pure ([], name, r)
    else if name == "range" then
      -- The path is read behind the section, so that an error inside the section comes first.
      let (inner, _, r) ← readNodes source fuel ["end"] r
      let path ← readArgument source word argument
      let (nodes, last, rest) ← readNodes source fuel ends r
      pure (.range path inner :: nodes, last, rest)
    else if name == "if" then
      let (yes, stop, r) ← readNodes source fuel ["else", "end"] r
      let (no, r) ←
        if stop == "else" then do
          let (no, _, r) ← readNodes source fuel ["end"] r
          pure (no, r)
        else pure ([], r)
      let path ← readArgument source word argument
      let (nodes, last, rest) ← readNodes source fuel ends r
      pure (.choice path yes no :: nodes, last, rest)
    else
      match readPath? body with
      | some path =>
        let (nodes, last, rest) ← readNodes source fuel ends r
        pure (.field path :: nodes, last, rest)
      | none => throw (.unsupported (String.ofList body) source)

def parse (source : String) : Except TemplateError (List Node) :=
  match tokens? source.toList with
  | none => .error (.unclosed source)
  | some ts => (readNodes source (ts.length + 1) [] ts).map (·.1)

def lookUp (label : String) (v : Value) (key : String) : Except TemplateError Value :=
  match v with
  | .map entries =>
    match Value.find? entries (.text key) with
    | some x => .ok x
    | none => .error (.noValue label)
  | _ => .error (.noFields key label)

def resolve (p : Path) (here root : Value) : Except TemplateError Value :=
  p.keys.foldlM (lookUp p.label) (if p.fromRoot then root else here)

mutual

def fillText : Value → String
  | .null => ""
  | .bool b => if b then "true" else "false"
  | .list items => " ".intercalate (fillTexts items)
  | .tuple items => " ".intercalate (fillTexts items)
  | v => v.plainText

def fillTexts : List Value → List String
  | [] => []
  | v :: r => fillText v :: fillTexts r

end

/-- The items over which a section is repeated. -/
def items (path : Path) : Value → Except TemplateError (List Value)
  | .null => .ok []
  | .list xs => .ok xs
  | .tuple xs => .ok xs
  | .set xs => .ok xs
  | .map entries => .ok (entries.map (·.1))
  | _ => .error (.notIterable path.text)

mutual

def fillNode (root : Value) : Node → Value → Except TemplateError String
  | .text s, _ => .ok s
  | .field p, here => (resolve p here root).map fillText
  | .range p body, here => do
    let xs ← items p (← resolve p here root)
    let texts ← xs.mapM fun x => fillNodes root body x
    pure (String.join texts)
  | .choice p yes no, here => do
    if (← resolve p here root).isTruthy then fillNodes root yes here else fillNodes root no here

def fillNodes (root : Value) : List Node → Value → Except TemplateError String
  | [], _ => .ok ""
  | n :: r, here => do
    let s ← fillNode root n here
    let t ← fillNodes root r here
    pure (s ++ t)

end

def fill (nodes : List Node) (context : Value) : Except TemplateError String :=
  fillNodes context nodes context

/-- Reads and fills in a template; a text without actions is its own result. -/
def render (source : String) (context : Value) : Except TemplateError String :=
  if contains opening source.toList then do fill (← parse source) context else .ok source

end Template

end TrackerHub
