import TrackerHub.Regex.Match
import TrackerHub.Time.Fuzzy
import TrackerHub.Time.Layout
import TrackerHub.Value
import TrackerHub.Web.FormText
import TrackerHub.Web.Url

/-! # Filters

A filter turns one text into another. Definitions call filters by name, with an argument, and run
them one after another over what they have cut out of a page.
-/
namespace TrackerHub
open TrackerHub.Text

structure FilterCall where
  name : String
  args : Value := .null
  deriving Repr, Inhabited

namespace Filter

inductive FilterError where
  | unknown (name : String)
  | needsString (name : String)
  | needsPair (name : String)
  | needsStringFirst (name : String)
  | needsNumberSecond (name : String)
  | needsStrings (name : String)
  | badArgument (name kind : String)
  | badUrl (value : Chars) (cause : Web.UrlError)
  | noDatePattern (value : Chars)
  | badPattern (pattern : Chars)
  | noMatch (pattern : Chars)
  | noFragment (position : Int) (count : Nat)
  | badTime (value : Chars) (cause : Time.TimeError)
  | emptySeparator
  /-- There is no piece at a position, which has more digits than are ever written. -/
  | longPosition
  /-- A date pattern names a part of a date twice. -/
  | repeatedDatePart
  | timeOutOfRange (cause : Time.TimeError)
  /-- A pattern repeats more often than can be counted. -/
  | patternCount
  /-- A pattern has a repetition count with more digits than are ever read. -/
  | patternDigits (count : Nat)
  /-- A pattern chooses two alphabets. -/
  | patternAlphabet
  deriving Repr, DecidableEq, Inhabited

/-- Whether an error is one that a filter reports; any other one is a fault that nobody foresaw. -/
def FilterError.isReported : FilterError → Bool
  | .emptySeparator | .longPosition | .repeatedDatePart | .timeOutOfRange _ | .patternCount
  | .patternDigits _ | .patternAlphabet => false
  | _ => true

def FilterError.message : FilterError → String
  | .unknown n => "Unknown filter " ++ quote n
  | .needsString n => s!"Filter {quote n} requires a string argument"
  | .needsPair n => s!"Filter {quote n} requires a two item list argument"
  | .needsStringFirst n => s!"Filter {quote n} requires a string argument at idx 0"
  | .needsNumberSecond n => s!"Filter {quote n} requires an int argument at idx 1"
  | .needsStrings n => s!"Filter {quote n} requires string arguments"
  | .badArgument n kind => s!"Filter {quote n} argument type {kind} was invalid"
  | .badUrl v cause => "Unparseable url " ++ String.ofList (quoted v) ++ ": " ++ cause.message
  | .noDatePattern v => "No matching date pattern for " ++ String.ofList (quoted v)
  | .badPattern p => "Invalid pattern " ++ String.ofList (quoted p)
  | .noMatch p => "No matches found for pattern " ++ String.ofList (quoted p)
  | .noFragment position count => s!"Split position {position} out of range for {count} fragments"
  | .badTime v cause =>
    "error parsing fuzzy time " ++ String.ofList (quoted v) ++ ": " ++ cause.message
  | .emptySeparator => "empty separator"
  | .longPosition =>
    s!"Exceeds the limit ({Numeral.maxDigits} digits) for integer string conversion; "
      ++ "use sys.set_int_max_str_digits() to increase the limit"
  | .repeatedDatePart => "redefinition of a group"
  | .timeOutOfRange cause => cause.message
  | .patternCount => "the repetition number is too large"
  | .patternDigits n => (Numeral.NumeralError.tooManyDigits n).message
  | .patternAlphabet => "ASCII and UNICODE flags are incompatible"

def textArg (name : String) : Value → Except FilterError Chars
  | .text s => .ok s.toList
  | _ => .error (.needsString name)

def pairArgs (name : String) : Value → Except FilterError (Value × Value)
  | .list [a, b] => .ok (a, b)
  | .tuple [a, b] => .ok (a, b)
  | _ => .error (.needsPair name)

/-- The value of a parameter in the query of an address; the first one, if it is repeated. -/
def queryParameter (param value : Chars) : Except FilterError Chars :=
  match Web.Url.parse value with
  | .error e => .error (.badUrl value e)
  | .ok u =>
    let pairs := Web.decodeForm true (String.ofList u.query)
    match pairs.find? fun p => p.1.toList == param with
    | some p => .ok p.2.toList
    | none => .ok []

/-- Reads a date in the first of some patterns that fits, and writes it as a mail date. -/
def readDate (value : Chars) : List Chars → Except FilterError Chars
  | [] => .error (.noDatePattern value)
  | pattern :: rest =>
    match Time.parseFormat (Time.formatOf pattern) with
    -- A pattern that is no format fits no text.
    | .error .badDirective => readDate value rest
    | .error (.repeatedPart _) => .error .repeatedDatePart
    | .ok pieces =>
      match Time.readDateTime? pieces value with
      | some t => .ok t.assumeUniversal.mailText
      | none => readDate value rest

/-- The first group of a pattern's match, or all of it if the pattern has no groups. -/
def matchPattern (pattern value : Chars) : Except FilterError Chars :=
  match Regex.parse pattern with
  | .error .malformed => .error (.badPattern pattern)
  | .error .countTooLarge => .error .patternCount
  | .error (.countTooLong n) => .error (.patternDigits n)
  | .error .alphabetClash => .error .patternAlphabet
  | .ok r =>
    let text := value.toArray
    match r.search? text with
    | none => .error (.noMatch pattern)
    | some m => .ok (if r.groups = 0 then m.whole text else (m.group? text 1).getD [])

/-- The piece at a position, counted from the end if it is negative. -/
def pieceAt (pieces : List Chars) (position : Int) : Except FilterError Chars :=
  let count := pieces.length
  let i := if position < 0 then position + count else position
  match if i < 0 then none else pieces[i.toNat]? with
  | some p => .ok p
  | none =>
    -- The report shows the position, which it cannot do if there are too many digits.
    if Nat.pow 10 Numeral.maxDigits ≤ position.natAbs then .error .longPosition
    else .error (.noFragment position count)

/-- The piece of a text at a position, cut at a separator. -/
def splitPiece (sep : Chars) (position : Int) (value : Chars) : Except FilterError Chars :=
  if sep.isEmpty then .error .emptySeparator else pieceAt (splitOnText sep value) position

/-- Reads a time in any of its forms and writes it as a mail date. -/
def normalTime (value : Chars) (now : Time.DateTime) : Except FilterError Chars :=
  match Time.readFuzzy value now with
  | .ok t => .ok t.mailText
  | .error e => if e.isUnreadable then .error (.badTime value e) else .error (.timeOutOfRange e)

/-- The date patterns of an argument: one, or a list of them. -/
def datePatterns (name : String) (args : Value) : Except FilterError (List Chars) :=
  let texts := fun (items : List Value) =>
    items.mapM fun v =>
      match v with
      | .text s => .ok s.toList
      | _ => .error (FilterError.badArgument name args.kindName)
  match args with
  | .text s => .ok [s.toList]
  | .list items => texts items
  | .tuple items => texts items
  | _ => .error (.badArgument name args.kindName)

def names : List String := [
  "append", "dateparse", "fuzzytime", "prepend", "querystring", "regexp", "reltime", "replace",
  "split", "timeago", "timeparse", "trim"]

def run (name : String) (args : Value) (value : Chars) (now : Time.DateTime) :
    Except FilterError Chars :=
  match name with
  | "querystring" => do queryParameter (← textArg name args) value
  | "dateparse" => do readDate value (← datePatterns name args)
  | "timeparse" => do readDate value (← datePatterns name args)
  | "regexp" => do matchPattern (← textArg name args) value
  | "split" => do
    let (sep, position) ← pairArgs name args
    match sep, position with
    | .text sep, .int n => splitPiece sep.toList n value
    | .text _, _ => throw (.needsNumberSecond name)
    | _, _ => throw (.needsStringFirst name)
  | "replace" => do
    let (old, new) ← pairArgs name args
    match old, new with
    | .text old, .text new => pure (replaceAll old.toList new.toList value)
    | _, _ => throw (.needsStrings name)
  | "trim" =>
    match args with
    | .null => .ok (trim value)
    | _ => do
      let cut ← textArg name args
      pure (trimBy (fun c => cut.contains c) value)
  | "append" => do pure (value ++ (← textArg name args))
  | "prepend" => do pure ((← textArg name args) ++ value)
  | "timeago" => normalTime value now
  | "fuzzytime" => normalTime value now
  | "reltime" => normalTime value now
  | _ => .error (.unknown name)

def runAll (calls : List FilterCall) (value : Chars) (now : Time.DateTime) :
    Except FilterError Chars :=
  calls.foldlM (fun v c => run c.name c.args v now) value

end Filter

end TrackerHub
