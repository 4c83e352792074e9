import TrackerHub.Yaml.Source

/-! # Kinds of nodes

Every node has a kind. A tag names it, or the text of a plain scalar shows it: truth values,
numbers, times, the empty value and the marks for merging and for a default value are recognised
by their spelling, and any other text is a text.
-/
namespace TrackerHub.Yaml
open TrackerHub.Text

inductive Kind where
  | null
  | bool
  | int
  | float
  | time
  | merge
  | value
  | text
  | binary
  | list
  | map
  | pairs
  | set
  | unknown
  deriving Repr, DecidableEq, Inhabited

/-- What all tags of the kinds begin with. -/
def tagStart : Chars := "tag:yaml.org,2002:".toList

def namedKinds : List (String × Kind) := [
  ("null", .null), ("bool", .bool), ("int", .int), ("float", .float), ("timestamp", .time),
  ("merge", .merge), ("value", .value), ("str", .text), ("binary", .binary), ("seq", .list),
  ("map", .map), ("omap", .pairs), ("pairs", .pairs), ("set", .set)]

def kindOfTag (tag : Chars) : Kind :=
  match dropStart? tagStart tag with
  | none => .unknown
  | some name =>
    match namedKinds.find? fun e => e.1.toList == name with
    | some (_, k) => k
    | none => .unknown

/-- The spellings of truth values, in lower case. -/
def truthWords : List (String × Bool) := [
  ("yes", true), ("no", false), ("true", true), ("false", false), ("on", true), ("off", false)]

/-- The three ways in which a word may be spelled: in lower case, with a capital, and in
capitals. -/
def spellings (word : String) : List Chars :=
  let w := word.toList
  let capital := match w with
    | [] => []
    | c :: r => c.toUpper :: r
  [w, capital, w.map Char.toUpper]

def isSpelled (word : String) (s : Chars) : Bool := (spellings word).contains s

def dropSign : Chars → Chars
  | '-' :: r => r
  | '+' :: r => r
  | r => r

/-- Whether the text is a digit followed by digits and underscores. -/
def isDigitRun : Chars → Bool
  | [] => false
  | c :: r => c.isDigit && r.all fun d => d.isDigit || d == '_'

/-- Whether the text is a count of minutes or seconds: one digit, or two and below sixty. -/
def isSixtieth : Chars → Bool
  | [a] => a.isDigit
  | [a, b] => a.isDigit && decide (a ≤ '5') && b.isDigit
  | _ => false

def isInt (s : Chars) : Bool :=
  let t := dropSign s
  let run := fun (p : Char → Bool) (r : Chars) => !r.isEmpty && r.all fun c => p c || c == '_'
  let octal := fun (c : Char) => decide ('0' ≤ c) && decide (c ≤ '7')
  match t with
  | ['0'] => true
  | '0' :: 'b' :: r => run (fun c => c == '0' || c == '1') r
  | '0' :: 'x' :: r => run (fun c => (hexDigit? c).isSome) r
  | '0' :: r => run octal r
  | _ =>
    match splitOn ':' t with
    | first :: rest => isDigitRun first && rest.all isSixtieth
    | [] => false

/-- Whether the text is empty or an exponent with its sign. -/
def isExponent : Chars → Bool
  | [] => true
  | e :: sign :: r =>
    (e == 'e' || e == 'E') && (sign == '-' || sign == '+') && !r.isEmpty && r.all Char.isDigit
  | _ => false

/-- Whether the text is digits and underscores with an exponent after them. -/
def isPlaces (s : Chars) : Bool := isExponent (s.dropWhile fun c => c.isDigit || c == '_')

def isFloat (s : Chars) : Bool :=
  let t := dropSign s
  let unsigned := t.length == s.length
  let whole := t.takeWhile (· != '.')
  match t.drop whole.length with
  | [] => false
  | _ :: places =>
    if whole.isEmpty then
      isSpelled "inf" places
        || (unsigned && (["nan", "NaN", "NAN"].any (·.toList == places)
          || (places.head?.any Char.isDigit && isPlaces places)))
    else
      (isDigitRun whole && isPlaces places)
        || (match splitOn ':' whole with
          | first :: a :: rest =>
            isDigitRun first && (a :: rest).all isSixtieth
              && places.all fun c => c.isDigit || c == '_'
          | _ => false)

/-- A time as it is written: a day, and a time of day with a zone. -/
structure TimeText where
  year : Nat
  month : Nat
  day : Nat
  /-- Hour, minute, second and the digits of a fraction. -/
  clock : Option (Nat × Nat × Nat × Chars) := none
  /-- The distance from universal time in minutes. -/
  zone : Option Int := none
  deriving Repr, DecidableEq

/-- Takes a number of at least `least` and at most two digits, or of exactly `least` digits. -/
def takeNumber? (least : Nat) (s : Chars) : Option (Nat × Chars) :=
  let digits := (s.take (max least 2)).takeWhile Char.isDigit
  if digits.length < least then none
  else (readDecimal? digits).map fun n => (n, s.drop digits.length)

def takeChar? (c : Char) : Chars → Option Chars
  | [] => none
  | d :: r => if c == d then some r else none

def readZone? (s : Chars) : Option (Option Int) :=
  match s.dropWhile fun c => c == ' ' || c == '\t' with
  | [] => if s.isEmpty then some none else none
  | ['Z'] => some (some 0)
  | sign :: r =>
    if sign != '-' && sign != '+' then none
    else do
      let (hours, rest) ← takeNumber? 1 r
      let minutes ←
        match rest with
        | [] => some 0
        | ':' :: m => if m.length = 2 then (takeNumber? 2 m).map (·.1) else none
        | _ => none
      let total : Int := (60 * hours + minutes : Nat)
      some (some (if sign == '-' then -total else total))

def readClock? (s : Chars) : Option ((Nat × Nat × Nat × Chars) × Option Int) := do
  let (hour, s) ← takeNumber? 1 s
  let (minute, s) ← takeNumber? 2 (← takeChar? ':' s)
  let (second, s) ← takeNumber? 2 (← takeChar? ':' s)
  let (fraction, s) :=
    match s with
    | '.' :: r => (r.takeWhile Char.isDigit, r.dropWhile Char.isDigit)
    | r => ([], r)
  let zone ← readZone? s
  some ((hour, minute, second, fraction), zone)

def readTimeText? (s : Chars) : Option TimeText := do
  let (year, s) ← takeNumber? 4 s
  let (month, s) ← takeNumber? 1 (← takeChar? '-' s)
  let (day, s) ← takeNumber? 1 (← takeChar? '-' s)
  match s with
  | [] => some ⟨year, month, day, none, none⟩
  | c :: r =>
    let clock ←
      if c == 'T' || c == 't' then some r
      else if c == ' ' || c == '\t' then some (r.dropWhile fun c => c == ' ' || c == '\t')
      else none
    let (clock, zone) ← readClock? clock
    some ⟨year, month, day, some clock, zone⟩

/-- Whether the text is a time; a day alone must have all its digits. -/
def isTime (s : Chars) : Bool :=
  match readTimeText? s with
  | some t => t.clock.isSome || s.length == 10
  | none => false

/-- The kind that the text of a plain scalar shows. -/
def kindOfPlain (s : Chars) : Kind :=
  if truthWords.any fun w => isSpelled w.1 s then .bool
  else if isFloat s then .float
  else if isInt s then .int
  else if s == ['<', '<'] then .merge
  else if s.isEmpty || s == ['~'] || isSpelled "null" s then .null
  else if isTime s then .time
  else if s == ['='] then .value
  else .text

end TrackerHub.Yaml
