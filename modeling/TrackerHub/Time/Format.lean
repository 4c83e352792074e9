import TrackerHub.Number.Numeral
import TrackerHub.Text.CharClass.Fold
import TrackerHub.Time.Calendar

/-! # Date formats

A format is a text with directives, each a percent mark and a letter, that stand for the parts of a
date. Reading a date tries the forms of each directive in a fixed order, goes back where the rest
does not fit, and takes the first way through the format.
-/
namespace TrackerHub.Time
open TrackerHub.Text

/-- A part of a date that a format can name. -/
inductive Directive where
  | day | fraction | hour24 | hour12 | isoYear | dayOfYear | month | minute | second
  | weekFromSunday | weekFromMonday | weekday | isoWeekday | isoWeek | shortYear | year | zone
  | dayName | shortDayName | monthName | shortMonthName | halfDay | zoneName
  deriving Repr, DecidableEq, Inhabited

inductive Piece where
  | char (c : Char)
  | blanks
  | part (d : Directive)
  deriving Repr, DecidableEq, Inhabited

inductive FormatError where
  | badDirective
  | repeatedPart (d : Directive)
  deriving Repr, DecidableEq, Inhabited

/-- The pieces that a letter behind a percent mark stands for. -/
def directivePieces? (c : Char) : Option (List Piece) :=
  let clock : List Piece :=
    [.part .hour24, .char ':', .part .minute, .char ':', .part .second]
  match c with
  | 'd' => some [.part .day]
  | 'f' => some [.part .fraction]
  | 'H' => some [.part .hour24]
  | 'I' => some [.part .hour12]
  | 'G' => some [.part .isoYear]
  | 'j' => some [.part .dayOfYear]
  | 'm' => some [.part .month]
  | 'M' => some [.part .minute]
  | 'S' => some [.part .second]
  | 'U' => some [.part .weekFromSunday]
  | 'W' => some [.part .weekFromMonday]
  | 'w' => some [.part .weekday]
  | 'u' => some [.part .isoWeekday]
  | 'V' => some [.part .isoWeek]
  | 'y' => some [.part .shortYear]
  | 'Y' => some [.part .year]
  | 'z' => some [.part .zone]
  | 'A' => some [.part .dayName]
  | 'a' => some [.part .shortDayName]
  | 'B' => some [.part .monthName]
  | 'b' => some [.part .shortMonthName]
  | 'p' => some [.part .halfDay]
  | 'Z' => some [.part .zoneName]
  | 'c' => some ([.part .shortDayName, .blanks, .part .shortMonthName, .blanks, .part .day, .blanks]
      ++ clock ++ [.blanks, .part .year])
  | 'x' => some [.part .month, .char '/', .part .day, .char '/', .part .shortYear]
  | 'X' => some clock
  | '%' => some [.char '%']
  | _ => none

/-- The pieces of a format; a run of blanks is one piece. -/
def pieces? : Chars → Option (List Piece)
  | [] => some []
  | ['%'] => none
  | '%' :: c :: r => do
    let first ← directivePieces? c
    let rest ← pieces? r
    pure (first ++ rest)
  | c :: r => do
    let rest ← pieces? r
    if isBlank c then
      match rest with
      | .blanks :: _ => if r.head?.any isBlank then pure rest else pure (.blanks :: rest)
      | _ => pure (.blanks :: rest)
    else pure (.char c :: rest)

/-- The first part that a format names twice. -/
def repeatedPart? : List Piece → Option Directive
  | [] => none
  | .part d :: r => if r.contains (.part d) then some d else repeatedPart? r
  | _ :: r => repeatedPart? r

def parseFormat (format : Chars) : Except FormatError (List Piece) :=
  match pieces? format with
  | none => .error .badDirective
  | some ps =>
    match repeatedPart? ps with
    | some d => .error (.repeatedPart d)
    | none => .ok ps

/-- The ways to read a beginning of a text: what is read, and the rest. -/
abbrev Forms := Chars → List (Chars × Chars)

/-- One character that satisfies `p`. -/
def one (p : Char → Bool) : Forms
  | c :: r => if p c then [([c], r)] else []
  | [] => []

def Forms.then (a b : Forms) : Forms := fun s =>
  (a s).flatMap fun (x, r) => (b r).map fun (y, t) => (x ++ y, t)

/-- One form or, failing it, another. -/
def Forms.or (a b : Forms) : Forms := fun s => a s ++ b s

def Forms.maybe (a : Forms) : Forms := fun s => a s ++ [([], s)]

/-- Between `least` and `least + more` characters that satisfy `p`, as many as possible first. -/
def many (p : Char → Bool) (least more : Nat) : Forms := fun s =>
  let n := min (least + more) (s.takeWhile p).length
  if n < least then []
  else (List.range (n + 1 - least)).map fun i => (s.take (n - i), s.drop (n - i))

/-- A digit of ASCII from `a` to `b`. -/
def oneOf (a b : Char) : Forms := one fun c => decide (a ≤ c) && decide (c ≤ b)

def digit : Forms := one isDecimalDigit

def exactly (c : Char) : Forms := one (· == c)

/-- One of several words, in any case; longer ones come first. -/
def word (words : List Chars) : Forms := fun s =>
  (words.mergeSort fun a b => decide (b.length ≤ a.length)).filterMap fun w =>
    (dropStartFold? w s).map fun rest => (s.take w.length, rest)

/-- The forms of each part, in the order in which they are tried. -/
def Directive.forms : Directive → Forms
  | .day => ((exactly '3').then (oneOf '0' '1')).or (((oneOf '1' '2').then digit).or
      (((exactly '0').then (oneOf '1' '9')).or
        ((oneOf '1' '9').or ((exactly ' ').then (oneOf '1' '9')))))
  | .fraction => many (fun c => c.isDigit) 1 5
  | .hour24 => ((exactly '2').then (oneOf '0' '3')).or (((oneOf '0' '1').then digit).or digit)
  | .hour12 => ((exactly '1').then (oneOf '0' '2')).or
      (((exactly '0').then (oneOf '1' '9')).or (oneOf '1' '9'))
  | .isoYear => digit.then (digit.then (digit.then digit))
  | .dayOfYear =>
    ((exactly '3').then ((exactly '6').then (oneOf '0' '6'))).or
      (((exactly '3').then ((oneOf '0' '5').then digit)).or
      (((oneOf '1' '2').then (digit.then digit)).or
      (((exactly '0').then ((oneOf '1' '9').then digit)).or
      (((exactly '0').then ((exactly '0').then (oneOf '1' '9'))).or
      (((oneOf '1' '9').then digit).or
      (((exactly '0').then (oneOf '1' '9')).or (oneOf '1' '9')))))))
  | .month => ((exactly '1').then (oneOf '0' '2')).or
      (((exactly '0').then (oneOf '1' '9')).or (oneOf '1' '9'))
  | .minute => ((oneOf '0' '5').then digit).or digit
  | .second => ((exactly '6').then (oneOf '0' '1')).or (((oneOf '0' '5').then digit).or digit)
  | .weekFromSunday =>
    ((exactly '5').then (oneOf '0' '3')).or (((oneOf '0' '4').then digit).or digit)
  | .weekFromMonday =>
    ((exactly '5').then (oneOf '0' '3')).or (((oneOf '0' '4').then digit).or digit)
  | .weekday => oneOf '0' '6'
  | .isoWeekday => oneOf '1' '7'
  | .isoWeek => ((exactly '5').then (oneOf '0' '3')).or (((exactly '0').then (oneOf '1' '9')).or
      (((oneOf '1' '4').then digit).or digit))
  | .shortYear => digit.then digit
  | .year => digit.then (digit.then (digit.then digit))
  | .zone =>
    let colon := (exactly ':').maybe
    let fraction := ((exactly '.').then (many isDecimalDigit 1 5)).maybe
    let seconds := (colon.then ((oneOf '0' '5').then (digit.then fraction))).maybe
    ((one fun c => c == '+' || c == '-').then (digit.then (digit.then (colon.then
      ((oneOf '0' '5').then (digit.then seconds)))))).or (exactly 'Z')
  | .dayName => word (dayNames.map String.toList)
  | .shortDayName => word (dayNames.map shortName)
  | .monthName => word (monthNames.map String.toList)
  | .shortMonthName => word (monthNames.map shortName)
  | .halfDay => word [['a', 'm'], ['p', 'm']]
  | .zoneName => word [['u', 't', 'c'], ['g', 'm', 't']]

/-- Reads a beginning of a text through the pieces of a format: the texts of the parts, in order,
and the rest. -/
def readPieces : List Piece → Chars → Option (List (Directive × Chars) × Chars)
  | [], s => some ([], s)
  | .char c :: ps, s =>
    match s with
    | d :: r => if sameLetter c d then readPieces ps r else none
    | [] => none
  | .blanks :: ps, s => (many isBlank 1 s.length s).findSome? fun (_, r) => readPieces ps r
  | .part d :: ps, s => (d.forms s).findSome? fun (x, r) =>
      (readPieces ps r).map fun (parts, rest) => ((d, x) :: parts, rest)

/-- The number that digits of any script write, blanks passed over. -/
def numberOf (s : Chars) : Nat :=
  s.foldl (fun n c => match digitValue? c with
    | some d => 10 * n + d
    | none => n) 0

/-- The place of a word in a list, in upper or lower case. -/
def placeOf? (words : List Chars) (s : Chars) : Option Nat :=
  words.findIdx? fun w => lower w == lower s

/-- What the parts of a date say. -/
structure Reading where
  year : Option Nat := none
  isoYear : Option Nat := none
  month : Nat := 1
  day : Nat := 1
  hour : Nat := 0
  minute : Nat := 0
  second : Nat := 0
  micro : Nat := 0
  /-- The day of the week, Monday being zero. -/
  weekday : Option Nat := none
  dayOfYear : Option Int := none
  isoWeek : Option Nat := none
  /-- The week of the year, and whether weeks begin on Monday. -/
  week : Option (Nat × Bool) := none
  offset : Option Int := none
  deriving Repr, Inhabited

/-- The offset that a zone's text writes. A text that uses colons for a part of it only is none. -/
def readOffset? (z : Chars) : Option Int :=
  if z == ['Z'] then some 0
  else
    let negative := z.head? == some '-'
    let bare : Option Chars :=
      -- A colon before the minutes asks for one before the seconds, and none for none.
      if z[3]? == some ':' then
        let z := z.take 3 ++ z.drop 4
        if 5 < z.length then
          if z[5]? == some ':' then some (z.take 5 ++ z.drop 6) else none
        else some z
      else if z[5]? == some ':' then none
      else some z
    bare.map fun z =>
      let seconds := (numberOf ((z.drop 1).take 2) * 60 + numberOf ((z.drop 3).take 2)) * 60
        + numberOf ((z.drop 5).take 2)
      let rest := z.drop 8
      let micro := numberOf (rest ++ List.replicate (6 - rest.length) '0')
      let total : Int := ((seconds * microsPerSecond + micro : Nat) : Int)
      if negative then -total else total

/-- Takes the text of one part over; `half` is the text of the half of the day, if there is one. -/
def Reading.take (half : Option Chars) (r : Reading) (part : Directive × Chars) : Option Reading :=
  let n := numberOf part.2
  match part.1 with
  -- Two digits stand for the years from 1969 to 2068.
  | .shortYear => some { r with year := some (if n ≤ 68 then 2000 + n else 1900 + n) }
  | .year => some { r with year := some n }
  | .isoYear => some { r with isoYear := some n }
  | .month => some { r with month := n }
  | .monthName => (placeOf? (monthNames.map String.toList) part.2).map fun i =>
      { r with month := i + 1 }
  | .shortMonthName => (placeOf? (monthNames.map shortName) part.2).map fun i =>
      { r with month := i + 1 }
  | .day => some { r with day := n }
  | .hour24 => some { r with hour := n }
  | .hour12 =>
    let afternoon := half.any fun h => lower h == ['p', 'm']
    some { r with hour := if afternoon then (if n = 12 then 12 else n + 12)
                          else (if n = 12 then 0 else n) }
  | .minute => some { r with minute := n }
  | .second => some { r with second := n }
  | .fraction => some { r with micro := n * Nat.pow 10 (6 - part.2.length) }
  | .dayName => (placeOf? (dayNames.map String.toList) part.2).map fun i =>
      { r with weekday := some i }
  | .shortDayName => (placeOf? (dayNames.map shortName) part.2).map fun i =>
      { r with weekday := some i }
  | .weekday => some { r with weekday := some ((n + 6) % 7) }
  | .isoWeekday => some { r with weekday := some (n - 1) }
  | .dayOfYear => some { r with dayOfYear := some n }
  | .weekFromSunday => some { r with week := some (n, false) }
  | .weekFromMonday => some { r with week := some (n, true) }
  | .isoWeek => some { r with isoWeek := some n }
  | .zone => (readOffset? part.2).map fun o => { r with offset := some o }
  | .halfDay => some r
  | .zoneName => some r

/-- The day of the year that a week and a weekday name; it may lie in the year before. -/
def dayOfWeek (year week weekday : Nat) (fromMonday : Bool) : Int :=
  let first := (⟨year, 1, 1⟩ : Date).weekday
  let first := if fromMonday then first else (first + 1) % 7
  let weekday := if fromMonday then weekday else (weekday + 1) % 7
  let partialWeek := (7 - first) % 7
  if week = 0 then 1 + (weekday : Int) - first
  else 1 + (partialWeek + 7 * (week - 1) + weekday : Nat)

/-- The year and the day of the year of a week of the week calendar. -/
def dayOfIsoWeek (year week weekday : Nat) : Nat × Int :=
  -- The fourth of January always lies in week 1.
  let correction := (⟨year, 1, 4⟩ : Date).weekday + 1 + 3
  let n : Int := (week * 7 + weekday : Nat) - (correction : Int)
  if n < 1 then
    (year - 1, n + daysBeforeYear year - daysBeforeYear (year - 1))
  else (year, n)

/-- Whether the parts that name weeks go together. -/
def Reading.weeksAgree (r : Reading) : Bool :=
  if r.isoYear.isSome then r.dayOfYear.isNone && r.isoWeek.isSome && r.weekday.isSome
  else r.isoWeek.isNone

/-- The year and the day of the year that weeks name, or the day of the year that is given. -/
def Reading.yearDay? (r : Reading) (year : Nat) : Nat × Option Int :=
  match r.dayOfYear, r.weekday with
  | none, some w =>
    let named : Nat × Option Int :=
      match r.week with
      | some (n, fromMonday) => (year, some (dayOfWeek year n w fromMonday))
      | none =>
        match r.isoYear, r.isoWeek with
        | some y, some n =>
          let (y, d) := dayOfIsoWeek y n (w + 1)
          (y, some d)
        | _, _ => (year, none)
    match named with
    | (y, some d) =>
      if d ≤ 0 then (y - 1, some (d + (if isLeap (y - 1) then 366 else 365))) else (y, some d)
    | (y, none) => (y, none)
  | d, _ => (year, d)

def Reading.date? (r : Reading) : Option Date :=
  if !r.weeksAgree then none
  else
    let noYear := r.year.isNone
    let leapDay := decide (r.month = 2) && decide (r.day = 29)
    let year := r.year.getD (if leapDay then 1904 else 1900)
    let needsYear := r.week.isSome && r.weekday.isSome && r.dayOfYear.isNone
    if needsYear && year = 0 then none
    else if r.isoYear == some 0 then none
    else
      let (year, day) := r.yearDay? year
      let found : Option Date :=
        match day with
        | none =>
          let d : Date := ⟨year, r.month, r.day⟩
          if d.isValid then some d else none
        | some n =>
          if year = 0 ∨ maxYear < year then none
          else
            let ordinal := n - 1 + (daysBeforeYear year : Int) + 1
            if ordinal < 1 ∨ (maxOrdinal : Int) < ordinal then none
            else some (Date.ofOrdinal ordinal.toNat)
      found.bind fun d =>
        -- The year 1900 has no leap day, so that a leap day without a year is no date after all.
        let d := if noYear && leapDay then { d with year := 1900 } else d
        if d.isValid then some d else none

/-- The date-time of a reading, if all parts are in range. -/
def Reading.dateTime? (r : Reading) : Option DateTime := do
  let date ← r.date?
  let t : DateTime := {
    date := date, hour := r.hour, minute := r.minute, second := r.second, micro := r.micro,
    offset := r.offset }
  let zoneOk := r.offset.all fun o => decide (o.natAbs < microsPerDay)
  if t.isValid && zoneOk then some t else none

/-- Reads a date-time that has the form of the pieces from beginning to end. -/
def readDateTime? (pieces : List Piece) (s : Chars) : Option DateTime :=
  match readPieces pieces s with
  | some (parts, []) =>
    let half := (parts.find? fun p => p.1 == .halfDay).map (·.2)
    (parts.foldlM (Reading.take half) {}).bind Reading.dateTime?
  | _ => none

end TrackerHub.Time
