import TrackerHub.Text.CharClass.Fold
import TrackerHub.Time.Format
import TrackerHub.Time.Relative

/-! # Times as trackers print them

A time may be a duration, a day named by its distance from today, a date without a year, or a date
in one of many formats. The readings are tried in that order; a date without a zone is universal
time.
-/
namespace TrackerHub.Time
open TrackerHub.Text

/-- The formats of full dates, in the order in which they are tried. -/
def dateFormats : List String := [
  "%a, %d %b %Y %H:%M:%S %z",
  "%a, %d %b %Y %H:%M:%S %Z",
  "%a, %d %b %Y %H:%M:%S",
  "%a, %d %b %Y %H:%M",
  "%a, %d %b %Y %I:%M%p",
  "%a, %d %b %Y %I:%M %p",
  "%a, %d %b %Y",
  "%Y-%m-%dT%H:%M:%S%z",
  "%Y-%m-%dT%H:%M:%S.%f%z",
  "%Y-%m-%dT%H:%M:%S",
  "%Y-%m-%d %H:%M:%S%z",
  "%Y-%m-%d %H:%M:%S %z",
  "%Y-%m-%d %H:%M:%S",
  "%Y-%m-%d %H:%M",
  "%Y-%m-%d",
  "%m-%d-%Y %H:%M:%S",
  "%m-%d-%Y %H:%M",
  "%m-%d-%y %H:%M",
  "%m-%d-%Y",
  "%m/%d/%Y %H:%M:%S",
  "%m/%d/%Y %H:%M",
  "%m/%d/%Y",
  "%d %b %Y %H:%M:%S",
  "%d %b %Y %H:%M",
  "%d %b %Y",
  "%d %B %Y",
  "%b %d %Y %H:%M",
  "%b %d, %Y %H:%M",
  "%b %d, %Y",
  "%B %d, %Y",
  "%A, %b %d, %Y",
  "%A, %B %d, %Y",
  "%a %b %d %H:%M:%S %Y"]

/-- Reads a date in the first format that fits. -/
def readAbsolute? (s : Chars) : Option DateTime :=
  dateFormats.findSome? fun f =>
    match parseFormat f.toList with
    | .ok pieces => (readDateTime? pieces s).map DateTime.assumeUniversal
    | .error _ => none

/-- Whether a text holds a word, in any case; `inWord` says whether a word character stands
before it. -/
def hasWord (w : Chars) : Bool → Chars → Bool
  | _, [] => false
  | inWord, c :: r =>
    (!inWord && (match dropStartFold? w (c :: r) with
      | some rest => !rest.head?.any isWordChar
      | none => false))
    || hasWord w (isWordChar c) r

/-- Whether a text begins like a duration: a numeral with a letter after it. -/
def looksLikeDuration (s : Chars) : Bool :=
  let s := s.dropWhile isBlank
  let numeral := numeralAt s
  !numeral.isEmpty && ((s.drop numeral.length).dropWhile isBlank).head?.any isLatinLetterFold

def isDayGap (c : Char) : Bool := isBlank c || c == ','

/-- The length of the name of a day and the gap after it, if the text begins with them. -/
def dayNameLength? (w s : Chars) : Option Nat :=
  match dropStartFold? w s with
  | none => none
  | some rest =>
    let gap := rest.takeWhile isDayGap
    if rest.isEmpty || !gap.isEmpty then some (w.length + gap.length) else none

/-- Puts `date` in place of the name of a day, in any case, wherever it stands as a word.
`inWord` says whether a word character stands before the text, `skip` counts the characters of a
name that are still to be passed. -/
def replaceDayFrom (w date : Chars) : Bool → Nat → Chars → Chars
  | _, _, [] => []
  | _, skip + 1, c :: r => replaceDayFrom w date (isWordChar c) skip r
  | inWord, 0, c :: r =>
    match if inWord then none else dayNameLength? w (c :: r) with
    | some n => date ++ replaceDayFrom w date (isWordChar c) (n - 1) r
    | none => c :: replaceDayFrom w date (isWordChar c) 0 r

def hasDay (w : Chars) : Bool → Chars → Bool
  | _, [] => false
  | inWord, c :: r =>
    (!inWord && (dayNameLength? w (c :: r)).isSome) || hasDay w (isWordChar c) r

/-- Puts the date that lies `days` days after `now` in place of the name of a day. -/
def replaceDay (w : String) (days : Int) (now : DateTime) (s : Chars) : Except TimeError Chars :=
  if hasDay w.toList false s then
    match now.addMicros? (days * microsPerDay) with
    | some t => .ok (replaceDayFrom w.toList (t.date.mailText ++ [' ']) false 0 s)
    | none => .error .outOfCalendar
  else .ok s

/-- Adds the year to a date of month and day at the beginning of a text. -/
def addMissingYear (year : Nat) (s : Chars) : Chars :=
  let a := s.takeWhile isDecimalDigit
  match s.drop a.length with
  | '-' :: r =>
    let b := r.takeWhile isDecimalDigit
    let rest := r.drop b.length
    let short := fun (d : Chars) => !d.isEmpty && decide (d.length ≤ 2)
    if short a && short b && rest.head?.all isBlank then
      a ++ '-' :: b ++ '-' :: decimal year ++ rest
    else s
  | _ => s

/-- Reads a time in any of the ways in which trackers print it. -/
def readFuzzy (source : Chars) (now : DateTime) : Except TimeError DateTime :=
  if hasWord ['a', 'g', 'o'] false source then timeAgo source now
  else
    let absolute : Except TimeError DateTime := do
      let s := join [' '] (words source)
      let s ← replaceDay "today" 0 now s
      let s ← replaceDay "tomorrow" 1 now s
      let s ← replaceDay "yesterday" (-1) now s
      match readAbsolute? (trim (addMissingYear now.date.year s)) with
      | some t => pure t
      | none => throw (.noFormat source)
    -- A text that begins like a duration may still be a date, such as `3 Jan 2016`.
    if looksLikeDuration source then
      match timeAgo source now with
      | .ok t => .ok t
      | .error e => if e.isUnreadable then absolute else .error e
    else absolute

end TrackerHub.Time
