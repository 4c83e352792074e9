import TrackerHub.Page.CharRefTable
import TrackerHub.Text.Chars

/-! # References to characters

A page can write a character by its number or by its name. `resolve` replaces the references of a
text and leaves everything else as it is.
-/
namespace TrackerHub.Page

open Text (Chars)

/-- A name of a character, or of two characters that follow each other. -/
structure CharRef where
  name : Chars
  /-- Whether the closing semicolon may be left out. -/
  bare : Bool
  stands : Chars
  deriving Inhabited

namespace CharRef

def ofEntry (entry : Chars) : Option CharRef := do
  let name := entry.takeWhile Char.isAlphanum
  let mark ← (entry.drop name.length).head?
  let codes := Text.splitOn '+' (entry.drop (name.length + 1))
  let stands ← codes.mapM fun c => (Text.readHex? c).map Char.ofNat
  return { name, bare := mark == '~', stands }

def all : List CharRef :=
  charRefTable.flatMap fun line => (Text.splitOn ' ' line.toList).filterMap ofEntry

def allBare : List CharRef := all.filter (·.bare)

def find? (name : Chars) : Option CharRef := all.find? fun r => r.name == name

/-- The entry with the longest name that `s` begins with and that needs no semicolon. -/
def findStart? (s : Chars) : Option CharRef :=
  (List.range 7).reverse.findSome? fun n =>
    allBare.find? fun r => r.name.length == n && Text.startsWith r.name s

/-- The characters that numbers from 128 to 159 stand for: they are read in an older code page, in
which five of them are free. -/
def lateControls : List Nat := [
  0x20ac, 0x81, 0x201a, 0x192, 0x201e, 0x2026, 0x2020, 0x2021, 0x2c6, 0x2030, 0x160, 0x2039, 0x152,
  0x8d, 0x17d, 0x8f, 0x90, 0x2018, 0x2019, 0x201c, 0x201d, 0x2022, 0x2013, 0x2014, 0x2dc, 0x2122,
  0x161, 0x203a, 0x153, 0x9d, 0x17e, 0x178]

/-- The character that a number stands for; a number without a character stands for the
replacement character. -/
def ofNumber (n : Nat) : Char :=
  if n = 0 ∨ 0x10ffff < n ∨ (0xd800 ≤ n ∧ n ≤ 0xdfff) then '\ufffd'
  else if 128 ≤ n ∧ n < 160 then Char.ofNat (lateControls.getD (n - 128) n)
  else Char.ofNat n

/-- Passes the semicolon that may close a reference by number. -/
def closed : Chars → Chars
  | ';' :: r => r
  | r => r

/-- Reads a reference by number after `&#`. -/
def readNumber? : Chars → Option (Char × Chars)
  | x :: r =>
    if x == 'x' || x == 'X' then
      let digits := r.takeWhile fun c => (Text.hexDigit? c).isSome
      (Text.readHex? digits).map fun n => (ofNumber n, closed (r.drop digits.length))
    else
      let digits := (x :: r).takeWhile Char.isDigit
      (Text.readDecimal? digits).map fun n => (ofNumber n, closed ((x :: r).drop digits.length))
  | [] => none

/-- Reads a reference by name after `&`. Inside the value of an attribute a name without its
semicolon counts only if neither `=` nor a letter or digit follows. -/
def readName? (inValue : Bool) (s : Chars) : Option (Chars × Chars) :=
  let run := s.takeWhile Char.isAlphanum
  let rest := s.drop run.length
  match if rest.head? == some ';' then find? run else none with
  | some r => some (r.stands, rest.drop 1)
  | none =>
    match findStart? run with
    | none => none
    | some r =>
      let rest := s.drop r.name.length
      let goesOn := match rest with
        | c :: _ => c == '=' || c.isAlphanum
        | [] => false
      if inValue && goesOn then none else some (r.stands, rest)

/-- Replaces the references of a text; `fuel` bounds the number of steps. -/
def resolveFrom (inValue : Bool) : Nat → Chars → Chars
  | 0, s => s
  | _, [] => []
  | fuel + 1, c :: r =>
    if c == '&' then
      match r with
      | '#' :: digits =>
        match readNumber? digits with
        | some (d, rest) => d :: resolveFrom inValue fuel rest
        | none => c :: resolveFrom inValue fuel r
      | _ =>
        match readName? inValue r with
        | some (ds, rest) => ds ++ resolveFrom inValue fuel rest
        | none => c :: resolveFrom inValue fuel r
    else c :: resolveFrom inValue fuel r

/-- Replaces the references of a text by the characters they stand for. -/
def resolve (inValue : Bool) (s : Chars) : Chars := resolveFrom inValue s.length s

end CharRef

end TrackerHub.Page
