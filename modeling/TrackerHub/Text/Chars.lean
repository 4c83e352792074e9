import TrackerHub.Text.CharClass

/-! # Operations on texts

A text is a list of characters. The operations cut, join and search texts; each cut keeps all
characters but the separators it names.
-/
namespace TrackerHub.Text

abbrev Chars := List Char

/-- The rest of `s` after `start`, if `s` begins with it. -/
def dropStart? : Chars → Chars → Option Chars
  | [], s => some s
  | _ :: _, [] => none
  | p :: ps, c :: cs => if p == c then dropStart? ps cs else none

def startsWith (start s : Chars) : Bool := (dropStart? start s).isSome

def endsWith (tail s : Chars) : Bool := startsWith tail.reverse s.reverse

/-- The part of `s` before the first occurrence of `sep` and the part after it. -/
def cut? (sep : Chars) : Chars → Option (Chars × Chars)
  | [] => if sep.isEmpty then some ([], []) else none
  | c :: r =>
    match dropStart? sep (c :: r) with
    | some rest => some ([], rest)
    | none => (cut? sep r).map fun (a, b) => (c :: a, b)

def contains (part s : Chars) : Bool := (cut? part s).isSome

/-- The pieces between single separators; there is one more piece than there are separators. -/
def splitOn (sep : Char) : Chars → List Chars
  | [] => [[]]
  | c :: r =>
    if c == sep then [] :: splitOn sep r
    else
      match splitOn sep r with
      | [] => [[c]]
      | piece :: pieces => (c :: piece) :: pieces

/-- The pieces between occurrences of a separating text, found from the left without overlap.
`skip` counts the characters of a separator that are still to be passed. -/
def splitOnTextFrom (sep : Chars) : Nat → Chars → List Chars
  | _, [] => [[]]
  | skip + 1, _ :: r => splitOnTextFrom sep skip r
  | 0, c :: r =>
    if startsWith sep (c :: r) then [] :: splitOnTextFrom sep (sep.length - 1) r
    else
      match splitOnTextFrom sep 0 r with
      | [] => [[c]]
      | piece :: pieces => (c :: piece) :: pieces

def splitOnText (sep s : Chars) : List Chars := splitOnTextFrom sep 0 s

def join (sep : Chars) : List Chars → Chars
  | [] => []
  | [p] => p
  | p :: q :: ps => p ++ sep ++ join sep (q :: ps)

/-- The words of a text: its longest runs of characters that are not blank. -/
def words (s : Chars) : List Chars :=
  go s []
where
  -- `word` holds the characters of the current word, the last one first.
  go : Chars → Chars → List Chars
  | [], word => if word.isEmpty then [] else [word.reverse]
  | c :: r, word =>
    if isBlank c then (if word.isEmpty then go r [] else word.reverse :: go r [])
    else go r (c :: word)

def dropEndWhile (p : Char → Bool) (s : Chars) : Chars := (s.reverse.dropWhile p).reverse

def trimBy (p : Char → Bool) (s : Chars) : Chars := dropEndWhile p (s.dropWhile p)

def trim (s : Chars) : Chars := trimBy isBlank s

/-- Replaces every occurrence of `old`, found from the left without overlap. An empty `old`
occurs before each character and at the end. -/
def replaceAll (old new s : Chars) : Chars :=
  if old.isEmpty then new ++ s.flatMap (fun c => c :: new)
  else join new (splitOnText old s)

def padLeft (pad : Char) (width : Nat) (s : Chars) : Chars :=
  List.replicate (width - s.length) pad ++ s

def isAscii (s : Chars) : Bool := s.all fun c => decide (c.toNat < 128)

def hexDigit? (c : Char) : Option Nat :=
  if '0' ≤ c ∧ c ≤ '9' then some (c.toNat - '0'.toNat)
  else if 'a' ≤ c ∧ c ≤ 'f' then some (c.toNat - 'a'.toNat + 10)
  else if 'A' ≤ c ∧ c ≤ 'F' then some (c.toNat - 'A'.toNat + 10)
  else none

def hexDigit (n : Nat) : Char := if n < 10 then Char.ofNat (48 + n) else Char.ofNat (87 + n)

def hexDigitUpper (n : Nat) : Char := if n < 10 then Char.ofNat (48 + n) else Char.ofNat (55 + n)

/-- The hexadecimal numeral of `n` with exactly `width` digits, the high ones dropped. -/
def hex : Nat → Nat → Chars
  | 0, _ => []
  | width + 1, n => hex width (n / 16) ++ [hexDigit (n % 16)]

def readHex? (s : Chars) : Option Nat :=
  if s.isEmpty then none
  else s.foldl (fun acc c => acc.bind fun n => (hexDigit? c).map (16 * n + ·)) (some 0)

def decimal (n : Nat) : Chars := Nat.toDigits 10 n

def decimalInt : Int → Chars
  | .ofNat n => decimal n
  | .negSucc n => '-' :: decimal (n + 1)

def readDecimal? (s : Chars) : Option Nat :=
  if s.isEmpty || !s.all Char.isDigit then none
  else some (s.foldl (fun n c => 10 * n + (c.toNat - '0'.toNat)) 0)

end TrackerHub.Text
