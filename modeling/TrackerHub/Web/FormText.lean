import TrackerHub.Text.Utf8

/-! # Form encoding

Pairs of names and values as one line of text: a pair is written `name=value`, pairs are joined by
`&`, a space is `+`, and every character but letters, digits and `_ . - ~` is written as the
percent-marked bytes of its UTF-8 form.
-/
namespace TrackerHub.Web
open TrackerHub.Text

def isFormSafe (c : Char) : Bool :=
  (decide (c.toNat < 128) && c.isAlphanum) || c == '_' || c == '.' || c == '-' || c == '~'

/-- A byte behind a percent mark. -/
def percentByte (b : UInt8) : Chars :=
  ['%', hexDigitUpper (b.toNat / 16), hexDigitUpper (b.toNat % 16)]

def percentChar (c : Char) : Chars := (encodeUtf8 [c]).flatMap percentByte

def formQuote (s : Chars) : Chars :=
  s.flatMap fun c => if isFormSafe c then [c] else if c == ' ' then ['+'] else percentChar c

def encodeForm (pairs : List (String × String)) : String :=
  String.ofList (join ['&'] (pairs.map fun p =>
    formQuote p.1.toList ++ '=' :: formQuote p.2.toList))

/-- The bytes that a run of ASCII characters stands for, percent marks read. -/
def percentBytes : Chars → Bytes
  | [] => []
  | '%' :: a :: b :: r =>
    match hexDigit? a, hexDigit? b with
    | some high, some low => UInt8.ofNat (16 * high + low) :: percentBytes r
    | _, _ => 0x25 :: percentBytes (a :: b :: r)
  | c :: r => UInt8.ofNat c.toNat :: percentBytes r

/-- The text without percent marks: each run of ASCII characters is read as UTF-8. -/
def percentDecode (s : Chars) : Chars :=
  go s []
where
  /-- `run` holds the ASCII characters read so far, the last one first. -/
  go : Chars → Chars → Chars
  | [], run => decodeUtf8Lossy (percentBytes run.reverse)
  | c :: r, run =>
    if c.toNat < 128 then go r (c :: run)
    else decodeUtf8Lossy (percentBytes run.reverse) ++ c :: go r []

/-- A name or a value read back from form encoding. -/
def formUnquote (s : Chars) : Chars :=
  percentDecode (s.map fun c => if c == '+' then ' ' else c)

/-- The pairs of a line, in order. A piece without `=` counts as a name without a value; names
without a value are left out unless `keepBlank` says otherwise. -/
def decodeForm (keepBlank : Bool) (line : String) : List (String × String) :=
  (splitOn '&' line.toList).filterMap fun piece =>
    if piece.isEmpty then none
    else
      let name := piece.takeWhile (· != '=')
      let value := (piece.dropWhile (· != '=')).drop 1
      if value.isEmpty && !keepBlank then none
      else some (String.ofList (formUnquote name), String.ofList (formUnquote value))

end TrackerHub.Web
