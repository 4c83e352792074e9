import TrackerHub.Text.CharClass.Lower
import TrackerHub.Text.Utf16
import TrackerHub.Web.CharsetTable
import TrackerHub.Web.Url

/-! # The text of an answer

The bytes of an answer are read in the set of characters that its content type names, and as UTF-8
if it names none or an unknown one. What is no character becomes the replacement mark.
-/
namespace TrackerHub.Web
open TrackerHub.Text

/-- A set's name in the form of the tables: words of lower-case letters, digits and dots. -/
def charsetKey (name : Chars) : Chars :=
  let isPart := fun c : Char => c.isAlphanum || c == '.'
  let runs := (lower name).splitBy fun a b => isPart a == isPart b
  join ['_'] (runs.filter fun r => r.all isPart)

def latin1Names : List String := [
  "8859", "cp819", "csisolatin1", "ibm819", "iso8859", "iso8859_1", "iso_8859_1",
  "iso_8859_1_1987", "iso_ir_100", "l1", "latin", "latin1", "latin_1"]

def asciiNames : List String := [
  "646", "ansi_x3.4_1968", "ansi_x3_4_1968", "ansi_x3.4_1986", "ascii", "cp367", "csascii",
  "ibm367", "iso646_us", "iso_646.irv_1991", "iso_ir_6", "us", "us_ascii"]

namespace Charset

def decode (s : Charset) (b : Bytes) : Chars :=
  let table := s.chars.toList.toArray
  b.map fun x =>
    let n := x.toNat
    if n < s.start then Char.ofNat n else table[n - s.start]?.getD replacementChar

end Charset

def decodeNamed (name : Chars) (b : Bytes) : Chars :=
  let key := String.ofList (charsetKey name)
  if latin1Names.contains key then decodeLatin1 b
  else if asciiNames.contains key then
    b.map fun x => if x.toNat < 128 then Char.ofNat x.toNat else replacementChar
  else if key == "utf_8_sig" then
    let s := decodeUtf8Lossy b
    if s.head? == some '\uFEFF' then s.drop 1 else s
  else if ["u16", "utf16", "utf_16"].contains key then decodeMarkedUtf16Lossy b
  else if ["unicodelittleunmarked", "utf_16_le", "utf_16le"].contains key then
    decodeUtf16Lossy .littleFirst b
  else if ["unicodebigunmarked", "utf_16_be", "utf_16be"].contains key then
    decodeUtf16Lossy .bigFirst b
  else
    match charsets.find? fun s => s.names.contains key with
    | some s => s.decode b
    | none => decodeUtf8Lossy b

/-- A parameter's value without quotation marks or angle brackets around it. -/
def unquoteParameter (s : Chars) : Chars :=
  let inner := (s.drop 1).dropLast
  if decide (2 ≤ s.length) && s.head? == some '"' && s.getLast? == some '"' then
    replaceAll ['\\', '"'] ['"'] (replaceAll ['\\', '\\'] ['\\'] inner)
  else if decide (2 ≤ s.length) && s.head? == some '<' && s.getLast? == some '>' then inner
  else s

def charsetOf? (contentType : Chars) : Option Chars :=
  ((splitOn ';' contentType).findSome? fun piece =>
    let (name, found, value) := partitionAt '=' piece
    if lower (trim name) == "charset".toList then
      some (if found then unquoteParameter (trim value) else [])
    else none).filter isAscii

def decodeBody (contentType : Option Chars) (b : Bytes) : Chars :=
  match contentType.bind charsetOf? with
  | some name => decodeNamed name b
  | none => decodeUtf8Lossy b

end TrackerHub.Web
