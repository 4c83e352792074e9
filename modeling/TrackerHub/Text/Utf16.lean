import TrackerHub.Text.Utf8

/-! # Text in UTF-16

A character is one or two units of two bytes. Units that make no character, and what is left of a
text that breaks off, become the replacement mark.
-/
namespace TrackerHub.Text

inductive ByteOrder where
  | littleFirst
  | bigFirst
  deriving Repr, DecidableEq, Inhabited

def ByteOrder.unit (o : ByteOrder) (a b : UInt8) : Nat :=
  match o with
  | littleFirst => a.toNat + 256 * b.toNat
  | bigFirst => 256 * a.toNat + b.toNat

/-- The character of two units, the first of which announces the second. -/
def pairedChar? (high low : Nat) : Option Char :=
  if 0xdc00 ≤ low ∧ low < 0xe000 then
    some (Char.ofNat (0x10000 + 0x400 * (high - 0xd800) + (low - 0xdc00)))
  else none

def decodeUtf16Lossy (o : ByteOrder) : Bytes → Chars
  | a :: b :: c :: d :: r =>
    let u := o.unit a b
    if 0xd800 ≤ u ∧ u < 0xdc00 then
      match pairedChar? u (o.unit c d) with
      | some x => x :: decodeUtf16Lossy o r
      -- The second unit is read again: it may stand for itself.
      | none => replacementChar :: decodeUtf16Lossy o (c :: d :: r)
    else if 0xdc00 ≤ u ∧ u < 0xe000 then replacementChar :: decodeUtf16Lossy o (c :: d :: r)
    else Char.ofNat u :: decodeUtf16Lossy o (c :: d :: r)
  | a :: b :: r =>
    let u := o.unit a b
    if 0xd800 ≤ u ∧ u < 0xdc00 then [replacementChar]
    else
      (if 0xdc00 ≤ u ∧ u < 0xe000 then replacementChar else Char.ofNat u)
        :: (if r.isEmpty then [] else [replacementChar])
  | [_] => [replacementChar]
  | [] => []

/-- The text of some bytes that may begin with a mark of their order. -/
def decodeMarkedUtf16Lossy : Bytes → Chars
  | 0xfe :: 0xff :: r => decodeUtf16Lossy .bigFirst r
  | 0xff :: 0xfe :: r => decodeUtf16Lossy .littleFirst r
  | r => decodeUtf16Lossy .littleFirst r

end TrackerHub.Text
