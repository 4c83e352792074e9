import TrackerHub.Text.Chars

/-! # Text as bytes

Texts are sent as UTF-8. Bytes that are no UTF-8 are read with a replacement character for each
longest piece that could have begun a character.
-/
namespace TrackerHub.Text

abbrev Bytes := List UInt8

def encodeUtf8 (s : Chars) : Bytes := (String.ofList s).toUTF8.toList

def replacementChar : Char := '\uFFFD'

/-- The number of continuation bytes that a first byte announces, with the range of the first of
them and the bits of the character that the first byte holds. -/
def leadByte? (b : Nat) : Option (Nat × Nat × Nat × Nat) :=
  if 0xC2 ≤ b ∧ b ≤ 0xDF then some (1, 0x80, 0xBF, b - 0xC0)
  else if b = 0xE0 then some (2, 0xA0, 0xBF, 0)
  else if b = 0xED then some (2, 0x80, 0x9F, 0xD)
  else if 0xE1 ≤ b ∧ b ≤ 0xEF then some (2, 0x80, 0xBF, b - 0xE0)
  else if b = 0xF0 then some (3, 0x90, 0xBF, 0)
  else if 0xF1 ≤ b ∧ b ≤ 0xF3 then some (3, 0x80, 0xBF, b - 0xF0)
  else if b = 0xF4 then some (3, 0x80, 0x8F, 4)
  else none

/-- What is left to read of a character: the number of bytes, the range of the next, and the bits
so far. -/
structure PartialChar where
  missing : Nat
  low : Nat
  high : Nat
  bits : Nat

inductive Decoded where
  | char (c : Char)
  | invalid

/-- Reads bytes as UTF-8, reporting each longest piece that is no character. -/
def decodePieces : Option PartialChar → Bytes → List Decoded
  | none, [] => []
  | some _, [] => [.invalid]
  | state, byte :: rest =>
    let b := byte.toNat
    let fresh : Option PartialChar × List Decoded :=
      if b < 0x80 then (none, [.char (Char.ofNat b)])
      else
        match leadByte? b with
        | some (n, low, high, bits) => (some ⟨n, low, high, bits⟩, [])
        | none => (none, [.invalid])
    let (next, out) :=
      match state with
      | none => fresh
      | some p =>
        if p.low ≤ b ∧ b ≤ p.high then
          let bits := p.bits * 64 + (b - 0x80)
          if p.missing ≤ 1 then (none, [.char (Char.ofNat bits)])
          else (some ⟨p.missing - 1, 0x80, 0xBF, bits⟩, [])
        -- The byte does not go on with the character, but may begin another one.
        else (fresh.1, .invalid :: fresh.2)
    out ++ decodePieces next rest

/-- Reads bytes as UTF-8 and marks what is none. -/
def decodeUtf8Lossy (b : Bytes) : Chars :=
  (decodePieces none b).map fun
    | .char c => c
    | .invalid => replacementChar

def decodeUtf8? (b : Bytes) : Option Chars :=
  (decodePieces none b).mapM fun
    | .char c => some c
    | .invalid => none

/-- Each byte as the character with its number. -/
def decodeLatin1 (b : Bytes) : Chars := b.map fun x => Char.ofNat x.toNat

def hexOfBytes (b : Bytes) : Chars := b.flatMap fun x => hex 2 x.toNat

def bytesOfHex? : Chars → Option Bytes
  | [] => some []
  | [_] => none
  | a :: b :: r => do
    let high ← hexDigit? a
    let low ← hexDigit? b
    let rest ← bytesOfHex? r
    pure (UInt8.ofNat (16 * high + low) :: rest)

end TrackerHub.Text
