import TrackerHub.Text.Utf8

/-! # Digests

The digest of a file's bytes by the secure hash algorithm with 160 bits: the bytes are padded to
blocks of 64, and five words are mixed with the words of each block in eighty rounds.
-/
namespace TrackerHub.Digest
open TrackerHub.Text

structure State where
  a : UInt32 := 0x67452301
  b : UInt32 := 0xEFCDAB89
  c : UInt32 := 0x98BADCFE
  d : UInt32 := 0x10325476
  e : UInt32 := 0xC3D2E1F0
  deriving Repr, DecidableEq

def rotate (n : UInt32) (x : UInt32) : UInt32 := (x <<< n) ||| (x >>> (32 - n))

/-- The word that four bytes make, the high byte first. -/
def wordOf (a b c d : UInt8) : UInt32 :=
  (a.toUInt32 <<< 24) ||| (b.toUInt32 <<< 16) ||| (c.toUInt32 <<< 8) ||| d.toUInt32

def words : Bytes → List UInt32
  | a :: b :: c :: d :: r => wordOf a b c d :: words r
  | _ => []

/-- The bytes of a number, the high byte first. -/
def bytesOf : Nat → Nat → Bytes
  | 0, _ => []
  | width + 1, n => bytesOf width (n / 256) ++ [UInt8.ofNat (n % 256)]

/-- The bytes filled up to whole blocks: a mark, zeros and the number of bits. -/
def padded (b : Bytes) : Bytes :=
  -- One byte for the mark and eight for the number of bits have to fit into the last block.
  b ++ 0x80 :: List.replicate ((119 - b.length % 64) % 64) 0 ++ bytesOf 8 (8 * b.length)

/-- The words of the rounds; `window` holds the last sixteen words. -/
def schedule : Nat → List UInt32 → List UInt32
  | 0, _ => []
  | n + 1, window =>
    let next := rotate 1 (window.getD 13 0 ^^^ window.getD 8 0 ^^^ window.getD 2 0 ^^^ window.getD 0 0)
    window.getD 0 0 :: schedule n (window.drop 1 ++ [next])

def roundRule (round : Nat) (b c d : UInt32) : UInt32 × UInt32 :=
  if round < 20 then ((b &&& c) ||| (~~~b &&& d), 0x5A827999)
  else if round < 40 then (b ^^^ c ^^^ d, 0x6ED9EBA1)
  else if round < 60 then ((b &&& c) ||| (b &&& d) ||| (c &&& d), 0x8F1BBCDC)
  else (b ^^^ c ^^^ d, 0xCA62C1D6)

def round (s : State) (entry : UInt32 × Nat) : State :=
  let (f, k) := roundRule entry.2 s.b s.c s.d
  ⟨rotate 5 s.a + f + s.e + k + entry.1, s.a, rotate 30 s.b, s.c, s.d⟩

def mix (s : State) (block : List UInt32) : State :=
  let t := ((schedule 80 block).zipIdx).foldl round s
  ⟨s.a + t.a, s.b + t.b, s.c + t.c, s.d + t.d, s.e + t.e⟩

/-- Mixes blocks of sixteen words in; `fuel` bounds their number. -/
def mixAll : Nat → State → List UInt32 → State
  | 0, s, _ => s
  | fuel + 1, s, ws => if ws.isEmpty then s else mixAll fuel (mix s (ws.take 16)) (ws.drop 16)

def hexDigest (b : Bytes) : String :=
  let ws := words (padded b)
  let s := mixAll (ws.length / 16 + 1) {} ws
  String.ofList ([s.a, s.b, s.c, s.d, s.e].flatMap fun w => hex 8 w.toNat)

end TrackerHub.Digest
