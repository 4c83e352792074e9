import TrackerHub.Text.CharClass.Lower

/-! # Letters without regard to case

Two characters are the same letter if they have the same lower-case form, or forms that count as
one. The forms are given as code points, so that a pattern may name any.
-/
namespace TrackerHub.Text

/-- Lower-case forms that count as the same letter. -/
def letterKin : List (List Nat) := [
  [105, 305], [115, 383], [181, 956], [837, 953, 8126], [912, 8147], [944, 8163], [946, 976],
  [949, 1013], [952, 977], [954, 1008], [960, 982], [961, 1009], [962, 963], [966, 981],
  [1074, 7296], [1076, 7297], [1086, 7298], [1089, 7299], [1090, 7300, 7301], [1098, 7302],
  [1123, 7303], [7304, 42571], [7777, 7835], [64261, 64262]]

/-- The lower-case letter of a capital. -/
def foldCase (ascii : Bool) (c : Nat) : Nat :=
  if ascii then (if 65 ≤ c ∧ c ≤ 90 then c + 32 else c)
  else if c = 0x130 then 105
  else (lowerChar (Char.ofNat c)).toNat

/-- The letters that count as the same letter as a lower-case one. -/
def kinOf (ascii : Bool) (c : Nat) : List Nat :=
  if ascii then [c]
  else
    match letterKin.find? fun k => k.contains c with
    | some k => k
    | none => [c]

/-- The characters whose lower-case letter is `c`. -/
def capitalsOf (ascii : Bool) (c : Nat) : List Nat :=
  if ascii then (if 97 ≤ c ∧ c ≤ 122 then [c, c - 32] else [c])
  else
    let runs := capitalRuns.filterMap fun r =>
      let d : Int := c - r.distance
      if (r.first : Int) ≤ d ∧ d ≤ r.last ∧ (d - r.first) % r.step = 0 then some d.toNat else none
    let runs := runs ++ (if c < 128 ∧ 97 ≤ c ∧ c ≤ 122 then [c - 32] else [])
    let runs := if c = 105 then runs ++ [0x130] else runs
    if foldCase false c = c then c :: runs else runs

def sameLetter (a b : Char) : Bool :=
  (kinOf false (foldCase false a.toNat)).contains (foldCase false b.toNat)

/-- The rest of `s` after `start`, if `s` begins with it, without regard to case. -/
def dropStartFold? : Chars → Chars → Option Chars
  | [], s => some s
  | _ :: _, [] => none
  | p :: ps, c :: cs => if sameLetter p c then dropStartFold? ps cs else none

/-- Whether a range of letters from `a` to `z` holds the character, without regard to case. -/
def isLatinLetterFold (c : Char) : Bool :=
  ((kinOf false (foldCase false c.toNat)).flatMap (capitalsOf false)).any fun x =>
    decide (97 ≤ x) && decide (x ≤ 122)

end TrackerHub.Text
