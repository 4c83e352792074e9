import TrackerHub.Text.Chars

/-! # Paths as texts

A path in normal form has neither empty segments nor segments of one dot; the empty path is written
as one dot. A path that begins with a tilde lies below the home directory.
-/
namespace TrackerHub.PathText
open TrackerHub.Text

/-- The segments of a path that count. -/
def segments (path : Chars) : List Chars :=
  (splitOn '/' path).filter fun s => !s.isEmpty && s != ['.']

/-- What an absolute path begins with: two slashes stay two, more are one. -/
def root (path : Chars) : Chars :=
  match (path.takeWhile (· == '/')).length with
  | 0 => []
  | 2 => ['/', '/']
  | _ => ['/']

def clean (path : Chars) : Chars :=
  let text := root path ++ join ['/'] (segments path)
  if text.isEmpty then ['.'] else text

/-- A path below another. An absolute path is below nothing. -/
def below (base path : Chars) : Chars :=
  if path.head? == some '/' then clean path
  else
    let text := root base ++ join ['/'] (segments base ++ segments path)
    if text.isEmpty then ['.'] else text

/-- A path without a tilde at its beginning, in normal form. `homes` lists the home directories of
users; that of the present user goes by no name. -/
def expandHome? (homes : List (Chars × Chars)) (path : Chars) : Option Chars :=
  match segments path with
  | ('~' :: user) :: rest =>
    if path.head? == some '/' then some (clean path)
    else
      (homes.find? fun h => h.1 == user).map fun h =>
        clean (join ['/'] (h.2 :: rest))
  | _ => some (clean path)

def name (path : Chars) : Chars := (segments path).getLast?.getD []

def parent (path : Chars) : Chars :=
  let text := root path ++ join ['/'] (segments path).dropLast
  if text.isEmpty then ['.'] else text

/-- The position of the dot that begins the suffix of a name. -/
def suffixStart? (name : Chars) : Option Nat :=
  let tail := name.reverse.takeWhile (· != '.')
  if tail.isEmpty || name.length ≤ tail.length + 1 then none
  else some (name.length - tail.length - 1)

def suffix (name : Chars) : Chars := ((suffixStart? name).map name.drop).getD []

def stem (name : Chars) : Chars := ((suffixStart? name).map name.take).getD name

end TrackerHub.PathText
