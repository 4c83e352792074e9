import TrackerHub.Text.Chars
import TrackerHub.Text.CharClass.Printable

/-! # Quoted texts

How a text is shown inside a message: between apostrophes, or between double quotes if it holds
an apostrophe and no double quote, with every other character than a printable one escaped.
-/
namespace TrackerHub.Text

def quoteChar (mark : Char) (c : Char) : Chars :=
  if c == mark || c == '\\' then ['\\', c]
  else if c == '\n' then ['\\', 'n']
  else if c == '\r' then ['\\', 'r']
  else if c == '\t' then ['\\', 't']
  else if isPrintable c then [c]
  else if c.toNat < 0x100 then ['\\', 'x'] ++ hex 2 c.toNat
  else if c.toNat < 0x10000 then ['\\', 'u'] ++ hex 4 c.toNat
  else ['\\', 'U'] ++ hex 8 c.toNat

def quoted (s : Chars) : Chars :=
  let mark := if s.contains '\'' && !s.contains '"' then '"' else '\''
  mark :: s.flatMap (quoteChar mark) ++ [mark]

def quote (s : String) : String := String.ofList (quoted s.toList)

/-- Why a text is no ASCII: its first characters beyond ASCII, and where they stand. -/
def asciiRefusal (s : Chars) : String :=
  let start := (s.takeWhile fun c => decide (c.toNat < 128)).length
  let foreign := (s.drop start).takeWhile fun c => decide (128 ≤ c.toNat)
  let what :=
    match foreign with
    | [c] =>
      let n := c.toNat
      let code := if n < 0x100 then 'x' :: hex 2 n else if n < 0x10000 then 'u' :: hex 4 n
        else 'U' :: hex 8 n
      s!"character '\\{String.ofList code}' in position {start}"
    | _ => s!"characters in position {start}-{start + foreign.length - 1}"
  s!"'ascii' codec can't encode {what}: ordinal not in range(128)"

end TrackerHub.Text
