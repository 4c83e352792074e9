import TrackerHub.Feed.Markup
import TrackerHub.Number.DecimalText
import TrackerHub.Release

/-! # Feeds in JSON

The results of a search as a list of objects, in ASCII, two spaces of indentation to a level.
-/
namespace TrackerHub

/-- A JSON value; the members of an object keep their order. -/
inductive Json where
  | null
  | bool (b : Bool)
  | int (n : Int)
  | float (x : Binary64)
  | text (s : String)
  | list (items : List Json)
  | object (members : List (String × Json))
  deriving Repr, Inhabited

namespace Json
open TrackerHub.Text

/-- A character outside the range of ASCII as one or two units of sixteen bits. -/
def escapeWide (c : Char) : Chars :=
  let n := c.toNat
  if n < 0x10000 then '\\' :: 'u' :: hex 4 n
  else
    let m := n - 0x10000
    '\\' :: 'u' :: hex 4 (0xD800 + m / 0x400) ++ '\\' :: 'u' :: hex 4 (0xDC00 + m % 0x400)

def escapeChar (c : Char) : Chars :=
  if c == '"' || c == '\\' then ['\\', c]
  else if c == '\n' then ['\\', 'n']
  else if c == '\r' then ['\\', 'r']
  else if c == '\t' then ['\\', 't']
  else if c.toNat == 8 then ['\\', 'b']
  else if c.toNat == 12 then ['\\', 'f']
  else if 32 ≤ c.toNat ∧ c.toNat < 127 then [c]
  else escapeWide c

def stringText (s : String) : Chars := '"' :: s.toList.flatMap escapeChar ++ ['"']

/-- A JSON number, or the name of what is none. -/
def floatText : Binary64 → Chars
  | .nan => "NaN".toList
  | .infinite s => if s then "-Infinity".toList else "Infinity".toList
  | x => x.toText

/-- Parts between brackets, each on a line of its own at the given depth. -/
def bracket (opening closing : Char) (depth : Nat) (parts : List Chars) : Chars :=
  if parts.isEmpty then [opening, closing]
  else
    let line := Feed.newLine (depth + 1)
    opening :: line ++ join (',' :: line) parts ++ Feed.newLine depth ++ [closing]

mutual

/-- The text of a value that stands at the given depth. -/
def write (depth : Nat) : Json → Chars
  | .null => "null".toList
  | .bool b => if b then "true".toList else "false".toList
  | .int n => decimalInt n
  | .float x => floatText x
  | .text s => stringText s
  | .list items => bracket '[' ']' depth (writeItems (depth + 1) items)
  | .object members => bracket '\x7b' '\x7d' depth (writeMembers (depth + 1) members)

def writeItems (depth : Nat) : List Json → List Chars
  | [] => []
  | x :: r => write depth x :: writeItems depth r

def writeMembers (depth : Nat) : List (String × Json) → List Chars
  | [] => []
  | (k, v) :: r => (stringText k ++ ':' :: ' ' :: write depth v) :: writeMembers depth r

end

end Json

namespace Feed

def optionalInt : Option Int → Json
  | none => .null
  | some n => .int n

def releaseObject (r : Release) : Json :=
  .object [
    ("site", .text r.site),
    ("title", .text r.title),
    ("description", .text r.description),
    ("guid", .text r.guid),
    ("comments", .text r.comments),
    ("link", .text r.link),
    ("category", .int r.category),
    ("size", .int r.size),
    ("seeders", .int r.seeders),
    ("peers", .int r.peers),
    ("publish_date", match r.publishDate with
      | none => .null
      | some t => .text (String.ofList t.isoText)),
    ("minimum_ratio", .float r.minimumRatio),
    ("minimum_seed_time", .float r.minimumSeedTime),
    ("files", optionalInt r.files),
    ("grabs", optionalInt r.grabs),
    ("download_volume_factor", .float r.downloadVolumeFactor),
    ("upload_volume_factor", .float r.uploadVolumeFactor)]

/-- The results of a search as a list of objects. -/
def jsonList (items : List Release) : Rendered :=
  ⟨String.ofList ((Json.list (items.map releaseObject)).write 0), "application/json"⟩

/-- The results of a search as a list of objects, if they can be written. -/
def writeList (items : List Release) : Except Fault Rendered :=
  checked (items.flatMap Release.numbers) [] (jsonList items)

end Feed

end TrackerHub
