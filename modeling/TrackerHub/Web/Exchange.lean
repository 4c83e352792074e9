import TrackerHub.Text.CharClass.Lower
import TrackerHub.Web.Address
import TrackerHub.Web.Charset

/-! # Requests and responses

What a browser sends and what it gets back. A web is a function: what it answers to a request
depends on the requests sent before and on nothing else.
-/
namespace TrackerHub.Web
open TrackerHub.Text

structure Request where
  method : String
  url : Address
  body : Option String := none
  cookie : Option String := none
  referer : Option String := none
  contentType : Option String := none
  userAgent : String
  deriving Repr, DecidableEq, Inhabited

/-- Header lines, in order. -/
abbrev Headers := List (String × String)

namespace Headers

def sameName (a b : String) : Bool := lower a.toList == lower b.toList

def values (h : Headers) (name : String) : List String :=
  (h.filter fun e => sameName e.1 name).map (·.2)

/-- The value of a header; several values are joined by commas. -/
def find? (h : Headers) (name : String) : Option String :=
  match h.values name with
  | [] => none
  | vs => some (", ".intercalate vs)

/-- Every header once, in lower case, sorted by name. -/
def summary (h : Headers) : List (String × String) :=
  let names := (h.map fun e => String.ofList (lower e.1.toList)).eraseDups
  (names.mergeSort fun a b => decide (a ≤ b)).map fun n => (n, (h.find? n).getD "")

end Headers

structure Answer where
  status : Nat := 200
  headers : Headers := []
  body : Bytes := []
  deriving Repr, DecidableEq, Inhabited

/-- What answers requests: it sees the requests sent before, and may fail with a message. -/
abbrev Server := List Request → Request → Except String Answer

structure Response where
  url : Address
  status : Nat
  headers : Headers
  body : Bytes
  deriving Repr, DecidableEq, Inhabited

namespace Response

def text (r : Response) : Chars :=
  decodeBody ((r.headers.find? "content-type").map String.toList) r.body

def location? (r : Response) : Option String :=
  if [301, 302, 303, 307, 308].contains r.status then r.headers.find? "location" else none

def isPage (r : Response) : Bool :=
  contains "html".toList ((r.headers.find? "content-type").getD "").toList

end Response

end TrackerHub.Web
