import TrackerHub.Web.Exchange

/-! # Scripted servers

A server written down as a list of routes. The first route that fits a request answers it, with the
next of its replies; the last reply repeats. A request that no route fits gets an empty answer with
status 404.
-/
namespace TrackerHub.Web
open TrackerHub.Text

/-- A reply of a route: an answer, or the message of a failure on the way. -/
inductive Reply where
  | answer (a : Answer)
  | failure (message : String)
  deriving Repr, DecidableEq, Inhabited

/-- A route: the requests that it fits, and its replies. An address that ends in `*` fits all that
begin like it; any other fits itself, with or without a query. -/
structure Route where
  url : String
  method : Option String := none
  cookie : Option String := none
  body : Option String := none
  replies : List Reply := []
  deriving Repr, Inhabited

namespace Route

/-- Whether a route's address fits the address of a request. -/
def fitsUrl (route : Chars) (url : Chars) : Bool :=
  route == url || route == url.takeWhile (· != '?')
    || (route.getLast? == some '*' && startsWith route.dropLast url)

def fits (route : Route) (r : Request) : Bool :=
  fitsUrl route.url.toList r.url.toText
    && route.method.all (· == r.method)
    && route.cookie.all (fun c => contains c.toList (r.cookie.getD "").toList)
    && route.body.all (fun b => contains b.toList (r.body.getD "").toList)

end Route

def serve (routes : List Route) : Server := fun history r =>
  match routes.findIdx? (·.fits r) with
  | none => .ok { status := 404 }
  | some i =>
    let earlier := history.countP fun q => routes.findIdx? (·.fits q) == some i
    let replies := (routes[i]?.map (·.replies)).getD []
    match (replies[earlier]?).or replies.getLast? with
    | none => .ok { status := 404 }
    | some (Reply.failure m) => .error m
    | some (Reply.answer a) => .ok a

end TrackerHub.Web
