import TrackerHub.Named
import TrackerHub.Web.Address
import TrackerHub.Web.CookieDate

/-! # Cookies

A cookie is a name and a value that a site gives to a browser, with the addresses that it is to be
sent back to. A jar keeps cookies by domain, path and name. `Jar.receive` takes the cookies of an
answer in, and `Jar.header?` tells what to send along with a request.
-/
namespace TrackerHub.Web
open TrackerHub.Text

/-- A cookie. One without a value is sent as its bare name. -/
structure Cookie where
  name : Chars
  value : Option Chars
  domain : Chars
  path : Chars
  ports : Option Chars := none
  secure : Bool := false
  expires : Option Int := none
  deriving Repr, DecidableEq, Inhabited

/-- What the rules of cookies look at in a request. -/
structure CookieSite where
  host : Chars
  path : Chars
  port : Option Chars
  secure : Bool
  deriving Repr, DecidableEq, Inhabited

/-- A path with the characters percent-marked that do not belong there, and the marks in capitals. -/
def cookiePath (path : Chars) : Chars :=
  let rec upper : Chars → Chars
    | '%' :: a :: b :: r =>
      if (hexDigit? a).isSome && (hexDigit? b).isSome then
        '%' :: a.toUpper :: b.toUpper :: upper r
      else '%' :: upper (a :: b :: r)
    | c :: r => c :: upper r
    | [] => []
  upper (Address.quotePart (fun c => "%/;:@&=+$,!~*'()".toList.contains c) path)

/-- Whether a host ends in a dot and digits, as an address of numbers does. -/
def endsNumeric (host : Chars) : Bool :=
  let digits := host.reverse.takeWhile Char.isDigit
  !digits.isEmpty && (host.reverse.drop digits.length).head? == some '.'

namespace CookieSite

/-- The port of an authority, where it is a number; without one it is the usual port. -/
def portOf (authority : Chars) : Option Chars :=
  let (_, found, port) := partitionAt ':' authority
  if !found then some ['8', '0']
  else
    match Numeral.readInt port with
    | .ok _ => some port
    | .error _ => none

/-- What cookies look at in a request to an address. -/
def ofAddress (a : Address) : CookieSite :=
  let digits := a.authority.reverse.takeWhile Char.isDigit
  let before := a.authority.reverse.drop digits.length
  let host := if !digits.isEmpty && before.head? == some ':' then (before.drop 1).reverse
    else a.authority
  let path := cookiePath a.path
  { host := lower host
    path := if path.head? == some '/' then path else '/' :: path
    port := portOf a.authority
    secure := a.scheme == "https".toList || a.scheme == "wss".toList }

/-- The host as domains are compared with it: a name without a dot counts as a local one. -/
def effectiveHost (s : CookieSite) : Chars :=
  if s.host.contains '.' || endsNumeric s.host then s.host else s.host ++ ".local".toList

end CookieSite

namespace Cookie

/-- Whether a domain covers a host: both are compared behind a dot. -/
def domainCovers (domain host : Chars) : Bool :=
  let dotted := if domain.isEmpty || domain.head? == some '.' then domain else '.' :: domain
  endsWith dotted ('.' :: host)

/-- Whether a path lies at or below the path of a cookie. -/
def pathCovers (path requested : Chars) : Bool :=
  match dropStart? path requested with
  | none => false
  | some rest => rest.isEmpty || path.getLast? == some '/' || rest.head? == some '/'

def isFor (c : Cookie) (s : CookieSite) (now : Int) : Bool :=
  domainCovers c.domain s.effectiveHost && pathCovers c.path s.path && (!c.secure || s.secure)
    && c.expires.all (fun t => decide (now < t))
    && (match c.ports with
        | none => true
        | some ports =>
          ports.isEmpty || (splitOn ',' ports).any fun p => p == s.port.getD ['8', '0'])

def text (c : Cookie) : Chars :=
  match c.value with
  | none => c.name
  | some v => c.name ++ '=' :: v

end Cookie

/-- A cookie as an answer gives it: the first pair names it, and the others say what it is for. -/
abbrev CookieLine := List (Chars × Option Chars)

namespace CookieLine

/-- Reads a line of pairs. A line whose first pair has no name gives no cookie. -/
def read? (line : Chars) : Option CookieLine :=
  let pairs := (splitOn ';' line).map fun piece =>
    let (name, found, value) := partitionAt '=' (trim piece)
    (trim name, if found then some (trim value) else none)
  match pairs with
  | first :: rest =>
    if first.1.isEmpty then none
    else some (first :: (rest.filter fun p => !p.1.isEmpty).map fun p => (lower p.1, p.2))
  | [] => none

def values (line : CookieLine) (name : String) : List (Option Chars) :=
  ((line.drop 1).filter fun p => p.1 == name.toList).map (·.2)

def unquoted (s : Chars) : Chars :=
  let s := if s.head? == some '"' then s.drop 1 else s
  if s.getLast? == some '"' then s.dropLast else s

/-- What a line says about when its cookie ends. -/
inductive Ending where
  | never
  | at (t : Int)
  | unreadable
  deriving Repr, DecidableEq

/-- When the cookie ends: after the age given last, else at the first date that can be read. -/
def ending (line : CookieLine) (now year : Int) : Ending :=
  let ages := (line.values "max-age").map fun v =>
    v.bind fun v => (Numeral.readInt v).toOption
  match ages.getLast? with
  | some _ =>
    match ages.mapM id with
    | some ages => .at (now + ages.getLast?.getD 0)
    | none => .unreadable
  | none =>
    match (line.values "expires").findSome? fun v =>
        v.bind fun v => CookieDate.read? year (unquoted v) with
    | some t => .at t
    | none => .never

/-- Whether an age stands without a value before any attribute that spoils its own cookie only.
`seen` lists the attributes before; only the first value of an attribute counts. -/
def bareAgeFrom (seen : List Chars) : CookieLine → Bool
  | [] => false
  | (name, value) :: rest =>
    if name == "max-age".toList then
      match value with
      | none => true
      | some v => (Numeral.readInt v).toOption.isSome && bareAgeFrom seen rest
    else
      let needed := ["domain", "path", "version"].any fun n => n.toList == name
      if needed && value.isNone && !seen.contains name then false
      else bareAgeFrom (name :: seen) rest

/-- Whether an age without a value makes all cookies of the answer unreadable. -/
def hasBareAge (line : CookieLine) : Bool := bareAgeFrom [] (line.drop 1)

/-- The cookie of a line in the answer to a request, if the line is a cookie, and whether it is to
be kept. -/
def cookie? (line : CookieLine) (s : CookieSite) (now year : Int) : Option (Cookie × Bool) := do
  let (name, value) ← line.head?
  let first (attr : String) : Option (Option Chars) := (line.values attr).head?
  let missing (attr : String) : Bool := (line.values attr).head? == some none
  if missing "domain" || missing "path" || missing "version" then none
  let version ←
    match first "version" with
    | some (some v) => (Numeral.readInt (unquoted v)).toOption
    | _ => some 0
  if version != 0 && version != 1 then none
  let path :=
    match first "path" with
    | some (some (c :: r)) => cookiePath (c :: r)
    | _ =>
      let upTo := (s.path.reverse.dropWhile (· != '/')).reverse
      -- Only the older rules leave out the slash at the end of a path.
      let upTo := if version == 0 then upTo.dropLast else upTo
      if upTo.isEmpty then ['/'] else upTo
  let domain :=
    match first "domain" with
    | some (some d) => let d := lower d; if d.head? == some '.' then d else '.' :: d
    | _ => s.effectiveHost
  let ports :=
    match first "port" with
    | some (some p) => some (p.filter fun c => !isBlank c)
    | some none => s.port
    | none => none
  let secure :=
    match first "secure" with
    | some none => true
    | some (some v) => !v.isEmpty
    | none => false
  let (expires, kept) ←
    match line.ending now year with
    | .unreadable => none
    | .never => some (none, true)
    | .at t => some (some t, decide (now < t))
  return ({ name, value, domain, path, ports, secure, expires }, kept)

/-- Whether a line may set a cookie with this domain in the answer to a request: a domain that is
given has to have a dot inside and to cover the host. -/
def mayNameDomain (line : CookieLine) (domain : Chars) (s : CookieSite) : Bool :=
  if (line.values "domain").isEmpty then true
  else
    let host := s.effectiveHost
    let bare := domain.drop 1
    let locals := ".local".toList
    (bare.contains '.' || endsWith locals host)
      && (endsWith domain host || endsWith (bare ++ locals) host || host.head? == some '.'
          || endsWith domain ('.' :: host))

/-- Whether a line may set a cookie for these ports in the answer to a request. -/
def mayNamePorts (line : CookieLine) (s : CookieSite) : Bool :=
  match (line.values "port").head? with
  | some (some p) =>
    let requested := s.port.getD ['8', '0']
    let ports := splitOn ',' (p.filter fun c => !isBlank c)
    let before := ports.takeWhile (· != requested)
    ports.contains requested && (before ++ [requested]).all fun p =>
      (Numeral.readInt p).toOption.isSome
  | _ => true

end CookieLine

/-- Cookies by domain, path and name, each in the order in which they were first kept. -/
abbrev Jar := Named (Named (Named Cookie))

namespace Jar

def cookies (j : Jar) : List Cookie :=
  j.flatMap fun domain => domain.2.flatMap fun path => path.2.map (·.2)

/-- Keeps a cookie in place of one with its domain, path and name. -/
def put (j : Jar) (c : Cookie) : Jar :=
  let domain := String.ofList c.domain
  let path := String.ofList c.path
  let paths := (Named.find? j domain).getD []
  let names := (Named.find? paths path).getD []
  Named.put j domain (Named.put paths path (Named.put names (String.ofList c.name) c))

/-- Takes the cookie with this domain, path and name out. -/
def drop (j : Jar) (c : Cookie) : Jar :=
  List.map (fun d =>
    if d.1.toList == c.domain then
      (d.1, d.2.map fun p =>
        if p.1.toList == c.path then (p.1, p.2.filter fun n => n.1.toList != c.name) else p)
    else d) j

/-- Takes in the cookies that an answer to a request gives, a line for each. -/
def receive (j : Jar) (s : CookieSite) (now year : Int) (lines : List Chars) : Jar :=
  let lines := lines.filterMap CookieLine.read?
  if lines.any CookieLine.hasBareAge then j
  else
    let found := lines.filterMap fun l => (l.cookie? s now year).map fun c => (l, c)
    -- What has ended goes first, even if a cookie to be kept stands before it.
    let j := (found.filter fun e => !e.2.2).foldl (fun j e => j.drop e.2.1) j
    (found.filter fun e => e.2.2).foldl (fun j (line, c, _) =>
      if line.mayNameDomain c.domain s && line.mayNamePorts s then j.put c else j) j

/-- Keeps the pairs of a line `a=1; b=2` for a host. -/
def putPairs (j : Jar) (host line : Chars) : Jar :=
  (splitOn ';' line).foldl (fun j piece =>
    let (name, found, value) := partitionAt '=' (trim piece)
    if !found || name.isEmpty then j
    else j.put { name, value := some value, domain := lower host, path := ['/'] }) j

/-- What is sent along with a request: the cookies for it, those with the longest paths first. -/
def header? (j : Jar) (s : CookieSite) (now : Int) : Option Chars :=
  let fitting := (j.cookies.filter fun c => c.isFor s now).mergeSort fun a b =>
    decide (b.path.length ≤ a.path.length)
  if fitting.isEmpty then none else some (join [';', ' '] (fitting.map Cookie.text))

end Jar

end TrackerHub.Web
