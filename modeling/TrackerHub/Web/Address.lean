import TrackerHub.Number.Numeral
import TrackerHub.Web.FormText
import TrackerHub.Web.HostName
import TrackerHub.Web.Url

/-! # Addresses of requests

An address that a request can be sent to, in normal form: scheme and host in lower case, usual
ports left out, dot segments walked, and every character that its part does not allow written as
percent-marked bytes. `Address.toText` writes an address; `Address.read` reads one.
-/
namespace TrackerHub.Web
open TrackerHub.Text

inductive AddressError where
  | tooLong
  | control (c : Char) (position : Nat)
  | controlInPart (part : String) (c : Char) (position : Nat)
  | badPart (part : String)
  | badIpv4 (host : Chars)
  | badIpv6 (host : Chars)
  | badHost (host : Chars)
  | badPort (text : Chars)
  | detachedPath
  | doubleSlash
  | leadingColon
  deriving Repr, DecidableEq, Inhabited

def AddressError.message : AddressError → String
  | tooLong => "URL too long"
  | control c n =>
    "Invalid non-printable ASCII character in URL, " ++ String.ofList (quoted [c])
      ++ s!" at position {n}."
  | controlInPart part c n =>
    s!"Invalid non-printable ASCII character in URL {part} component, "
      ++ String.ofList (quoted [c]) ++ s!" at position {n}."
  | badPart part => s!"Invalid URL component '{part}'"
  | badIpv4 h => "Invalid IPv4 address: " ++ String.ofList (quoted h)
  | badIpv6 h => "Invalid IPv6 address: " ++ String.ofList (quoted h)
  | badHost h => "Invalid IDNA hostname: " ++ String.ofList (quoted h)
  | badPort t => "Invalid port: " ++ String.ofList (quoted t)
  | detachedPath => "For absolute URLs, path must be empty or begin with '/'"
  | doubleSlash => "Relative URLs cannot have a path starting with '//'"
  | leadingColon => "Relative URLs cannot have a path starting with ':'"

structure Address where
  scheme : Chars := []
  userInfo : Chars := []
  host : Chars := []
  port : Option Int := none
  path : Chars := []
  query : Option Chars := none
  fragment : Option Chars := none
  deriving Repr, DecidableEq, Inhabited

namespace Address

/-- Percent-marks the characters of a part that are neither plain nor allowed there. -/
def quotePart (allowed : Char → Bool) (s : Chars) : Chars :=
  s.flatMap fun c => if isFormSafe c || allowed c then [c] else percentChar c

/-- Whether the character is printable ASCII and none of `stops`. -/
def printableBut (stops : String) (c : Char) : Bool :=
  decide (0x20 ≤ c.toNat) && decide (c.toNat < 0x7F) && !stops.toList.contains c

def inFragment : Char → Bool := printableBut " \"<>`"

def inQuery : Char → Bool := printableBut " \"#<>"

def inPath : Char → Bool := printableBut " \"#<>?`\x7b\x7d"

def inUserInfo : Char → Bool := printableBut " \"#<>?`\x7b\x7d/;=@[\\]^|"

def inHost (c : Char) : Bool := "!$&'()*+,;=\"`\x7b\x7d%|\\".toList.contains c

/-- Whether a host is written like an address of four numbers: three single characters stand
between runs of digits. A run may hold some of those characters itself if they are digits too. -/
def looksNumeric (host : Chars) : Bool :=
  let runs := (host.splitBy fun a b => a.isDigit && b.isDigit).filter fun r =>
    (r.head?.map Char.isDigit).getD false
  let gaps := host.countP fun c => !c.isDigit
  let spare := runs.foldl (fun n r => n + (r.length - 1) / 2) 0
  runs.length == gaps + 1 && decide (gaps ≤ 3) && decide (3 ≤ gaps + spare)

def normalHost (host : Chars) : Except AddressError Chars :=
  if host.isEmpty then .ok []
  else if looksNumeric host then if isIpv4 host then .ok host else .error (.badIpv4 host)
  else if host.head? == some '[' && host.getLast? == some ']' && decide (2 ≤ host.length) then
    let inner := (host.drop 1).dropLast
    if isIpv6 inner then .ok inner else .error (.badIpv6 host)
  else if isAscii host then .ok (quotePart inHost (host.map Char.toLower))
  else
    match HostName.toAscii? (lower host) with
    | some name => .ok name
    | none => .error (.badHost host)

def usualPort? (scheme : Chars) : Option Int :=
  [("ftp", 21), ("http", 80), ("https", 443), ("ws", 80), ("wss", 443)].findSome? fun e =>
    if e.1.toList == scheme then some e.2 else none

/-- A port in normal form. The usual port of the scheme, as it was written, is left out. -/
def normalPort (port scheme : Chars) : Except AddressError (Option Int) :=
  if port.isEmpty then .ok none
  else
    match Numeral.readInt port with
    | .error _ => .error (.badPort port)
    -- The scheme is compared as it was written, capitals included.
    | .ok n => .ok (if usualPort? scheme == some n then none else some n)

/-- Walks the segments of a path: one dot stays, two dots go back. -/
def walk (path : Chars) : Chars :=
  let segments := splitOn '/' path
  if segments.contains ['.'] || segments.contains ['.', '.'] then
    join ['/'] (segments.foldl (fun done s =>
      if s == ['.'] then done
      else if s == ['.', '.'] then if done == [[]] then done else done.dropLast
      else done ++ [s]) [])
  else path

/-- Splits an authority into user information, host and port. -/
def splitAuthority (authority : Chars) : Chars × Chars × Chars :=
  let (userInfo, rest) := partitionAtLast '@' authority
  let (host, rest) :=
    match rest with
    | '[' :: _ =>
      if rest.contains ']' then
        let after := (rest.reverse.takeWhile (· != ']')).reverse
        (rest.take (rest.length - after.length), after)
      else cutAtAny [':', '@'] rest
    | _ => cutAtAny [':', '@'] rest
  (userInfo, host, if rest.head? == some ':' then rest.drop 1 else rest)

/-- The address of these parts in normal form. -/
def ofParts (scheme authority path : Chars) (query fragment : Option Chars) :
    Except AddressError Address := do
  let (userInfo, host, port) := splitAuthority authority
  let a : Address := {
    scheme := scheme.map Char.toLower
    userInfo := quotePart inUserInfo userInfo
    host := ← normalHost host
    port := ← normalPort port scheme }
  let located := !a.userInfo.isEmpty || !a.host.isEmpty || a.port.isSome
  if located && !path.isEmpty && path.head? != some '/' then throw .detachedPath
  if a.scheme.isEmpty && !located then
    if startsWith ['/', '/'] path then throw .doubleSlash
    if path.head? == some ':' then throw .leadingColon
  let path := if a.scheme.isEmpty && !located then path else walk path
  return { a with
    path := quotePart inPath path
    query := query.map (quotePart inQuery)
    fragment := fragment.map (quotePart inFragment) }

/-- The first control character of a text and its position. -/
def control? (s : Chars) : Option (Char × Nat) :=
  let before := s.takeWhile fun c => decide (0x20 ≤ c.toNat) && c.toNat != 0x7F
  (s[before.length]?).map fun c => (c, before.length)

def maxLength : Nat := 65536

/-- A part that an optional mark opens. -/
def marked (mark : Char) (s : Chars) : Option Chars :=
  if s.head? == some mark then some (s.drop 1) else none

/-- The scheme before a colon, which may be empty, and the rest. -/
def splitScheme (s : Chars) : Chars × Chars :=
  let (before, found, after) := partitionAt ':' s
  -- A colon before anything but a scheme belongs to the path.
  let proper :=
    match before with
    | [] => true
    | c :: _ => c.isAlpha && before.all isSchemeChar
  if found && proper then (before, after) else ([], s)

def read (text : Chars) : Except AddressError Address := do
  if maxLength < text.length then throw .tooLong
  match control? text with
  | some (c, n) => throw (.control c n)
  | none => pure ()
  let (scheme, rest) := splitScheme text
  let (authority, rest) :=
    match rest with
    | '/' :: '/' :: r => cutAtAny ['/', '?', '#'] r
    | r => ([], r)
  let (path, rest) := cutAtAny ['?', '#'] rest
  let (query, rest) :=
    match rest with
    | '?' :: r => let (q, r) := cutAtAny ['#'] r; (some q, r)
    | r => (none, r)
  ofParts scheme authority path query (marked '#' rest)

/-- A host as it is written before a port. -/
def hostText (host : Chars) : Chars :=
  if host.contains ':' then '[' :: host ++ [']'] else host

def authority (a : Address) : Chars :=
  (if a.userInfo.isEmpty then [] else a.userInfo ++ ['@']) ++ hostText a.host
    ++ (a.port.map fun n => ':' :: decimalInt n).getD []

def toText (a : Address) : Chars :=
  (if a.scheme.isEmpty then [] else a.scheme ++ [':'])
    ++ (if a.authority.isEmpty then [] else '/' :: '/' :: a.authority)
    ++ a.path ++ (a.query.map ('?' :: ·)).getD [] ++ (a.fragment.map ('#' :: ·)).getD []

/-- Whether the address says where to send a request. -/
def isAbsolute (a : Address) : Bool := !a.scheme.isEmpty && !a.host.isEmpty

/-- An address without a place to send to, as a path from the root. -/
def rooted (a : Address) : Address :=
  { path := '/' :: a.path.dropWhile (· == '/'), query := a.query }

/-- The address with another query, put in normal form again. -/
def withQuery (a : Address) (query : Option Chars) : Except AddressError Address :=
  ofParts a.scheme a.authority a.path query a.fragment

/-- The address with another fragment, put in normal form again. -/
def withFragment (a : Address) (fragment : Chars) : Except AddressError Address := do
  if maxLength < fragment.length then throw .tooLong
  match control? fragment with
  | some (c, n) => throw (.controlInPart "fragment" c n)
  | none => pure ()
  ofParts a.scheme a.authority a.path a.query (some fragment)

/-- The address at another host, put in normal form again. User information and port stay. -/
def withHost (a : Address) (host : Chars) : Except AddressError Address :=
  ofParts a.scheme ({ a with host := host }).authority a.path a.query a.fragment

end Address

end TrackerHub.Web
