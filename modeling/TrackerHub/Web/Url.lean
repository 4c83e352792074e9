import TrackerHub.Text.CharClass.Lower
import TrackerHub.Text.Quoted

/-! # Addresses of the web

An address is cut into a scheme, a network location, a path, a query and a fragment. A relative
address is resolved against a base by walking its path.
-/
namespace TrackerHub.Web
open TrackerHub.Text

inductive UrlError where
  | unclosedBracket
  | plainHostInBrackets
  | badFutureAddress
  | notAnAddress (host : Chars)
  | confusableHost (location : Chars)
  deriving Repr, DecidableEq, Inhabited

def UrlError.message : UrlError → String
  | .unclosedBracket => "Invalid IPv6 URL"
  | .plainHostInBrackets => "An IPv4 address cannot be in brackets"
  | .badFutureAddress => "IPvFuture address is invalid"
  | .notAnAddress h =>
    String.ofList (quoted h) ++ " does not appear to be an IPv4 or IPv6 address"
  | .confusableHost l =>
    "netloc '" ++ String.ofList l ++ "' contains invalid characters under NFKC normalization"

structure Url where
  scheme : Chars := []
  location : Chars := []
  path : Chars := []
  query : Chars := []
  fragment : Chars := []
  deriving Repr, DecidableEq, Inhabited

/-- The part of a text before the first of some characters, and the rest from it on. -/
def cutAtAny (stops : Chars) (s : Chars) : Chars × Chars :=
  let p := fun c => !stops.contains c
  (s.takeWhile p, s.dropWhile p)

/-- Splits at the first occurrence of a character; the flag says whether there is one. -/
def partitionAt (sep : Char) (s : Chars) : Chars × Bool × Chars :=
  let before := s.takeWhile (· != sep)
  match s.drop before.length with
  | [] => (before, false, [])
  | _ :: after => (before, true, after)

/-- Splits at the last occurrence of a character; without one, all is after it. -/
def partitionAtLast (sep : Char) (s : Chars) : Chars × Chars :=
  let (after, found, before) := partitionAt sep s.reverse
  if found then (before.reverse, after.reverse) else ([], s)

/-- Whether a text is a decimal number of at most 255 without leading zeros. -/
def isOctet (s : Chars) : Bool :=
  match readDecimal? s with
  | some n => decide (n ≤ 255) && decide (s.length ≤ 3) && (s.length == 1 || s.head? != some '0')
  | none => false

def isIpv4 (s : Chars) : Bool :=
  let parts := splitOn '.' s
  parts.length == 4 && parts.all isOctet

/-- Whether a text is a group of an address of eight groups. -/
def isHextet (s : Chars) : Bool :=
  !s.isEmpty && decide (s.length ≤ 4) && s.all fun c => (hexDigit? c).isSome

/-- Whether a text is an address of eight groups, a run of which may be left out. -/
def isIpv6 (s : Chars) : Bool :=
  let (address, hasScope, scope) := partitionAt '%' s
  let parts : List Chars := splitOn ':' address
  let parts : List Chars :=
    match parts.reverse with
    | last :: before =>
      if last.contains '.' then
        if isIpv4 last then before.reverse ++ [['0'], ['0']] else [[]]
      else parts
    | [] => parts
  let inner := (parts.drop 1).dropLast
  let gaps := inner.countP List.isEmpty
  let filled := parts.filter fun p => !p.isEmpty
  let headEmpty := (parts.head?.map List.isEmpty).getD true
  let lastEmpty := (parts.getLast?.map List.isEmpty).getD true
  let second := (parts[1]?.map List.isEmpty).getD false
  let beforeLast := ((parts.reverse)[1]?.map List.isEmpty).getD false
  (!hasScope || (!scope.isEmpty && !scope.contains '%'))
    && decide (3 ≤ (splitOn ':' address).length) && decide (parts.length ≤ 9)
    && filled.all isHextet
    && (if gaps = 0 then parts.length == 8 && !headEmpty && !lastEmpty
        else
          gaps == 1 && (!headEmpty || second) && (!lastEmpty || beforeLast)
            && decide (filled.length < 8))

def checkBracketed (host : Chars) : Except UrlError Unit :=
  match host with
  | 'v' :: r =>
    let digits := r.takeWhile fun c => (hexDigit? c).isSome
    match r.drop digits.length with
    | '.' :: _ :: _ => if digits.isEmpty then .error .badFutureAddress else .ok ()
    | _ => .error .badFutureAddress
  | _ =>
    if isIpv4 host then .error .plainHostInBrackets
    else if isIpv6 host then .ok ()
    else .error (.notAnAddress host)

/-- Characters that turn into separators of an address when they are put in compatible form. -/
def confusableChars : List Nat := [
  0x2047, 0x2048, 0x2049, 0x2100, 0x2101, 0x2105, 0x2106, 0x2A74, 0xFE13, 0xFE16, 0xFE55, 0xFE56,
  0xFE5F, 0xFE6B, 0xFF03, 0xFF0F, 0xFF1A, 0xFF1F, 0xFF20]

def checkLocation (location : Chars) : Except UrlError Unit := do
  let opened := location.contains '['
  let closed := location.contains ']'
  if opened != closed then throw .unclosedBracket
  if opened && closed then
    checkBracketed (partitionAt ']' (partitionAt '[' location).2.2).1

def isSchemeChar (c : Char) : Bool :=
  (decide (c.toNat < 128) && c.isAlphanum) || c == '+' || c == '-' || c == '.'

def takeScheme (s : Chars) : Option (Chars × Chars) :=
  let (before, found, after) := partitionAt ':' s
  match before with
  | c :: _ => if found && c.isAlpha && before.all isSchemeChar then some (before.map Char.toLower, after)
              else none
  | [] => none

namespace Url

/-- Cuts an address into its parts; `scheme` is taken where the address has none. -/
def parseWith (scheme : Chars) (text : Chars) : Except UrlError Url := do
  let s := (text.dropWhile fun c => decide (c.toNat ≤ 32)).filter fun c =>
    c != '\t' && c != '\r' && c != '\n'
  let (scheme, s) := (takeScheme s).getD (scheme, s)
  let (location, s) :=
    match s with
    | '/' :: '/' :: r => cutAtAny ['/', '?', '#'] r
    | _ => ([], s)
  checkLocation location
  let (s, _, fragment) := partitionAt '#' s
  let (path, _, query) := partitionAt '?' s
  if location.any fun c => confusableChars.contains c.toNat then throw (.confusableHost location)
  pure ⟨scheme, location, path, query, fragment⟩

def parse (text : Chars) : Except UrlError Url := parseWith [] text

def locatedSchemes : List String := [
  "", "ftp", "http", "gopher", "nntp", "telnet", "imap", "wais", "file", "mms", "https", "shttp",
  "snews", "prospero", "rtsp", "rtsps", "rtspu", "rsync", "svn", "svn+ssh", "sftp", "nfs", "git",
  "git+ssh", "ws", "wss"]

def relativeSchemes : List String := [
  "", "ftp", "http", "gopher", "nntp", "imap", "wais", "file", "https", "shttp", "mms", "prospero",
  "rtsp", "rtsps", "rtspu", "sftp", "svn", "svn+ssh", "ws", "wss"]

def parameterSchemes : List String := [
  "", "ftp", "hdl", "prospero", "http", "imap", "https", "shttp", "rtsp", "rtsps", "rtspu", "sip",
  "sips", "mms", "sftp", "tel"]

def schemeIn (schemes : List String) (scheme : Chars) : Bool :=
  schemes.any fun s => s.toList == scheme

def toText (u : Url) : Chars :=
  let s := u.path
  let s :=
    if !u.location.isEmpty || (!u.scheme.isEmpty && schemeIn locatedSchemes u.scheme)
        || startsWith ['/', '/'] s then
      '/' :: '/' :: u.location ++ (if s.isEmpty || s.head? == some '/' then s else '/' :: s)
    else s
  let s := if u.scheme.isEmpty then s else u.scheme ++ ':' :: s
  let s := if u.query.isEmpty then s else s ++ '?' :: u.query
  if u.fragment.isEmpty then s else s ++ '#' :: u.fragment

/-- Splits the parameters off the last segment of a path. -/
def takeParameters (u : Url) : Url × Chars :=
  if schemeIn parameterSchemes u.scheme && u.path.contains ';' then
    let last := (splitOn '/' u.path).getLast?.getD []
    let before := u.path.take (u.path.length - last.length)
    let (segment, found, parameters) := partitionAt ';' last
    if found then ({ u with path := before ++ segment }, parameters) else (u, [])
  else (u, [])

/-- Puts parameters back behind a path. -/
def withParameters (u : Url) (parameters : Chars) : Url :=
  if parameters.isEmpty then u else { u with path := u.path ++ ';' :: parameters }

/-- Walks the segments of a path: one dot stays, two dots go back. -/
def walk : List Chars → List Chars → List Chars
  | done, [] => done
  | done, s :: r =>
    if s == ['.', '.'] then walk done.dropLast r
    else if s == ['.'] then walk done r
    else walk (done ++ [s]) r

def resolvePath (base path : Chars) : Chars :=
  let segments :=
    if path.head? == some '/' then splitOn '/' path
    else
      let parts := splitOn '/' base
      let parts := if parts.getLast? == some [] then parts else parts.dropLast
      let all := parts ++ splitOn '/' path
      match all with
      | [] => []
      | [x] => [x]
      | x :: rest => x :: (rest.dropLast.filter fun s => !s.isEmpty) ++ [rest.getLast?.getD []]
  let walked := walk [] segments
  let last := segments.getLast?.getD []
  let walked := if last == ['.'] || last == ['.', '.'] then walked ++ [[]] else walked
  let text := Text.join ['/'] walked
  if text.isEmpty then ['/'] else text

def join (base url : Chars) : Except UrlError Chars :=
  if base.isEmpty then .ok url
  else if url.isEmpty then .ok base
  else do
    let (b, bParameters) := takeParameters (← parse base)
    let (u, parameters) := takeParameters (← parseWith b.scheme url)
    if u.scheme != b.scheme || !schemeIn relativeSchemes u.scheme then pure url
    else if schemeIn locatedSchemes u.scheme && !u.location.isEmpty then
      pure (u.withParameters parameters).toText
    else
      let u := if schemeIn locatedSchemes u.scheme then { u with location := b.location } else u
      if u.path.isEmpty && parameters.isEmpty then
        let query := if u.query.isEmpty then b.query else u.query
        pure ({ u with path := b.path, query := query }.withParameters bParameters).toText
      else
        pure ({ u with path := resolvePath b.path u.path }.withParameters parameters).toText

def host? (u : Url) : Option Chars :=
  let info := (partitionAtLast '@' u.location).2
  let (_, bracketed, inner) := partitionAt '[' info
  let host := if bracketed then (partitionAt ']' inner).1 else (partitionAt ':' info).1
  let (name, zoned, zone) := partitionAt '%' host
  if host.isEmpty then none else some (lower name ++ (if zoned then '%' :: zone else []))

end Url

end TrackerHub.Web
