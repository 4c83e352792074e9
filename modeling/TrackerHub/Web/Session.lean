import TrackerHub.Page.Parse
import TrackerHub.Selector.Match
import TrackerHub.Selector.Read
import TrackerHub.Text.Quoted
import TrackerHub.Web.Cookie
import TrackerHub.Web.Exchange
import TrackerHub.Web.Form
import TrackerHub.Web.Refresh

/-! # Browser sessions

A session keeps cookies and the page that was opened last, and remembers every request it sent.
Opening an address follows redirects and, once, a refresh instruction of the page. An operation that
fails leaves the page as it was when the failing request was made.
-/
namespace TrackerHub.Web
open TrackerHub.Text

inductive SendError where
  | failed (cause : String)
  | address (e : AddressError)
  | url (e : UrlError)
  | unknownType (address : Chars)
  /-- A header that is not all ASCII. -/
  | unsendable (line : Chars)
  deriving Repr, DecidableEq, Inhabited

inductive SessionError where
  | failed (method url cause : String)
  | noPage
  | noForm (selector : String)
  | noInput (name : String)
  | send (e : SendError)
  | selector (fault : Selector.Fault)
  deriving Repr, Inhabited

def SessionError.message : SessionError → String
  | failed method url cause => s!"{method} {url} failed: {cause}"
  | noPage => "No page loaded"
  | noForm s => "No form found for selector " ++ quote s
  | noInput n => "Form has no input named " ++ quote n
  | send (.url e) => e.message
  | send (.unknownType a) => "unknown url type: " ++ String.ofList (quoted a)
  | send (.address e) => e.message
  | send (.failed cause) => cause
  | send (.unsendable line) => asciiRefusal line
  | selector _ => ""

/-- How a session behaves. `now` is the present for cookies in seconds from 1970, `year` its year. -/
structure SessionSettings where
  userAgent : String := "Mozilla/5.0 (X11; Linux x86_64) AppleWebKit/537.36 "
    ++ "(KHTML, like Gecko) Chrome/120.0 Safari/537.36"
  followRedirects : Bool := true
  now : Int := 1767225600
  year : Int := 2026
  deriving Repr, DecidableEq, Inhabited

/-- Whether the settings can be sent along with requests. -/
def SessionSettings.isUsable (s : SessionSettings) : Bool := isAscii s.userAgent.toList

/-- A response with the tree of its page. Rows of the tree may have been merged or removed since. -/
structure LoadedPage where
  response : Response
  nodes : Page.Document
  deriving Inhabited

def LoadedPage.ofResponse (r : Response) : LoadedPage :=
  { response := r, nodes := Page.parse r.text }

structure Session where
  settings : SessionSettings := {}
  jar : Jar := []
  page : Option LoadedPage := none
  sent : List Request := []
  deriving Inhabited

abbrev Sending (α : Type) := ExceptT SendError (StateM Session) α

/-- An operation of a session. What it changed before it failed stays. -/
abbrev Browsing (α : Type) := ExceptT SessionError (StateM Session) α

namespace Session

def url? (s : Session) : Option Chars := s.page.map (·.response.url.toText)

/-- The status of the page, zero without one. -/
def status (s : Session) : Nat := (s.page.map (·.response.status)).getD 0

def headers (s : Session) : Headers := (s.page.map (·.response.headers)).getD []

def body (s : Session) : Chars := (s.page.map (·.response.text)).getD []

def document (s : Session) : Page.Document := (s.page.map (·.nodes)).getD (Page.parse [])

def place (s : Session) : Page.Place := .ofPage s.document

/-- A new session that remembers what was sent before. -/
def renewed (s : Session) : Session := { settings := s.settings, sent := s.sent }

def withDocument (s : Session) (nodes : Page.Document) : Session :=
  { s with page := s.page.map fun p => { p with nodes } }

/-- The cookies to send along with a request to an address. -/
def cookieFor (s : Session) (a : Address) : Except SendError (Option String) :=
  if s.jar.cookies.isEmpty then .ok none
  else if a.scheme.isEmpty then .error (.unknownType a.toText)
  else
    match s.jar.header? (.ofAddress a) s.settings.now with
    | none => .ok none
    | some line => if isAscii line then .ok (some (String.ofList line)) else .error (.unsendable line)

/-- The message of a request whose address cannot be sent to. -/
def unsendable? (a : Address) : Option String :=
  if a.scheme.isEmpty then
    some "Request URL is missing an 'http://' or 'https://' protocol."
  else if a.scheme == "http".toList || a.scheme == "https".toList then none
  else some s!"Request URL has an unsupported protocol '{String.ofList a.scheme}://'."

/-- Sends a request and takes the cookies of the answer in. -/
def exchange (server : Server) (r : Request) : Sending Response := do
  match unsendable? r.url with
  | some m => throw (.failed m)
  | none => pure ()
  let s ← get
  set { s with sent := s.sent ++ [r] }
  match server s.sent r with
  | .error m => throw (.failed m)
  | .ok a =>
    let lines := (a.headers.values "set-cookie").map String.toList
    modify fun s => { s with
      jar := s.jar.receive (.ofAddress r.url) s.settings.now s.settings.year lines }
    return { url := r.url, status := a.status, headers := a.headers, body := a.body }

def redirectMethod (method : String) (status : Nat) : String :=
  if (status == 303 || status == 302) && method != "HEAD" then "GET"
  else if status == 301 && method == "POST" then "GET"
  else method

def redirectUrl (source : Address) (location : String) : Except SendError Address := do
  let target ←
    match Address.read location.toList with
    | .ok a => pure a
    | .error e => throw (.failed s!"Invalid URL in location header: {e.message}.")
  let target ←
    -- A scheme without a host names no place; the host of the request serves.
    if !target.scheme.isEmpty && target.host.isEmpty then
      (target.withHost source.host).mapError .address
    else pure target
  let target ←
    if target.isAbsolute then pure target
    else do
      let joined ← (Url.join source.toText target.toText).mapError .url
      (Address.read joined).mapError .address
  let fragment := percentDecode (source.fragment.getD [])
  -- The fragment goes along unless the new address has one of its own.
  if !fragment.isEmpty && (target.fragment.getD []).isEmpty then
    (target.withFragment fragment).mapError .address
  else pure target

def redirected (s : Session) (r : Request) (status : Nat) (location : String) :
    Except SendError Request := do
  let method := redirectMethod r.method status
  let url ← redirectUrl r.url location
  let cookie ← s.cookieFor url
  return { r with
    method, url, cookie, body := if method != r.method && method == "GET" then none else r.body }

/-- Sends a request and follows redirects, at most as many times as the first argument says. The
request that a redirect asks for is worked out even if redirects are not followed. -/
def follow (server : Server) : Nat → Request → Sending Response
  | 0, _ => throw (.failed "Exceeded maximum allowed redirects.")
  | n + 1, r => do
    let response ← exchange server r
    match response.location? with
    | none => return response
    | some location =>
      let s ← get
      -- A location that cannot be read fails here, be it followed or not.
      let next ← redirected s r response.status location
      if s.settings.followRedirects then follow server n next else return response

def maxRequests : Nat := 21

/-- The pairs with the values of each name together, names in the order in which they first stand. -/
def grouped (values : List (String × String)) : List (String × String) :=
  (values.map (·.1)).eraseDups.flatMap fun name => values.filter fun v => v.1 == name

/-- What goes along with an address: the query that replaces its own, or a form in the body. -/
inductive Payload where
  | nothing
  | query (values : List (String × String))
  | form (values : List (String × String))
  deriving Repr, DecidableEq

def request (s : Session) (method : String) (url : Chars) (payload : Payload) :
    Except SendError Request := do
  let a ← (Address.read url).mapError .address
  let a := if a.isAbsolute then a else a.rooted
  let encoded (values : List (String × String)) : String := encodeForm (grouped values)
  let a ←
    match payload with
    | .query values =>
      let query := if values.isEmpty then none else some (encoded values).toList
      (a.withQuery query).mapError .address
    | _ => pure a
  let cookie ← s.cookieFor a
  let r : Request := {
    method, url := a, cookie, referer := s.url?.map String.ofList
    userAgent := s.settings.userAgent }
  match payload with
  | .form (v :: vs) =>
    return { r with
      body := some (encoded (v :: vs)), contentType := some "application/x-www-form-urlencoded" }
  | _ => return r

/-- Opens an address without regard to refresh instructions. -/
def visit (server : Server) (method : String) (url : Chars) (payload : Payload) : Browsing Unit :=
  fun s =>
    let sending : Sending Response := do
      let r ← s.request method url payload
      follow server maxRequests r
    match sending s with
    | (.error (.failed cause), s) => (.error (.failed method (String.ofList url) cause), s)
    | (.error e, s) => (.error (.send e), s)
    | (.ok response, s) => (.ok (), { s with page := some (.ofResponse response) })

/-- Where the page asks the browser to go on to. -/
def refresh? (s : Session) : Option Chars :=
  match s.page with
  | none => none
  | some p =>
    let line := ((p.response.headers.find? "refresh").getD "").toList
    match if line.isEmpty then none else refreshTarget? line with
    | some target => some target
    | none =>
      if p.response.isPage then (pageInstruction? s.place).bind refreshTarget? else none

/-- Opens an address and, if the page asks for it, the address that it refreshes to. -/
def load (server : Server) (method : String) (url : Chars) (payload : Payload) :
    Browsing Unit := do
  visit server method url payload
  let s ← get
  match s.refresh? with
  | none => return
  | some target =>
    match Url.join (s.url?.getD []) target with
    | .error e => throw (.send (.url e))
    | .ok next => visit server "GET" next .nothing

def «open» (server : Server) (url : String) : Browsing Unit :=
  load server "GET" url.toList .nothing

def openForm (server : Server) (url : String) (values : List (String × String)) : Browsing Unit :=
  load server "GET" url.toList (.query values)

/-- Opens an address with values as the body of the request. -/
def postForm (server : Server) (url : String) (values : List (String × String)) : Browsing Unit :=
  load server "POST" url.toList (.form values)

/-- The first element that a selector finds on the page, if it is a form. -/
def form (s : Session) (selector : String) : Except SessionError Form := do
  let page ←
    match s.page with
    | none => throw .noPage
    | some p => pure p
  let l ← (Selector.read selector.toList).mapError .selector
  match s.place.selectOne? l with
  | none => throw (.noForm selector)
  | some p =>
    if p.tag.name != "form".toList then throw (.noForm selector)
    (Form.ofPlace page.response.url.toText p).mapError fun e => .send (.url e)

def submit (server : Server) (f : Form) : Browsing Unit :=
  if f.isPosted then postForm server f.action f.values else openForm server f.action f.values

def download (s : Session) : Except SessionError Bytes :=
  match s.page with
  | none => .error .noPage
  | some p => .ok p.response.body

/-- Keeps the cookies of a line `a=1; b=2` for the host of an address. -/
def setCookies (url line : String) : Browsing Unit := do
  match Url.parse url.toList with
  | .error e => throw (.send (.url e))
  | .ok u => modify fun s => { s with jar := s.jar.putPairs ((u.host?).getD []) line.toList }

end Session

def Form.fill (f : Form) (name value : String) : Except SessionError Form :=
  match f.fill? name value with
  | some f => .ok f
  | none => .error (.noInput name)

end TrackerHub.Web
