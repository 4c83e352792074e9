import TrackerHub.Definition.Basic
import TrackerHub.Extract
import TrackerHub.Size
import TrackerHub.Sites
import TrackerHub.Template
import TrackerHub.Time.Fuzzy
import TrackerHub.Web.Session

/-! # Agents of trackers

An agent works the site of one tracker by its definition and the settings of the site. What it does
is a step from session to session; a step that fails keeps what it did before it failed. Relative
addresses are resolved against the page that is open; without one, against the first working address
of the site.
-/
namespace TrackerHub

/-- What an agent works with. `now` is the moment that relative dates are counted from. -/
structure Agent where
  definition : Definition
  sites : Sites
  server : Web.Server
  now : Time.DateTime
  deriving Inhabited

inductive AgentError where
  | noSetting (site name : String)
  | login (message : String)
  | noWorkingUrl (site : String)
  | magnet
  | fetch (url : String) (cause : Web.SessionError)
  | fetchStatus (url : String) (status : Nat)
  | session (e : Web.SessionError)
  | extract (e : ExtractError)
  | template (e : Template.TemplateError)
  | url (e : Web.UrlError)
  | size (e : SizeError)
  | time (e : Time.TimeError)
  deriving Repr, Inhabited

def AgentError.message : AgentError → String
  | noSetting site name => s!"No value for {site}.{name} in config"
  | login m => m
  | noWorkingUrl site => s!"No working urls found for {site}"
  | magnet => "Magnet links can't be downloaded"
  | fetch target cause => s!"Failed to fetch {target}: {cause.message}"
  | fetchStatus target status => s!"Fetching {target} returned status {status}"
  | session e => e.message
  | extract e => e.message
  | template e => e.message
  | url e => e.message
  | size e => e.message
  | time e => e.message

/-- Whether an error of a session is one that a browser reports: no response came, or a form is not
there. -/
def Web.SessionError.isReported : Web.SessionError → Bool
  | .failed _ _ _ | .noPage | .noForm _ | .noInput _ => true
  | .send _ | .selector _ => false

abbrev Working (α : Type) := ExceptT AgentError (StateM Web.Session) α

namespace Agent

open Text (Chars)

/-- The session. There is none if its settings cannot be sent. -/
def session : Working Web.Session := do
  let s ← get
  if s.settings.isUsable then return s
  throw (.session (.send (.unsendable s.settings.userAgent.toList)))

def browse {α : Type} (b : Web.Browsing α) : Working α := do
  match b (← session) with
  | (.ok x, s) => set s; return x
  | (.error e, s) => set s; throw (.session e)

def lift {ε α : Type} (f : ε → AgentError) (r : Except ε α) : Working α :=
  match r with
  | .ok x => pure x
  | .error e => throw (f e)

/-- Opens an address. It gives `false` if the browser reports a failure. -/
def tryOpen (a : Agent) (url : String) : Working Bool := do
  match Web.Session.open a.server url (← session) with
  | (.ok _, s) => set s; return true
  | (.error e, s) =>
    set s
    if e.isReported then return false else throw (.session e)

def urlWorks (a : Agent) (url : String) : Working Bool := do
  if !(← a.tryOpen url) then return false
  return (← get).status == 200

/-- The first of some addresses that works. -/
def firstWorking (a : Agent) : List String → Working (Option String)
  | [] => return none
  | url :: rest => do
    if ← a.urlWorks url then return some url else a.firstWorking rest

/-- The addresses at which the site may be: the one from the settings, then the declared ones. -/
def candidateUrls (a : Agent) : List String :=
  match a.sites.get? a.definition.site "url" with
  | none => a.definition.links
  | some url => (if url.isEmpty then [] else [url]) ++ a.definition.links.filter (· != url)

/-- The address that relative ones are resolved against: that of the page, else the first candidate
that works. -/
def currentUrl (a : Agent) : Working String := do
  match (← session).url? with
  | some url => return String.ofList url
  | none =>
    match ← a.firstWorking a.candidateUrls with
    | some url => return url
    | none => throw (.noWorkingUrl a.definition.site)

def isMagnet (url : String) : Bool := Text.startsWith "magnet:".toList url.toList

/-- The full address for a path. A magnet link is one already. -/
def resolve (a : Agent) (path : String) : Working String := do
  if isMagnet path then return path
  let base ← a.currentUrl
  let url ← lift .url (Web.Url.join base.toList path.toList)
  return String.ofList url

def pageHas (selector : String) : Working Bool := do
  let l ← lift .extract (readSelectors selector)
  return ((← get).place.selectOne? l).isSome

def info (a : Agent) : Info :=
  let d := a.definition
  { id := d.site, title := if d.name.isEmpty then d.site else d.name, description := d.description
    link := d.links.headD "", language := d.language }

/-- The parameters that a kind of search takes besides the declared ones. -/
def identifierParams (key : String) : List String :=
  match key with
  | "search" => ["imdbid", "tvdbid", "tvmazeid"]
  | "movie-search" => ["imdbid"]
  | "tv-search" => ["tvdbid", "tvmazeid", "rid"]
  | _ => []

def capabilities (a : Agent) : Capabilities := {
  modes := a.definition.modes.map fun m => { m with
    params := m.params ++ (identifierParams m.key).filter fun p => !m.params.contains p }
  categories := a.definition.categories.categories }

/-- Texts as a value that templates look names up in. -/
def textsValue (texts : Named String) : Value := .map (texts.map fun (k, v) => (.text k, .text v))

end Agent

end TrackerHub
