import TrackerHub.Agent.Trial
import TrackerHub.CommandLine.Invocation
import TrackerHub.Config.Layers
import TrackerHub.Hub

/-! # Carrying out commands

A command line is carried out on a machine: its files, the variables of its surroundings and the
servers it reaches. What comes of it is an exit code, a text and the files afterwards. A failure that
the hub reports ends with exit code 1; any other one is a fault.
-/
namespace TrackerHub.CommandLine
open TrackerHub.Text

structure Machine where
  files : Files := {}
  surroundings : Named String := []
  homes : Homes := []
  server : Web.Server
  now : Time.DateTime

structure Outcome where
  exit : Nat
  output : String := ""
  files : Files := {}
  sent : List Web.Request := []

inductive Failure where
  | config (e : Config.LoadError)
  | sites (e : SitesError)
  | catalog (e : CatalogError)
  | agent (e : AgentError)
  | file (path : String) (fault : FileFault)
  deriving Repr

def Failure.isReported : Failure → Bool
  | catalog e => e.isReported
  | agent e => e.isReported
  | config _ | sites _ | file _ _ => false

def Failure.message : Failure → String
  | config e => e.message
  | sites e => e.message
  | catalog e => e.message
  | agent e => e.message
  | file path fault => fault.message path

def Refusal.exit : Refusal → Nat
  | help => 0
  | wrong => 2

def line (s : String) : String := if endsWith ['\n'] s.toList then s else s ++ "\n"

/-- A command at work on the session of a hub. -/
abbrev Carrying (α : Type) := ExceptT Failure (StateM Web.Session) α

/-- A result that does not depend on the session. -/
def carry {ε α : Type} (f : ε → Failure) (r : Except ε α) : Carrying α :=
  match r with
  | .ok x => pure x
  | .error e => throw (f e)

/-- What a command comes to: the exit code, the output and the files. -/
abbrev Done := Nat × String × Files

def capabilities (h : Hub) (site : String) : Carrying Done := do
  let a ← carry .catalog (h.agent site)
  let d ← ExceptT.lift (Api.answer AgentError.told a.tracker .xml [("t", ["caps"])])
  return (0, line d.payload, h.files)

/-- The parameters of a search, which is of the general kind if they do not say. -/
def searchParams (params : List (String × String)) : List (String × List String) :=
  let ps := if params.any fun p => p.1 == "t" then params else ("t", "search") :: params
  ps.map fun p => (p.1, [p.2])

def query (h : Hub) (c : QueryCommand) : Carrying Done := do
  let t ← carry .catalog (h.tracker c.site)
  let d ← ExceptT.lift (Api.answer AgentError.told t c.output (searchParams c.params))
  return (0, line d.payload, h.files)

def download (h : Hub) (c : DownloadCommand) : Carrying Done := do
  let a ← carry .catalog (h.agent c.site)
  let (contents, _) ← (fun s =>
    match a.download c.url s with
    | (.ok r, s) => (.ok r, s)
    | (.error e, s) => (.error (.agent e), s) : Carrying (Bytes × Web.Headers))
  let files ← carry (.file (String.ofList (PathText.clean c.file.toList)))
    (h.files.write c.file contents)
  return (0, "", files)

/-- The settings for a trial run: those of the site, changed by those of the command. -/
def trialSites (sites : Sites) (site : String) (settings : List (String × String)) : Sites :=
  settings.foldl (fun s (name, value) => s.set site name value) ⟨[(site, sites.sectionOf site)]⟩

def trial (h : Hub) (c : TrialCommand) : Carrying Done := do
  let d ← carry .catalog (h.files.definition c.file)
  let a : Agent := { h.agentFor d with sites := trialSites h.sites d.site c.settings }
  let report ← ExceptT.lift (a.trial { searchLimit := h.config.searchLimit, download := c.download })
  return (if report.ok then 0 else 1, report.text ++ "\n", h.files)

def carryOut (h : Hub) : Command → Carrying Done
  | .list => return (0, String.join ((h.catalog.keys h.files).map (· ++ "\n")), h.files)
  | .capabilities site => capabilities h site
  | .query c => query h c
  | .download c => download h c
  | .trial c => trial h c

def hubFor (m : Machine) (i : Invocation) : Except Failure Hub := do
  let config ← (Config.load m.files {
    document := Invocation.given i.document
    variableFile := Invocation.given i.variableFile
    surroundings := m.surroundings
    overrides := i.overrides
    homes := m.homes }).mapError .config
  let sites ← (Sites.ofFile m.files config.sitesFile).mapError .sites
  return { config, files := m.files, sites, server := m.server, now := m.now }

def run (m : Machine) (words : List String) : Except Failure Outcome := do
  match Invocation.read words with
  | .error r => return { exit := r.exit, files := m.files }
  | .ok i =>
    let h ← hubFor m i
    let (r, s) := carryOut h i.command { settings := Hub.sessionSettings h.config }
    match r with
    | .ok (exit, output, files) => return { exit, output, files, sent := s.sent }
    | .error e =>
      if e.isReported then return { exit := 1, files := m.files, sent := s.sent } else throw e

end TrackerHub.CommandLine
