import TrackerHub.Agent.Tracker

/-! # Trial runs

A trial run checks a definition against its site: it logs in, searches in each mode, searches for
something that should not be there, and reads the ratio. It stops at the first step that fails, and
the report says what failed.
-/
namespace TrackerHub

/-- What a trial run expects and did not find. -/
inductive TrialError where
  | agent (e : AgentError)
  | noResults
  | emptyTitle (row : Nat)
  | zeroSize (row : Nat)
  | blankLink (row : Nat)
  | blankSite (row : Nat)
  | emptyDownload (link : String)
  | unexpectedResults (count : Nat)
  deriving Repr, Inhabited

namespace TrialError

def kind : TrialError → String
  | agent e => e.kind
  | _ => "AssertionFailed"

def message : TrialError → String
  | agent e => e.message
  | noResults => "Expected at least one result"
  | emptyTitle n => s!"Result row {n} has empty title"
  | zeroSize n => s!"Result row {n} has zero size"
  | blankLink n => s!"Result row {n} has blank link"
  | blankSite n => s!"Result row {n} has blank site"
  | emptyDownload link => s!"Download of {link} was empty"
  | unexpectedResults n => s!"Expected no results, got {n}"

end TrialError

/-- A step of a trial run with its outcome, and how many seconds it took. -/
structure TrialStep where
  name : String
  ok : Bool
  error : String := ""
  elapsed : Binary64 := .zero false
  deriving Repr, DecidableEq, Inhabited

structure TrialReport where
  site : String
  link : String := ""
  steps : List TrialStep := []
  deriving Repr, DecidableEq, Inhabited

namespace TrialReport

def ok (r : TrialReport) : Bool := r.steps.all TrialStep.ok

def stepLine (s : TrialStep) : String :=
  let status := if s.ok then "SUCCESS" else "FAILURE"
  s!"  {s.name} {status} in {String.ofList (s.elapsed.toFixed 2)}s"
    ++ (if s.error.isEmpty then "" else s!": {s.error}")

def text (r : TrialReport) : String :=
  "\n".intercalate ([s!"Testing indexer {r.site} ({r.link})"] ++ r.steps.map stepLine
    ++ [s!"Indexer {r.site} " ++ (if r.ok then "is OK" else "FAILED")])

end TrialReport

/-- Checks that every result has a title, a size, a link and a site. `row` is the number of the
first. -/
def checkReleases (row : Nat) : List Release → Except TrialError Unit
  | [] => .ok ()
  | r :: rest =>
    if r.title.isEmpty then .error (.emptyTitle row)
    else if r.size = 0 then .error (.zeroSize row)
    else if r.link.isEmpty then .error (.blankLink row)
    else if r.site.isEmpty then .error (.blankSite row)
    else checkReleases (row + 1) rest

/-- Checks that there are results and that each is complete. -/
def checkResults (results : List Release) : Except TrialError Unit :=
  if results.isEmpty then .error .noResults else checkReleases 1 results

structure TrialPlan where
  searchLimit : Int := 3
  download : Bool := false
  deriving Repr, DecidableEq, Inhabited

abbrev Trying (α : Type) := ExceptT TrialError (StateM Web.Session) α

namespace Agent

def trying {α : Type} (w : Working α) : Trying α := fun s =>
  match w s with
  | (.ok x, s) => (.ok x, s)
  | (.error e, s) => (.error (.agent e), s)

def trialQuery (plan : TrialPlan) (m : SearchMode) : Query :=
  { type := m.key, limit := plan.searchLimit
    categories := if m.key == "tv-search" then [5040, 5030] else [] }

/-- Fetches the first result that is no magnet link; its contents must not be empty. -/
def tryDownload (a : Agent) (results : List Release) : Trying Unit := do
  match results.find? fun r => !isMagnet r.link with
  | none => return
  | some r =>
    let (contents, _) ← trying (a.download r.link)
    if contents.isEmpty then throw (.emptyDownload r.link)

def tryMode (a : Agent) (plan : TrialPlan) (m : SearchMode) : Trying Unit := do
  let results ← trying (a.search (trialQuery plan m))
  match checkResults results with
  | .error e => throw e
  | .ok _ => if plan.download then a.tryDownload results

def tryNothing (a : Agent) : Trying Unit := do
  let results ← trying (a.search { q := "nothingshouldmatchtheseresults" })
  if !results.isEmpty then throw (.unexpectedResults results.length)

def trialSteps (a : Agent) (plan : TrialPlan) : List (String × Trying Unit) :=
  [("Testing login with valid credentials", trying a.login)]
    ++ a.capabilities.modes.map (fun m => (s!"Testing search mode {m.key}", a.tryMode plan m))
    ++ [("Testing empty results are handled", a.tryNothing),
      ("Testing ratio", do let _ ← trying a.ratio)]

def runTrial : List (String × Trying Unit) → StateM Web.Session (List TrialStep)
  | [] => return []
  | (name, step) :: rest => do
    match ← step.run with
    | .ok _ => return { name, ok := true } :: (← runTrial rest)
    | .error e => return [{ name, ok := false, error := s!"{e.kind}: {e.message}" }]

def trial (a : Agent) (plan : TrialPlan) : StateM Web.Session TrialReport := do
  let steps ← runTrial (a.trialSteps plan)
  return { site := a.info.id, link := a.info.link, steps }

end Agent

end TrackerHub
