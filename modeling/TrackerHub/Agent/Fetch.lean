import TrackerHub.Agent.Login

/-! # Downloads and ratios

What else an agent gets from its site: the contents behind the link of a release, and the ratio of
the account.
-/
namespace TrackerHub.Agent

/-- Fetches the contents behind an address, with the headers that came along. -/
def download (a : Agent) (url : String) : Working (Text.Bytes × Web.Headers) := do
  a.ensureLogin
  let full ← a.resolve url
  if isMagnet full then throw .magnet
  fun s =>
    match Web.Session.open a.server full s with
    | (.error e, s) => (.error (if e.isReported then .fetch full e else .session e), s)
    | (.ok _, s) =>
      if 400 ≤ s.status then (.error (.fetchStatus full s.status), s)
      else
        match s.download with
        | .ok b => (.ok (b, s.headers), s)
        | .error e => (.error (.session e), s)

def ratio (a : Agent) : Working String := do
  let ratio := a.definition.ratio
  if !ratio.block.text.isEmpty then return ratio.block.text
  if ratio.path.isEmpty then return "unknown"
  a.ensureLogin
  let url ← a.resolve ratio.path
  if !(← a.tryOpen url) then return "error"
  let value ← lift .extract (ratio.block.find (← get).place a.now)
  return String.ofList (Text.trimBy (fun c => c == '-' || c == ' ') value.toList)

end TrackerHub.Agent
