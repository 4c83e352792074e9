import TrackerHub.Agent.Fetch
import TrackerHub.Agent.Search
import TrackerHub.ApiError
import TrackerHub.Tracker

/-! # Agents as trackers

An agent is a tracker over browser sessions. Closing it ends the session; the next step begins a new
one.
-/
namespace TrackerHub

def AgentError.kind : AgentError → String
  | noSetting _ _ => "ConfigurationError"
  | login _ => "LoginError"
  | noWorkingUrl _ => "NoWorkingUrlError"
  | magnet | fetch _ _ | fetchStatus _ _ => "DownloadError"
  | session (.send (.address _)) => "InvalidURL"
  | session (.send (.url _)) | session (.send (.unknownType _)) | url _ => "ValueError"
  | session (.send (.unsendable _)) => "UnicodeEncodeError"
  | session (.selector .malformed) | extract (.selector .malformed) => "SelectorSyntaxError"
  | session (.selector .unsupported) | extract (.selector .unsupported) => "NotImplementedError"
  | session _ => "BrowserError"
  | extract (.missingAttribute _) => "MissingAttributeError"
  | extract (.noCase _) => "ExtractionError"
  | extract (.filter e) =>
    match e with
    | .unknown _ => "UnknownFilterError"
    | .emptySeparator | .longPosition | .patternDigits _ | .patternAlphabet => "ValueError"
    | .timeOutOfRange _ | .patternCount => "OverflowError"
    | .repeatedDatePart => "error"
    | _ => "FilterError"
  | template _ => "TemplateError"
  | size .unbounded => "OverflowError"
  | size _ => "ValueError"
  | time e => if e.isUnreadable then "ValueError" else "OverflowError"

/-- Whether an error is one that an agent reports; any other one is a fault that nobody foresaw. -/
def AgentError.isReported : AgentError → Bool
  | session e => e.isReported
  | extract (.selector _) | url _ | size _ | time _ => false
  | extract (.filter e) => e.isReported
  | _ => true

def AgentError.told (e : AgentError) : ApiError := (Raised.unforeseen e.message).told

namespace Agent

def tracker (a : Agent) : Tracker Web.Session AgentError := {
  info := pure a.info
  capabilities := pure a.capabilities
  search := a.search
  close := modify Web.Session.renewed }

/-- An agent that begins its work with a new session. -/
def maker (a : Agent) : TrackerMaker Web.Session AgentError :=
  (do modify Web.Session.renewed; return a.tracker : Working (Tracker Web.Session AgentError))

end Agent

end TrackerHub
