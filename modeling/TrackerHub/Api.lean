import TrackerHub.Feed.Documents
import TrackerHub.Feed.Json
import TrackerHub.Named
import TrackerHub.Query.Wire
import TrackerHub.Tracker

/-! # The interface for clients

A client sends parameters and gets a document back: the capabilities of a tracker, the results of a
search, or an error. Nothing that goes wrong escapes: every failure becomes an error document.
-/
namespace TrackerHub.Api

inductive Output where
  | xml
  | json
  deriving Repr, DecidableEq, Inhabited

inductive Ask where
  | capabilities
  | search (q : Query)
  deriving Repr, DecidableEq

def askOf (q : Query) : Except ApiError Ask :=
  if q.type.isEmpty then .error (ApiError.of .missingParameter "Missing parameter t")
  else if q.type == "caps" then .ok .capabilities
  else
    match Named.find? searchKinds q.type with
    | some mode => .ok (.search { q with type := mode })
    | none => .error (ApiError.of .noSuchFunction s!"Unknown type {Text.quote q.type}")

def ask (params : List (String × List String)) : Except ApiError Ask :=
  match Query.ofParams params with
  | .ok q => askOf q
  | .error e => .error e.told

def results (output : Output) (info : Info) (items : List Release) :
    Except Feed.Fault Feed.Rendered :=
  match output with
  | .xml => Feed.writeChannel info items
  | .json => Feed.writeList items

section
variable {σ ε : Type}

def written (r : Except Feed.Fault Feed.Rendered) : Step σ ApiError Feed.Rendered :=
  ExceptT.mk (pure (r.mapError Feed.Fault.told))

/-- The document that answers what a client asks for. `told` is what a client is told of a tracker's
failure. -/
def documentFor (told : ε → ApiError) (t : Tracker σ ε) (output : Output) :
    Ask → Step σ ApiError Feed.Rendered
  | .capabilities => do
    let c ← t.capabilities.adapt told
    written (Feed.writeCapabilities c)
  | .search q => do
    let info ← t.info.adapt told
    let items ← (t.search q).adapt told
    written (results output info items)

def answer (told : ε → ApiError) (t : Tracker σ ε) (output : Output)
    (params : List (String × List String)) : StateM σ Feed.Rendered := do
  match ask params with
  | .error e => return Feed.failure e
  | .ok a =>
    match ← (documentFor told t output a).run with
    | .ok d => return d
    | .error e => return Feed.failure e

end

end TrackerHub.Api
