import TrackerHub.ApiError
import TrackerHub.Tracker

/-! # Many trackers as one

The aggregate sends a query to all of its members and takes results from them in turn. A member that
fails gives no results and does not disturb the others; each member is made anew for a search and is
closed after it.
-/
namespace TrackerHub

/-- The first items of all groups, then the second ones, and so on. -/
def interleave {α : Type} (groups : List (List α)) : List α :=
  let longest := (groups.map List.length).foldl max 0
  (List.range longest).flatMap fun i => groups.filterMap fun g => g[i]?

/-- The first items of a list, as many as a query wants; zero stands for all. -/
def Query.cut {α : Type} (q : Query) (items : List α) : List α :=
  if 0 < q.limit then items.take q.limit.toNat else items

namespace Aggregate

def info : Info := {
  id := "aggregate", title := "Aggregated Indexer", description := "All enabled indexers"
  language := "en-US" }

def capabilities : Capabilities := { modes := [
  { key := "search", params := ["q"] },
  { key := "tv-search", params := ["q", "season", "ep"] }] }

variable {σ ε : Type}

/-- The results of one member. A member that was made is closed, whatever happens. -/
def searchMember (q : Query) (maker : TrackerMaker σ ε) : StateM σ (List Release) := do
  match ← maker.run with
  | .error _ => return []
  | .ok t =>
    let found ← (do let _ ← t.info; t.search q : Step σ ε (List Release)).run
    let _ ← t.close.run
    match found with
    | .ok results => return results
    | .error _ => return []

/-- The results of all members in turn, as many as the query wants. -/
def search (makers : List (TrackerMaker σ ε)) (q : Query) : StateM σ (List Release) := do
  let groups ← makers.mapM (searchMember q)
  return q.cut (interleave groups)

def tracker (makers : List (TrackerMaker σ ε)) : Tracker σ ε := {
  info := pure info
  capabilities := pure capabilities
  search := fun q => ExceptT.lift (search makers q)
  close := pure () }

def noDownloads : ApiError :=
  ApiError.of .functionNotAvailable "Downloads are not supported by the aggregate indexer"

end Aggregate

end TrackerHub
