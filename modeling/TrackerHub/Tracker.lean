import TrackerHub.Query
import TrackerHub.Release

/-! # Trackers

A tracker as the hub sees it: it presents itself and answers searches. Its operations are steps from
state to state that may fail; what a step did before it failed stays.
-/
namespace TrackerHub

/-- A step over states `σ` that may fail with an `ε`. -/
abbrev Step (σ ε α : Type) := ExceptT ε (StateM σ) α

structure Tracker (σ ε : Type) where
  info : Step σ ε Info
  capabilities : Step σ ε Capabilities
  search : Query → Step σ ε (List Release)
  close : Step σ ε Unit

/-- A way to get hold of a tracker for one search. -/
abbrev TrackerMaker (σ ε : Type) := Step σ ε (Tracker σ ε)

end TrackerHub
