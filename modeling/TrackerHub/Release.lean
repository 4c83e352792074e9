import TrackerHub.Number.Binary64
import TrackerHub.Time.Calendar
import TrackerHub.Category

/-! # Releases and trackers

A release is one result of a search. A tracker presents itself by its info and its capabilities:
the kinds of search it answers and the categories it knows.
-/
namespace TrackerHub

structure Release where
  site : String
  title : String
  link : String := ""
  guid : String := ""
  description : String := ""
  comments : String := ""
  category : Int := 0
  size : Int := 0
  seeders : Int := 0
  peers : Int := 0
  publishDate : Option Time.DateTime := none
  minimumRatio : Binary64 := .zero false
  minimumSeedTime : Binary64 := .zero false
  files : Option Int := none
  grabs : Option Int := none
  downloadVolumeFactor : Binary64 := .ofInt 1
  uploadVolumeFactor : Binary64 := .ofInt 1
  deriving Repr, DecidableEq, Inhabited

def Release.numbers (r : Release) : List Int :=
  [r.category, r.size, r.seeders, r.peers] ++ r.files.toList ++ r.grabs.toList

/-- How a tracker, or the hub, presents itself. -/
structure Info where
  id : String
  title : String
  description : String := ""
  link : String := ""
  language : String := "en-us"
  deriving Repr, DecidableEq, Inhabited

structure SearchMode where
  key : String
  available : Bool := true
  params : List String := ["q"]
  deriving Repr, DecidableEq, Inhabited

structure Capabilities where
  modes : List SearchMode := []
  categories : List Category := []
  deriving Repr, DecidableEq, Inhabited

namespace Capabilities

def mode? (c : Capabilities) (key : String) : Option SearchMode :=
  c.modes.find? fun m => m.key == key && m.available

def hasSeries (c : Capabilities) : Bool :=
  c.categories.any fun k => decide (5000 ≤ k.id) && decide (k.id < 6000)

def hasMovies (c : Capabilities) : Bool :=
  c.categories.any fun k => decide (2000 ≤ k.id) && decide (k.id < 3000)

end Capabilities

end TrackerHub
