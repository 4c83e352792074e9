import TrackerHub.CategoryMap
import TrackerHub.Filter
import TrackerHub.Release

/-! # Definitions of trackers

A definition describes a tracker's site: where it is, how to log in, how to search it, and how to
cut releases out of its pages.
-/
namespace TrackerHub

/-- The fields of a release that a definition can cut out of a row. -/
inductive FieldKind where
  | title
  | description
  | details
  | comments
  | download
  | category
  | size
  | leechers
  | seeders
  | date
  | files
  | grabs
  | downloadVolumeFactor
  | uploadVolumeFactor
  | minimumRatio
  | minimumSeedTime
  deriving Repr, DecidableEq, Inhabited

namespace FieldKind

/-- The field kinds with their names, in order. -/
def table : Named FieldKind := [
  ("title", title), ("description", description), ("details", details), ("comments", comments),
  ("download", download), ("category", category), ("size", size), ("leechers", leechers),
  ("seeders", seeders), ("date", date), ("files", files), ("grabs", grabs),
  ("downloadvolumefactor", downloadVolumeFactor), ("uploadvolumefactor", uploadVolumeFactor),
  ("minimumratio", minimumRatio), ("minimumseedtime", minimumSeedTime)]

def names : List String := table.map (·.1)

def ofName? (name : String) : Option FieldKind := table.find? name

def name (k : FieldKind) : String :=
  match List.find? (fun e => decide (e.2 = k)) table with
  | some e => e.1
  | none => ""

end FieldKind

/-- Where a value is found in a page and how it is cleaned up. -/
structure Block where
  selector : String := ""
  text : String := ""
  attr : String := ""
  remove : String := ""
  filters : List FilterCall := []
  /-- Selectors with the value that each of them stands for. -/
  cases : Named String := []
  deriving Repr, Inhabited

namespace Block

def isEmpty (b : Block) : Bool := b.selector.isEmpty

/-- The block in a few words, for messages. -/
def label (b : Block) : String :=
  if !b.selector.isEmpty then "Selector(" ++ b.selector ++ ")"
  else if !b.text.isEmpty then "Text(" ++ b.text ++ ")"
  else "Empty"

end Block

structure Setting where
  name : String
  type : String := "text"
  label : String := ""
  deriving Repr, DecidableEq, Inhabited

/-- The settings of a site that declares none. -/
def usualSettings : List Setting := [
  ⟨"username", "text", "Username"⟩, ⟨"password", "password", "Password"⟩]

structure ErrorBlock where
  path : String := ""
  selector : String := ""
  message : Block := {}
  deriving Repr, Inhabited

/-- How a page shows that it is the right one. -/
structure PageTest where
  path : String := ""
  selector : String := ""
  deriving Repr, DecidableEq, Inhabited

def PageTest.isEmpty (t : PageTest) : Bool := t.path.isEmpty && t.selector.isEmpty

inductive LoginMethod where
  | form
  | post
  | cookie
  deriving Repr, DecidableEq, Inhabited

def LoginMethod.name : LoginMethod → String
  | .form => "form"
  | .post => "post"
  | .cookie => "cookie"

structure Login where
  path : String := ""
  form : String := "form"
  method : LoginMethod := .form
  inputs : Named String := []
  errors : List ErrorBlock := []
  test : PageTest := {}
  /-- Whether there is a login at all. -/
  declared : Bool := false
  deriving Repr, Inhabited

structure RatioPage where
  block : Block := {}
  path : String := ""
  deriving Repr, Inhabited

structure Rows where
  block : Block := {}
  /-- The number of rows that belong to each row and follow it. -/
  after : Nat := 0
  /-- The selector of the rows that are left out. -/
  remove : String := ""
  dateHeaders : Block := {}
  deriving Repr, Inhabited

structure FieldBlock where
  kind : FieldKind
  block : Block
  deriving Repr, Inhabited

structure SearchPage where
  path : String := ""
  /-- Whether the search is sent as a form. -/
  post : Bool := false
  inputs : Named String := []
  rows : Rows := {}
  fields : List FieldBlock := []
  deriving Repr, Inhabited

def SearchPage.hasField (s : SearchPage) (kind : FieldKind) : Bool :=
  s.fields.any fun f => decide (f.kind = kind)

structure Origin where
  size : Nat := 0
  digest : String := ""
  source : String := ""
  deriving Repr, DecidableEq, Inhabited

structure Definition where
  site : String
  name : String := ""
  description : String := ""
  language : String := "en-us"
  links : List String := []
  settings : List Setting := usualSettings
  categories : CategoryMap := {}
  modes : List SearchMode := []
  login : Login := {}
  ratio : RatioPage := {}
  search : SearchPage := {}
  origin : Origin := {}
  deriving Repr, Inhabited

end TrackerHub
