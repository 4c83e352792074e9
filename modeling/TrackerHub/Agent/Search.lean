import TrackerHub.Agent.Login
import TrackerHub.Agent.Row
import TrackerHub.Page.Rows
import TrackerHub.Query.Fields

/-! # Searching

An agent logs in if it has to, sends the search and cuts the releases out of the rows of the page
that comes back: in page order, of the categories asked for, and no more than asked for.
-/
namespace TrackerHub.Agent

open Text (Chars)
open Page (Place)

/-- The local categories that a query asks for, none if it does not say. -/
def localCategories (a : Agent) (q : Query) : List String :=
  if q.categories.isEmpty then [] else a.definition.categories.reverse q.categories

/-- What the templates of a search look names up in. -/
def searchContext (q : Query) (localIds : List String) : Value := .map [
  (.text "Query", .map (q.fields.map fun (k, v) => (.text k, v))),
  (.text "Keywords", .text q.keywords),
  (.text "Categories", .list (localIds.map .text))]

/-- The values that a search is sent with. The input `$raw` stands for the pairs of a line. -/
def searchInputs (a : Agent) (context : Value) :
    Except Template.TemplateError (List (String × String)) :=
  (a.definition.search.inputs.mapM fun (name, source) =>
    (Template.render source context).map fun text =>
      if name == "$raw" then Web.decodeForm true text else [(name, text)]).map List.flatten

/-- Joins rows that belong together, takes out the rows that are left out, and gives the rows of the
page. -/
def selectRows (a : Agent) : Working (List Place) := do
  let rows := a.definition.search.rows
  let selected : Working (List Place) := do
    let l ← lift .extract (readSelectors rows.block.selector)
    return (← get).place.select l
  if 0 < rows.after then
    let found ← selected
    modify fun s => s.withDocument
      (Page.mergeRows rows.after (found.map fun p => p.tag.id) s.document)
  if !rows.remove.isEmpty then
    let found ← selected
    if !found.isEmpty then
      let l ← lift .extract (readSelectors rows.remove)
      let gone := (found.filter fun p => p.isMatch l).map fun p => p.tag.id
      modify fun s => s.withDocument (Page.Node.withoutOf (fun id => gone.contains id) s.document)
  selected

/-- Whether as many releases are found as a query wants; zero stands for all. -/
def isEnough (q : Query) (count : Nat) : Bool := decide (0 < q.limit) && decide (q.limit ≤ count)

/-- The releases of some rows of a page at `base`, which follow the releases found before. A row
without a title says that there are no results at all. -/
def collect (a : Agent) (q : Query) (localIds : List String) (base : Chars) :
    List Place → List Release → Except AgentError (List Release)
  | [], found => .ok found
  | el :: rest, found => do
    if isEnough q found.length then return found
    let row ← Row.ofPlace a.definition base a.now el
    if a.definition.search.hasField .title && row.release.title.isEmpty then return []
    if !localIds.isEmpty && !localIds.contains row.localCategory then
      a.collect q localIds base rest found
    else
      let row := row.categorized a.definition.categories
      a.collect q localIds base rest (if row.hasIdentity then found ++ [row.release] else found)

/-- Sends a search and opens the page of its results. -/
def openResults (a : Agent) (q : Query) : Working Unit := do
  let context := searchContext q (a.localCategories q)
  let path ← lift .template (Template.render a.definition.search.path context)
  let url ← a.resolve path
  let values ← lift .template (a.searchInputs context)
  if a.definition.search.post then browse (Web.Session.postForm a.server url values)
  else browse (Web.Session.openForm a.server url values)

def search (a : Agent) (q : Query) : Working (List Release) := do
  a.ensureLogin
  a.openResults q
  let rows ← a.selectRows
  let base := (← get).url?.getD []
  lift id (a.collect q (a.localCategories q) base rows [])

end TrackerHub.Agent
