import TrackerHub.Query
import TrackerHub.Value

/-! # Queries in templates

A template names the fields of a query, and the search words and the episode made from them.
-/
namespace TrackerHub.Query

/-- The fields of a query under the names that templates use. -/
def fields (query : Query) : List (String × Value) := [
  ("Type", .text query.type),
  ("Q", .text query.q),
  ("Season", .text query.season),
  ("Ep", .text query.ep),
  ("Limit", .int query.limit),
  ("Offset", .int query.offset),
  ("Extended", .bool query.extended),
  ("Categories", .list (query.categories.map .int)),
  ("APIKey", .text query.apikey),
  ("Keywords", .text query.keywords),
  ("Episode", .text query.episode)]

end TrackerHub.Query
