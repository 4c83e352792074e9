/-! # Lists of named entries

Entries with names, in the order in which the names were first entered.
-/
namespace TrackerHub

/-- Entries with their names. -/
abbrev Named (α : Type) := List (String × α)

namespace Named

variable {α : Type}

/-- Enters a name: a new one at the end, a known one in its place. -/
def put (entries : Named α) (name : String) (x : α) : Named α :=
  if entries.any fun e => e.1 == name then
    entries.map fun e => if e.1 == name then (name, x) else e
  else entries ++ [(name, x)]

def find? (entries : Named α) (name : String) : Option α :=
  (List.find? (fun e => e.1 == name) entries).map (·.2)

/-- The entries in which a repeated name keeps its first place and takes its last value. -/
def ofList (entries : List (String × α)) : Named α :=
  entries.foldl (fun acc e => put acc e.1 e.2) []

end Named

end TrackerHub
