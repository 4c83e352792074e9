import TrackerHub.Page.Node

/-! # Rows that continue over several elements

A page can spread one row over several elements: a lead row and a fixed number of rows behind it.
`mergeRows` moves the cells of those rows to the end of their lead row and takes the rows themselves
out of the page. Rows are named by their numbers.
-/
namespace TrackerHub.Page

open Node

/-- The cells directly inside the row with this number. -/
def cellsOf (row : Nat) (page : List Node) : List Node :=
  ((childrenOfAny? row page).getD []).filter (isElement "td".toList)

/-- Moves the cells of a row to the end of its lead row and takes the row out. -/
def absorb (lead : Nat) (page : List Node) (row : Nat) : List Node :=
  appendAtOf lead (cellsOf row page) (withoutOf (· == row) page)

/-- Splits the rows into lead rows, each with the rows behind it. -/
def strides (after : Nat) : Nat → List Nat → List (Nat × List Nat)
  | 0, _ => []
  | _, [] => []
  | fuel + 1, lead :: rest => (lead, rest.take after) :: strides after fuel (rest.drop after)

/-- Merges each lead row with the `after` rows behind it. The last lead row may have fewer. -/
def mergeRows (after : Nat) (rows : List Nat) (page : List Node) : List Node :=
  (strides after rows.length rows).foldl
    (fun page (lead, trailing) => trailing.foldl (absorb lead) page) page

def leadRows (after : Nat) (rows : List Nat) : List Nat :=
  (strides after rows.length rows).map (·.1)

end TrackerHub.Page
