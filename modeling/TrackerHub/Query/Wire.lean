import TrackerHub.ApiError
import TrackerHub.Number.Numeral
import TrackerHub.Query
import TrackerHub.Text.CharClass.Lower
import TrackerHub.Web.FormText

/-! # Queries on the wire

A client sends a query as named parameters. Reading refuses repeated parameters that can have one
value only, and numbers, flags and category lists that are none; unknown parameters are passed
over. Writing leaves out what has its default.
-/
namespace TrackerHub.Query
open TrackerHub.Text

inductive WireError where
  /-- The client is told so. -/
  | refused (error : ApiError)
  /-- A parameter came with an empty list of values. -/
  | noValue (key : String)
  deriving Repr, DecidableEq

/-- What a client is told of parameters that are no query. -/
def WireError.told : WireError → ApiError
  | refused e => e
  | noValue _ => (Raised.unforeseen "list index out of range").told

/-- Parameters with their values, each name once, in the order of first occurrence. -/
def gather (params : List (String × List String)) : List (String × List String) :=
  params.foldl (fun acc p =>
    if acc.any fun e => e.1 == p.1 then
      acc.map fun e => if e.1 == p.1 then (e.1, e.2 ++ p.2) else e
    else acc ++ [p]) []

/-- The parameters that can have one value only. -/
def singleValued : List String := ["t", "ep", "season", "apikey", "limit", "offset", "extended"]

def refuse (description : String) : WireError :=
  .refused (ApiError.of .incorrectParameter description)

def readNumber (key value : String) : Except WireError Int :=
  match Numeral.readInt value.toList with
  | .ok n => .ok n
  | .error _ => .error (refuse s!"Invalid {key} value {quote value}")

def readFlag (value : String) : Except WireError Bool :=
  let word := String.ofList (lower value.toList)
  if ["1", "t", "true"].contains word then .ok true
  else if ["0", "f", "false"].contains word then .ok false
  else .error (refuse s!"Invalid extended value {quote value}")

def readCategories (value : String) : Except WireError (List Int) :=
  (splitOn ',' value.toList).mapM fun part =>
    match Numeral.readInt part with
    | .ok n => .ok n
    | .error _ => .error (refuse s!"Unable to parse cats {quote value}")

def firstValue (key : String) : List String → Except WireError String
  | [] => .error (.noValue key)
  | v :: _ => .ok v

def readParam (query : Query) (key : String) (values : List String) : Except WireError Query :=
  if singleValued.contains key && decide (1 < values.length) then
    .error (refuse s!"Multiple {key} parameters not allowed")
  else
    match key with
    | "t" => (firstValue key values).map fun v => { query with type := v }
    | "q" => .ok { query with q := String.ofList (join [' '] (values.map String.toList)) }
    | "ep" => (firstValue key values).map fun v => { query with ep := v }
    | "season" => (firstValue key values).map fun v => { query with season := v }
    | "apikey" => (firstValue key values).map fun v => { query with apikey := v }
    | "limit" => do
      let n ← (firstValue key values).bind (readNumber key)
      pure { query with limit := n }
    | "offset" => do
      let n ← (firstValue key values).bind (readNumber key)
      pure { query with offset := n }
    | "extended" => do
      let b ← (firstValue key values).bind readFlag
      pure { query with extended := b }
    | "cat" => do
      let ids ← values.mapM readCategories
      pure { query with categories := ids.flatten }
    | _ => .ok query

/-- The query that parameters with lists of values ask for. -/
def ofParams (params : List (String × List String)) : Except WireError Query :=
  (gather params).foldlM (fun query p => readParam query p.1 p.2) {}

/-- The parameters of a query, without those that have their default. -/
def toPairs (query : Query) : List (String × String) :=
  let text := fun (key value : String) => if value.isEmpty then [] else [(key, value)]
  let number := fun (key : String) (n : Int) =>
    if n = 0 then [] else [(key, String.ofList (decimalInt n))]
  [("t", if query.type.isEmpty then "search" else query.type)]
    ++ text "q" query.q ++ text "ep" query.ep ++ text "season" query.season
    ++ number "offset" query.offset ++ number "limit" query.limit
    ++ (if query.extended then [("extended", "1")] else [])
    ++ text "apikey" query.apikey
    ++ (if query.categories.isEmpty then []
      else [("cat", String.ofList (join [','] (query.categories.map decimalInt)))])

def encode (query : Query) : String := Web.encodeForm query.toPairs

end TrackerHub.Query
