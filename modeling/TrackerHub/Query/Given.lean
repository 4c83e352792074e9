import TrackerHub.Feed.Markup
import TrackerHub.Query.Wire
import TrackerHub.Value

/-! # Parameters as they are given

A caller gives the parameters of a query in a mapping or in a sequence of pairs, each with one value or
with a list of values. A value counts for its text; an integer with too many digits has none.
-/
namespace TrackerHub

namespace Value

mutual

/-- Whether a value has an integer in it that is too long to be written. -/
def hasLongNumber : Value → Bool
  | .int n => Feed.isTooLong n
  | .list items => anyLongNumber items
  | .tuple items => anyLongNumber items
  | .set items => anyLongNumber items
  | .map entries => anyLongEntry entries
  | _ => false

def anyLongNumber : List Value → Bool
  | [] => false
  | x :: r => hasLongNumber x || anyLongNumber r

/-- Whether a key or a value of a mapping has. -/
def anyLongEntry : List (Value × Value) → Bool
  | [] => false
  | (k, v) :: r => hasLongNumber k || hasLongNumber v || anyLongEntry r

end

end Value

namespace Query

inductive GivenError where
  /-- A value has no text. -/
  | longNumber
  /-- The texts are no query. -/
  | unread (error : WireError)
  deriving Repr, DecidableEq

def GivenError.told : GivenError → ApiError
  | longNumber => (Raised.unforeseen Feed.longNumberText).told
  | unread e => e.told

/-- The values of a parameter: the items of a list, or the value itself. -/
def givenValues : Value → List Value
  | .list items => items
  | .tuple items => items
  | v => [v]

def givenText (v : Value) : Except GivenError String :=
  if v.hasLongNumber then .error .longNumber else .ok v.plainText

def givenTexts (params : List (String × Value)) : Except GivenError (List (String × List String)) :=
  params.mapM fun p => ((givenValues p.2).mapM givenText).map fun texts => (p.1, texts)

/-- The query that parameters ask for. A mapping gives each name once, a sequence of pairs may repeat
names. -/
def ofGiven (params : List (String × Value)) : Except GivenError Query :=
  (givenTexts params).bind fun texts => (ofParams texts).mapError .unread

end Query

end TrackerHub
