import TrackerHub.Text.Chars

/-! # Queries

What a client asks for: a function, search words, an episode, categories and a window of results.
-/
namespace TrackerHub
open TrackerHub.Text

/-- A search as the hub understands it, whatever form it arrived in. -/
structure Query where
  type : String := ""
  q : String := ""
  season : String := ""
  ep : String := ""
  categories : List Int := []
  limit : Int := 0
  offset : Int := 0
  extended : Bool := false
  apikey : String := ""
  deriving Repr, DecidableEq, Inhabited

namespace Query

/-- A number of a season or an episode behind its letter, with at least two characters. -/
def episodePart (letter : Char) (number : String) : Chars :=
  if number.isEmpty then [] else letter :: padLeft '0' 2 number.toList

/-- The season and episode as `S02E12`, either part only if it is given. -/
def episode (query : Query) : String :=
  String.ofList (episodePart 'S' query.season ++ episodePart 'E' query.ep)

def keywords (query : Query) : String :=
  let words := if query.q.isEmpty then [] else [query.q.toList]
  let episode :=
    if query.season.isEmpty && query.ep.isEmpty then [] else [query.episode.toList]
  String.ofList (join [' '] (words ++ episode))

end Query

/-- The names under which a client may ask for each kind of search. -/
def searchKinds : List (String × String) := [
  ("search", "search"), ("tvsearch", "tv-search"), ("tv-search", "tv-search"),
  ("movie", "movie-search"), ("movie-search", "movie-search")]

end TrackerHub
