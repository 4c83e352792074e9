import TrackerHub.Page.Place
import TrackerHub.Text.CharClass.Fold

/-! # Refresh instructions

A page may tell the browser to go on to another address: a number of seconds, a semicolon and the
address.
-/
namespace TrackerHub.Web
open TrackerHub.Text

/-- A text without the words `url =` at its beginning. -/
def dropUrlWord (s : Chars) : Chars :=
  match dropStartFold? "url".toList s with
  | some r =>
    match r.dropWhile isBlank with
    | '=' :: r => r.dropWhile isBlank
    | _ => s
  | none => s

/-- The address in a refresh instruction, if there is one. -/
def refreshTarget? (instruction : Chars) : Option Chars :=
  match (trim instruction).dropWhile (· != ';') with
  | _ :: rest =>
    let target := trimBy (fun c => c == '\'' || c == '"' || c == ' ')
      (dropUrlWord (rest.dropWhile isBlank))
    if target.isEmpty then none else some target
  | [] => none

/-- The refresh instruction inside a page: the content of its first element that gives one. -/
def pageInstruction? (page : Page.Place) : Option Chars :=
  let isRefresh (v : Chars) : Bool :=
    match dropStartFold? "refresh".toList v with
    | some rest => rest.isEmpty || rest == ['\n']
    | none => false
  (page.below.find? fun p =>
    p.tag.name == "meta".toList && (p.tag.attr? "http-equiv".toList).any isRefresh).map
      fun p => (p.tag.attr? "content".toList).getD []

end TrackerHub.Web
