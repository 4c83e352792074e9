import TrackerHub.Page.Place
import TrackerHub.Web.Url

/-! # Forms

A form of a page: where it is sent, how, and the values of its fields in document order.
-/
namespace TrackerHub.Web
open TrackerHub.Text
open Page (Place)

/-- A form, ready to be filled in and sent. -/
structure Form where
  method : String
  action : String
  values : List (String × String)
  deriving Repr, DecidableEq, Inhabited

namespace Form

def attr? (p : Place) (name : String) : Option Chars := p.tag.attr? name.toList

/-- Whether a kind of input field is never sent. -/
def isSilent (kind : Chars) : Bool :=
  ["submit", "button", "image", "reset", "file"].any fun k => k.toList == kind

/-- Whether a kind of input field is sent only if it is checked. -/
def isSwitch (kind : Chars) : Bool := ["checkbox", "radio"].any fun k => k.toList == kind

def inputValue? (p : Place) : Option Chars :=
  let kind := (attr? p "type").getD []
  let kind := lower (if kind.isEmpty then "text".toList else kind)
  if isSilent kind then none
  else if isSwitch kind then
    if (attr? p "checked").isSome then some ((attr? p "value").getD "on".toList) else none
  else some ((attr? p "value").getD [])

/-- The value that a choice is sent with: that of the selected option, else of the first. -/
def choiceValue? (p : Place) : Option Chars :=
  let options := p.below.filter fun q => q.tag.name == "option".toList
  let selected := options.find? fun q => (attr? q "selected").isSome
  (selected.or options.head?).map fun q => (attr? q "value").getD (trim q.text)

/-- The name and value that a field is sent with. -/
def field? (p : Place) : Option (String × String) := do
  let name ← attr? p "name"
  if name.isEmpty then none
  let value ←
    if p.tag.name == "input".toList then inputValue? p
    else if p.tag.name == "textarea".toList then some p.text
    else if p.tag.name == "select".toList then choiceValue? p
    else none
  return (String.ofList name, String.ofList value)

/-- The form that an element of a page at this address describes. -/
def ofPlace (pageUrl : Chars) (p : Place) : Except UrlError Form := do
  let method := (attr? p "method").getD []
  let action ← Url.join pageUrl ((attr? p "action").getD [])
  return {
    method := String.ofList (lower (if method.isEmpty then "get".toList else method))
    action := String.ofList action
    values := p.below.filterMap field? }

/-- Fills a field in: the first of its values is replaced, and any others are dropped. -/
def fill? (f : Form) (name value : String) : Option Form :=
  if f.values.any fun v => v.1 == name then
    let before := f.values.takeWhile fun v => v.1 != name
    let after := (f.values.drop (before.length + 1)).filter fun v => v.1 != name
    some { f with values := before ++ (name, value) :: after }
  else none

def isPosted (f : Form) : Bool := f.method == "post"

end Form

end TrackerHub.Web
