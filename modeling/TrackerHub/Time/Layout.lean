import TrackerHub.Time.Format

/-! # Reference layouts

A layout shows how one fixed moment, the second of January 2006 at 15:04:05, is written; it stands
for the date format with a directive in place of each part of that moment.
-/
namespace TrackerHub.Time
open TrackerHub.Text

/-- The parts of the reference moment with their directives; longer parts come first. -/
def layoutTokens : List (String × String) := [
  ("January", "%B"), ("Monday", "%A"), ("Z07:00", "%z"), ("-07:00", "%z"), ("-0700", "%z"),
  ("2006", "%Y"), ("Jan", "%b"), ("Mon", "%a"), ("MST", "%Z"), ("_2", "%d"), ("01", "%m"),
  ("02", "%d"), ("03", "%I"), ("04", "%M"), ("05", "%S"), ("06", "%y"), ("15", "%H"), ("PM", "%p"),
  ("pm", "%p"), ("1", "%m"), ("2", "%d"), ("3", "%I"), ("4", "%M"), ("5", "%S")]

/-- The first part of the reference moment at the beginning of a text: its length and directive. -/
def layoutToken? (s : Chars) : Option (Nat × Chars) :=
  (layoutTokens.find? fun t => startsWith t.1.toList s).map fun t => (t.1.length, t.2.toList)

/-- The format of a layout; `skip` counts the characters of a part that are still to be passed. -/
def formatOfLayoutFrom : Nat → Chars → Chars
  | _, [] => []
  | skip + 1, _ :: r => formatOfLayoutFrom skip r
  | 0, c :: r =>
    match layoutToken? (c :: r) with
    | some (n, directive) => directive ++ formatOfLayoutFrom (n - 1) r
    | none => (if c == '%' then ['%', '%'] else [c]) ++ formatOfLayoutFrom 0 r

def formatOfLayout (layout : Chars) : Chars := formatOfLayoutFrom 0 layout

/-- The format that a text stands for: a text with a percent mark is a format itself, any other a
layout. -/
def formatOf (text : Chars) : Chars := if text.contains '%' then text else formatOfLayout text

end TrackerHub.Time
