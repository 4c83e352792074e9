import TrackerHub.Named
import TrackerHub.PathText
import TrackerHub.Text.Quoted
import TrackerHub.Text.Utf8

/-! # File trees

A tree of files as a value: the path of every file with its contents. A directory is there if a file
lies below it.
-/
namespace TrackerHub
open TrackerHub.Text

inductive FileFault where
  | missing
  | directory
  /-- A file stands where the path needs a directory. -/
  | belowFile
  | notText
  deriving Repr, DecidableEq, Inhabited

def FileFault.message (path : String) : FileFault → String
  | missing => "[Errno 2] No such file or directory: " ++ quote path
  | directory => "[Errno 21] Is a directory: " ++ quote path
  | belowFile => "[Errno 20] Not a directory: " ++ quote path
  | notText => "invalid bytes"

/-- Files with their paths in normal form. -/
structure Files where
  entries : Named Bytes := []
  deriving Repr, DecidableEq, Inhabited

namespace Files

/-- The files of a list; a repeated path takes its last contents. -/
def ofList (entries : List (String × Bytes)) : Files :=
  ⟨Named.ofList (entries.map fun (p, b) => (String.ofList (PathText.clean p.toList), b))⟩

/-- The segments of a path after steps back are taken. -/
def walk (path : Chars) : List Chars :=
  (PathText.segments path).foldl
    (fun done s => if s == ['.', '.'] then done.dropLast else done ++ [s]) []

/-- Where a file lies: whether its path is relative, and its segments after steps back are taken. -/
def placeOf (path : String) : Bool × List Chars :=
  ((PathText.root path.toList).isEmpty, walk path.toList)

/-- Whether some file lies below a place. The place where all relative paths begin is a directory. -/
def hasBelow (f : Files) (place : Bool × List Chars) : Bool :=
  place.2.isEmpty || f.entries.any fun e =>
    let there := placeOf e.1
    place.2.length < there.2.length && there.2.take place.2.length == place.2 && there.1 == place.1

/-- Whether a file stands where a place needs a directory. -/
def hasAbove (f : Files) (place : Bool × List Chars) : Bool :=
  f.entries.any fun e =>
    let there := placeOf e.1
    there.2.length < place.2.length && place.2.take there.2.length == there.2 && there.1 == place.1

def fileAt? (f : Files) (place : Bool × List Chars) : Option (String × Bytes) :=
  List.find? (fun e => placeOf e.1 == place) f.entries

/-- Takes a step of a path. A step back has to leave a directory. -/
def step (f : Files) (relative : Bool) (done : List Chars) (segment : Chars) :
    Except FileFault (List Chars) :=
  if segment != ['.', '.'] then .ok (done ++ [segment])
  else if f.hasBelow (relative, done) then .ok done.dropLast
  -- Something that is no directory is told from nothing at all.
  else if (f.fileAt? (relative, done)).isSome || f.hasAbove (relative, done) then .error .belowFile
  else .error .missing

def resolve (f : Files) (path : String) : Except FileFault (Bool × List Chars) :=
  let relative := (PathText.root path.toList).isEmpty
  ((PathText.segments path.toList).foldlM (f.step relative) []).map fun done => (relative, done)

def entry? (f : Files) (path : String) : Option (String × Bytes) :=
  match f.resolve path with
  | .ok place => f.fileAt? place
  | .error _ => none

def read? (f : Files) (path : String) : Option Bytes := (f.entry? path).map (·.2)

def isFile (f : Files) (path : String) : Bool := (f.entry? path).isSome

def isDirectory (f : Files) (path : String) : Bool :=
  match f.resolve path with
  | .ok place => f.hasBelow place
  | .error _ => false

def faultAt (f : Files) (path : String) : FileFault :=
  match f.resolve path with
  | .ok place =>
    if f.hasBelow place then .directory
    else if f.hasAbove place then .belowFile
    else .missing
  | .error fault => fault

def read (f : Files) (path : String) : Except FileFault Bytes :=
  match f.read? path with
  | some b => .ok b
  | none => .error (f.faultAt path)

def unifyLineEnds : Chars → Chars
  | '\r' :: '\n' :: r => '\n' :: unifyLineEnds r
  | '\r' :: r => '\n' :: unifyLineEnds r
  | c :: r => c :: unifyLineEnds r
  | [] => []

def readText (f : Files) (path : String) : Except FileFault Chars := do
  match decodeUtf8? (← f.read path) with
  | some t => return unifyLineEnds t
  | none => throw .notText

def filesIn (f : Files) (dir : String) : List Chars :=
  match f.resolve dir with
  | .error _ => []
  | .ok place =>
    let names := f.entries.filterMap fun e =>
      let there := placeOf e.1
      if there.2.dropLast == place.2 && !there.2.isEmpty && there.1 == place.1 then there.2.getLast?
      else none
    names.mergeSort fun a b => decide (String.ofList a ≤ String.ofList b)

def put (f : Files) (path : String) (contents : Bytes) : Files :=
  match f.entry? path with
  | some e => ⟨f.entries.put e.1 contents⟩
  | none => ⟨f.entries.put (String.ofList (PathText.clean path.toList)) contents⟩

def write (f : Files) (path : String) (contents : Bytes) : Except FileFault Files :=
  if f.isFile path then .ok (f.put path contents)
  else
    match f.faultAt path with
    | .missing =>
      -- A new file is made, a new directory is not.
      if f.isDirectory (String.ofList (PathText.parent path.toList)) then .ok (f.put path contents)
      else .error .missing
    | fault => .error fault

end Files

end TrackerHub
