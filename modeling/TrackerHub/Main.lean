import Std.Time.DateTime.Timestamp
import TrackerHub.CommandLine.Run

/-! # The program

The command line on the machine at hand: the files below the current directory and those that the
words name by an absolute path, the variables of the surroundings and the clock. The machine has no
line to any server, so every request ends in a failed connection.
-/
namespace TrackerHub.Program
open TrackerHub.CommandLine

def variableNames : List String :=
  "HOME" :: Config.fieldNames.map fun f => "INDEXARR_" ++ f.map Char.toUpper

def surroundings : IO (Named String) := do
  let found ← variableNames.mapM fun name => do
    return (← IO.getEnv name).map fun value => (name, value)
  return found.filterMap id

def fileAt? (path : String) : IO (Option (String × Text.Bytes)) := do
  match ← (IO.FS.readBinFile path).toBaseIO with
  | .ok contents => return some (path, contents.toList)
  | .error _ => return none

def filesHere : IO (List (String × Text.Bytes)) := do
  let here ← IO.currentDir
  let start := here.toString.length + 1
  let paths ← here.walkDir
  let found ← paths.toList.mapM fun path => fileAt? (path.toString.drop start).toString
  return found.filterMap id

/-- The files that words name by an absolute path. -/
def filesNamed (words : List String) : IO (List (String × Text.Bytes)) := do
  let found ← (words.filter fun w => w.front == '/').mapM fileAt?
  return found.filterMap id

def now : IO Time.DateTime := do
  let epoch : Time.DateTime := { date := ⟨1970, 1, 1⟩, offset := some 0 }
  let moment ← Std.Time.Timestamp.now
  let micros := moment.toNanosecondsSinceUnixEpoch.val / 1000
  return (epoch.addMicros? micros).getD epoch

def machine (words : List String) : IO Machine := do
  let named ← surroundings
  let homes := (named.filter fun v => v.1 == "HOME").map fun v => ([], v.2.toList)
  return {
    files := Files.ofList ((← filesHere) ++ (← filesNamed words))
    surroundings := named
    homes := homes
    server := fun _ _ => .error "All connection attempts failed"
    now := ← now }

/-- Writes the files that have other contents than before. -/
def writeChanged (before after : Files) : IO Unit :=
  after.entries.forM fun (path, contents) => do
    if before.read? path != some contents then
      IO.FS.writeBinFile path ⟨contents.toArray⟩

def carryOut (words : List String) : IO UInt32 := do
  let m ← machine words
  match run m words with
  | .error e =>
    IO.eprintln e.message
    return 1
  | .ok o =>
    writeChanged m.files o.files
    IO.print o.output
    return o.exit.toUInt32

end TrackerHub.Program

def main (words : List String) : IO UInt32 := TrackerHub.Program.carryOut words
