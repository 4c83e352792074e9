import TrackerHub.PathText
import TrackerHub.Schema

/-! # The configuration

What the hub is configured with: where definitions and settings of sites are, how requests are sent,
and what is logged. A configuration is read from a value whose fields may stand under their own names
or in sections.
-/
namespace TrackerHub
open TrackerHub.Text

inductive Stage where
  | dev
  | test
  | prod
  deriving Repr, DecidableEq, Inhabited

inductive LogLevel where
  | debug
  | info
  | warning
  | error
  deriving Repr, DecidableEq, Inhabited

inductive LogFormat where
  | json
  | console
  deriving Repr, DecidableEq, Inhabited

def Stage.table : Named Stage := [("dev", .dev), ("test", .test), ("prod", .prod)]

def LogLevel.table : Named LogLevel := [
  ("DEBUG", .debug), ("INFO", .info), ("WARNING", .warning), ("ERROR", .error)]

def LogFormat.table : Named LogFormat := [("json", .json), ("console", .console)]

def Named.nameOf {α : Type} [DecidableEq α] (table : Named α) (x : α) : String :=
  match List.find? (fun e => decide (e.2 = x)) table with
  | some e => e.1
  | none => ""

structure Config where
  appName : String := "indexarr"
  stage : Stage := .dev
  definitionDirs : List String := ["definitions"]
  timeoutSeconds : Binary64 := .ofInt 10
  followRedirects : Bool := true
  userAgent : String := "Indexarr/0.1.0"
  logLevel : LogLevel := .info
  logFormat : LogFormat := .console
  sitesFile : String := "sites.yml"
  searchLimit : Int := 3
  deriving Repr, DecidableEq, Inhabited

/-- The home directories of users; that of the present user goes by no name. -/
abbrev Homes := List (Chars × Chars)

namespace Config

inductive Stop where
  | notAPath
  | noHome
  deriving Repr, DecidableEq, Inhabited

abbrev Outcome (α : Type) := Schema.Outcome Stop α

def readPath (homes : Homes) : Value → Outcome String
  | .text s =>
    match PathText.expandHome? homes s.toList with
    | some p => .good (String.ofList p)
    | none => .stopped .noHome
  | _ => .stopped .notAPath

/-- The pieces of a text of paths, which colons or commas separate. -/
def splitPaths (s : Chars) : List Chars :=
  (splitOn ',' (s.map fun c => if c == ':' then ',' else c)).filter fun p => !p.all isBlank

/-- Reads a list of paths, or a text of several. -/
def readPaths (homes : Homes) (v : Value) : Outcome (List String) :=
  match v with
  | .text s => .all (readPath homes)
      ((splitPaths s.toList).map fun p => Value.text (String.ofList p))
  | .list xs | .tuple xs => .all (readPath homes) xs
  | _ => .stopped .notAPath

def readName {α : Type} (table : Named α) (v : Value) : Outcome α :=
  match v with
  | .text s =>
    match table.find? s with
    | some x => .good x
    | none => .fault .notChoice
  | _ => .fault .notChoice

/-- Reads a number of seconds, which has to be above zero. -/
def readTimeout (v : Value) : Outcome Binary64 :=
  (Schema.float v).andThen fun x =>
    if x.lt (.zero false) || x.isZero then .fault .refused else .good x

def readLimit (v : Value) : Outcome Int :=
  (Schema.int v).andThen fun n => if n < 1 then .fault .refused else .good n

/-- Reads a field that stands in a section or, failing that, under its own name. -/
def sectioned {α : Type} (place key name : String) (usual : α) (read : Value → Outcome α)
    (es : Schema.Entries) : Outcome α :=
  let inPlace : Option Value :=
    match Value.find? es (.text place) with
    | some (.map inner) => Value.find? inner (.text key)
    | _ => none
  match inPlace with
  | some v => ((read v).under (.key key)).under (.key place)
  | none => Schema.field name usual read es

/-- Reads a format of the log, which may be left open. -/
def readFormat (v : Value) : Outcome (Option LogFormat) :=
  match v with
  | .null => .good none
  | v => (readName LogFormat.table v).map some

/-- The configuration with these fields. Where no format of the log is given, it follows from the
stage. -/
def complete (appName : String) (stage : Stage) (dirs : List String) (timeout : Binary64)
    (follow : Bool) (agent : String) (level : LogLevel) (format : Option LogFormat) (sites : String)
    (limit : Int) : Config :=
  { appName, stage, definitionDirs := dirs, timeoutSeconds := timeout, followRedirects := follow
    userAgent := agent, logLevel := level
    logFormat := format.getD (if stage = .prod then .json else .console)
    sitesFile := sites, searchLimit := limit }

def ofEntries (homes : Homes) (es : Schema.Entries) : Outcome Config :=
  let usual : Config := {}
  complete <$> Schema.field "app_name" usual.appName Schema.text es
    <*> Schema.field "environment" usual.stage (readName Stage.table) es
    <*> sectioned "definitions" "dirs" "definition_dirs" usual.definitionDirs (readPaths homes) es
    <*> sectioned "http" "timeout_seconds" "http_timeout_seconds" usual.timeoutSeconds
      readTimeout es
    <*> sectioned "http" "follow_redirects" "http_follow_redirects" usual.followRedirects
      Schema.bool es
    <*> sectioned "http" "user_agent" "http_user_agent" usual.userAgent Schema.text es
    <*> sectioned "logging" "level" "log_level" usual.logLevel (readName LogLevel.table) es
    <*> sectioned "logging" "format" "log_format" none readFormat es
    <*> sectioned "sites" "file" "sites_file" usual.sitesFile (readPath homes) es
    <*> sectioned "tester" "search_limit" "tester_search_limit" usual.searchLimit readLimit es

end Config

end TrackerHub
