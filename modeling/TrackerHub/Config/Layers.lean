import TrackerHub.Config.Basic
import TrackerHub.Config.Dotenv
import TrackerHub.Files
import TrackerHub.Yaml.Load

/-! # Layers of configuration

A configuration is put together from layers: the built-in values, a document, the variables of the
surroundings, and what the command line says. For each field the last layer that names it wins. What
is logged about entries that name no field is left out.
-/
namespace TrackerHub.Config
open TrackerHub.Text

/-- The fields that stand in sections: section, key and name. -/
def sectionFields : List (String × String × String) := [
  ("definitions", "dirs", "definition_dirs"), ("http", "timeout_seconds", "http_timeout_seconds"),
  ("http", "follow_redirects", "http_follow_redirects"), ("http", "user_agent", "http_user_agent"),
  ("logging", "level", "log_level"), ("logging", "format", "log_format"),
  ("sites", "file", "sites_file"), ("tester", "search_limit", "tester_search_limit")]

def fieldNames : List String :=
  ["app_name", "environment"] ++ sectionFields.map fun f => f.2.2

def flattenEntry : Value × Value → List (String × Value)
  | (.text key, v) =>
    if fieldNames.contains key then [(key, v)]
    else
      match v with
      | .map inner => inner.filterMap fun (k, x) =>
        match k with
        | .text k =>
          (sectionFields.find? fun f => f.1 == key && f.2.1 == k).map fun f => (f.2.2, x)
        | _ => none
      | _ => []
  | _ => []

/-- The fields that a layer gives, by name; what it gives last counts. -/
def flatten (layer : Schema.Entries) : Named Value := Named.ofList (layer.flatMap flattenEntry)

/-- The layers in one: later ones win. -/
def merge (layers : List Schema.Entries) : Named Value :=
  Named.ofList (layers.flatMap flatten)

def builtIn : Schema.Entries :=
  let pairs (es : List (String × Value)) : Value := .map (es.map fun (k, v) => (.text k, v))
  [("app_name", Value.text "indexarr"), ("environment", .text "dev"),
    ("definitions", pairs [("dirs", .list [.text "./definitions"])]),
    ("http", pairs [
      ("timeout_seconds", .float (.ofInt 10)), ("follow_redirects", .bool true),
      ("user_agent", .text ("Mozilla/5.0 (X11; Linux x86_64) AppleWebKit/537.36 "
        ++ "(KHTML, like Gecko) Chrome/124.0 Safari/537.36"))]),
    ("logging", pairs [("level", .text "INFO"), ("format", .null)]),
    ("sites", pairs [("file", .text "./sites.yml")]),
    ("tester", pairs [("search_limit", .int 3)])].map fun (k, v) => (.text k, v)

/-- How a variable of the surroundings is read for each field. -/
def variableReaders : List (String × (Value → Outcome Value)) := [
  ("app_name", fun v => (Schema.text v).map .text),
  ("environment", fun v => (Schema.choice (Stage.table.map (·.1)) v).map .text),
  ("definition_dirs", fun v => (Schema.text v).map .text),
  ("http_timeout_seconds", fun v => (Schema.float v).map .float),
  ("http_follow_redirects", fun v => (Schema.bool v).map .bool),
  ("http_user_agent", fun v => (Schema.text v).map .text),
  ("log_level", fun v => (Schema.choice (LogLevel.table.map (·.1)) v).map .text),
  ("log_format", fun v => (Schema.choice (LogFormat.table.map (·.1)) v).map .text),
  ("sites_file", fun v => (Schema.text v).map .text),
  ("tester_search_limit", fun v => (Schema.int v).map .int)]

/-- The variable of a field, in whatever case its name is written; the last one counts. -/
def settingOf? (surroundings : Named String) (field : String) : Option String :=
  let key := "indexarr_" ++ field
  (surroundings.reverse.find? fun v => v.1.map Char.toLower == key).map (·.2)

def ofVariables (surroundings : Named String) : Outcome Schema.Entries :=
  (Schema.Outcome.all (fun (field, read) =>
    match settingOf? surroundings field with
    | none => .good none
    | some s =>
      ((read (.text s)).map fun v => some (Value.text field, v)).under (.key field))
    variableReaders).map fun es => es.filterMap id

inductive LoadError where
  | missingFile (path : String)
  | file (path : String) (fault : FileFault)
  | document (e : Yaml.YamlError)
  | notAMapping (v : Value)
  | stopped (cause : Stop)
  | invalid (violations : List Schema.Violation)
  deriving Repr

def LoadError.message : LoadError → String
  | missingFile path => path
  | file path fault => fault.message path
  | document e => e.message
  | notAMapping v => "Config YAML must be a mapping, got: " ++ v.className
  | stopped .noHome => "Could not determine home directory."
  | stopped .notAPath => ""
  | invalid _ => ""

def ofOutcome {α : Type} : Outcome α → Except LoadError α
  | .good x => .ok x
  | .bad vs => .error (.invalid vs)
  | .stopped c => .error (.stopped c)

def ofDocument (text : Chars) : Except LoadError Schema.Entries :=
  match Yaml.load text with
  | .error e => .error (.document e)
  | .ok .null => .ok []
  | .ok (.map es) => .ok es
  | .ok v => .error (.notAMapping v)

/-- What a configuration is put together from. `document` and `variableFile` are paths. -/
structure Sources where
  document : Option String := none
  variableFile : Option String := none
  surroundings : Named String := []
  overrides : Schema.Entries := []
  homes : Homes := []

/-- The text of a file that has to be there. -/
def readRequired (files : Files) (path : String) : Except LoadError Chars :=
  match files.readText path with
  | .ok t => .ok t
  | .error .missing | .error .belowFile =>
    .error (.missingFile (String.ofList (PathText.clean path.toList)))
  | .error fault => .error (.file path fault)

/-- The text of a file of variables. A directory in its place has none. -/
def readVariables (files : Files) (path : String) : Except LoadError Chars :=
  match readRequired files path with
  | .error (.file _ .directory) => .ok []
  | r => r

/-- The layers above the built-in values, the lowest first: the document, the variables, and what the
command line says. -/
def Sources.layers (files : Files) (s : Sources) : Except LoadError (List Schema.Entries) := do
  let surroundings ←
    match s.variableFile with
    | none => pure s.surroundings
    | some path => (readVariables files path).map (Dotenv.extend s.surroundings)
  let document ←
    match s.document with
    | none => pure []
    | some path => (readRequired files path).bind ofDocument
  let fromVariables ← ofOutcome (ofVariables surroundings)
  pure [document, fromVariables, s.overrides]

def load (files : Files) (s : Sources) : Except LoadError Config := do
  let layers ← s.layers files
  let merged := merge (builtIn :: layers)
  ofOutcome (ofEntries s.homes (merged.map fun (k, v) => (.text k, v)))

end TrackerHub.Config
