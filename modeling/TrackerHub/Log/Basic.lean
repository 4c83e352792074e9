import TrackerHub.Config.Basic
import TrackerHub.Log.Message
import TrackerHub.Time.Calendar

/-! # The log

Records with fields and plain messages go the same way: a record that is grave enough for its logger
becomes a row of named values. The loggers of libraries that send requests take warnings and graver
records only, however much else is logged.
-/
namespace TrackerHub.Log
open TrackerHub.Text

inductive Severity where
  | debug
  | info
  | warning
  | error
  | critical
  deriving Repr, DecidableEq, Inhabited

namespace Severity

def table : Named Severity := [
  ("debug", .debug), ("info", .info), ("warning", .warning), ("error", .error),
  ("critical", .critical), ("warn", .warning), ("exception", .error), ("fatal", .critical)]

def rank : Severity → Nat
  | debug => 10
  | info => 20
  | warning => 30
  | error => 40
  | critical => 50

def name (s : Severity) : String := table.nameOf s

end Severity

/-- The least severity that a level lets through. -/
def severityOf : LogLevel → Severity
  | .debug => .debug
  | .info => .info
  | .warning => .warning
  | .error => .error

def libraries : List String := ["httpx", "httpcore"]

/-- Whether a logger is another one or stands below it. -/
def isWithin (outer logger : String) : Bool :=
  logger == outer || startsWith (outer ++ ".").toList logger.toList

/-- The least rank that libraries log at. -/
def libraryRank (level : LogLevel) : Nat := max (severityOf level).rank Severity.warning.rank

/-- The least rank that a logger logs at. -/
def leastRank (level : LogLevel) (logger : String) : Nat :=
  if libraries.any fun l => isWithin l logger then libraryRank level else (severityOf level).rank

/-- What a record says: an event with fields, or a message with values. -/
inductive Content where
  | event (name : String) (fields : Named Value)
  | message (text : String) (values : List Value)
  deriving Repr, Inhabited

structure Entry where
  logger : String
  severity : Severity
  content : Content
  deriving Repr, Inhabited

/-- A record: a row of named values. -/
abbrev Record := Named Value

def loggerName (logger : String) : String := if logger.isEmpty then "root" else logger

/-- The fields that say how an error or the stack is shown, and are not shown themselves. -/
def hiddenFields : List String := ["exc_info", "stack_info"]

/-- The record of an entry at a moment, if it is logged and has a text. -/
def record? (level : LogLevel) (moment : Time.DateTime) (e : Entry) : Option Record :=
  let logger := loggerName e.logger
  if e.severity.rank < leastRank level logger then none
  else
    let shown : Option (Named Value) :=
      match e.content with
      | .event name fields =>
        some ((fields.filter fun f => !hiddenFields.contains f.1) ++ [("event", .text name)])
      | .message text values => (message? text values).map fun t => [("event", .text t)]
    shown.map fun fields => Named.ofList (fields ++ [
      ("logger", .text logger), ("level", .text e.severity.name),
      ("timestamp", .text (String.ofList ({ moment with offset := none }.isoText ++ ['Z'])))])

/-- The entry that the log itself makes when it is set up. -/
def setupEntry (c : Config) : Entry := {
  logger := "indexarr.infrastructure.logging.setup", severity := .debug
  content := .event "logging_configured" [
    ("log_format", .text (LogFormat.table.nameOf c.logFormat)),
    ("log_level", .text (LogLevel.table.nameOf c.logLevel))] }

/-- The records that are written for some entries. Other formats than that of records are for people
and show none. -/
def records (c : Config) (moment : Time.DateTime) (entries : List Entry) : List Record :=
  match c.logFormat with
  | .json => entries.filterMap (record? c.logLevel moment)
  | .console => []

end TrackerHub.Log
