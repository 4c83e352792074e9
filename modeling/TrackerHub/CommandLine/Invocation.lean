import TrackerHub.Api
import TrackerHub.CommandLine.Grammar
import TrackerHub.Config.Basic

/-! # Invocations

The command line of the hub: options that override the configuration, and then a command with
arguments and options of its own.
-/
namespace TrackerHub.CommandLine
open TrackerHub.Text

structure QueryCommand where
  site : String := ""
  params : List (String × String) := []
  output : Api.Output := .xml
  deriving Repr, DecidableEq, Inhabited

structure DownloadCommand where
  site : String := ""
  url : String := ""
  file : String := ""
  deriving Repr, DecidableEq, Inhabited

structure TrialCommand where
  file : String := ""
  settings : List (String × String) := []
  download : Bool := false
  deriving Repr, DecidableEq, Inhabited

inductive Command where
  | list
  | capabilities (site : String)
  | query (c : QueryCommand)
  | download (c : DownloadCommand)
  | trial (c : TrialCommand)
  deriving Repr, DecidableEq, Inhabited

def Command.name : Command → String
  | list => "list"
  | capabilities _ => "caps"
  | query _ => "query"
  | download _ => "download"
  | trial _ => "test-definition"

structure Invocation where
  document : Option String := none
  variableFile : Option String := none
  definitionDirs : List String := []
  sitesFile : Option String := none
  logLevel : Option LogLevel := none
  logFormat : Option LogFormat := none
  command : Command := .list
  deriving Repr, DecidableEq, Inhabited

variable {σ : Type}

def textSlot (f : String → σ → σ) : Slot σ := {
  extent := .one
  fill := fun ws value =>
    match ws with
    | [w] => .ok (f w value, false)
    | _ => .error .wrong }

/-- A name and a value with an equals sign between them. The name must not be empty. -/
def readPair (word : String) : Option (String × String) :=
  match cut? ['='] word.toList with
  | some (name, value) =>
    if name.isEmpty then none else some (String.ofList name, String.ofList value)
  | none => none

/-- A slot for any number of pairs. -/
def pairsSlot (f : List (String × String) → σ → σ) : Slot σ := {
  extent := .many
  fill := fun ws value =>
    match ws.mapM readPair with
    | some ps => .ok (f ps value, false)
    | none => .error .wrong }

def textSwitch (name : String) (f : String → σ → σ) : Switch σ :=
  { name, effect := .take fun w value => some (f w value) }

/-- An option with one of the names of a table. -/
def choiceSwitch {α : Type} (name : String) (table : Named α) (f : α → σ → σ) : Switch σ :=
  { name, effect := .take fun w value => (table.find? w).map fun x => f x value }

def pairSwitch (name : String) (f : String × String → σ → σ) : Switch σ :=
  { name, effect := .take fun w value => (readPair w).map fun p => f p value }

def flagSwitch (name : String) (f : σ → σ) : Switch σ := { name, effect := .mark f }

def outputTable : Named Api.Output := [("xml", .xml), ("json", .json)]

def listGrammar : Grammar Unit := { switches := [], slots := [] }

def capabilitiesGrammar : Grammar String := { switches := [], slots := [textSlot fun w _ => w] }

def queryGrammar : Grammar QueryCommand := {
  switches := [choiceSwitch "--format" outputTable fun o c => { c with output := o }]
  slots := [textSlot fun w c => { c with site := w }, pairsSlot fun ps c => { c with params := ps }] }

def downloadGrammar : Grammar DownloadCommand := {
  switches := []
  slots := [textSlot fun w c => { c with site := w }, textSlot fun w c => { c with url := w },
    textSlot fun w c => { c with file := w }] }

def trialGrammar : Grammar TrialCommand := {
  switches := [pairSwitch "--set" fun p c => { c with settings := c.settings ++ [p] },
    flagSwitch "--download" fun c => { c with download := true }]
  slots := [textSlot fun w c => { c with file := w }] }

def readCommand (name : String) (words : List String) : Except Refusal (Command × Bool) :=
  let as {α : Type} (make : α → Command) (r : Except Refusal (α × Bool)) :
      Except Refusal (Command × Bool) := r.map fun (c, leftOver) => (make c, leftOver)
  match name with
  | "list" => as (fun _ => .list) (listGrammar.read () words)
  | "caps" => as .capabilities (capabilitiesGrammar.read "" words)
  | "query" => as .query (queryGrammar.read {} words)
  | "download" => as .download (downloadGrammar.read {} words)
  | "test-definition" => as .trial (trialGrammar.read {} words)
  | _ => .error .wrong

/-- A slot for a command with all that follows it. -/
def commandSlot : Slot Invocation := {
  extent := .rest
  fill := fun ws i =>
    match ws with
    | name :: words =>
      (readCommand name words).map fun (command, leftOver) => ({ i with command }, leftOver)
    | [] => .error .wrong }

def invocationGrammar : Grammar Invocation := {
  switches := [
    textSwitch "--config" fun w i => { i with document := some w },
    textSwitch "--dotenv" fun w i => { i with variableFile := some w },
    textSwitch "--definitions-dir" fun w i => { i with definitionDirs := i.definitionDirs ++ [w] },
    textSwitch "--sites-file" fun w i => { i with sitesFile := some w },
    choiceSwitch "--log-level" LogLevel.table fun l i => { i with logLevel := some l },
    choiceSwitch "--log-format" LogFormat.table fun f i => { i with logFormat := some f }]
  slots := [commandSlot] }

namespace Invocation

/-- Reads a command line. No word may be left over. -/
def read (words : List String) : Except Refusal Invocation := do
  let (i, leftOver) ← invocationGrammar.read {} words
  if leftOver then throw .wrong
  return i

def given : Option String → Option String
  | some "" => none
  | t => t

/-- What the options say about the configuration. -/
def overrides (i : Invocation) : Schema.Entries :=
  let dirs := if i.definitionDirs.isEmpty then []
    else [("definition_dirs", Value.list (i.definitionDirs.map .text))]
  let file := (given i.sitesFile).toList.map fun p => ("sites_file", Value.text p)
  let level := i.logLevel.toList.map fun l =>
    ("log_level", Value.text (LogLevel.table.nameOf l))
  let format := i.logFormat.toList.map fun f =>
    ("log_format", Value.text (LogFormat.table.nameOf f))
  (dirs ++ file ++ level ++ format).map fun (k, v) => (.text k, v)

end Invocation

end TrackerHub.CommandLine
