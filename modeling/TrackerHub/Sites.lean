import TrackerHub.Files
import TrackerHub.Named
import TrackerHub.Yaml.Load
import TrackerHub.Yaml.Write

/-! # Settings of sites

Each site has a section of named texts: credentials, an address, whether it is enabled. The
sections live in a document, which is read as a whole and written anew after each change.
-/
namespace TrackerHub
open TrackerHub.Text

inductive SitesError where
  | document (error : Yaml.YamlError)
  | notAMapping (value : Value)
  | sectionNotAMapping (name : Value)
  | file (path : String) (fault : FileFault)
  deriving Repr

def SitesError.message : SitesError → String
  | .document e => e.message
  | .notAMapping v => "Site config YAML must be a mapping, got: " ++ v.className
  | .sectionNotAMapping n =>
    "Site config section " ++ String.ofList n.shown ++ " must be a mapping"
  | .file path fault => fault.message path

/-- The settings of sites: sections of names with texts. -/
structure Sites where
  sections : Named (Named String) := []
  deriving Repr, DecidableEq, Inhabited

namespace Sites

def textOf : Value → String
  | .null => ""
  | .bool b => if b then "true" else "false"
  | v => v.plainText

def textsOf (entries : List (Value × Value)) : Named String :=
  Named.ofList (entries.map fun (k, v) => (k.plainText, textOf v))

def ofSections (sections : List (String × List (Value × Value))) : Sites :=
  ⟨Named.ofList (sections.map fun (name, entries) => (name, textsOf entries))⟩

def ofValue : Value → Except SitesError Sites
  | .null => .ok {}
  | .map entries => do
    let sections ← entries.mapM fun (k, v) =>
      match v with
      | .map es => .ok (k.plainText, es)
      | _ => .error (.sectionNotAMapping k)
    pure (ofSections sections)
  | v => .error (.notAMapping v)

def read (text : Chars) : Except SitesError Sites :=
  match Yaml.load text with
  | .ok v => ofValue v
  | .error e => .error (.document e)

/-- Reads settings from a file. A file that is not there holds none. -/
def ofFile (files : Files) (path : String) : Except SitesError Sites :=
  match files.readText path with
  | .ok text => read text
  | .error .missing | .error .belowFile => .ok {}
  | .error fault => .error (.file path fault)

def write (s : Sites) : Chars :=
  Yaml.Write.document (s.sections.map fun (name, texts) =>
    (name.toList, texts.map fun (k, v) => (k.toList, v.toList)))

/-- The settings of a section; a section that is not there has none. -/
def sectionOf (s : Sites) (site : String) : Named String := (s.sections.find? site).getD []

def get? (s : Sites) (site name : String) : Option String := (s.sectionOf site).find? name

/-- One setting, or a given text if it is not there. -/
def getD (s : Sites) (site name text : String) : String := (s.get? site name).getD text

def set (s : Sites) (site name text : String) : Sites :=
  ⟨s.sections.put site ((s.sectionOf site).put name text)⟩

def names (s : Sites) : List String := (s.sections.map (·.1)).mergeSort fun a b => decide (a ≤ b)

def isEnabled (s : Sites) (site : String) : Bool :=
  match s.get? site "enabled" with
  | some v => v == "true" || v == "ok"
  | none => false

end Sites

/-- Settings that live in a file. A file that is not there holds none. -/
structure SitesFile where
  sites : Sites := {}
  content : Option Chars := none
  deriving Repr, DecidableEq, Inhabited

namespace SitesFile

def ofContent (content : Option Chars) : Except SitesError SitesFile :=
  match content with
  | none => .ok {}
  | some text => (Sites.read text).map fun s => ⟨s, some text⟩

def reload (f : SitesFile) : Except SitesError SitesFile := ofContent f.content

/-- Changes or adds one setting and writes the file anew. -/
def set (f : SitesFile) (site name text : String) : SitesFile :=
  let s := f.sites.set site name text
  ⟨s, some s.write⟩

end SitesFile

end TrackerHub
