import TrackerHub.Definition.Read
import TrackerHub.Files
import TrackerHub.Sites

/-! # Catalogs of definitions

Definitions are files in directories, one for each tracker, named by its key. A shelf looks into its
directories in order; a catalog asks its shelves in order. Of several definitions with one key the
first one counts, even if it cannot be read.
-/
namespace TrackerHub
open TrackerHub.Text

/-- Directories of definitions. -/
structure Shelf where
  dirs : List String
  deriving Repr, DecidableEq, Inhabited

/-- Shelves, the most important first. -/
abbrev Catalog := List Shelf

inductive CatalogError where
  | unknown (key : String)
  | file (path : String) (fault : FileFault)
  | definition (e : DefinitionError)
  deriving Repr

def CatalogError.message : CatalogError → String
  | unknown key => "Unknown indexer " ++ quote key
  | file path fault => fault.message path
  | definition e => e.message

def CatalogError.isReported : CatalogError → Bool
  | definition e => e.isReported
  | _ => true

def isDefinitionName (name : Chars) : Bool :=
  let suffix := lower (PathText.suffix name)
  suffix == ".yml".toList || suffix == ".yaml".toList

/-- Keys in order, each once. -/
def sortKeys (keys : List String) : List String :=
  (keys.mergeSort fun a b => decide (a ≤ b)).eraseDups

def Files.definition (f : Files) (path : String) : Except CatalogError Definition :=
  let path := String.ofList (PathText.clean path.toList)
  match f.read path with
  | .ok b => (Definition.parse b path).mapError .definition
  | .error fault => .error (.file path fault)

namespace Shelf

/-- The keys of a shelf with the paths of their definitions. -/
def paths (s : Shelf) (f : Files) : Named String :=
  let found := s.dirs.flatMap fun dir =>
    ((f.filesIn dir).filter isDefinitionName).map fun name =>
      (String.ofList (PathText.stem name),
        String.ofList (PathText.below dir.toList name))
  found.foldl (fun acc e => if acc.any fun a => a.1 == e.1 then acc else acc ++ [e]) []

def keys (s : Shelf) (f : Files) : List String := sortKeys ((s.paths f).map (·.1))

def load (s : Shelf) (f : Files) (key : String) : Except CatalogError Definition :=
  match (s.paths f).find? key with
  | none => .error (.unknown key)
  | some path => f.definition path

end Shelf

namespace Catalog

def keys (c : Catalog) (f : Files) : List String := sortKeys (c.flatMap fun s => s.keys f)

/-- The definition with a key. A shelf that does not know the key passes it on to the next one. -/
def load : Catalog → Files → String → Except CatalogError Definition
  | [], _, key => .error (.unknown key)
  | s :: rest, f, key =>
    match s.load f key with
    | .error (.unknown _) => load rest f key
    | outcome => outcome

/-- The definitions of the sites that are enabled, in the order of their keys. -/
def enabled (c : Catalog) (f : Files) (sites : Sites) : Except CatalogError (List Definition) :=
  ((c.keys f).filter sites.isEnabled).mapM (c.load f)

end Catalog

end TrackerHub
