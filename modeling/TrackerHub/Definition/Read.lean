import TrackerHub.Definition.Basic
import TrackerHub.Digest
import TrackerHub.Schema
import TrackerHub.Yaml.Load

/-! # Reading definitions

A definition is a document with a fixed schema. Names of categories and fields must be known;
what is left out has its usual value.
-/
namespace TrackerHub
open TrackerHub.Text

inductive DefinitionError where
  | document (error : Yaml.YamlError)
  | empty
  | notAMapping
  | invalid (violations : List Schema.Violation)
  /-- The parameters of a search mode are neither a text nor a list. -/
  | notIterable
  | unknownCategory (name : String)
  | unknownField (name : String)
  deriving Repr

def DefinitionError.message : DefinitionError → String
  | .document e => e.message
  | .empty => "Definition document is empty"
  | .notAMapping => "Definition root must be a mapping"
  | .invalid _ => "Definition is invalid"
  | .notIterable => "Search mode parameters cannot be listed"
  | .unknownCategory n => "Unknown category " ++ quote n
  | .unknownField n => "Unknown field " ++ quote n

/-- Whether an error is one that a reader of definitions reports; any other one is a fault that
nobody foresaw. -/
def DefinitionError.isReported : DefinitionError → Bool
  | .document .malformed => true
  | .document _ | .notIterable => false
  | _ => true

namespace Definition

inductive Stop where
  | notIterable
  deriving Repr, DecidableEq

abbrev Outcome (α : Type) := Schema.Outcome Stop α

open Schema (Entries field required text filledText block list mapping choice)

/-- The text of any value: nothing for null. -/
def textOf : Value → String
  | .null => ""
  | .bool b => if b then "true" else "false"
  | v => v.plainText

/-- Reads a mapping of any keys to any values as texts; null is no entries. -/
def readTexts (v : Value) : Outcome (Named String) :=
  match v with
  | .null => .good []
  | .map entries => .good (Named.ofList (entries.map fun (k, v) => (k.plainText, textOf v)))
  | _ => .fault .notMapping

/-- Reads a list; null is an empty one. -/
def optionalList {α : Type} (item : Value → Outcome α) (v : Value) : Outcome (List α) :=
  match v with
  | .null => .good []
  | v => list item v

/-- Reads a block of named fields; null is one without any. -/
def optionalBlock {α : Type} (fields : Entries → Outcome α) (v : Value) : Outcome α :=
  match v with
  | .null => fields []
  | v => block fields v

/-- Reads a text; what counts as nothing is `usual`. -/
def textOr (usual : String) (v : Value) : Outcome String :=
  if v.isTruthy then text v else .good usual

def readFilterCall : Value → Outcome FilterCall :=
  block fun es => FilterCall.mk <$> required "name" text es <*> field "args" .null .good es

def readValueBlock (es : Entries) : Outcome Block :=
  Block.mk <$> field "selector" "" text es
    <*> field "text" "" (fun v => .good (textOf v)) es
    <*> field "attribute" "" text es
    <*> field "remove" "" text es
    <*> field "filters" [] (optionalList readFilterCall) es
    <*> field "case" [] readTexts es

/-- Reads an error block. A selector without a message of its own is the message's selector. -/
def readErrorBlock : Value → Outcome ErrorBlock :=
  block fun es =>
    let complete := fun (path selector : String) (m : Block) =>
      -- A message that is declared with a text or a selector of its own stays as it is.
      let message :=
        if !selector.isEmpty && m.isEmpty && m.text.isEmpty then
          { m with selector := selector, cases := [] }
        else m
      ErrorBlock.mk path selector message
    complete <$> field "path" "" text es <*> field "selector" "" text es
      <*> field "message" {} (block readValueBlock) es

def readPageTest (es : Entries) : Outcome PageTest :=
  PageTest.mk <$> field "path" "" text es <*> field "selector" "" text es

/-- A word without blanks around it and in lower case. -/
def plainWord (s : String) : String := String.ofList (lower (trim s.toList))

/-- Reads a login method; nothing or a blank text is none. -/
def readLoginMethod (v : Value) : Outcome (Option LoginMethod) :=
  match v with
  | .null => .good none
  | .text s =>
    match plainWord s with
    | "" => .good none
    | "form" => .good (some .form)
    | "post" => .good (some .post)
    | "cookie" => .good (some .cookie)
    | _ => .fault .notChoice
  | _ => .fault .notChoice

/-- Reads one error block, or a list of them. -/
def readErrorBlocks (v : Value) : Outcome (List ErrorBlock) :=
  match v with
  | .map _ => list readErrorBlock (.list [v])
  | v => optionalList readErrorBlock v

def readLogin (es : Entries) : Outcome Login :=
  let complete := fun (path form : String) (method : Option LoginMethod) (inputs : Named String)
      (errors : List ErrorBlock) (test : PageTest) =>
    Login.mk path form (method.getD .form) inputs errors test (!path.isEmpty || method.isSome)
  complete <$> field "path" "" text es
    <*> field "form" "form" (textOr "form") es
    <*> field "method" none readLoginMethod es
    <*> field "inputs" [] readTexts es
    <*> field "error" [] readErrorBlocks es
    <*> field "test" {} (optionalBlock readPageTest) es

def readRatio (es : Entries) : Outcome RatioPage :=
  RatioPage.mk <$> readValueBlock es <*> field "path" "" text es

def readRows (es : Entries) : Outcome Rows :=
  let complete := fun (b : Block) (after : Int) (headers : Block) =>
    Rows.mk { b with remove := "", cases := [] } after.toNat b.remove headers
  complete <$> readValueBlock es <*> field "after" 0 (Schema.intFrom 0) es
    <*> field "dateheaders" {} (block readValueBlock) es

def readSearchMethod (v : Value) : Outcome Bool :=
  match v with
  | .null => .good false
  | .text "" => .good false
  | .text s =>
    match plainWord s with
    | "get" => .good false
    | "post" => .good true
    | _ => .fault .notChoice
  | _ => .fault .notChoice

def readFieldBlocks (v : Value) : Outcome (Named Block) :=
  match v with
  | .null => .good []
  | v => mapping (block readValueBlock) v

/-- A search page whose fields still have the names of the document. -/
structure RawSearch where
  path : String
  post : Bool
  inputs : Named String
  rows : Rows
  fields : Named Block

def readSearch (es : Entries) : Outcome RawSearch :=
  RawSearch.mk <$> field "path" "" text es
    <*> field "method" false readSearchMethod es
    <*> field "inputs" [] readTexts es
    <*> field "rows" {} (block readRows) es
    <*> field "fields" [] readFieldBlocks es

/-- The texts in which parameters of a mode are listed. -/
def modeParams? (v : Value) : Option (List String) :=
  match v with
  | .null => some []
  | .text s =>
    let parts := (splitOn ',' s.toList).map trim
    some ((parts.filter fun p => !p.isEmpty).map String.ofList)
  | .list xs | .tuple xs | .set xs => some (xs.map Value.plainText)
  | .map es => some (es.map fun e => e.1.plainText)
  | .bytes b => some (b.map fun x => String.ofList (decimal x.toNat))
  | _ => none

def readModes (v : Value) : Outcome (Named (List String)) :=
  match v with
  | .null => .good []
  | .map entries =>
    match entries.mapM fun (k, v) => (modeParams? v).map fun ps => (k.plainText, ps) with
    | some ms => .good (Named.ofList ms)
    | none => .stopped .notIterable
  | _ => .fault .notMapping

/-- What a tracker can be asked for, with names of categories. -/
structure RawCapabilities where
  categories : Named String := []
  modes : Named (List String) := []

def readCapabilities (es : Entries) : Outcome RawCapabilities :=
  RawCapabilities.mk <$> field "categories" [] readTexts es <*> field "modes" [] readModes es

def readSetting : Value → Outcome Setting :=
  block fun es =>
    Setting.mk <$> required "name" text es <*> field "type" "text" text es
      <*> field "label" "" text es

/-- Reads links: one, or a list of at least one. -/
def readLinks (v : Value) : Outcome (List String) :=
  match v with
  | .text s => .good [s]
  | v => (list text v).andThen fun ls => if ls.isEmpty then .fault .shortList else .good ls

def readOptionalLogin (v : Value) : Outcome (Option Login) :=
  match v with
  | .null => .good none
  | v => (block readLogin v).map some

/-- A document that fits the schema; names are not looked up yet. -/
structure Raw where
  site : String
  settings : List Setting
  name : String
  description : String
  language : String
  links : List String
  capabilities : RawCapabilities
  login : Option Login
  ratio : RatioPage
  search : RawSearch

def raw (es : Entries) : Outcome Raw :=
  Raw.mk <$> required "site" filledText es
    <*> field "settings" [] (optionalList readSetting) es
    <*> field "name" "" text es
    <*> field "description" "" text es
    <*> field "language" "en-us" (textOr "en-us") es
    <*> required "links" readLinks es
    <*> field "caps" {} (optionalBlock readCapabilities) es
    <*> field "login" none readOptionalLogin es
    <*> field "ratio" {} (optionalBlock readRatio) es
    <*> field "search" ⟨"", false, [], {}, []⟩ (optionalBlock readSearch) es

/-- The search modes of a tracker that declares none: they follow from its categories. -/
def usualModes (m : CategoryMap) : List SearchMode :=
  let c : Capabilities := { categories := m.categories }
  [{ key := "search", params := ["q"] }]
    ++ (if c.hasSeries then [{ key := "tv-search", params := ["q", "season", "ep"] }] else [])
    ++ (if c.hasMovies then [{ key := "movie-search", params := ["q"] }] else [])

/-- The category map of local ids with names of categories. -/
def categoryMap (names : Named String) : Except DefinitionError CategoryMap :=
  let entry := fun ((localId, name) : String × String) =>
    match Category.byName? name with
    | some c => Except.ok (localId, c)
    | none => .error (DefinitionError.unknownCategory name)
  (names.mapM entry).map CategoryMap.mk

def fieldsOf (blocks : Named Block) : Except DefinitionError (List FieldBlock) :=
  blocks.mapM fun (name, b) =>
    match FieldKind.ofName? name with
    | some k => .ok ⟨k, b⟩
    | none => .error (.unknownField name)

def ofRaw (r : Raw) (origin : Origin) : Except DefinitionError Definition := do
  let categories ← categoryMap r.capabilities.categories
  let fields ← fieldsOf r.search.fields
  let modes :=
    if r.capabilities.modes.isEmpty then usualModes categories
    else r.capabilities.modes.map fun (key, params) => { key := key, params := params }
  pure {
    site := r.site
    name := if r.name.isEmpty then r.site else r.name
    description := r.description
    language := r.language
    links := r.links
    settings := if r.settings.isEmpty then usualSettings else r.settings
    categories := categories
    modes := modes
    login := r.login.getD {}
    ratio := r.ratio
    search := {
      path := r.search.path, post := r.search.post, inputs := r.search.inputs,
      rows := r.search.rows, fields := fields }
    origin := origin }

def parse (b : Bytes) (source : String) : Except DefinitionError Definition :=
  match Yaml.loadBytes b with
  | .error e => .error (.document e)
  | .ok .null => .error .empty
  | .ok (.map es) =>
    match raw es with
    | .stopped .notIterable => .error .notIterable
    | .bad vs => .error (.invalid vs)
    | .good r => ofRaw r ⟨b.length, Digest.hexDigest b, source⟩
  | .ok _ => .error .notAMapping

end Definition

end TrackerHub
