import TrackerHub.Feed.Markup
import TrackerHub.Number.DecimalText
import TrackerHub.Release

/-! # Feed documents

The answers to clients in markup: the capabilities of a tracker, the results of a search as a
channel of items, and failures.
-/
namespace TrackerHub.Feed
open TrackerHub.Text

def intText (n : Int) : String := String.ofList (decimalInt n)

def modeElement (m : SearchMode) : Element :=
  .mk m.key [("available", if m.available then "yes" else "no"),
    ("supportedParams", ",".intercalate m.params)] "" []

def categoryElement (c : Category) : Element :=
  .mk "category" [("id", intText c.id), ("name", c.name)] "" []

/-- The capabilities document: search modes, then categories by id. -/
def capabilities (c : Capabilities) : Rendered :=
  ⟨document (node "caps" [
    node "searching" (c.modes.map modeElement),
    node "categories" ((Category.sortById c.categories).map categoryElement)]),
   "application/xml"⟩

/-- The capabilities document, if it can be written. -/
def writeCapabilities (c : Capabilities) : Except Fault Rendered :=
  checked (c.categories.map (·.id)) (c.modes.map (·.key)) (capabilities c)

def extra (name value : String) : Element :=
  .mk (nameIn attributeSpace "attr") [("name", name), ("value", value)] "" []

/-- An element for a text that is given, or nothing. -/
def given (name text : String) : List Element := if text.isEmpty then [] else [leaf name text]

def item (r : Release) : Element :=
  let number := fun (name : String) (n : Option Int) =>
    match n with
    | none => []
    | some n => [extra name (intText n)]
  node "item" (
    [leaf "title" r.title] ++ given "description" r.description ++ given "guid" r.guid
    ++ given "comments" r.comments ++ given "link" r.link
    ++ [leaf "category" (intText r.category), leaf "size" (intText r.size)]
    ++ (match r.publishDate with
      | none => []
      | some t => [leaf "pubDate" (String.ofList t.mailText)])
    ++ (if r.link.isEmpty then []
      else [.mk "enclosure" [("url", r.link), ("length", intText r.size),
        ("type", "application/x-bittorrent")] "" []])
    ++ [extra "site" r.site,
      extra "category" (intText r.category),
      extra "seeders" (intText r.seeders),
      extra "peers" (intText r.peers),
      extra "minimumratio" (String.ofList r.minimumRatio.toGeneral),
      extra "minimumseedtime" (String.ofList (r.minimumSeedTime.toFixed 0)),
      extra "size" (intText r.size),
      extra "downloadvolumefactor" (String.ofList r.downloadVolumeFactor.toGeneral),
      extra "uploadvolumefactor" (String.ofList r.uploadVolumeFactor.toGeneral)]
    ++ number "files" r.files ++ number "grabs" r.grabs)

def channel (info : Info) (items : List Release) : Rendered :=
  ⟨document (.mk "rss" [("version", "2.0")] "" [node "channel" (
    [leaf "title" (if info.title.isEmpty then info.id else info.title),
     leaf "description" (if info.description.isEmpty then info.title else info.description),
     leaf "link" info.link, leaf "language" info.language] ++ items.map item)]),
   "application/xml"⟩

/-- The results of a search as a channel, if they can be written. -/
def writeChannel (info : Info) (items : List Release) : Except Fault Rendered :=
  checked (items.flatMap Release.numbers) [] (channel info items)

/-- A failure, its number and description given as attributes and as elements. The numbers of the
protocol are short, so that there is such a document for each of its failures. -/
def failure (e : ApiError) : Rendered :=
  ⟨document (.mk "error" [("code", intText e.code), ("description", e.description)] ""
    [leaf "code" (intText e.code), leaf "description" e.description]), "application/xml"⟩

end TrackerHub.Feed
