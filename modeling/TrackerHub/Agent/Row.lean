import TrackerHub.Agent.Basic

/-! # Rows of results

A row of a page of results gives one release. The fields of the definition are cut out of the row
first and then read one after another; a field that cannot be read keeps its default, and the
others are not affected.
-/
namespace TrackerHub

open Text (Chars)
open Page (Place)

/-- A release in the making, with the tracker's own category. -/
structure Row where
  release : Release
  localCategory : String := ""
  deriving Repr, DecidableEq, Inhabited

inductive FieldError where
  | unreadable
  | fatal (e : AgentError)
  deriving Repr, Inhabited

namespace Row

def isUrlField (k : FieldKind) : Bool :=
  match k with
  | .download | .details | .comments => true
  | _ => false

def readSizeField (value : String) : Except FieldError Int :=
  match readSize value.toList with
  | .ok n => .ok n
  | .error .unbounded => .error (.fatal (.size .unbounded))
  | .error _ => .error .unreadable

def readCountField (value : String) : Except FieldError Int :=
  (readCount value.toList).mapError fun _ => .unreadable

def readFactorField (value : String) : Except FieldError Binary64 :=
  (readFactor value.toList).mapError fun _ => .unreadable

def readDateField (value : String) (now : Time.DateTime) : Except FieldError Time.DateTime :=
  (Time.readFuzzy value.toList now).mapError fun e =>
    if e.isUnreadable then .unreadable else .fatal (.time e)

/-- Takes the text of a field over into the row. Seeders and leechers add up to the peers; details
serve as comments as long as there are none. -/
def assign (row : Row) (kind : FieldKind) (value : String) (now : Time.DateTime) :
    Except FieldError Row := do
  let r := row.release
  let put (r : Release) : Except FieldError Row := .ok { row with release := r }
  match kind with
  | .title => put { r with title := value }
  | .description => put { r with description := value }
  | .download => put { r with link := value }
  | .details =>
    put { r with guid := value, comments := if r.comments.isEmpty then value else r.comments }
  | .comments => put { r with comments := value }
  | .category => return { row with localCategory := value }
  | .size => put { r with size := ← readSizeField value }
  | .seeders =>
    let n ← readCountField value
    put { r with seeders := n, peers := r.peers + n }
  | .leechers => put { r with peers := r.peers + (← readCountField value) }
  | .date => put { r with publishDate := some (← readDateField value now) }
  | .files => put { r with files := some (← readCountField value) }
  | .grabs => put { r with grabs := some (← readCountField value) }
  | .downloadVolumeFactor => put { r with downloadVolumeFactor := ← readFactorField value }
  | .uploadVolumeFactor => put { r with uploadVolumeFactor := ← readFactorField value }
  | .minimumRatio => put { r with minimumRatio := ← readFactorField value }
  | .minimumSeedTime => put { r with minimumSeedTime := ← readFactorField value }

/-- The row after a field whose text has been cut out. Addresses are resolved against `base`; an
empty one leaves the row as it is. -/
def takeField (base : Chars) (now : Time.DateTime) (row : Row) (field : FieldKind × String) :
    Except AgentError Row :=
  let (kind, value) := field
  let assigned : Except FieldError Row :=
    if isUrlField kind then
      if value.isEmpty then .ok row
      else if Agent.isMagnet value then row.assign kind value now
      else
        match Web.Url.join base value.toList with
        | .ok url => row.assign kind (String.ofList url) now
        | .error _ => .error .unreadable
    else row.assign kind value now
  match assigned with
  | .ok r => .ok r
  | .error .unreadable => .ok row
  | .error (.fatal e) => .error e

/-- The row with its link for an identifier if it has none of its own. -/
def identified (row : Row) : Row :=
  if row.release.guid.isEmpty && !row.release.link.isEmpty then
    { row with release := { row.release with guid := row.release.link } }
  else row

/-- The row with the date of the nearest header before it. -/
def dated (headers : Block) (el : Place) (now : Time.DateTime) (row : Row) :
    Except AgentError Row := do
  match ← (el.previousMatch? headers.selector).mapError .extract with
  | none => return row
  | some header =>
    let value ← (headers.valueOf header now).mapError .extract
    match readDateField value now with
    | .ok t => return { row with release := { row.release with publishDate := some t } }
    | .error .unreadable => return row
    | .error (.fatal e) => throw e

/-- The row that an element of a page at `base` gives. -/
def ofPlace (d : Definition) (base : Chars) (now : Time.DateTime) (el : Place) :
    Except AgentError Row := do
  let texts ← d.search.fields.mapM fun f =>
    ((f.block.find el now).mapError .extract).map fun text => (f.kind, text)
  let row ← texts.foldlM (takeField base now) { release := { site := d.site, title := "" } }
  let row := row.identified
  let headers := d.search.rows.dateHeaders
  if d.search.hasField .date || headers.isEmpty then return row
  row.dated headers el now

/-- The row with the category that its local one stands for. A local category that is not mapped
counts as a custom one if it is a number. -/
def categorized (m : CategoryMap) (row : Row) : Row :=
  if row.localCategory.isEmpty then row
  else
    let id? : Option Int :=
      match m.get? row.localCategory with
      | some c => some c.id
      | none =>
        (Numeral.readInt row.localCategory.toList).toOption.map (· + Category.customOffset)
    match id? with
    | some id => { row with release := { row.release with category := id } }
    | none => row

/-- Whether a row can be told from others: it has a link or an identifier. -/
def hasIdentity (row : Row) : Bool := !row.release.link.isEmpty || !row.release.guid.isEmpty

end Row

end TrackerHub
