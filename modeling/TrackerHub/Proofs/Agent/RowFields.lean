import Mathlib.Data.List.Induction
import TrackerHub.Agent.Row

/-! # Fields of a row

What each field of a row is in terms of the texts that are cut out of the row. A field depends on the
texts of its own kind alone: a text that cannot be read counts as none. Only a size or a date can lie
out of range, and a row with such a text is given up.
-/
namespace TrackerHub
open Text (Chars)
open Page (Place)

/-- The texts cut out of a row: those of its fields, and that of the date header before it. -/
structure RowTexts where
  fields : List (FieldKind × String)
  header : Option String := none
  deriving Repr, DecidableEq, Inhabited

namespace RowTexts
variable {β : Type}

/-- What the last readable text of a kind says. -/
def last? (kind : FieldKind) (read : String → Option β) (fields : List (FieldKind × String)) :
    Option β :=
  (fields.filterMap fun f => if f.1 = kind then read f.2 else none).getLast?

def readCount? (value : String) : Option Int := (TrackerHub.readCount value.toList).toOption

def readSize? (value : String) : Option Int := (TrackerHub.readSize value.toList).toOption

def readFactor? (value : String) : Option Binary64 := (TrackerHub.readFactor value.toList).toOption

def readDate? (now : Time.DateTime) (value : String) : Option Time.DateTime :=
  (Time.readFuzzy value.toList now).toOption

/-- The full address that a text of a row on a page at `base` stands for. -/
def readAddress? (base : Chars) (value : String) : Option String :=
  if value.isEmpty then none
  else if Agent.isMagnet value then some value
  else (Web.Url.join base value.toList).toOption.map String.ofList

def peers (fields : List (FieldKind × String)) : Int :=
  fields.foldl (fun count f =>
    if f.1 = .seeders ∨ f.1 = .leechers then count + (readCount? f.2).getD 0 else count) 0

/-- The address of the comments; that of the details stands in for it until one is given. -/
def comments (base : Chars) (fields : List (FieldKind × String)) : String :=
  fields.foldl (fun address f =>
    if f.1 = .comments ∨ f.1 = .details ∧ address.isEmpty then (readAddress? base f.2).getD address
    else address) ""

/-- The row whose fields say what the texts of their kinds say. -/
def fieldsRow (site : String) (base : Chars) (now : Time.DateTime)
    (fields : List (FieldKind × String)) : Row where
  release := {
    site
    title := (last? .title some fields).getD ""
    link := (last? .download (readAddress? base) fields).getD ""
    guid := (last? .details (readAddress? base) fields).getD ""
    description := (last? .description some fields).getD ""
    comments := comments base fields
    size := (last? .size readSize? fields).getD 0
    seeders := (last? .seeders readCount? fields).getD 0
    peers := peers fields
    publishDate := last? .date (readDate? now) fields
    minimumRatio := (last? .minimumRatio readFactor? fields).getD (.zero false)
    minimumSeedTime := (last? .minimumSeedTime readFactor? fields).getD (.zero false)
    files := last? .files readCount? fields
    grabs := last? .grabs readCount? fields
    downloadVolumeFactor := (last? .downloadVolumeFactor readFactor? fields).getD (.ofInt 1)
    uploadVolumeFactor := (last? .uploadVolumeFactor readFactor? fields).getD (.ofInt 1) }
  localCategory := (last? .category some fields).getD ""

def redated (row : Row) (date : Option Time.DateTime) : Row :=
  { row with release := { row.release with publishDate := date.or row.release.publishDate } }

def row (site : String) (base : Chars) (now : Time.DateTime) (t : RowTexts) : Row :=
  redated (fieldsRow site base now t.fields).identified (t.header.bind (readDate? now))

@[simp] theorem row_title (site : String) (base : Chars) (now : Time.DateTime) (t : RowTexts) :
    (t.row site base now).release.title = (last? .title some t.fields).getD "" := by
  unfold row redated Row.identified
  split <;> rfl

@[simp] theorem row_category (site : String) (base : Chars) (now : Time.DateTime) (t : RowTexts) :
    (t.row site base now).release.category = 0 := by
  unfold row redated Row.identified
  split <;> rfl

/-- The fault of a size or a date that lies out of range. -/
def outOfRange? (now : Time.DateTime) (field : FieldKind × String) : Option AgentError :=
  match field.1 with
  | .size => if readSize field.2.toList = .error .unbounded then some (.size .unbounded) else none
  | .date =>
    match Time.readFuzzy field.2.toList now with
    | .error e => if e.isUnreadable then none else some (.time e)
    | .ok _ => none
  | _ => none

/-- The first fault among the texts of a row. -/
def fault? (now : Time.DateTime) (t : RowTexts) : Option AgentError :=
  (t.fields.findSome? (outOfRange? now)).or
    (t.header.bind fun value => outOfRange? now (.date,value))

section
variable (site : String) (base : Chars) (now : Time.DateTime)
variable (fields : List (FieldKind × String)) (f : FieldKind × String)

@[simp] theorem last?_concat (kind : FieldKind) (read : String → Option β) :
    last? kind read (fields ++ [f]) =
      if f.1 = kind then (read f.2).or (last? kind read fields) else last? kind read fields := by
  unfold last?
  by_cases hk : f.1 = kind
  · cases hr : read f.2 <;> simp [List.filterMap_append,hk,hr]
  · simp [List.filterMap_append,hk]

@[simp] theorem peers_concat : peers (fields ++ [f]) =
    if f.1 = .seeders ∨ f.1 = .leechers then peers fields + (readCount? f.2).getD 0
    else peers fields := by
  simp [peers,List.foldl_append]

@[simp] theorem comments_concat : comments base (fields ++ [f]) =
    if f.1 = .comments ∨ f.1 = .details ∧ (comments base fields).isEmpty then
      (readAddress? base f.2).getD (comments base fields)
    else comments base fields := by
  simp [comments,List.foldl_append]

theorem readCountField_eq (value : String) :
    Row.readCountField value = (readCount? value).elim (.error .unreadable) .ok := by
  unfold Row.readCountField readCount?
  cases TrackerHub.readCount value.toList <;> rfl

theorem readFactorField_eq (value : String) :
    Row.readFactorField value = (readFactor? value).elim (.error .unreadable) .ok := by
  unfold Row.readFactorField readFactor?
  cases TrackerHub.readFactor value.toList <;> rfl

theorem readSizeField_eq (value : String) : Row.readSizeField value =
    match outOfRange? now (.size,value) with
    | some e => .error (.fatal e)
    | none => (readSize? value).elim (.error .unreadable) .ok := by
  unfold Row.readSizeField outOfRange? readSize?
  cases TrackerHub.readSize value.toList with
  | ok n => rfl
  | error e => cases e <;> rfl

theorem readDateField_eq (value : String) : Row.readDateField value now =
    match outOfRange? now (.date,value) with
    | some e => .error (.fatal e)
    | none => (readDate? now value).elim (.error .unreadable) .ok := by
  unfold Row.readDateField outOfRange? readDate?
  cases Time.readFuzzy value.toList now with
  | ok t => rfl
  | error e =>
    cases he : e.isUnreadable
    · change Except.error (if e.isUnreadable = true then _ else _) = _
      simp [he]
    · change Except.error (if e.isUnreadable = true then _ else _) = _
      simp [he,Except.toOption]

theorem takeField_address {kind : FieldKind} (hk : Row.isUrlField kind = true) (row : Row)
    (value : String) : Row.takeField base now row (kind,value) =
      match (readAddress? base value).map fun url => row.assign kind url now with
      | some (.ok r) => .ok r
      | some (.error (.fatal e)) => .error e
      | _ => .ok row := by
  unfold Row.takeField readAddress?
  simp only [hk,if_true]
  by_cases he : value.isEmpty
  · simp [he]
  by_cases hm : Agent.isMagnet value
  · simp only [he,hm,if_true,if_false,Bool.false_eq_true,Option.map_some]
    rcases row.assign kind value now with ⟨_ | e⟩ | r <;> rfl
  simp only [he,hm,if_false,Bool.false_eq_true]
  cases Web.Url.join base value.toList with
  | error e => rfl
  | ok url =>
    simp only [Except.toOption,Option.map_some]
    rcases row.assign kind (String.ofList url) now with ⟨_ | e⟩ | r <;> rfl

/-- The next text sets its own field of the row and leaves the others alone, unless it lies out of
range. -/
theorem takeField_fieldsRow : Row.takeField base now (fieldsRow site base now fields) f =
    match outOfRange? now f with
    | some e => .error e
    | none => .ok (fieldsRow site base now (fields ++ [f])) := by
  obtain ⟨kind,value⟩ := f
  cases kind with
  | title | description | category =>
    simp [Row.takeField,Row.isUrlField,Row.assign,outOfRange?,fieldsRow,pure,Except.pure]
  | download | details | comments =>
    rw [takeField_address base now rfl]
    cases h : readAddress? base value <;> simp [Row.assign,outOfRange?,fieldsRow,h]
  | seeders | leechers | files | grabs =>
    cases h : readCount? value <;> simp [Row.takeField,Row.isUrlField,Row.assign,readCountField_eq,
      outOfRange?,fieldsRow,h,bind,Except.bind]
  | downloadVolumeFactor | uploadVolumeFactor | minimumRatio | minimumSeedTime =>
    cases h : readFactor? value <;> simp [Row.takeField,Row.isUrlField,Row.assign,readFactorField_eq,
      outOfRange?,fieldsRow,h,bind,Except.bind]
  | size =>
    cases ho : outOfRange? now (.size,value) with
    | some e =>
      simp [Row.takeField,Row.isUrlField,Row.assign,readSizeField_eq now,ho,bind,Except.bind]
    | none =>
      cases h : readSize? value <;> simp [Row.takeField,Row.isUrlField,Row.assign,readSizeField_eq now,
        fieldsRow,ho,h,bind,Except.bind]
  | date =>
    cases ho : outOfRange? now (.date,value) with
    | some e => simp [Row.takeField,Row.isUrlField,Row.assign,readDateField_eq,ho,bind,Except.bind]
    | none =>
      cases h : readDate? now value <;> simp [Row.takeField,Row.isUrlField,Row.assign,
        readDateField_eq,fieldsRow,ho,h,bind,Except.bind]

/-- The fields of a row come out as their texts say, up to the first one out of range. -/
theorem foldlM_takeField :
    fields.foldlM (Row.takeField base now) ({ release := { site, title := "" } } : Row) =
      match fields.findSome? (outOfRange? now) with
      | some e => .error e
      | none => .ok (fieldsRow site base now fields) := by
  -- A text overrides those before it, so the last one is taken off.
  induction fields using List.reverseRecOn with
  | nil => rfl
  | append_singleton fields f ih =>
    rw [List.foldlM_append,ih,List.findSome?_append]
    cases List.findSome? (outOfRange? now) fields with
    | some e => rfl
    | none =>
      change List.foldlM (Row.takeField base now) (fieldsRow site base now fields) [f] = _
      rw [List.foldlM_cons,takeField_fieldsRow]
      cases h : outOfRange? now f <;> simp [h,bind,Except.bind,pure,Except.pure]

end

/-- The text of the nearest date header before an element. -/
def headerText (headers : Block) (el : Place) (now : Time.DateTime) :
    Except AgentError (Option String) := do
  match ← (el.previousMatch? headers.selector).mapError .extract with
  | none => return none
  | some header =>
    let value ← (headers.valueOf header now).mapError .extract
    return some value

/-- The texts that a definition cuts out of an element. -/
def cut (d : Definition) (now : Time.DateTime) (el : Place) : Except AgentError RowTexts := do
  let fields ← d.search.fields.mapM fun f =>
    ((f.block.find el now).mapError AgentError.extract).map fun text => (f.kind,text)
  let headers := d.search.rows.dateHeaders
  if d.search.hasField .date || headers.isEmpty then return { fields }
  return { fields, header := ← headerText headers el now }

theorem dated_eq (headers : Block) (el : Place) (now : Time.DateTime) (row : Row) :
    row.dated headers el now = (headerText headers el now).bind fun header =>
      match header.bind fun value => outOfRange? now (.date,value) with
      | some e => .error e
      | none => .ok (redated row (header.bind (readDate? now))) := by
  unfold headerText Row.dated
  cases (el.previousMatch? headers.selector).mapError AgentError.extract with
  | error e => rfl
  | ok found =>
    cases found with
    | none => rfl
    | some place =>
      cases hv : (headers.valueOf place now).mapError AgentError.extract with
      | error e => simp only [bind,Except.bind,hv]
      | ok value =>
        simp only [bind,Except.bind,hv,readDateField_eq]
        cases ho : outOfRange? now (.date,value) with
        | some e =>
          simp only [pure,Except.pure,Option.bind_some,ho]
          rfl
        | none =>
          simp only [pure,Except.pure,Option.bind_some,ho]
          cases readDate? now value <;> rfl

/-- An element whose texts can be cut out gives the row of its texts, unless one is out of range. -/
theorem ofPlace_of_cut {d : Definition} {now : Time.DateTime} {el : Place} {t : RowTexts}
    (base : Chars) (h : cut d now el = .ok t) : Row.ofPlace d base now el =
      match t.fault? now with
      | some e => .error e
      | none => .ok (t.row d.site base now) := by
  unfold cut at h
  unfold Row.ofPlace
  cases hf : (d.search.fields.mapM fun f =>
    ((f.block.find el now).mapError AgentError.extract).map fun text => (f.kind,text)) with
  | error e => rw [hf] at h; cases h
  | ok fields =>
    simp only [hf,bind,Except.bind] at h ⊢
    rw [foldlM_takeField]
    by_cases hd : (d.search.hasField .date || d.search.rows.dateHeaders.isEmpty) = true
    · rw [if_pos hd] at h
      cases h
      unfold fault?
      cases List.findSome? (outOfRange? now) fields with
      | some e => rfl
      | none => simp [hd,row,redated,pure,Except.pure]
    · rw [if_neg hd] at h
      cases hh : headerText d.search.rows.dateHeaders el now with
      | error e => rw [hh] at h; cases h
      | ok header =>
        rw [hh] at h
        cases h
        unfold fault?
        cases List.findSome? (outOfRange? now) fields with
        | some e => rfl
        | none =>
          simp only [hd,dated_eq,hh]
          rfl

/-- An element gives a row only if its texts can be cut out. -/
theorem cut_of_ofPlace {d : Definition} {base : Chars} {now : Time.DateTime} {el : Place} {row : Row}
    (h : Row.ofPlace d base now el = .ok row) :
    ∃ t, cut d now el = .ok t ∧ row = t.row d.site base now := by
  have hcut : ∃ t, cut d now el = .ok t := by
    unfold Row.ofPlace at h
    unfold cut
    cases hf : (d.search.fields.mapM fun f =>
      ((f.block.find el now).mapError AgentError.extract).map fun text => (f.kind,text)) with
    | error e => rw [hf] at h; cases h
    | ok fields =>
      simp only [hf,bind,Except.bind] at h ⊢
      by_cases hd : (d.search.hasField .date || d.search.rows.dateHeaders.isEmpty) = true
      · exact ⟨_,if_pos hd⟩
      · rw [if_neg hd]
        cases hh : headerText d.search.rows.dateHeaders el now with
        | ok header => exact ⟨_,rfl⟩
        | error e =>
          simp only [if_neg hd,dated_eq,hh,Except.bind] at h
          split at h <;> cases h
  obtain ⟨t,ht⟩ := hcut
  rw [ofPlace_of_cut base ht] at h
  split at h
  · cases h
  · exact ⟨t,ht,(Except.ok.inj h).symm⟩

/-- Whether a text can be read as what its field holds. -/
def isReadable (base : Chars) (now : Time.DateTime) (field : FieldKind × String) : Bool :=
  match field.1 with
  | .title | .description | .category => true
  | .download | .details | .comments => (readAddress? base field.2).isSome
  | .size => (readSize? field.2).isSome
  | .date => (readDate? now field.2).isSome
  | .seeders | .leechers | .files | .grabs => (readCount? field.2).isSome
  | .downloadVolumeFactor | .uploadVolumeFactor | .minimumRatio | .minimumSeedTime =>
    (readFactor? field.2).isSome

theorem last?_skip {kind : FieldKind} {read : String → Option β} {f : FieldKind × String}
    (h : f.1 = kind → read f.2 = none) (before after : List (FieldKind × String)) :
    last? kind read (before ++ f :: after) = last? kind read (before ++ after) := by
  unfold last?
  by_cases hk : f.1 = kind
  · simp [List.filterMap_append,hk,h hk]
  · simp [List.filterMap_append,hk]

/-- A text that cannot be read leaves a row as it would be without the text. -/
theorem fieldsRow_skip {base : Chars} {now : Time.DateTime} {f : FieldKind × String}
    (h : isReadable base now f = false) (site : String) (before after : List (FieldKind × String)) :
    fieldsRow site base now (before ++ f :: after) = fieldsRow site base now (before ++ after) := by
  obtain ⟨kind,value⟩ := f
  cases kind <;> simp [isReadable] at h <;>
    simp [fieldsRow,last?_skip,peers,comments,h]

end RowTexts

end TrackerHub
