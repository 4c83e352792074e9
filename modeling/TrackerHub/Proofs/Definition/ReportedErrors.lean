import TrackerHub.Definition.Read
import TrackerHub.Proofs.Yaml.DocumentFaults

/-! # Errors of definitions

Which documents are neither read as a definition nor reported as none: those with a part that stands
for nothing, and those that give parameters of a search mode which cannot be listed.
-/
namespace TrackerHub

namespace Schema
variable {ε α β : Type}

/-- Whether a reading was stopped before all that is wrong was collected. -/
def Outcome.IsStopped (o : Outcome ε α) : Prop := ∃ c, o = .stopped c

section
open Outcome

@[simp] theorem isStopped_stopped {c : ε} : (stopped c : Outcome ε α).IsStopped := ⟨c,rfl⟩

@[simp] theorem not_isStopped_good {x : α} : ¬(good x : Outcome ε α).IsStopped := nofun

@[simp] theorem not_isStopped_bad {vs : List Violation} : ¬(bad vs : Outcome ε α).IsStopped := nofun

@[simp] theorem not_isStopped_fault {f : Fault} : ¬(fault f : Outcome ε α).IsStopped := nofun

@[simp] theorem isStopped_map {f : α → β} {o : Outcome ε α} :
    (o.map f).IsStopped ↔ o.IsStopped := by
  cases o <;> simp [Outcome.map]

@[simp] theorem isStopped_mapped {f : α → β} {o : Outcome ε α} :
    (f <$> o).IsStopped ↔ o.IsStopped :=
  isStopped_map

@[simp] theorem isStopped_seq {f : Outcome ε (α → β)} {o : Outcome ε α} :
    (f <*> o).IsStopped ↔ f.IsStopped ∨ o.IsStopped := by
  change (Outcome.seq f fun _ => o).IsStopped ↔ _
  cases f <;> cases o <;> simp [Outcome.seq,Outcome.map]

@[simp] theorem isStopped_under {step : Step} {o : Outcome ε α} :
    (o.under step).IsStopped ↔ o.IsStopped := by
  cases o <;> simp [Outcome.under]

@[simp] theorem isStopped_andThen {o : Outcome ε α} {f : α → Outcome ε β} :
    (o.andThen f).IsStopped ↔ o.IsStopped ∨ ∃ x, o = .good x ∧ (f x).IsStopped := by
  cases o <;> simp [Outcome.andThen]

@[simp] theorem isStopped_all {f : α → Outcome ε β} {xs : List α} :
    (all f xs).IsStopped ↔ ∃ x ∈ xs, (f x).IsStopped := by
  induction xs with
  | nil => simp [all]
  | cons x xs ih => simp [all,ih]

end

section
variable {entries : Entries} {v : Value}

@[simp] theorem isStopped_field {name : String} {usual : α} {read : Value → Outcome ε α} :
    (field name usual read entries).IsStopped ↔
      ∃ v, Value.find? entries (.text name) = some v ∧ (read v).IsStopped := by
  unfold field
  split
  next v h => simp [h]
  next h => simp [h]

@[simp] theorem isStopped_required {name : String} {read : Value → Outcome ε α} :
    (required name read entries).IsStopped ↔
      ∃ v, Value.find? entries (.text name) = some v ∧ (read v).IsStopped := by
  unfold required
  split
  next v h => simp [h]
  next h => simp [h]

@[simp] theorem isStopped_block {fields : Entries → Outcome ε α} :
    (block fields v).IsStopped ↔ ∃ es, v = .map es ∧ (fields es).IsStopped := by
  unfold block
  split
  · simp
  next h => simpa using fun es hv => absurd hv (h es)

theorem not_isStopped_list {item : Value → Outcome ε α} (h : ∀ v, ¬(item v).IsStopped) :
    ¬(list item v).IsStopped := by
  unfold list
  dsimp only
  split <;> simp [h]

theorem not_isStopped_textOf? {f : Fault} {o : Outcome ε String} (h : textOf? f v = some o) :
    ¬o.IsStopped := by
  unfold textOf? at h
  split at h
  · cases h; simp
  · split at h <;> cases h <;> simp
  · cases h

@[simp] theorem not_isStopped_text : ¬(text v : Outcome ε String).IsStopped := by
  unfold text
  cases h : (textOf? .badUnicode v : Option (Outcome ε String)) with
  | none => simp
  | some o => exact not_isStopped_textOf? h

@[simp] theorem not_isStopped_filledText : ¬(filledText v : Outcome ε String).IsStopped := by
  simp only [filledText,isStopped_andThen,not_isStopped_text,false_or,not_exists,not_and]
  intro x _
  split <;> simp

theorem not_isStopped_ofExcept {o : Except Fault α} : ¬(ofExcept o : Outcome ε α).IsStopped := by
  cases o <;> simp [ofExcept]

@[simp] theorem not_isStopped_int : ¬(int v : Outcome ε Int).IsStopped := by
  unfold int
  split
  · simp
  split
  next o ho => simp [not_isStopped_textOf? ho,not_isStopped_ofExcept]
  split
  · exact not_isStopped_ofExcept
  · simp

@[simp] theorem not_isStopped_intFrom {least : Int} : ¬(intFrom least v : Outcome ε Int).IsStopped := by
  simp only [intFrom,isStopped_andThen,not_isStopped_int,false_or,not_exists,not_and]
  intro x _
  split <;> simp

theorem not_isStopped_mapping {value : Value → Outcome ε α} (h : ∀ v, ¬(value v).IsStopped) :
    ¬(mapping value v).IsStopped := by
  unfold mapping
  split <;> simp [h]

end

end Schema

namespace Definition
open Schema

section
variable {v : Value} {es : Entries}

@[simp] theorem not_isStopped_readTexts : ¬(readTexts v).IsStopped := by
  unfold readTexts
  split <;> simp

theorem not_isStopped_optionalList {α : Type} {item : Value → Outcome α} (h : ∀ v, ¬(item v).IsStopped) :
    ¬(optionalList item v).IsStopped := by
  unfold optionalList
  split
  · simp
  · exact not_isStopped_list h

@[simp] theorem isStopped_optionalBlock {α : Type} {fields : Entries → Outcome α} :
    (optionalBlock fields v).IsStopped ↔
      v = .null ∧ (fields []).IsStopped ∨ ∃ es, v = .map es ∧ (fields es).IsStopped := by
  unfold optionalBlock
  split
  · simp
  next h =>
    have hne : v ≠ .null := h
    simp [hne]

@[simp] theorem not_isStopped_textOr {usual : String} : ¬(textOr usual v).IsStopped := by
  unfold textOr
  split <;> simp

@[simp] theorem not_isStopped_readValueBlock : ¬(readValueBlock es).IsStopped := by
  simp [readValueBlock,readFilterCall,not_isStopped_optionalList]

@[simp] theorem not_isStopped_readErrorBlock : ¬(readErrorBlock v).IsStopped := by
  simp [readErrorBlock]

@[simp] theorem not_isStopped_readPageTest : ¬(readPageTest es).IsStopped := by
  simp [readPageTest]

@[simp] theorem not_isStopped_readLoginMethod : ¬(readLoginMethod v).IsStopped := by
  unfold readLoginMethod
  split
  · simp
  · split <;> simp
  · simp

@[simp] theorem not_isStopped_readErrorBlocks : ¬(readErrorBlocks v).IsStopped := by
  unfold readErrorBlocks
  split
  · exact not_isStopped_list fun _ => not_isStopped_readErrorBlock
  · exact not_isStopped_optionalList fun _ => not_isStopped_readErrorBlock

@[simp] theorem not_isStopped_readLogin : ¬(readLogin es).IsStopped := by
  simp [readLogin]

@[simp] theorem not_isStopped_readRatio : ¬(readRatio es).IsStopped := by
  simp [readRatio]

@[simp] theorem not_isStopped_readRows : ¬(readRows es).IsStopped := by
  simp [readRows]

@[simp] theorem not_isStopped_readSearchMethod : ¬(readSearchMethod v).IsStopped := by
  unfold readSearchMethod
  split
  · simp
  · simp
  · split <;> simp
  · simp

@[simp] theorem not_isStopped_readFieldBlocks : ¬(readFieldBlocks v).IsStopped := by
  unfold readFieldBlocks
  split
  · simp
  · exact not_isStopped_mapping fun _ => by simp

@[simp] theorem not_isStopped_readSearch : ¬(readSearch es).IsStopped := by
  simp [readSearch]

@[simp] theorem not_isStopped_readSetting : ¬(readSetting v).IsStopped := by
  simp [readSetting]

@[simp] theorem not_isStopped_readLinks : ¬(readLinks v).IsStopped := by
  unfold readLinks
  split
  · simp
  · simp only [isStopped_andThen,not_isStopped_list fun _ => not_isStopped_text,false_or,not_exists,
      not_and]
    intro x _
    split <;> simp

@[simp] theorem not_isStopped_readOptionalLogin : ¬(readOptionalLogin v).IsStopped := by
  unfold readOptionalLogin
  split <;> simp

theorem mapM_eq_none {α β : Type} {f : α → Option β} {xs : List α} :
    xs.mapM f = none ↔ ∃ x ∈ xs, f x = none := by
  induction xs with
  | nil => simp
  | cons x xs ih =>
    rw [List.mapM_cons]
    cases hx : f x with
    | none => simp [hx]
    | some y => cases hxs : xs.mapM f <;> simp_all

@[simp] theorem isStopped_readModes : (readModes v).IsStopped ↔
    ∃ modes, v = .map modes ∧ ∃ mode ∈ modes, modeParams? mode.2 = none := by
  unfold readModes
  split
  · simp
  next modes =>
    simp only [Value.map.injEq,exists_eq_left']
    split
    next ms hms =>
      have hall : ¬∃ mode ∈ modes, modeParams? mode.2 = none := by
        rintro ⟨mode,hm,hp⟩
        rw [mapM_eq_none.mpr ⟨mode,hm,by simp [hp]⟩] at hms
        cases hms
      simp [hall]
    next hms =>
      obtain ⟨mode,hm,hp⟩ := mapM_eq_none.mp hms
      simpa using ⟨mode.1,mode.2,hm,by simpa using hp⟩
  next hmap =>
    have hne : ∀ modes, v ≠ .map modes := hmap
    simp [hne]

@[simp] theorem isStopped_readCapabilities : (readCapabilities es).IsStopped ↔
    ∃ modes, Value.find? es (.text "modes") = some (.map modes) ∧
      ∃ mode ∈ modes, modeParams? mode.2 = none := by
  simp only [readCapabilities,isStopped_seq,isStopped_mapped,isStopped_field,not_isStopped_readTexts,
    and_false,exists_false,false_or,isStopped_readModes]
  constructor
  · rintro ⟨_,h,modes,rfl,hmode⟩
    exact ⟨modes,h,hmode⟩
  · rintro ⟨modes,h,hmode⟩
    exact ⟨_,h,modes,rfl,hmode⟩

end

/-- Whether a document gives parameters of a search mode that cannot be listed: a truth value, a number
or a time. -/
def HasUnlistableMode (es : Entries) : Prop :=
  ∃ caps, Value.find? es (.text "caps") = some (.map caps) ∧
    ∃ modes, Value.find? caps (.text "modes") = some (.map modes) ∧
      ∃ mode ∈ modes, modeParams? mode.2 = none

/-- Only parameters of a search mode stop the reading of a document. -/
theorem isStopped_raw {es : Entries} : (raw es).IsStopped ↔ HasUnlistableMode es := by
  have hnone : Value.find? [] (.text "modes") = none := rfl
  simp only [raw,isStopped_seq,isStopped_mapped,isStopped_required,isStopped_field,
    isStopped_optionalBlock,isStopped_readCapabilities,not_isStopped_filledText,not_isStopped_text,
    not_isStopped_textOr,not_isStopped_readLinks,not_isStopped_readOptionalLogin,not_isStopped_readRatio,
    not_isStopped_readSearch,not_isStopped_optionalList fun _ => not_isStopped_readSetting,hnone,
    and_false,exists_false,false_or,or_false,false_and,reduceCtorEq]
  constructor
  · rintro ⟨_,h,caps,rfl,hmodes⟩
    exact ⟨caps,h,hmodes⟩
  · rintro ⟨caps,h,hmodes⟩
    exact ⟨_,h,caps,rfl,hmodes⟩

/-- Names that are not known are reported. -/
theorem reported_ofRaw (r : Raw) (origin : Origin) :
    FailsIn (fun e => e.isReported = true) (ofRaw r origin) := by
  refine .bind (.map (.mapM fun entry _ => ?_) _) fun categories _ => ?_
  · obtain ⟨localId,name⟩ := entry
    dsimp only
    split
    · exact .ok
    · exact .error rfl
  · refine .bind (.mapM fun field _ => ?_) fun fields _ => .ok
    obtain ⟨name,block⟩ := field
    dsimp only
    split
    · exact .ok
    · exact .error rfl

theorem isReported_document {e : Yaml.YamlError} :
    (DefinitionError.document e).isReported = false ↔ e ≠ .malformed := by
  cases e <;> simp [DefinitionError.isReported]

/-- The documents that are neither read as a definition nor reported as none: those in which an escape
or a scalar stands for nothing and that is found before any breach of the grammar, and those with a
search mode whose parameters cannot be listed. -/
theorem parse_unreported_iff (b : Text.Bytes) (source : String) :
    (∃ e, parse b source = .error e ∧ e.isReported = false) ↔
      ∃ text, Yaml.decodeSource? b = some text ∧
        ((∃ e, Yaml.load text = .error e ∧ e ≠ .malformed ∧ Yaml.IsForeign text e) ∨
          ∃ es, Yaml.load text = .ok (.map es) ∧ HasUnlistableMode es) := by
  unfold parse Yaml.loadBytes
  cases hd : Yaml.decodeSource? b with
  | none => simp [DefinitionError.isReported]
  | some text =>
    simp only [Option.some.injEq,exists_eq_left']
    cases hl : Yaml.load text with
    | error e =>
      simp only [Except.error.injEq,exists_eq_left',isReported_document,reduceCtorEq,false_and,
        exists_false,or_false]
      refine ⟨fun he => ⟨he,(Yaml.load_eq_error hl).resolve_left he⟩,fun h => h.1⟩
    | ok v =>
      simp only [Except.ok.injEq,reduceCtorEq,false_and,exists_false,false_or]
      cases v with
      | map es =>
        simp only [Value.map.injEq,exists_eq_left',← isStopped_raw]
        cases hr : raw es with
        | stopped c =>
          cases c
          simp [DefinitionError.isReported]
        | bad vs => simp [DefinitionError.isReported]
        | good r =>
          simp only [not_isStopped_good,iff_false,not_exists,not_and]
          intro e he hf
          exact absurd (reported_ofRaw r _ e he) (by simp [hf])
      | _ => simp [DefinitionError.isReported]

/-- A definition with a number for the parameters of a search mode. -/
def numericMode : Text.Bytes :=
  Text.encodeUtf8 "site: s\nlinks: [x]\ncaps:\n  modes:\n    search: 5\n".toList

set_option maxRecDepth 100000 in
/-- The definition is not read and not reported, since the document has an unlistable mode. -/
theorem numeric_mode_unreported : (∃ e, parse numericMode "" = .error e ∧ e.isReported = false) ∧
    ∃ text, Yaml.decodeSource? numericMode = some text ∧
      ((∃ e, Yaml.load text = .error e ∧ e ≠ .malformed ∧ Yaml.IsForeign text e) ∨
        ∃ es, Yaml.load text = .ok (.map es) ∧ HasUnlistableMode es) := by
  have hstop : (match parse numericMode "" with
      | .error e => !e.isReported
      | .ok _ => false) = true := by decide +kernel
  have hparse : ∃ e, parse numericMode "" = .error e ∧ e.isReported = false := by
    split at hstop
    next e he => exact ⟨e,he,by simpa using hstop⟩
    · cases hstop
  exact ⟨hparse,(parse_unreported_iff numericMode "").mp hparse⟩

end Definition

end TrackerHub
