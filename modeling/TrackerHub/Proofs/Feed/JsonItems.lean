import TrackerHub.Feed.Json
import TrackerHub.Proofs.Feed.Faults
import TrackerHub.Proofs.Feed.JsonText
import TrackerHub.Size

/-! # The items of a list in JSON

The results of a search are written as a list with one object for each of them, from which its texts and its
integers are read. The list is no document if a factor of a result is not finite, and there is none if an integer
has too many digits.
-/
namespace TrackerHub.Json
open TrackerHub.Text

/-! ## Reading values -/

/-- The text of some units. -/
def ofUnits : List Nat → Chars
  | u :: v :: r =>
    if 0xD800 ≤ u ∧ u < 0xDC00 then
      match pairedChar? u v with
      | some c => c :: ofUnits r
      | none => replacementChar :: ofUnits (v :: r)
    else Char.ofNat u :: ofUnits (v :: r)
  | [u] => [Char.ofNat u]
  | [] => []

namespace Datum

def text? : Datum → Option String
  | .text us => some (String.ofList (ofUnits us))
  | _ => none

def int? : Datum → Option Int
  | .word ('-' :: ds) => (readDecimal? ds).map fun n => -(n : Int)
  | .word ds => (readDecimal? ds).map fun n => (n : Int)
  | _ => none

/-- What a value holds that may be null. -/
def optional? {α : Type} (read : Datum → Option α) : Datum → Option (Option α)
  | .word w => if w = "null".toList then some none else (read (.word w)).map some
  | d => (read d).map some

/-- The first member of an object with the given name. -/
def member? (name : String) : Datum → Option Datum
  | .object ms => (ms.find? fun m => m.1 == unitsOf name).map (·.2)
  | _ => none

/-- What a member of an object holds. -/
def field? {α : Type} (name : String) (read : Datum → Option α) (d : Datum) : Option α :=
  (d.member? name).bind read

end Datum

theorem ofUnits_append (c : Char) (us : List Nat) : ofUnits (units c ++ us) = c :: ofUnits us := by
  have hc : c.toNat < 0xD800 ∨ 0xDFFF < c.toNat ∧ c.toNat < 0x110000 := c.valid
  unfold units
  split
  next hsmall =>
    cases us with
    | nil => simp [ofUnits]
    | cons u us =>
      rw [List.singleton_append,ofUnits,if_neg (by omega),Char.ofNat_toNat]
  next hwide =>
    have hhigh : 0xD800 ≤ 0xD800 + (c.toNat - 0x10000) / 0x400 ∧ 0xD800 + (c.toNat - 0x10000) / 0x400 < 0xDC00 := by
      omega
    have hpair : pairedChar? (0xD800 + (c.toNat - 0x10000) / 0x400) (0xDC00 + (c.toNat - 0x10000) % 0x400) =
        some c := by
      rw [pairedChar?,if_pos (by omega)]
      have hn : 0x10000 + 0x400 * (0xD800 + (c.toNat - 0x10000) / 0x400 - 0xD800) +
          (0xDC00 + (c.toNat - 0x10000) % 0x400 - 0xDC00) = c.toNat := by omega
      rw [hn,Char.ofNat_toNat]
    rw [List.cons_append,List.singleton_append,ofUnits,if_pos hhigh,hpair]

/-- A text is read off its units. -/
theorem ofUnits_unitsOf (s : String) : ofUnits (unitsOf s) = s.toList := by
  have hchars (s : Chars) : ofUnits (s.flatMap units) = s := by
    induction s with
    | nil => rfl
    | cons c s ih => rw [List.flatMap_cons,ofUnits_append,ih]
  exact hchars s.toList

theorem unitsOf_inj {s t : String} : unitsOf s = unitsOf t ↔ s = t := by
  refine ⟨fun h => String.toList_inj.mp ?_,congrArg _⟩
  rw [← ofUnits_unitsOf,h,ofUnits_unitsOf]

section
variable {α : Type} {name : String} {ms : List (String × Json)}

@[simp] theorem text?_datum (s : String) : (datum (.text s)).text? = some s := by
  simp [datum,Datum.text?,ofUnits_unitsOf]

theorem readDecimal?_decimal (n : Nat) : readDecimal? (decimal n) = some n := by
  have hne := List.isEmpty_eq_false_iff.mpr (Numeral.decimal_ne_nil n)
  have hdigits : (decimal n).all Char.isDigit = true :=
    List.all_eq_true.mpr fun c => Numeral.isDigit_of_mem_decimal
  rw [readDecimal?,hne,hdigits,← Nat.ofDigitChars_eq_foldl,decimal,Nat.ofDigitChars_ten_toDigits]
  rfl

@[simp] theorem int?_datum (n : Int) : (datum (.int n)).int? = some n := by
  cases n with
  | ofNat n =>
    have hplain : (Datum.word (decimal n)).int? = (readDecimal? (decimal n)).map fun n => (n : Int) := by
      unfold Datum.int?
      split
      next ds heq =>
        -- No numeral without a sign begins with one.
        have hsign : decimal n = '-' :: ds := Datum.word.inj heq
        exact absurd (Numeral.decimal_head hsign) (by decide)
      next heq => rw [Datum.word.inj heq]
      next hword => exact absurd rfl (hword _)
    rw [datum,decimalInt,hplain,readDecimal?_decimal]
    rfl
  | negSucc n =>
    rw [datum,decimalInt,Datum.int?,readDecimal?_decimal]
    rfl

@[simp] theorem optional?_null (read : Datum → Option α) : (datum .null).optional? read = some none := by
  rw [datum,Datum.optional?,if_pos rfl]

@[simp] theorem optional?_int (n : Int) : (datum (.int n)).optional? Datum.int? = some (some n) := by
  have hnull : decimalInt n ≠ "null".toList := fun h =>
    Numeral.not_mem_decimalInt (c := 'n') (by decide) (by decide) n (h ▸ by decide)
  rw [datum,Datum.optional?,if_neg hnull,← datum,int?_datum]
  rfl

@[simp] theorem optional?_text (s : String) : (datum (.text s)).optional? Datum.text? = some (some s) := by
  rw [datum,Datum.optional?,← datum,text?_datum]
  · rfl
  · nofun

/-- The member of an object is what the text of the value with its name holds. -/
theorem member?_datum : (datum (.object ms)).member? name = (Named.find? ms name).map datum := by
  have hfind (ms : List (String × Json)) : ((memberData ms).find? fun m => m.1 == unitsOf name).map (·.2) =
      (Named.find? ms name).map datum := by
    induction ms with
    | nil => rfl
    | cons m ms ih =>
      obtain ⟨k,v⟩ := m
      unfold Named.find? at ih ⊢
      by_cases hk : k = name
      · simp [memberData,hk]
      · simpa [memberData,hk,unitsOf_inj] using ih
  exact hfind ms

theorem names_memberData (ms : List (String × Json)) :
    (memberData ms).map (·.1) = (ms.map (·.1)).map unitsOf := by
  induction ms with
  | nil => rfl
  | cons m ms ih => simp [memberData,ih]

theorem data_eq_map (js : List Json) : data js = js.map datum := by
  induction js with
  | nil => rfl
  | cons j js ih => rw [data,ih,List.map_cons]

theorem floatsOf_eq_flatMap (js : List Json) : floatsOf js = js.flatMap floats := by
  induction js with
  | nil => rfl
  | cons j js ih => rw [floatsOf,ih,List.flatMap_cons]

end

end TrackerHub.Json

namespace TrackerHub.Feed
open TrackerHub.Json

/-! ## Results -/

def memberNames : List String := [
  "site","title","description","guid","comments","link","category","size","seeders","peers","publish_date",
  "minimum_ratio","minimum_seed_time","files","grabs","download_volume_factor","upload_volume_factor"]

/-- Whether an object tells a result: its members have different names, and the texts and integers of the result
are read off them. -/
structure Tells (r : Release) (d : Datum) : Prop where
  names : ∃ ms, d = .object ms ∧ ms.map (·.1) = memberNames.map unitsOf ∧ (ms.map (·.1)).Nodup
  site : d.field? "site" Datum.text? = some r.site
  title : d.field? "title" Datum.text? = some r.title
  description : d.field? "description" Datum.text? = some r.description
  guid : d.field? "guid" Datum.text? = some r.guid
  comments : d.field? "comments" Datum.text? = some r.comments
  link : d.field? "link" Datum.text? = some r.link
  category : d.field? "category" Datum.int? = some r.category
  size : d.field? "size" Datum.int? = some r.size
  seeders : d.field? "seeders" Datum.int? = some r.seeders
  peers : d.field? "peers" Datum.int? = some r.peers
  files : d.field? "files" (Datum.optional? Datum.int?) = some r.files
  grabs : d.field? "grabs" (Datum.optional? Datum.int?) = some r.grabs
  date : d.field? "publish_date" (Datum.optional? Datum.text?) =
    some (r.publishDate.map fun t => String.ofList t.isoText)

def factors (r : Release) : List Binary64 :=
  [r.minimumRatio,r.minimumSeedTime,r.downloadVolumeFactor,r.uploadVolumeFactor]

section
variable {α : Type} {r : Release} {name : String} {read : Datum → Option α} {j : Json}

theorem field?_releaseObject (h : ∃ ms, releaseObject r = .object ms ∧ Named.find? ms name = some j) :
    (datum (releaseObject r)).field? name read = read (datum j) := by
  obtain ⟨ms,hms,hj⟩ := h
  rw [hms,Datum.field?,member?_datum,hj]
  rfl

theorem text_of_releaseObject {s : String}
    (h : ∃ ms, releaseObject r = .object ms ∧ Named.find? ms name = some (.text s)) :
    (datum (releaseObject r)).field? name Datum.text? = some s :=
  (field?_releaseObject h).trans (text?_datum s)

theorem int_of_releaseObject {n : Int}
    (h : ∃ ms, releaseObject r = .object ms ∧ Named.find? ms name = some (.int n)) :
    (datum (releaseObject r)).field? name Datum.int? = some n :=
  (field?_releaseObject h).trans (int?_datum n)

theorem optionalInt_of_releaseObject {n : Option Int}
    (h : ∃ ms, releaseObject r = .object ms ∧ Named.find? ms name = some (optionalInt n)) :
    (datum (releaseObject r)).field? name (Datum.optional? Datum.int?) = some n := by
  rw [field?_releaseObject h]
  cases n with
  | none => exact optional?_null _
  | some n => exact optional?_int n

end

/-- The object of a result tells it. -/
theorem tells_releaseObject (r : Release) : Tells r (datum (releaseObject r)) where
  names :=
    have hnames := names_memberData _
    ⟨_,rfl,hnames,hnames ▸ (by decide : (memberNames.map unitsOf).Nodup)⟩
  site := text_of_releaseObject ⟨_,rfl,rfl⟩
  title := text_of_releaseObject ⟨_,rfl,rfl⟩
  description := text_of_releaseObject ⟨_,rfl,rfl⟩
  guid := text_of_releaseObject ⟨_,rfl,rfl⟩
  comments := text_of_releaseObject ⟨_,rfl,rfl⟩
  link := text_of_releaseObject ⟨_,rfl,rfl⟩
  category := int_of_releaseObject ⟨_,rfl,rfl⟩
  size := int_of_releaseObject ⟨_,rfl,rfl⟩
  seeders := int_of_releaseObject ⟨_,rfl,rfl⟩
  peers := int_of_releaseObject ⟨_,rfl,rfl⟩
  files := optionalInt_of_releaseObject ⟨_,rfl,rfl⟩
  grabs := optionalInt_of_releaseObject ⟨_,rfl,rfl⟩
  date := by
    rw [field?_releaseObject ⟨_,rfl,rfl⟩]
    cases r.publishDate with
    | none => exact optional?_null _
    | some t => exact optional?_text _

theorem floats_releaseObject (r : Release) : floats (releaseObject r) = factors r := by
  obtain ⟨_,_,_,_,_,_,_,_,_,_,date,_,_,files,grabs,_,_⟩ := r
  cases date <;> cases files <;> cases grabs <;> rfl

/-- The results of a search can be written just when no integer of theirs has too many digits. What is written is
a JSON document just when all their factors are finite; it is then a list of one object for each result, in
order, which tells the result. -/
theorem list_tells_results (items : List Release) :
    ((∃ doc, writeList items = .ok doc) ↔ ∀ r ∈ items, ∀ n ∈ r.numbers, Numeral.IsShort n) ∧
    ∀ doc, writeList items = .ok doc →
      ((∃ d, IsDocument d doc.payload.toList) ↔ ∀ r ∈ items, ∀ x ∈ factors r, x.IsFinite) ∧
      ∀ d, IsDocument d doc.payload.toList → ∃ objects, d = .list objects ∧ List.Forall₂ Tells items objects := by
  have hfloats : floats (.list (items.map releaseObject)) = items.flatMap factors := by
    rw [floats,floatsOf_eq_flatMap,List.flatMap_map]
    exact List.flatMap_congr fun r _ => floats_releaseObject r
  constructor
  · constructor
    · rintro ⟨doc,h⟩
      exact List.forall_mem_flatMap.mp (checked_eq_ok_iff.mp h).1
    · exact fun h => ⟨_,checked_eq_ok_iff.mpr ⟨List.forall_mem_flatMap.mpr h,nofun,rfl⟩⟩
  · intro doc h
    obtain ⟨-,-,rfl⟩ := checked_eq_ok_iff.mp h
    obtain ⟨hdocument,hdatum⟩ := isDocument_write (.list (items.map releaseObject))
    rw [hfloats,List.forall_mem_flatMap] at hdocument
    rw [jsonList,String.toList_ofList]
    refine ⟨hdocument,fun d hd => ⟨items.map fun r => datum (releaseObject r),?_,?_⟩⟩
    · rw [hdatum d hd,datum,data_eq_map,List.map_map]
      rfl
    · exact List.forall₂_map_right_iff.mpr (List.forall₂_same.mpr fun r _ => tells_releaseObject r)

/-- A result with a mark, a line end and a character of two units in its title. -/
def quotedResult : Release :=
  { site := "s",title := "\"one\"\n😀",files := some (-3),publishDate := some { date := ⟨2024,2,29⟩ } }

/-- Any text and short integer of a result is told; a ratio that is read as no number leaves no document, and two
counts can add up to an integer that is not written. -/
theorem unrated_result_is_no_document :
    (∃ doc d, writeList [quotedResult] = .ok doc ∧ IsDocument (.list [d]) doc.payload.toList ∧
      Tells quotedResult d) ∧
    (readFactor "nan".toList = .ok .nan ∧ ∃ doc,
      writeList [{ site := "s",title := "one",minimumRatio := .nan }] = .ok doc ∧
        ¬∃ d, IsDocument d doc.payload.toList) ∧
    ¬∃ doc, writeList [{ site := "s",title := "one",peers := Int.ofNat (Nat.pow 10 Numeral.maxDigits) }] = .ok doc := by
  have short {r : Release} (h : ∀ n ∈ r.numbers, n.natAbs < 10 ^ 1) :
      ∀ t ∈ [r], ∀ n ∈ t.numbers, Numeral.IsShort n := by
    intro t ht n hn
    rw [List.mem_singleton] at ht
    exact Numeral.isShort_of_lt 1 (h n (ht ▸ hn)) (by decide)
  refine ⟨?_,⟨by decide +kernel,?_⟩,fun hlong => ?_⟩
  · obtain ⟨hwritten,htold⟩ := list_tells_results [quotedResult]
    obtain ⟨doc,hdoc⟩ := hwritten.mpr (short (by decide))
    obtain ⟨hdocument,htells⟩ := htold doc hdoc
    have hfinite : ∀ r ∈ [quotedResult], ∀ x ∈ factors r, x.IsFinite := by
      intro r hr x hx
      rw [List.mem_singleton] at hr
      subst hr
      simp only [factors,quotedResult,List.mem_cons,List.not_mem_nil,or_false] at hx
      rcases hx with rfl | rfl | rfl | rfl <;> exact ⟨_,_,_,rfl⟩
    obtain ⟨d,hd⟩ := hdocument.mpr hfinite
    obtain ⟨objects,rfl,hobjects⟩ := htells d hd
    obtain ⟨object,rfl⟩ : ∃ object, objects = [object] := List.length_eq_one_iff.mp hobjects.length_eq.symm
    exact ⟨doc,object,hdoc,hd,(List.forall₂_cons.mp hobjects).1⟩
  · obtain ⟨hwritten,htold⟩ := list_tells_results [{ site := "s",title := "one",minimumRatio := .nan }]
    obtain ⟨doc,hdoc⟩ := hwritten.mpr (short (by decide))
    refine ⟨doc,hdoc,fun hd => ?_⟩
    obtain ⟨_,_,_,hnan⟩ := (htold doc hdoc).1.mp hd _ List.mem_cons_self .nan List.mem_cons_self
    cases hnan
  · have hpeers (r : Release) : r.peers ∈ r.numbers := by simp [Release.numbers]
    have hpower (k : Nat) : ¬(Int.ofNat (Nat.pow 10 k)).natAbs < 10 ^ k := Nat.lt_irrefl _
    exact hpower _ ((list_tells_results _).1.mp hlong _ List.mem_cons_self _ (hpeers _))

end TrackerHub.Feed
