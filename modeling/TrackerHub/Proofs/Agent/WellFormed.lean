import TrackerHub.Proofs.Agent.CategoryFilter
import TrackerHub.Proofs.Agent.FieldOrder
import TrackerHub.Proofs.Agent.SearchLimit
import TrackerHub.Proofs.Number.Sizes
import TrackerHub.Proofs.Text.CutText

/-! # Well-formed releases

What can be relied on in every release that a search gives, whichever fields the definition declares and
whichever of their texts are missing or cannot be read: the release can be told from others, its
addresses are full ones, and each of its fields says what the texts of its row say.
-/
namespace TrackerHub
open Text (Chars)
open Page (Place)

namespace Web

namespace Url

/-- Whether an address names its scheme, so that it can be followed from anywhere. -/
def IsFull (text : Chars) : Prop := ∃ scheme rest, takeScheme (stripped text) = some (scheme,rest)

theorem takeScheme_ne_nil {s scheme rest : Chars} (h : takeScheme s = some (scheme,rest)) :
    scheme ≠ [] := by
  unfold takeScheme at h
  dsimp only at h
  split at h
  next c before hb =>
    split at h
    · cases h
      simp [hb]
    · cases h
  · cases h

/-- A full address is cut into parts of which the scheme is not empty. -/
theorem IsFull.scheme_ne_nil {text : Chars} (h : IsFull text) {u : Url} (hu : parse text = .ok u) :
    u.scheme ≠ [] := by
  obtain ⟨scheme,rest,ht⟩ := h
  rw [scheme_of_parseWith hu,ht]
  exact takeScheme_ne_nil ht

theorem partitionAt_of_not_mem {sep : Char} {before : Chars} (h : sep ∉ before) (after : Chars) :
    partitionAt sep (before ++ sep :: after) = (before,true,after) := by
  have hcut : (before ++ sep :: after).takeWhile (· != sep) = before := by
    rw [List.takeWhile_append_of_pos]
    · simp
    · intro c hc
      rw [bne_iff_ne]
      rintro rfl
      exact h hc
  unfold partitionAt
  dsimp only
  rw [hcut,List.drop_left]

theorem not_blank_of_isAlpha {c : Char} (h : c.isAlpha = true) : ¬c.toNat ≤ 32 := by
  intro hle
  have hcode : ∀ n ≤ 32, (Char.ofNat n).isAlpha = false := by decide
  rw [← Char.ofNat_toNat c,hcode _ hle] at h
  cases h

/-- What stands before the first colon of an address is its scheme, if it has the characters of one. -/
theorem isFull_of_scheme {c : Char} {more rest : Chars} (hc : c.isAlpha = true)
    (hall : (c :: more).all isSchemeChar = true) : IsFull (c :: more ++ ':' :: rest) := by
  have hs : ∀ x ∈ c :: more, isSchemeChar x = true := List.all_eq_true.mp hall
  have hkept : (c :: more).filter (fun x => x != '\t' && x != '\r' && x != '\n') = c :: more := by
    rw [List.filter_eq_self]
    intro x hx
    simp only [Bool.and_eq_true,bne_iff_ne]
    refine ⟨⟨?_,?_⟩,?_⟩ <;> rintro rfl <;> exact absurd (hs _ hx) (by decide)
  have hcolon : ':' ∉ c :: more := fun hm => absurd (hs _ hm) (by decide)
  refine ⟨(c :: more).map Char.toLower,rest.filter fun x => x != '\t' && x != '\r' && x != '\n',?_⟩
  rw [stripped,List.cons_append,List.dropWhile_cons_of_neg (by simpa using not_blank_of_isAlpha hc),
    ← List.cons_append,List.filter_append,hkept,List.filter_cons_of_pos (by decide),takeScheme,
    partitionAt_of_not_mem hcolon]
  simp only [hc,hall,Bool.and_self,if_true]

theorem isFull_of_web {scheme rest : Chars} (h : scheme = "http".toList ∨ scheme = "https".toList) :
    IsFull (scheme ++ ':' :: rest) := by
  rcases h with rfl | rfl
  · exact isFull_of_scheme (by decide) (by decide)
  · exact isFull_of_scheme (by decide) (by decide)

theorem isFull_of_magnet {url : String} (h : Agent.isMagnet url = true) : IsFull url.toList := by
  obtain ⟨rest,hrest⟩ := Option.isSome_iff_exists.mp h
  have hmagnet : IsFull ('m' :: "agnet".toList ++ ':' :: rest) :=
    isFull_of_scheme (by decide) (by decide)
  rwa [Text.dropStart?_eq_some_iff.mp hrest]

theorem toText_of_scheme {u : Url} (h : u.scheme ≠ []) :
    ∃ rest, u.toText = u.scheme ++ ':' :: rest := by
  unfold toText
  dsimp only
  rw [List.isEmpty_eq_false_iff.mpr h]
  split <;> split <;> simp

/-- An address that is resolved against a base names a scheme of its own, which it keeps, or takes that of
the base. -/
theorem scheme_of_join {base url joined : Chars} {b : Url} (hbase : base ≠ []) (hurl : url ≠ [])
    (hb : parse base = .ok b) (hr : schemeIn relativeSchemes b.scheme = true)
    (h : join base url = .ok joined) :
    joined = url ∧ IsFull url ∨ ∃ u : Url, joined = u.toText ∧ u.scheme = b.scheme := by
  rw [join_eq hbase hurl,hb] at h
  cases hu : parseWith b.scheme url with
  | error e =>
    simp only [Except.bind,hu] at h
    cases h
  | ok u =>
    simp only [Except.bind,hu] at h
    split at h
    next hother =>
      cases h
      refine .inl ⟨rfl,?_⟩
      cases hown : takeScheme (stripped url) with
      | some own => exact ⟨own.1,own.2,hown⟩
      | none =>
        have hsame : u.scheme = b.scheme := by rw [scheme_of_parseWith hu,hown]; rfl
        simp [hsame,hr] at hother
    next hsame =>
      cases h
      rw [Bool.not_eq_true,Bool.or_eq_false_iff] at hsame
      refine .inr ⟨_,rfl,?_⟩
      rw [relocated_scheme,takeParameters_scheme]
      exact bne_eq_false_iff_eq.mp hsame.1

end Url

/-- What is resolved against an address of the web is a full address. -/
theorem Address.IsWeb.isFull_of_join {a : Address} (h : a.IsWeb) {url joined : Chars} (hurl : url ≠ [])
    (hj : Url.join a.toText url = .ok joined) : Url.IsFull joined := by
  obtain ⟨rest,ht⟩ := h.toText_eq
  rw [ht] at hj
  cases hb : Url.parse (a.scheme ++ ':' :: rest) with
  | error e =>
    rw [Url.join_eq (by simp) hurl,hb] at hj
    cases hj
  | ok b =>
    have hscheme : b.scheme = a.scheme := Url.scheme_of_web h hb
    have hrelative : Url.schemeIn Url.relativeSchemes b.scheme = true := by
      rcases h with h | h <;> rw [hscheme,h] <;> decide
    rcases Url.scheme_of_join (by simp) hurl hb hrelative hj with ⟨rfl,hfull⟩ | ⟨u,rfl,hu⟩
    · exact hfull
    · have hne : u.scheme ≠ [] := by
        rcases h with h | h <;> rw [hu,hscheme,h] <;> decide
      obtain ⟨more,hmore⟩ := Url.toText_of_scheme hne
      rw [hmore,hu,hscheme]
      exact Url.isFull_of_web h

end Web

namespace RowTexts
variable {β : Type}

def localCategory? (t : RowTexts) : Option String := last? .category some t.fields

def address? (t : RowTexts) (base : Chars) (kind : FieldKind) : Option String :=
  last? kind (readAddress? base) t.fields

/-- What the first readable text of a kind says. -/
def first? (kind : FieldKind) (read : String → Option β) (fields : List (FieldKind × String)) :
    Option β :=
  (fields.filterMap fun f => if f.1 = kind then read f.2 else none).head?

/-- How many the texts of a kind count together; one that cannot be read counts nothing. -/
def count (kind : FieldKind) (fields : List (FieldKind × String)) : Int :=
  (fields.filterMap fun f => if f.1 = kind then readCount? f.2 else none).foldl (· + ·) 0

section
variable {fields : List (FieldKind × String)} {kind : FieldKind} {read : String → Option β} {x : β}

theorem of_mem_readings (h : x ∈ fields.filterMap fun f => if f.1 = kind then read f.2 else none) :
    ∃ f ∈ fields, f.1 = kind ∧ read f.2 = some x := by
  obtain ⟨f,hf,hr⟩ := List.mem_filterMap.mp h
  split at hr
  next hk => exact ⟨f,hf,hk,hr⟩
  · cases hr

theorem of_last?_eq_some (h : last? kind read fields = some x) :
    ∃ f ∈ fields, f.1 = kind ∧ read f.2 = some x := of_mem_readings (List.mem_of_getLast? h)

theorem of_first?_eq_some (h : first? kind read fields = some x) :
    ∃ f ∈ fields, f.1 = kind ∧ read f.2 = some x := of_mem_readings (List.mem_of_head? h)

end

section
variable (fields : List (FieldKind × String)) (f : FieldKind × String)

@[simp] theorem first?_concat (kind : FieldKind) (read : String → Option β) :
    first? kind read (fields ++ [f]) =
      (first? kind read fields).or (if f.1 = kind then read f.2 else none) := by
  unfold first?
  cases h : (if f.1 = kind then read f.2 else none) <;> simp [List.filterMap_append,List.head?_append,h]

@[simp] theorem count_concat (kind : FieldKind) : count kind (fields ++ [f]) =
    count kind fields + if f.1 = kind then (readCount? f.2).getD 0 else 0 := by
  unfold count
  by_cases hk : f.1 = kind
  · cases hr : readCount? f.2 <;> simp [List.filterMap_append,hk,hr]
  · simp [List.filterMap_append,hk]

theorem peers_eq : peers fields = count .seeders fields + count .leechers fields := by
  induction fields using List.reverseRecOn with
  | nil => rfl
  | append_singleton fields f ih =>
    rw [peers_concat,count_concat,count_concat,ih]
    by_cases hs : f.1 = .seeders
    · simp [hs]
      omega
    by_cases hl : f.1 = .leechers
    · simp [hl]
      omega
    · simp [hs,hl]

/-- Comments that can be used win over the details, wherever they are declared. -/
theorem comments_eq {base : Chars}
    (hb : ∀ value url, readAddress? base value = some url → url.isEmpty = false) :
    comments base fields = ((last? .comments (readAddress? base) fields).or
      (first? .details (readAddress? base) fields)).getD "" := by
  induction fields using List.reverseRecOn with
  | nil => rfl
  | append_singleton fields f ih =>
    rw [comments_concat,last?_concat,first?_concat,ih]
    by_cases hc : f.1 = .comments
    · cases readAddress? base f.2 <;> simp [hc]
    by_cases hd : f.1 = .details
    · cases hlast : last? .comments (readAddress? base) fields with
      | some url =>
        obtain ⟨f,-,-,hf⟩ := of_last?_eq_some hlast
        simp [hd,hb f.2 url hf]
      | none =>
        cases hfirst : first? .details (readAddress? base) fields with
        | some url =>
          obtain ⟨f,-,-,hf⟩ := of_first?_eq_some hfirst
          simp [hd,hb f.2 url hf]
        | none => simp [hd]
    · simp [hc,hd]

/-- The addresses of a row on a page of the web are full ones. -/
theorem isFull_of_readAddress? {base : Web.Address} (h : base.IsWeb) {value url : String}
    (hr : readAddress? base.toText value = some url) : Web.Url.IsFull url.toList := by
  unfold readAddress? at hr
  split at hr
  · cases hr
  next hv =>
    split at hr
    next hm =>
      cases hr
      exact Web.Url.isFull_of_magnet hm
    next hm =>
      obtain ⟨joined,hj,rfl⟩ := Option.map_eq_some_iff.mp hr
      rw [toOption_eq_some] at hj
      rw [String.toList_ofList]
      exact h.isFull_of_join (by simpa using hv) hj

end

/-- A row has the fields that its texts say; the link stands in for an identifier that is missing. -/
theorem row_eq (site : String) (base : Chars) (now : Time.DateTime) (t : RowTexts) :
    let made := fieldsRow site base now t.fields
    t.row site base now = { made with release := { made.release with
      guid := if made.release.guid.isEmpty then made.release.link else made.release.guid
      publishDate := (t.header.bind (readDate? now)).or made.release.publishDate } } := by
  intro made
  unfold row redated Row.identified
  by_cases hg : made.release.guid.isEmpty = true
  · by_cases hl : made.release.link.isEmpty = true
    · have hsame : made.release.guid = made.release.link := by
        rw [String.isEmpty_iff.mp hg,String.isEmpty_iff.mp hl]
      simp [made,hl,hsame]
    · simp [made,hg,hl]
  · simp [made,hg]

section
variable (site : String) (base : Chars) (now : Time.DateTime) (t : RowTexts)

theorem row_site : (t.row site base now).release.site = site := by
  rw [row_eq]
  rfl

theorem row_link : (t.row site base now).release.link = (t.address? base .download).getD "" := by
  rw [row_eq]
  rfl

theorem size_nonneg : 0 ≤ (t.row site base now).release.size := by
  have hsize : (t.row site base now).release.size = (last? .size readSize? t.fields).getD 0 := by
    rw [row_eq]
    rfl
  rw [hsize]
  cases hr : last? .size readSize? t.fields with
  | none => exact Int.le_refl 0
  | some n =>
    obtain ⟨f,-,-,hf⟩ := of_last?_eq_some hr
    exact readSize_nonneg (toOption_eq_some.mp hf)

theorem row_peers : (t.row site base now).release.peers =
    count .seeders t.fields + count .leechers t.fields := by
  rw [row_eq]
  exact peers_eq t.fields

theorem row_localCategory : (t.row site base now).localCategory = t.localCategory?.getD "" := by
  rw [row_eq]
  rfl

variable {base} (hb : ∀ value url, readAddress? base value = some url → url.isEmpty = false)
include hb

theorem row_guid : (t.row site base now).release.guid =
    (t.address? base .details).getD (t.row site base now).release.link := by
  have hguid : (fieldsRow site base now t.fields).release.guid = (t.address? base .details).getD "" :=
    rfl
  rw [row_eq]
  dsimp only
  rw [hguid]
  cases hd : t.address? base .details with
  | none => simp
  | some url =>
    obtain ⟨f,-,-,hf⟩ := of_last?_eq_some hd
    simp [hb f.2 url hf]

theorem row_comments : (t.row site base now).release.comments =
    ((t.address? base .comments).or (first? .details (readAddress? base) t.fields)).getD "" := by
  rw [row_eq]
  exact comments_eq t.fields hb

end

theorem readAddress?_of_magnet {base : Chars} {value : String} (h : Agent.isMagnet value = true) :
    readAddress? base value = some value := by
  have hne : value.isEmpty = false := by
    rw [← Bool.not_eq_true,String.isEmpty_iff]
    rintro rfl
    exact absurd h (by decide)
  simp [readAddress?,hne,h]

end RowTexts

namespace Row
variable {m : CategoryMap} {row : Row}

/-- Only the category of a release depends on the local one. -/
theorem categorized_release (m : CategoryMap) (row : Row) : ∃ id,
    (row.categorized m).release = { row.release with category := id } := by
  unfold categorized
  split
  · exact ⟨row.release.category,rfl⟩
  · dsimp only
    split
    · exact ⟨_,rfl⟩
    · exact ⟨row.release.category,rfl⟩

theorem category_of_mapped {c : Category} (hne : row.localCategory ≠ "")
    (h : m.get? row.localCategory = some c) : (row.categorized m).release.category = c.id := by
  simp [categorized,hne,h]

theorem category_of_number {n : Int} (h : m.get? row.localCategory = none)
    (hn : Numeral.readInt row.localCategory.toList = .ok n) :
    (row.categorized m).release.category = n + Category.customOffset := by
  have hne : row.localCategory ≠ "" := by
    intro he
    rw [he] at hn
    cases hn
  simp [categorized,hne,h,hn,Except.toOption]

theorem category_of_other (h : row.localCategory ≠ "" → m.get? row.localCategory = none ∧
      ∀ n, Numeral.readInt row.localCategory.toList ≠ .ok n) :
    (row.categorized m).release.category = row.release.category := by
  by_cases hne : row.localCategory = ""
  · simp [categorized,hne]
  · obtain ⟨hm,hn⟩ := h hne
    have hread : (Numeral.readInt row.localCategory.toList).toOption = none := by
      cases hr : Numeral.readInt row.localCategory.toList with
      | error e => rfl
      | ok n => exact absurd hr (hn n)
    simp [categorized,hne,hm,hread]

end Row

open RowTexts in
/-- What holds of the release of a row with texts `t` on a page at `base`. -/
structure Release.IsWellFormed (d : Definition) (base : Chars) (t : RowTexts) (r : Release) : Prop where
  site : r.site = d.site
  title : d.search.hasField .title = true → r.title ≠ ""
  link : r.link = (t.address? base .download).getD ""
  guid : r.guid = (t.address? base .details).getD r.link
  guid_ne : r.guid ≠ ""
  comments : r.comments =
    ((t.address? base .comments).or (first? .details (readAddress? base) t.fields)).getD ""
  /-- Every address that is there names its scheme. -/
  full : ∀ address ∈ [r.link,r.guid,r.comments], address ≠ "" → Web.Url.IsFull address.toList
  /-- Magnet links stay as they are. -/
  magnet : ∀ f ∈ t.fields, Agent.isMagnet f.2 = true → readAddress? base f.2 = some f.2
  size : 0 ≤ r.size
  peers : r.peers = count .seeders t.fields + count .leechers t.fields
  mapped : ∀ localId c, t.localCategory? = some localId → localId ≠ "" →
    d.categories.get? localId = some c → r.category = c.id
  custom : ∀ localId n, t.localCategory? = some localId → d.categories.get? localId = none →
    Numeral.readInt localId.toList = .ok n → r.category = n + Category.customOffset
  /-- A row without a local category, or with one that is neither mapped nor a number, is of no category. -/
  other : (∀ localId, t.localCategory? = some localId → localId ≠ "" →
      d.categories.get? localId = none ∧ ∀ n, Numeral.readInt localId.toList ≠ .ok n) →
    r.category = 0

/-- An address with a usual one in its place, either of which may be missing, is a full one if both are. -/
theorem isFull_getD {url? : Option String} {usual : String}
    (h : ∀ url, url? = some url → Web.Url.IsFull url.toList)
    (husual : usual ≠ "" → Web.Url.IsFull usual.toList) (hne : url?.getD usual ≠ "") :
    Web.Url.IsFull (url?.getD usual).toList := by
  cases url? with
  | none => exact husual hne
  | some url => exact h url rfl

/-- An identifier that the link stands in for is there if either of the two is. -/
theorem guid_ne_of_hasIdentity {row : Row} {url? : Option String} (h : ∀ url, url? = some url → url ≠ "")
    (hguid : row.release.guid = url?.getD row.release.link) (hi : row.hasIdentity = true) :
    row.release.guid ≠ "" := by
  cases url? with
  | none => simpa [Row.hasIdentity,hguid] using hi
  | some url => exact hguid ▸ h url rfl

/-- A row on a page of the web, with a title if there should be one and with a link or an identifier,
gives a well-formed release. -/
theorem isWellFormed_row {a : Agent} {base : Web.Address} (hweb : base.IsWeb) {t : RowTexts} {row : Row}
    (hrow : row = t.row a.definition.site base.toText a.now) (ht : a.isUntitled row = false)
    (hi : (row.categorized a.definition.categories).hasIdentity = true) :
    (row.categorized a.definition.categories).release.IsWellFormed a.definition base.toText t := by
  have hb := RowTexts.readAddress?_ne_empty hweb
  obtain ⟨id,hr⟩ := row.categorized_release a.definition.categories
  have hlocal : row.localCategory = t.localCategory?.getD "" := hrow ▸ RowTexts.row_localCategory ..
  have hlink : (row.categorized a.definition.categories).release.link =
      (t.address? base.toText .download).getD "" := by
    rw [hr]
    exact hrow ▸ RowTexts.row_link ..
  have hguid : (row.categorized a.definition.categories).release.guid =
      (t.address? base.toText .details).getD (row.categorized a.definition.categories).release.link := by
    rw [hr]
    exact hrow ▸ RowTexts.row_guid _ _ _ hb
  have hcomments := (congrArg Release.comments hr).trans (hrow ▸ RowTexts.row_comments _ _ _ hb)
  have hfull : ∀ kind url, t.address? base.toText kind = some url → Web.Url.IsFull url.toList := by
    intro kind url h
    obtain ⟨f,-,-,hf⟩ := RowTexts.of_last?_eq_some h
    exact RowTexts.isFull_of_readAddress? hweb hf
  constructor
  case site => exact (congrArg Release.site hr).trans (hrow ▸ RowTexts.row_site ..)
  case title =>
    intro hf
    rw [hr]
    simpa [Agent.isUntitled,hf] using ht
  case link => exact hlink
  case guid => exact hguid
  case guid_ne =>
    refine guid_ne_of_hasIdentity (fun url h => ?_) hguid hi
    obtain ⟨f,-,-,hf⟩ := RowTexts.of_last?_eq_some h
    simpa using hb f.2 url hf
  case comments => exact hcomments
  case full =>
    have hlinkFull : (row.categorized a.definition.categories).release.link ≠ "" →
        Web.Url.IsFull (row.categorized a.definition.categories).release.link.toList := by
      rw [hlink]
      exact isFull_getD (hfull .download) (absurd rfl)
    intro address ha hne
    simp only [List.mem_cons,List.not_mem_nil,or_false] at ha
    rcases ha with rfl | rfl | rfl
    · exact hlinkFull hne
    · rw [hguid] at hne ⊢
      exact isFull_getD (hfull .details) hlinkFull hne
    · rw [hcomments] at hne ⊢
      refine isFull_getD (fun url hurl => ?_) (absurd rfl) hne
      rcases Option.or_eq_some_iff.mp hurl with h | ⟨-,h⟩
      · exact hfull .comments url h
      · obtain ⟨f,-,-,hf⟩ := RowTexts.of_first?_eq_some h
        exact RowTexts.isFull_of_readAddress? hweb hf
  case magnet => exact fun f _ hm => RowTexts.readAddress?_of_magnet hm
  case size =>
    rw [hr]
    exact hrow ▸ RowTexts.size_nonneg ..
  case peers => exact (congrArg Release.peers hr).trans (hrow ▸ RowTexts.row_peers ..)
  case mapped =>
    intro localId c h hne hc
    rw [h] at hlocal
    exact Row.category_of_mapped (hlocal ▸ hne) (hlocal ▸ hc)
  case custom =>
    intro localId n h hm hn
    rw [h] at hlocal
    exact Row.category_of_number (hlocal ▸ hm) (hlocal ▸ hn)
  case other =>
    intro h
    rw [Row.category_of_other,hrow,RowTexts.row_category]
    intro hne
    cases hc : t.localCategory? with
    | none => exact absurd (hlocal.trans (congrArg (·.getD "") hc)) hne
    | some localId =>
      rw [hc,Option.getD_some] at hlocal
      rw [hlocal] at hne ⊢
      exact h localId hc hne

namespace Agent
open Web (Session)

theorem hasIdentity_of_keep {a : Agent} {localIds : List String} {row : Row} {release : Release}
    (h : a.keep localIds row = some release) :
    (row.categorized a.definition.categories).hasIdentity = true ∧
      release = (row.categorized a.definition.categories).release := by
  unfold keep at h
  split at h
  · cases h
  dsimp only at h
  split at h
  next hi => exact ⟨hi,(Option.some.inj h).symm⟩
  · cases h

/-- Every release that a search gives is a well-formed one of a row of the page that it opened. -/
theorem search_isWellFormed {a : Agent} {q : Query} {s t : Session} {result : List Release}
    (h : s.run (a.search q) = (.ok result,t)) : ∃ places, s.run (a.resultRows q) = (.ok places,t) ∧
      ∀ release ∈ result, ∃ el ∈ places, ∃ texts, RowTexts.cut a.definition a.now el = .ok texts ∧
        release.IsWellFormed a.definition (t.url?.getD []) texts := by
  obtain ⟨places,hplaces,hcollect⟩ := run_search_eq_ok.mp h
  obtain ⟨base,hbase,hweb⟩ := url_of_resultRows hplaces
  refine ⟨places,hplaces,fun release hrelease => ?_⟩
  rw [hbase,Option.getD_some] at hcollect ⊢
  rw [collect_eq_gather] at hcollect
  rcases titled_of_gather hcollect hrelease with hf | ⟨row,hrow,htitle,hkeep⟩
  · cases hf
  obtain ⟨el,hel,hrow⟩ := List.mem_map.mp hrow
  obtain ⟨texts,htexts,hmade⟩ := RowTexts.cut_of_ofPlace hrow
  obtain ⟨hidentity,rfl⟩ := hasIdentity_of_keep hkeep
  exact ⟨el,hel,texts,htexts,isWellFormed_row hweb hmade htitle hidentity⟩

/-- An agent of a page with one row, which says neither its details nor a category that is known. -/
def unmapped : Agent := listing .category {} "<li><a href=/t>x</a><i>77</i></li>"

set_option maxRecDepth 100000 in
/-- The link of the row is its identifier, and its category a custom one. -/
theorem unmapped_row_isWellFormed : ∃ (result : List Release) (t : Session),
    ({} : Session).run (unmapped.search {}) = (.ok result,t) ∧
    result.map (fun r => (r.guid,r.category)) = [("https://s.org/t",100077)] ∧
    ∃ places, ({} : Session).run (unmapped.resultRows {}) = (.ok places,t) ∧
      ∀ release ∈ result, ∃ el ∈ places, ∃ texts,
        RowTexts.cut unmapped.definition unmapped.now el = .ok texts ∧
        release.IsWellFormed unmapped.definition (t.url?.getD []) texts := by
  have hresult : (({} : Session).run (unmapped.search {})).1.toOption.map
      (fun found => found.map fun r => (r.guid,r.category)) = some [("https://s.org/t",100077)] := by
    decide +kernel
  rcases h : ({} : Session).run (unmapped.search {}) with ⟨e | result,t⟩
  · rw [h] at hresult
    cases hresult
  · rw [h] at hresult
    exact ⟨result,t,rfl,Option.some.inj hresult,search_isWellFormed h⟩

end Agent

end TrackerHub
