import TrackerHub.Proofs.Number.Numeral
import TrackerHub.Proofs.Query.GatheredParams
import TrackerHub.Proofs.Web.FormText

/-! # Queries survive the wire

A query is written as one line in form encoding and read back as itself. A writer leaves out what
has its default and a reader starts from the defaults, so each part of the line sets its own field
and leaves the others alone.
-/
namespace TrackerHub.Query
open TrackerHub.Text TrackerHub.Numeral

/-- The query that pairs of names and values ask for. -/
def ofPairs (pairs : List (String × String)) : Except WireError Query :=
  ofParams (pairs.map fun p => (p.1,[p.2]))

/-- The queries whose numbers are short enough to be read back. -/
structure IsWritable (query : Query) : Prop where
  limit : IsShort query.limit
  offset : IsShort query.offset
  categories : ∀ id ∈ query.categories, IsShort id

def withType (query : Query) : Query :=
  { query with type := if query.type.isEmpty then "search" else query.type }

/-- Takes pairs of names and values over into a query. -/
def readPairs (query : Query) (pairs : List (String × String)) : Except WireError Query :=
  pairs.foldlM (fun query p => readParam query p.1 [p.2]) query

theorem ofPairs_of_nodup {pairs : List (String × String)} (h : (pairs.map (·.1)).Nodup) :
    ofPairs pairs = readPairs {} pairs := by
  have hm : ((pairs.map fun p => (p.1,[p.2])).map (·.1)).Nodup := by simpa [Function.comp_def] using h
  rw [ofPairs,ofParams,gather_of_nodup hm,List.foldlM_map]
  rfl

theorem readPairs_append {query next last : Query} {ps qs : List (String × String)}
    (hp : readPairs query ps = .ok next) (hq : readPairs next qs = .ok last) :
    readPairs query (ps ++ qs) = .ok last := by
  rw [readPairs,List.foldlM_append]
  change (readPairs query ps >>= fun r => readPairs r qs) = .ok last
  rw [hp]
  exact hq

/-- A part that is left out for a default changes nothing, and one that is written sets its field. -/
theorem readPairs_optional {query next : Query} {c : Prop} [Decidable c] {p : String × String}
    (hd : c → next = query) (hr : ¬c → readParam query p.1 [p.2] = .ok next) :
    readPairs query (if c then [] else [p]) = .ok next := by
  by_cases hc : c
  · rw [if_pos hc,hd hc]
    rfl
  · rw [if_neg hc,readPairs,List.foldlM_cons,hr hc]
    rfl

/-- The numbers of a category list are found again between its commas. -/
theorem readCategories_decimalInt {ids : List Int} (hne : ids ≠ []) (h : ∀ id ∈ ids, IsShort id) :
    readCategories (String.ofList (join [','] (ids.map decimalInt))) = .ok ids := by
  have hc : ∀ p ∈ ids.map decimalInt, ',' ∉ p := by
    intro p hp
    obtain ⟨id,_,rfl⟩ := List.mem_map.mp hp
    exact not_mem_decimalInt (by decide) (by decide) id
  rw [readCategories,String.toList_ofList,splitOn_join (by simpa using hne) hc]
  generalize refuse _ = fault
  clear hne hc
  induction ids with
  | nil => rfl
  | cons id rest ih =>
    have hr := ih (fun x hx => h x (List.mem_cons_of_mem id hx))
    rw [List.map_cons,List.mapM_cons,readInt_decimalInt (h id List.mem_cons_self),hr]
    rfl

theorem readNumber_decimalInt {n : Int} (h : IsShort n) (key : String) :
    readNumber key (String.ofList (decimalInt n)) = .ok n := by
  rw [readNumber,String.toList_ofList,readInt_decimalInt h]

/-- The names of the parameters that a query is written with, in their order. -/
theorem toPairs_names (query : Query) : (query.toPairs.map (·.1)).Sublist
    ["t","q","ep","season","offset","limit","extended","apikey","cat"] := by
  have part {c : Prop} [Decidable c] (p : String × String) :
      ((if c then [] else [p]).map (·.1)).Sublist [p.1] := by
    split <;> simp
  have flag : ((if query.extended then [("extended","1")] else []).map (·.1)).Sublist ["extended"] := by
    split <;> simp
  simp only [toPairs,List.map_append]
  exact ((((((((List.Sublist.refl ["t"]).append (part _)).append (part _)).append (part _)).append
    (part _)).append (part _)).append flag).append (part _)).append (part _)

/-- Reading the parameters of a query takes its fields over one after the other. -/
theorem readPairs_toPairs {query : Query} (h : query.IsWritable) :
    readPairs {} query.toPairs = .ok query.withType := by
  obtain ⟨type,q,season,ep,categories,limit,offset,extended,apikey⟩ := query
  obtain ⟨hl,ho,hc⟩ := h
  have empty {s : String} (hs : s.isEmpty = true) : s = "" := String.isEmpty_iff.mp hs
  have single (v : String) : String.ofList (join [' '] [v.toList]) = v := String.ofList_toList
  -- Each step takes one field over; the fields behind it have their defaults still.
  let named := if type.isEmpty then "search" else type
  have htype : readPairs {} [("t",named)] = .ok { type := named } := by
    simp [readPairs,readParam,singleValued,firstValue,Except.map]
  have hq : readPairs { type := named } (if q.isEmpty then [] else [("q",q)]) =
      .ok { type := named, q } := by
    refine readPairs_optional (fun hs => by rw [empty hs]) (fun _ => ?_)
    simp [readParam,singleValued,single]
  have hep : readPairs { type := named, q } (if ep.isEmpty then [] else [("ep",ep)]) =
      .ok { type := named, q, ep } := by
    refine readPairs_optional (fun hs => by rw [empty hs]) (fun _ => ?_)
    simp [readParam,singleValued,firstValue,Except.map]
  have hseason : readPairs { type := named, q, ep } (if season.isEmpty then [] else [("season",season)]) =
      .ok { type := named, q, ep, season } := by
    refine readPairs_optional (fun hs => by rw [empty hs]) (fun _ => ?_)
    simp [readParam,singleValued,firstValue,Except.map]
  have hoffset : readPairs { type := named, q, ep, season }
      (if offset = 0 then [] else [("offset",String.ofList (decimalInt offset))]) =
      .ok { type := named, q, ep, season, offset } := by
    refine readPairs_optional (fun hs => by rw [hs]) (fun _ => ?_)
    simp [readParam,singleValued,firstValue,readNumber_decimalInt ho,Except.bind,bind,pure,Except.pure]
  have hlimit : readPairs { type := named, q, ep, season, offset }
      (if limit = 0 then [] else [("limit",String.ofList (decimalInt limit))]) =
      .ok { type := named, q, ep, season, offset, limit } := by
    refine readPairs_optional (fun hs => by rw [hs]) (fun _ => ?_)
    simp [readParam,singleValued,firstValue,readNumber_decimalInt hl,Except.bind,bind,pure,Except.pure]
  have hextended : readPairs { type := named, q, ep, season, offset, limit }
      (if extended then [("extended","1")] else []) =
      .ok { type := named, q, ep, season, offset, limit, extended } := by
    cases extended with
    | false => rfl
    | true =>
      have hf : readFlag "1" = .ok true := rfl
      simp [readPairs,readParam,singleValued,firstValue,hf,Except.bind,bind,pure,Except.pure]
  have hapikey : readPairs { type := named, q, ep, season, offset, limit, extended }
      (if apikey.isEmpty then [] else [("apikey",apikey)]) =
      .ok { type := named, q, ep, season, offset, limit, extended, apikey } := by
    refine readPairs_optional (fun hs => by rw [empty hs]) (fun _ => ?_)
    simp [readParam,singleValued,firstValue,Except.map]
  have hcat : readPairs { type := named, q, ep, season, offset, limit, extended, apikey }
      (if categories.isEmpty then []
        else [("cat",String.ofList (join [','] (categories.map decimalInt)))]) =
      .ok { type := named, q, ep, season, offset, limit, extended, apikey, categories } := by
    refine readPairs_optional (fun hs => by rw [List.isEmpty_iff.mp hs]) (fun hs => ?_)
    have hr := readCategories_decimalInt (by simpa using hs) hc
    simp [readParam,singleValued,hr,bind,Except.bind,pure,Except.pure]
  exact readPairs_append (readPairs_append (readPairs_append (readPairs_append (readPairs_append
    (readPairs_append (readPairs_append (readPairs_append htype hq) hep) hseason) hoffset) hlimit)
    hextended) hapikey) hcat

theorem toPairs_values (query : Query) : ∀ p ∈ query.toPairs, p.2 ≠ "" := by
  have part {c : Prop} [Decidable c] {x p : String × String} (hp : p ∈ if c then [] else [x])
      (hx : ¬c → x.2 ≠ "") : p.2 ≠ "" := by
    split at hp
    · cases hp
    · next hc => exact List.mem_singleton.mp hp ▸ hx hc
  have text {s : String} (hs : ¬s.isEmpty = true) : s ≠ "" := fun he => hs (he ▸ rfl)
  have number (n : Int) : String.ofList (decimalInt n) ≠ "" := by
    simpa using decimalInt_ne_nil n
  have list (hs : ¬query.categories.isEmpty = true) :
      String.ofList (join [','] (query.categories.map decimalInt)) ≠ "" := by
    cases hc : query.categories with
    | nil => exact absurd (by rw [hc]; rfl) hs
    | cons id rest =>
      have hj := join_ne_nil [','] (decimalInt_ne_nil id) (rest.map decimalInt)
      simpa using hj
  intro p hp
  simp only [toPairs,List.mem_append] at hp
  rcases hp with (((((((hp | hp) | hp) | hp) | hp) | hp) | hp) | hp) | hp
  · rw [List.mem_singleton.mp hp]
    by_cases ht : query.type.isEmpty = true
    · simp [ht]
    · simpa [ht] using text ht
  · exact part hp text
  · exact part hp text
  · exact part hp text
  · exact part hp (fun _ => number _)
  · exact part hp (fun _ => number _)
  · split at hp
    · exact List.mem_singleton.mp hp ▸ by decide
    · cases hp
  · exact part hp text
  · exact part hp list

theorem ofPairs_encode {query : Query} (h : query.IsWritable) :
    ofPairs (Web.decodeForm false query.encode) = .ok query.withType := by
  have hn : (query.toPairs.map (·.1)).Nodup := (toPairs_names query).nodup (by decide)
  rw [encode,Web.decodeForm_encodeForm (toPairs_values query),ofPairs_of_nodup hn]
  exact readPairs_toPairs h

theorem withType_of_ne {query : Query} (h : query.type ≠ "") : query.withType = query := by
  have hs : query.type.isEmpty = false := by simpa using h
  simp [withType,hs]

/-- A query is read back from its line, and so no two queries with a type have the same line. -/
theorem ofPairs_decodeForm_encode (query : Query) (h : query.IsWritable) :
    ofPairs (Web.decodeForm false query.encode) = .ok query.withType ∧
      ∀ other : Query, other.IsWritable → query.type ≠ "" → other.type ≠ "" →
        other.encode = query.encode → other = query := by
  refine ⟨ofPairs_encode h,fun other ho ht hto he => ?_⟩
  have hq := ofPairs_encode h
  have hr := ofPairs_encode ho
  rw [he,hq,withType_of_ne ht,withType_of_ne hto] at hr
  exact (Except.ok.inj hr).symm

/-- Reserved characters, characters beyond ASCII and a negative number all survive, and the same
words with another season make another line. -/
theorem reserved_characters_survive :
    let query (season : String) : Query :=
      { type := "search", q := "a b&c=d+e%41,é€", season, categories := [5000,-3], limit := -7 }
    (query "2").IsWritable ∧ ofPairs (Web.decodeForm false (query "2").encode) = .ok (query "2") ∧
      (query "3").encode ≠ (query "2").encode := by
  intro query
  have hid : ∀ id ∈ [5000,(-3 : Int)], IsShort id := by
    intro id hid
    exact isShort_of_lt 4 (by revert id; decide) (by decide)
  have hw (season : String) : (query season).IsWritable :=
    ⟨(isShort_of_lt 1 (by decide) (by decide) : IsShort (-7)),
      (isShort_of_lt 1 (by decide) (by decide) : IsShort 0),hid⟩
  obtain ⟨hr,hi⟩ := ofPairs_decodeForm_encode (query "2") (hw "2")
  refine ⟨hw "2",hr,fun he => ?_⟩
  have hq := congrArg Query.season (hi (query "3") (hw "3") (by decide) (by decide) he)
  exact absurd hq (by decide)

end TrackerHub.Query
