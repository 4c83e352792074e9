import TrackerHub.Proofs.Query.WireParams
import TrackerHub.Proofs.Query.WireQuery
import TrackerHub.Query.Given

/-! # What becomes of given parameters

Pairs of names and values are a query or they are not, whatever the order in which the names come. What counts is
the order of the values of each name. Parameters as they are given are a query, or they are refused as incorrect.
Two kinds of them are neither: a number that is too long to be written, and a name that must have a value with an
empty list.
-/
namespace TrackerHub.Query
open TrackerHub.Text

/-! ## Pairs of names and values -/

/-- The values of a name in pairs, in their order. -/
def valuesIn (pairs : List (String × String)) (key : String) : List String :=
  (pairs.filter fun p => p.1 == key).map (·.2)

/-- The names with all their values. -/
def withValues (pairs : List (String × String)) : List (String × List String) :=
  (pairs.map (·.1)).eraseDups.map fun key => (key,valuesIn pairs key)

/-- Whether pairs can be read: none of the names that can have one value only stands in them twice, and
each value can be one of its name. -/
structure IsReadable (pairs : List (String × String)) : Prop where
  single : ∀ key ∈ singleValued, (pairs.map (·.1)).count key ≤ 1
  value : ∀ p ∈ pairs, IsValue p.1 p.2

section
variable {pairs : List (String × String)} {key : String}

theorem valuesOf_map : valuesOf (pairs.map fun p => (p.1,[p.2])) key = valuesIn pairs key := by
  rw [valuesOf,List.filter_map,List.flatMap_map,valuesIn,List.map_eq_flatMap]
  rfl

theorem gather_map : gather (pairs.map fun p => (p.1,[p.2])) = withValues pairs := by
  rw [gather_eq,List.map_map]
  exact List.map_congr_left fun key _ => congrArg (key,·) valuesOf_map

theorem ofPairs_eq_ok_iff {query : Query} : ofPairs pairs = .ok query ↔ Asks (valuesIn pairs) query := by
  have hvalues : ∀ p ∈ pairs.map (fun p => (p.1,[p.2])), p.2 ≠ [] :=
    List.forall_mem_map.mpr fun p _ => List.cons_ne_nil p.2 []
  have hsame : valuesOf (pairs.map fun p => (p.1,[p.2])) = valuesIn pairs := funext fun _ => valuesOf_map
  rw [ofPairs,ofParams_eq_ok_iff_of_values hvalues,hsame]

theorem mem_valuesIn {v : String} : v ∈ valuesIn pairs key ↔ (key,v) ∈ pairs := by
  simp [valuesIn]

theorem count_names : (pairs.map (·.1)).count key = (valuesIn pairs key).length := by
  rw [List.count_eq_countP,List.countP_map,List.countP_eq_length_filter,valuesIn,List.length_map]
  rfl

theorem valuesIn_ne_nil : valuesIn pairs key ≠ [] ↔ key ∈ pairs.map (·.1) := by
  rw [← List.length_pos_iff,← count_names,List.count_pos_iff]

/-- Pairs can be read just when all their names can be taken over. -/
theorem isReadable_iff : IsReadable pairs ↔ ∀ p ∈ withValues pairs, Takes p.1 p.2 := by
  rw [withValues,List.forall_mem_map]
  constructor
  · intro h key hkey
    refine ⟨fun hs => ?_,fun v hv => h.value (key,v) (mem_valuesIn.mp hv)⟩
    have hle := h.single key hs
    have hpos := List.count_pos_iff.mpr (List.mem_eraseDups.mp hkey)
    rw [count_names] at hle hpos
    exact Nat.le_antisymm hle hpos
  · intro h
    refine ⟨fun key hs => ?_,fun p hp => ?_⟩
    · by_cases hkey : key ∈ pairs.map (·.1)
      · rw [count_names]
        exact Nat.le_of_eq ((h key (List.mem_eraseDups.mpr hkey)).single hs)
      · rw [List.count_eq_zero.mpr hkey]
        exact Nat.zero_le 1
    · have hkey : p.1 ∈ pairs.map (·.1) := List.mem_map_of_mem hp
      exact (h p.1 (List.mem_eraseDups.mpr hkey)).value p.2 (mem_valuesIn.mpr hp)

/-- Pairs are read, or the client is told of an incorrect parameter. -/
theorem ofPairs_outcome (pairs : List (String × String)) :
    IsReadable pairs ∧ (∃ query, ofPairs pairs = .ok query) ∨
      ¬IsReadable pairs ∧ ∃ text, ofPairs pairs = .error (refuse text) := by
  rw [isReadable_iff,ofPairs,ofParams_eq,gather_map]
  rcases readAll_outcome {} (withValues pairs) with hread | ⟨before,key,values,after,error,hp,-,ho,herror⟩
  · exact .inl hread
  · have hmem : (key,values) ∈ withValues pairs := hp ▸ List.mem_append_right before List.mem_cons_self
    cases ho with
    | lacking hs hnone =>
      rw [withValues,List.mem_map] at hmem
      obtain ⟨name,hname,he⟩ := hmem
      obtain ⟨rfl,rfl⟩ := Prod.mk.inj he
      exact absurd hnone (valuesIn_ne_nil.mpr (List.mem_eraseDups.mp hname))
    | refused _ hnot => exact .inr ⟨fun h => hnot (h _ hmem),_,herror⟩

theorem toOption_congr {r r' : Except WireError Query} (h : ∀ query, r = .ok query ↔ r' = .ok query) :
    r.toOption = r'.toOption :=
  Option.ext fun query => toOption_eq_some.trans ((h query).trans toOption_eq_some.symm)

/-- The values of the known names decide what is read. -/
theorem ofPairs_congr {others : List (String × String)}
    (h : ∀ key ∈ known, valuesIn others key = valuesIn pairs key) :
    (ofPairs others).toOption = (ofPairs pairs).toOption := by
  refine toOption_congr fun query => ?_
  rw [ofPairs_eq_ok_iff,ofPairs_eq_ok_iff]
  exact ⟨fun hasks => hasks.congr h,fun hasks => hasks.congr fun key hkey => (h key hkey).symm⟩

/-- A mapping from the names to all their values says the same as the pairs. -/
theorem ofParams_withValues {params : List (String × List String)} (hperm : params.Perm (withValues pairs)) :
    (ofParams params).toOption = (ofPairs pairs).toOption := by
  have hgather : params.Perm (gather (pairs.map fun p => (p.1,[p.2]))) := gather_map ▸ hperm
  have hn : (params.map (·.1)).Nodup := (hgather.map (·.1)).nodup_iff.mpr nodup_gather_names
  have hsame : valuesOf params = valuesIn pairs := by
    funext key
    rw [valuesOf_perm hgather hn,valuesOf_gather,valuesOf_map]
  have hvalues : ∀ p ∈ params, p.2 ≠ [] := by
    intro p hp
    obtain ⟨key,hkey,rfl⟩ := List.mem_map.mp (hperm.mem_iff.mp hp)
    exact valuesIn_ne_nil.mpr (List.mem_eraseDups.mp hkey)
  refine toOption_congr fun query => ?_
  rw [ofParams_eq_ok_iff_of_values hvalues,ofPairs_eq_ok_iff,hsame]

theorem valuesIn_filter_known {key : String} (h : key ∈ known) :
    valuesIn (pairs.filter fun p => known.contains p.1) key = valuesIn pairs key := by
  rw [valuesIn,List.filter_filter,valuesIn]
  refine congrArg _ (List.filter_congr fun p _ => ?_)
  by_cases hp : p.1 = key <;> simp [hp,h]

end

/-- Pairs are a query just when they can be read, and any others are an incorrect parameter. The query is the
one that the values of each name ask for. So pairs in which each name has the same values in the same order
are the same query, and so is a mapping from the names to all their values; what other names have does not
matter. -/
theorem ofPairs_exact (pairs : List (String × String)) :
    ((∃ query, ofPairs pairs = .ok query) ↔ IsReadable pairs) ∧
    ((∃ error, ofPairs pairs = .error (.refused error) ∧ error.fault = .incorrectParameter ∧
      error.code = 201) ↔ ¬IsReadable pairs) ∧
    (∀ query, ofPairs pairs = .ok query ↔ Asks (valuesIn pairs) query) ∧
    (∀ others : List (String × String),
      (∀ key, others.filter (fun p => p.1 == key) = pairs.filter fun p => p.1 == key) →
      (ofPairs others).toOption = (ofPairs pairs).toOption) ∧
    (∀ params : List (String × List String), params.Perm (withValues pairs) →
      (ofParams params).toOption = (ofPairs pairs).toOption) ∧
    (∀ others : List (String × String),
      (others.filter fun p => known.contains p.1) = (pairs.filter fun p => known.contains p.1) →
      (ofPairs others).toOption = (ofPairs pairs).toOption) := by
  refine ⟨?_,?_,fun _ => ofPairs_eq_ok_iff,fun others h => ?_,fun _ => ofParams_withValues,
    fun others h => ?_⟩
  · rcases ofPairs_outcome pairs with ⟨hread,hok⟩ | ⟨hnot,text,herror⟩
    · exact iff_of_true hok hread
    · refine iff_of_false (fun ⟨query,hok⟩ => ?_) hnot
      rw [herror] at hok
      cases hok
  · rcases ofPairs_outcome pairs with ⟨hread,query,hok⟩ | ⟨hnot,text,herror⟩
    · refine iff_of_false (fun ⟨error,herror,_⟩ => ?_) (not_not_intro hread)
      rw [hok] at herror
      cases herror
    · exact iff_of_true ⟨_,herror,rfl,rfl⟩ hnot
  · exact ofPairs_congr fun key _ => congrArg (List.map Prod.snd) (h key)
  · exact ofPairs_congr fun key hkey => by rw [← valuesIn_filter_known hkey,h,valuesIn_filter_known hkey]

/-- Names in another order, a mapping and an unknown name: always the same query. -/
theorem same_query_in_other_forms :
    let query : Query :=
      { type := "search", q := "a b", categories := [5000,20,-3], limit := 10, extended := true }
    let pairs := [("cat","5000, 2_0"),("q","a"),("t","search"),("cat","-3"),("limit"," +10 "),("q","b"),
      ("extended","TRUE")]
    let others := [("t","search"),("extended","TRUE"),("q","a"),("q","b"),("limit"," +10 "),("cat","5000, 2_0"),
      ("cat","-3")]
    let params := [("q",["a","b"]),("cat",["5000, 2_0","-3"]),("limit",[" +10 "]),("t",["search"]),
      ("extended",["TRUE"])]
    ofPairs pairs = .ok query ∧ ofPairs others = .ok query ∧ ofParams params = .ok query ∧
      ofPairs (("color","red") :: pairs) = .ok query := by
  intro query pairs others params
  have hpairs : ofPairs pairs = .ok query := by decide +kernel
  have read {r : Except WireError Query} (h : r.toOption = (ofPairs pairs).toOption) : r = .ok query := by
    rw [hpairs] at h
    exact toOption_eq_some.mp h
  obtain ⟨-,-,-,horder,hmapping,hunknown⟩ := ofPairs_exact pairs
  refine ⟨hpairs,read (horder others fun key => ?_),read (hmapping params (by decide)),
    read (hunknown (("color","red") :: pairs) (by decide))⟩
  by_cases hkey : key ∈ pairs.map (·.1)
  · have hall : ∀ name ∈ pairs.map (·.1),
        others.filter (fun p => p.1 == name) = pairs.filter fun p => p.1 == name := by decide
    exact hall key hkey
  · have hnames : ∀ name ∈ others.map (·.1), name ∈ pairs.map (·.1) := by decide
    have hother : key ∉ others.map (·.1) := fun h => hkey (hnames key h)
    rw [filter_of_not_mem hkey,filter_of_not_mem hother]

/-! ## Given parameters -/

/-- Whether a value has no text. -/
def HasLongNumber (params : List (String × Value)) : Prop :=
  ∃ p ∈ params, ∃ v ∈ givenValues p.2, v.hasLongNumber = true

/-- Parameters with the texts of their values. -/
def plainTexts (params : List (String × Value)) : List (String × List String) :=
  params.map fun p => (p.1,(givenValues p.2).map Value.plainText)

/-- The texts that are given for a name, in their order. -/
def textsOf (params : List (String × Value)) (key : String) : List String :=
  ((params.filter fun p => p.1 == key).flatMap fun p => givenValues p.2).map Value.plainText

/-- Whether a name must have a value and has none, and every name that is given before it can be taken
over. -/
inductive LacksValue (params : List (String × Value)) (key : String) : Prop
  | intro {before after : List String} (hnames : params.map (·.1) = before ++ key :: after)
    (hfirst : key ∉ before) (hkey : key ∈ singleValued) (hnone : textsOf params key = [])
    (hbefore : ∀ name ∈ before, Takes name (textsOf params name))

/-- Whether the outcome is a refusal because of an incorrect parameter. -/
def IsIncorrect (outcome : Except GivenError Query) : Prop :=
  ∃ error, outcome = .error (.unread (.refused error)) ∧ error.fault = .incorrectParameter ∧ error.code = 201

section
variable {params : List (String × Value)}

theorem givenText_of_short {v : Value} (h : v.hasLongNumber = false) : givenText v = .ok v.plainText := by
  rw [givenText,h,if_neg Bool.false_ne_true]

theorem givenText_of_long {v : Value} (h : v.hasLongNumber = true) : givenText v = .error .longNumber := by
  rw [givenText,if_pos h]

theorem givenTexts_of_short (h : ¬HasLongNumber params) : givenTexts params = .ok (plainTexts params) := by
  refine mapM_eq_map fun p hp => ?_
  have hvalues : ∀ v ∈ givenValues p.2, givenText v = .ok v.plainText := fun v hv =>
    givenText_of_short (Bool.eq_false_iff.mpr fun hlong => h ⟨p,hp,v,hv,hlong⟩)
  rw [mapM_eq_map hvalues]
  rfl

theorem givenTexts_of_long (h : HasLongNumber params) : givenTexts params = .error .longNumber := by
  obtain ⟨p,hp,v,hv,hlong⟩ := h
  cases hr : givenTexts params with
  | ok texts =>
    obtain ⟨entry,he⟩ := exists_mapM_eq_ok.mp ⟨texts,hr⟩ p hp
    obtain ⟨us,hus,-⟩ := map_eq_ok.mp he
    obtain ⟨u,hu⟩ := exists_mapM_eq_ok.mp ⟨us,hus⟩ v hv
    rw [givenText_of_long hlong] at hu
    cases hu
  | error e =>
    obtain ⟨q,-,hq⟩ := exists_of_mapM_eq_error hr
    cases hvalues : (givenValues q.2).mapM givenText with
    | ok us =>
      rw [hvalues] at hq
      cases hq
    | error fault =>
      rw [hvalues] at hq
      cases hq
      obtain ⟨w,-,hw⟩ := exists_of_mapM_eq_error hvalues
      rw [givenText] at hw
      split at hw
      · cases hw
        rfl
      · cases hw

theorem ofGiven_of_long (h : HasLongNumber params) : ofGiven params = .error .longNumber := by
  rw [ofGiven,givenTexts_of_long h]
  rfl

theorem ofGiven_of_short (h : ¬HasLongNumber params) :
    ofGiven params = (ofParams (plainTexts params)).mapError .unread := by
  rw [ofGiven,givenTexts_of_short h]
  rfl

theorem valuesOf_plainTexts (key : String) : valuesOf (plainTexts params) key = textsOf params key := by
  rw [valuesOf,plainTexts,List.filter_map,List.flatMap_map,textsOf,List.map_flatMap]
  rfl

theorem names_plainTexts : (plainTexts params).map (·.1) = params.map (·.1) := by
  rw [plainTexts,List.map_map]
  rfl

/-- Just where the first name that cannot be taken over lacks its value, that is what is wrong. -/
theorem noValue_iff_lacksValue {key : String} :
    ofParams (plainTexts params) = .error (.noValue key) ↔ LacksValue params key := by
  rw [ofParams_eq_noValue_iff,gather_eq_append_iff,names_plainTexts]
  simp only [valuesOf_plainTexts]
  constructor
  · rintro ⟨hkey,before,after,hnames,hfirst,hnone,hbefore⟩
    exact .intro hnames hfirst hkey hnone hbefore
  · rintro ⟨hnames,hfirst,hkey,hnone,hbefore⟩
    exact ⟨hkey,_,_,hnames,hfirst,hnone,hbefore⟩

theorem ofGiven_eq_longNumber_iff : ofGiven params = .error .longNumber ↔ HasLongNumber params := by
  refine ⟨fun h => ?_,ofGiven_of_long⟩
  by_contra hshort
  rw [ofGiven_of_short hshort] at h
  cases hr : ofParams (plainTexts params) <;> rw [hr] at h <;> cases h

theorem ofGiven_eq_noValue_iff {key : String} :
    ofGiven params = .error (.unread (.noValue key)) ↔ ¬HasLongNumber params ∧ LacksValue params key := by
  by_cases hlong : HasLongNumber params
  · rw [ofGiven_of_long hlong]
    exact iff_of_false (fun h => by cases h) fun h => h.1 hlong
  · rw [ofGiven_of_short hlong,← noValue_iff_lacksValue]
    cases ofParams (plainTexts params) <;> simp [hlong,Except.mapError]

/-- What a client is told of a refusal, and of what is none. -/
theorem ofGiven_outcome (params : List (String × Value)) : (∃ query, ofGiven params = .ok query) ∨
    IsIncorrect (ofGiven params) ∨
    ofGiven params = .error .longNumber ∨ ∃ key, ofGiven params = .error (.unread (.noValue key)) := by
  by_cases hlong : HasLongNumber params
  · exact .inr (.inr (.inl (ofGiven_of_long hlong)))
  · rw [ofGiven_of_short hlong]
    rcases ofParams_outcome (plainTexts params) with ⟨query,h⟩ | ⟨key,h⟩ | ⟨text,h⟩ <;> rw [h]
    · exact .inl ⟨query,rfl⟩
    · exact .inr (.inr (.inr ⟨key,rfl⟩))
    · exact .inr (.inl ⟨_,rfl,rfl,rfl⟩)

theorem ofGiven_unforeseen_iff :
    (ofGiven params = .error .longNumber ∨ ∃ key, ofGiven params = .error (.unread (.noValue key))) ↔
      HasLongNumber params ∨ ∃ key, LacksValue params key := by
  simp only [ofGiven_eq_longNumber_iff,ofGiven_eq_noValue_iff,exists_and_left]
  by_cases hlong : HasLongNumber params <;> simp [hlong]

end

/-- Parameters are a query or are refused as incorrect, and are not reported as an unknown error, unless a
value is too long to be written or the first name that cannot be taken over lacks the value that it must
have. -/
theorem ofGiven_unknown_iff (params : List (String × Value)) :
    ((∃ query, ofGiven params = .ok query) ∨ IsIncorrect (ofGiven params) ↔
      ¬HasLongNumber params ∧ ∀ key, ¬LacksValue params key) ∧
    (ofGiven params = .error .longNumber ↔ HasLongNumber params) ∧
    (∀ key, ofGiven params = .error (.unread (.noValue key)) ↔
      ¬HasLongNumber params ∧ LacksValue params key) ∧
    ((∃ e, ofGiven params = .error e ∧ e.told.code = 900) ↔
      HasLongNumber params ∨ ∃ key, LacksValue params key) := by
  refine ⟨?_,ofGiven_eq_longNumber_iff,fun _ => ofGiven_eq_noValue_iff,?_⟩
  · rw [← not_exists,← not_or,← ofGiven_unforeseen_iff]
    rcases ofGiven_outcome params with ⟨query,h⟩ | ⟨error,h,hrest⟩ | h | ⟨key,h⟩ <;> rw [h]
    · exact iff_of_true (.inl ⟨query,rfl⟩) (by simp)
    · exact iff_of_true (.inr ⟨error,rfl,hrest⟩) (by simp)
    · exact iff_of_false (by simp [IsIncorrect]) (not_not_intro (.inl rfl))
    · exact iff_of_false (by simp [IsIncorrect]) (not_not_intro (.inr ⟨key,rfl⟩))
  · rw [← ofGiven_unforeseen_iff]
    rcases ofGiven_outcome params with ⟨query,h⟩ | ⟨error,h,hrest⟩ | h | ⟨key,h⟩ <;> rw [h]
    · simp
    · refine iff_of_false (fun ⟨e,he,hcode⟩ => ?_) (by simp)
      cases he
      exact absurd (hcode.symm.trans hrest.2) (by decide)
    · exact iff_of_true ⟨_,rfl,rfl⟩ (.inl rfl)
    · exact iff_of_true ⟨_,rfl,rfl⟩ (.inr ⟨key,rfl⟩)

/-- A name with an empty list is told as an unknown error, even where a later value is incorrect. -/
theorem empty_list_is_unknown :
    let params := [("q",.text "x"),("t",.list []),("limit",.text "ten")]
    ofGiven params = .error (.unread (.noValue "t")) ∧
      (∃ e, ofGiven params = .error e ∧ e.told.code = 900) ∧
      ¬((∃ query, ofGiven params = .ok query) ∨ IsIncorrect (ofGiven params)) := by
  intro params
  have hshort : ¬HasLongNumber params := by
    simp [HasLongNumber,params,givenValues,Value.hasLongNumber]
  have hq : ∀ name ∈ ["q"], Takes name (textsOf params name) := by
    rw [List.forall_mem_singleton]
    exact ⟨fun h => absurd h (by decide),fun v _ => isValue_of_not_mem (by decide) v⟩
  have hlacks : LacksValue params "t" :=
    @LacksValue.intro params "t" ["q"] ["limit"] rfl (by decide) (by decide) rfl hq
  obtain ⟨hincorrect,-,hnone,hunknown⟩ := ofGiven_unknown_iff params
  exact ⟨(hnone "t").mpr ⟨hshort,hlacks⟩,hunknown.mpr (.inr ⟨"t",hlacks⟩),
    fun h => (hincorrect.mp h).2 "t" hlacks⟩

/-! ## Texts -/

theorem ofGiven_texts (pairs : List (String × String)) :
    ofGiven (pairs.map fun p => (p.1,.text p.2)) = (ofPairs pairs).mapError .unread := by
  rw [ofGiven_of_short (by simp [HasLongNumber,givenValues,Value.hasLongNumber]),plainTexts,List.map_map]
  rfl

theorem ofGiven_lists (params : List (String × List String)) :
    ofGiven (params.map fun p => (p.1,.list (p.2.map .text))) = (ofParams params).mapError .unread := by
  rw [ofGiven_of_short (by simp [HasLongNumber,givenValues,Value.hasLongNumber]),plainTexts,List.map_map]
  simp [Function.comp_def,givenValues,Value.plainText]

end TrackerHub.Query
