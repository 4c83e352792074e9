import TrackerHub.Proofs.Query.GatheredParams
import TrackerHub.Proofs.ReadLists
import TrackerHub.Proofs.Text.LowerCase

/-! # What parameters ask for

A parameter is taken over, or it is refused, whatever the query holds by then. So a query is read of
parameters just when each name with all its values can be taken over, and each name has set a part of
the query that no other name touches.
-/
namespace TrackerHub.Query
open TrackerHub.Text TrackerHub.Numeral

/-- Whether a text can be a value of a parameter. -/
structure IsValue (key value : String) : Prop where
  number : key = "limit" ∨ key = "offset" → ∃ n, Writes value.toList n
  flag : key = "extended" → ∃ flag, WritesFlag value flag
  categories : key = "cat" → ∀ part ∈ splitOn ',' value.toList, ∃ n, Writes part n

/-- Whether a parameter can be taken over with its values. -/
structure Takes (key : String) (values : List String) : Prop where
  single : key ∈ singleValued → values.length = 1
  value : ∀ v ∈ values, IsValue key v

/-- What a name can have that has one value: this value, or what stands without any. -/
def Single {α : Type} (reads : String → α → Prop) (default : α) : List String → α → Prop
  | [],x => x = default
  | [v],x => reads v x
  | _,_ => False

/-- Whether a comma-separated list writes these categories. -/
def WritesCategories (value : String) (ids : List Int) : Prop :=
  List.Forall₂ Writes (splitOn ',' value.toList) ids

/-- What the values of a name say of a query. -/
structure Sets (key : String) (values : List String) (query : Query) : Prop where
  type : key = "t" → Single Eq "" values query.type
  q : key = "q" → query.q = " ".intercalate values
  ep : key = "ep" → Single Eq "" values query.ep
  season : key = "season" → Single Eq "" values query.season
  apikey : key = "apikey" → Single Eq "" values query.apikey
  limit : key = "limit" → Single (fun v n => Writes v.toList n) 0 values query.limit
  offset : key = "offset" → Single (fun v n => Writes v.toList n) 0 values query.offset
  extended : key = "extended" → Single WritesFlag false values query.extended
  categories : key = "cat" →
    ∃ lists, List.Forall₂ WritesCategories values lists ∧ query.categories = lists.flatten

/-- Whether a query is the one that is asked for, with the given values of each name. -/
def Asks (values : String → List String) (query : Query) : Prop := ∀ key, Sets key (values key) query

/-! ## Values that are read -/

/-- Whatever is wrong is a refusal. -/
def Refuses {α : Type} (r : Except WireError α) : Prop := ∀ e, r = .error e → ∃ text, e = refuse text

section
variable {key value : String}

theorem readNumber_eq_ok_iff {n : Int} : readNumber key value = .ok n ↔ Writes value.toList n := by
  rw [← readInt_eq_ok_iff,readNumber]
  cases readInt value.toList <;> simp

theorem readNumber_refuses : Refuses (readNumber key value) := by
  intro e he
  rw [readNumber] at he
  split at he
  · cases he
  · exact ⟨_,(Except.error.inj he).symm⟩

theorem readFlag_refuses : Refuses (readFlag value) := by
  intro e he
  rw [readFlag] at he
  split_ifs at he
  exact ⟨_,(Except.error.inj he).symm⟩

/-- The part of a list that is read as a category. -/
theorem readPart_eq_ok_iff {part : Chars} {n : Int} {e : WireError} :
    (match readInt part with | .ok n => .ok n | .error _ => .error e : Except WireError Int) = .ok n ↔
      Writes part n := by
  rw [← readInt_eq_ok_iff]
  cases readInt part <;> simp

theorem readCategories_eq_ok_iff {ids : List Int} :
    readCategories value = .ok ids ↔ WritesCategories value ids := by
  rw [readCategories,mapM_eq_ok_iff,WritesCategories]
  exact iff_of_eq (congrArg (List.Forall₂ · _ ids) (funext₂ fun _ _ => propext readPart_eq_ok_iff))

theorem exists_categories : (∃ ids, readCategories value = .ok ids) ↔
    ∀ part ∈ splitOn ',' value.toList, ∃ n, Writes part n :=
  exists_mapM_eq_ok.trans (forall₂_congr fun _ _ => exists_congr fun _ => readPart_eq_ok_iff)

theorem readCategories_refuses : Refuses (readCategories value) := by
  intro e he
  obtain ⟨part,_,hpart⟩ := exists_of_mapM_eq_error he
  split at hpart
  · cases hpart
  · exact ⟨_,(Except.error.inj hpart).symm⟩

end

/-! ## One parameter -/

/-- What comes of a parameter. -/
inductive Outcome (key : String) (values : List String) : Except WireError Query → Prop
  | taken {next} (h : Takes key values) : Outcome key values (.ok next)
  | lacking (hkey : key ∈ singleValued) (hnone : values = []) : Outcome key values (.error (.noValue key))
  | refused {text} (hsome : key ∈ singleValued → values ≠ []) (h : ¬Takes key values) :
    Outcome key values (.error (refuse text))

section
variable {α : Type} {key : String} {values : List String}

/-- A single value makes a parameter just when it can be read. -/
theorem outcome_single {v : String} {r : Except WireError α} {set : α → Query}
    (hread : (∃ x, r = .ok x) ↔ IsValue key v) (hrefuses : Refuses r) :
    Outcome key [v] (r >>= fun x => pure (set x)) := by
  cases hr : r with
  | ok x =>
    have hv := hread.mp ⟨x,hr⟩
    exact .taken ⟨fun _ => rfl,by simpa using hv⟩
  | error e =>
    obtain ⟨text,rfl⟩ := hrefuses e hr
    refine .refused (fun _ => List.cons_ne_nil v []) fun h => ?_
    obtain ⟨x,hx⟩ := hread.mpr (h.value v List.mem_cons_self)
    rw [hr] at hx
    cases hx

theorem outcome_first (hkey : key ∈ singleValued) (hfew : values.length ≤ 1)
    {read : String → Except WireError α} {set : α → Query}
    (hread : ∀ v, (∃ x, read v = .ok x) ↔ IsValue key v) (hrefuses : ∀ v, Refuses (read v)) :
    Outcome key values ((firstValue key values).bind read >>= fun x => pure (set x)) := by
  cases values with
  | nil => exact .lacking hkey rfl
  | cons v rest =>
    obtain rfl : rest = [] := List.length_eq_zero_iff.mp (by simpa using hfew)
    exact outcome_single (hread v) (hrefuses v)

/-- Of some parameters any text can be the value. -/
theorem isValue_of_not_mem (h : key ∉ ["limit","offset","extended","cat"]) (v : String) : IsValue key v := by
  constructor
  · rintro (rfl | rfl) <;> exact absurd (by decide) h
  · rintro rfl
    exact absurd (by decide) h
  · rintro rfl
    exact absurd (by decide) h

theorem outcome_text (hkey : key ∈ singleValued) (hfew : values.length ≤ 1)
    (htext : key ∉ ["limit","offset","extended","cat"]) {set : String → Query} :
    Outcome key values ((firstValue key values).map set) := by
  have h : Outcome key values ((firstValue key values).bind .ok >>= fun v => pure (set v)) :=
    outcome_first hkey hfew (fun v => iff_of_true ⟨v,rfl⟩ (isValue_of_not_mem htext v))
      fun _ _ he => by cases he
  cases values with
  | nil => exact h
  | cons v rest => exact h

section
variable {v : String}

theorem exists_readNumber (hkey : key = "limit" ∨ key = "offset") :
    (∃ n, readNumber key v = .ok n) ↔ IsValue key v := by
  simp only [readNumber_eq_ok_iff]
  refine ⟨fun h => ⟨fun _ => h,?_,?_⟩,fun h => h.number hkey⟩ <;> rcases hkey with rfl | rfl <;> simp

theorem exists_readFlag : (∃ flag, readFlag v = .ok flag) ↔ IsValue "extended" v := by
  simp only [readFlag_eq_ok_iff]
  exact ⟨fun h => ⟨by simp,fun _ => h,by simp⟩,fun h => h.flag rfl⟩

theorem exists_readCategories : (∃ ids, readCategories v = .ok ids) ↔ IsValue "cat" v :=
  exists_categories.trans ⟨fun h => ⟨by simp,by simp,fun _ => h⟩,fun h => h.categories rfl⟩

end

/-- Lists of categories can be taken over together just when each of them can be read. -/
theorem outcome_categories {set : List (List Int) → Query} :
    Outcome "cat" values (values.mapM readCategories >>= fun ids => pure (set ids)) := by
  cases h : values.mapM readCategories with
  | ok lists =>
    have hall := exists_mapM_eq_ok.mp ⟨lists,h⟩
    exact .taken ⟨fun hkey => absurd hkey (by decide),fun v hv => exists_readCategories.mp (hall v hv)⟩
  | error e =>
    obtain ⟨v,hv,he⟩ := exists_of_mapM_eq_error h
    obtain ⟨text,rfl⟩ := readCategories_refuses e he
    refine .refused (fun hkey => absurd hkey (by decide)) fun ht => ?_
    obtain ⟨ids,hids⟩ := exists_readCategories.mpr (ht.value v hv)
    rw [he] at hids
    cases hids

end

/-- What comes of a parameter does not depend on the query. -/
theorem readParam_outcome (query : Query) (key : String) (values : List String) :
    Outcome key values (readParam query key values) := by
  unfold readParam
  split_ifs with hmany
  · rw [Bool.and_eq_true,List.contains_iff_mem,decide_eq_true_eq] at hmany
    refine .refused (fun _ hnone => ?_) fun h => ?_
    · simp [hnone] at hmany
    · have := h.single hmany.1
      omega
  · rw [Bool.and_eq_true,List.contains_iff_mem,decide_eq_true_eq] at hmany
    have hfew (hkey : key ∈ singleValued) : values.length ≤ 1 :=
      Nat.le_of_not_lt fun h => hmany ⟨hkey,h⟩
    -- one case for each known name, and the last one for all others
    split
    · exact outcome_text (by decide) (hfew (by decide)) (by decide)
    · exact .taken ⟨fun h => absurd h (by decide),fun v _ => isValue_of_not_mem (by decide) v⟩
    · exact outcome_text (by decide) (hfew (by decide)) (by decide)
    · exact outcome_text (by decide) (hfew (by decide)) (by decide)
    · exact outcome_text (by decide) (hfew (by decide)) (by decide)
    · exact outcome_first (by decide) (hfew (by decide)) (fun _ => exists_readNumber (.inl rfl))
        fun _ => readNumber_refuses
    · exact outcome_first (by decide) (hfew (by decide)) (fun _ => exists_readNumber (.inr rfl))
        fun _ => readNumber_refuses
    · exact outcome_first (by decide) (hfew (by decide)) (fun _ => exists_readFlag) fun _ => readFlag_refuses
    · exact outcome_categories
    next ht hq hep hseason hapikey hlimit hoffset hextended hcat =>
      have hother : key ∉ singleValued := by
        simpa [singleValued] using ⟨ht,hep,hseason,hapikey,hlimit,hoffset,hextended⟩
      have htext : key ∉ ["limit","offset","extended","cat"] := by
        simpa using ⟨hlimit,hoffset,hextended,hcat⟩
      exact .taken ⟨fun h => absurd h hother,fun v _ => isValue_of_not_mem htext v⟩

/-! ## The query -/

/-- The names of the parameters that are taken over. -/
def known : List String := singleValued ++ ["q","cat"]

/-- What a parameter makes of a query. -/
inductive Change (query : Query) : String → List String → Query → Prop
  | type {v} : Change query "t" [v] { query with type := v }
  | q {values} : Change query "q" values { query with q := " ".intercalate values }
  | ep {v} : Change query "ep" [v] { query with ep := v }
  | season {v} : Change query "season" [v] { query with season := v }
  | apikey {v} : Change query "apikey" [v] { query with apikey := v }
  | limit {v n} (h : Writes v.toList n) : Change query "limit" [v] { query with limit := n }
  | offset {v n} (h : Writes v.toList n) : Change query "offset" [v] { query with offset := n }
  | extended {v flag} (h : WritesFlag v flag) : Change query "extended" [v] { query with extended := flag }
  | categories {values lists} (h : List.Forall₂ WritesCategories values lists) :
    Change query "cat" values { query with categories := lists.flatten }
  | other {key values} (h : key ∉ known) : Change query key values query

theorem ofList_join (values : List String) :
    String.ofList (join [' '] (values.map String.toList)) = " ".intercalate values := by
  rw [← String.toList_inj,String.toList_ofList,String.toList_intercalate]
  induction values with
  | nil => rfl
  | cons v rest ih =>
    cases rest with
    | nil => simp [join]
    | cons w rest =>
      rw [List.map_cons,List.map_cons,join,List.intercalate_cons_cons,← List.map_cons,ih]
      rfl

section
variable {query next : Query} {key : String} {values : List String}

theorem change_of_readParam (h : readParam query key values = .ok next) : Change query key values next := by
  have hone (hkey : key ∈ singleValued) : ∃ v, values = [v] := by
    have ho := readParam_outcome query key values
    rw [h] at ho
    cases ho with
    | taken ht => exact List.length_eq_one_iff.mp (ht.single hkey)
  unfold readParam at h
  split_ifs at h
  -- one case for each known name, and the last one for all others
  split at h
  · obtain ⟨v,rfl⟩ := hone (by decide)
    cases h
    exact .type
  · cases h
    rw [ofList_join]
    exact .q
  · obtain ⟨v,rfl⟩ := hone (by decide)
    cases h
    exact .ep
  · obtain ⟨v,rfl⟩ := hone (by decide)
    cases h
    exact .season
  · obtain ⟨v,rfl⟩ := hone (by decide)
    cases h
    exact .apikey
  · obtain ⟨v,rfl⟩ := hone (by decide)
    obtain ⟨n,hn,he⟩ := bind_eq_ok.mp h
    cases he
    exact .limit (readNumber_eq_ok_iff.mp hn)
  · obtain ⟨v,rfl⟩ := hone (by decide)
    obtain ⟨n,hn,he⟩ := bind_eq_ok.mp h
    cases he
    exact .offset (readNumber_eq_ok_iff.mp hn)
  · obtain ⟨v,rfl⟩ := hone (by decide)
    obtain ⟨flag,hf,he⟩ := bind_eq_ok.mp h
    cases he
    exact .extended (readFlag_eq_ok_iff.mp hf)
  · obtain ⟨lists,hl,he⟩ := bind_eq_ok.mp h
    cases he
    exact .categories ((mapM_eq_ok_iff.mp hl).imp fun _ _ => readCategories_eq_ok_iff.mp)
  next ht hq hep hseason hapikey hlimit hoffset hextended hcat =>
    cases h
    exact .other (by simpa [known,singleValued] using
      ⟨ht,hep,hseason,hapikey,hlimit,hoffset,hextended,hq,hcat⟩)

/-- The values of a name that is not taken over say nothing. -/
theorem sets_of_not_mem (h : key ∉ known) : Sets key values query := by
  constructor <;> rintro rfl <;> exact absurd (by decide) h

theorem Asks.congr {given others : String → List String} (h : Asks given query)
    (hsame : ∀ name ∈ known, given name = others name) : Asks others query := by
  intro name
  by_cases hname : name ∈ known
  · exact hsame name hname ▸ h name
  · exact sets_of_not_mem hname

theorem Change.sets (h : Change query key values next) : Sets key values next := by
  cases h with
  | other h => exact sets_of_not_mem h
  | categories h => refine ⟨?_,?_,?_,?_,?_,?_,?_,?_,fun _ => ⟨_,h,rfl⟩⟩ <;> simp
  | limit h | offset h | extended h => constructor <;> simp [Single,h]
  | type | q | ep | season | apikey => constructor <;> simp [Single]

/-- Each name has its own part of the query. -/
theorem Change.frame (h : Change query key values next) {name : String} (hne : name ≠ key)
    {given : List String} (hs : Sets name given query) : Sets name given next := by
  cases h with
  | type => exact { hs with type := fun he => absurd he hne }
  | q => exact { hs with q := fun he => absurd he hne }
  | ep => exact { hs with ep := fun he => absurd he hne }
  | season => exact { hs with season := fun he => absurd he hne }
  | apikey => exact { hs with apikey := fun he => absurd he hne }
  | limit => exact { hs with limit := fun he => absurd he hne }
  | offset => exact { hs with offset := fun he => absurd he hne }
  | extended => exact { hs with extended := fun he => absurd he hne }
  | categories => exact { hs with categories := fun he => absurd he hne }
  | other => exact hs

end

/-! ## All parameters -/

/-- Takes parameters over into a query. -/
def readAll (query : Query) (params : List (String × List String)) : Except WireError Query :=
  params.foldlM (fun query p => readParam query p.1 p.2) query

theorem ofParams_eq (params : List (String × List String)) :
    ofParams params = readAll {} (gather params) := rfl

theorem readAll_cons (query : Query) (p : String × List String) (params : List (String × List String)) :
    readAll query (p :: params) = readParam query p.1 p.2 >>= fun next => readAll next params :=
  List.foldlM_cons

theorem readAll_append (query : Query) (params others : List (String × List String)) :
    readAll query (params ++ others) = readAll query params >>= fun next => readAll next others :=
  List.foldlM_append

theorem readAll_concat (query : Query) (p : String × List String) (params : List (String × List String)) :
    readAll query (params ++ [p]) = readAll query params >>= fun next => readParam next p.1 p.2 := by
  rw [readAll_append]
  exact bind_congr fun next => (readAll_cons next p []).trans (bind_pure _)

/-- All parameters are taken over, or the first one that cannot be taken over says what is wrong. -/
theorem readAll_outcome (query : Query) (params : List (String × List String)) :
    (∀ p ∈ params, Takes p.1 p.2) ∧ (∃ next, readAll query params = .ok next) ∨
    ∃ before key values after error, params = before ++ (key,values) :: after ∧
      (∀ p ∈ before, Takes p.1 p.2) ∧ Outcome key values (.error error) ∧
      readAll query params = .error error := by
  induction params generalizing query with
  | nil => exact .inl ⟨List.forall_mem_nil _,query,rfl⟩
  | cons p params ih =>
    have hp := readParam_outcome query p.1 p.2
    rw [readAll_cons]
    cases hr : readParam query p.1 p.2 with
    | error error =>
      rw [hr] at hp
      exact .inr ⟨[],p.1,p.2,params,error,rfl,List.forall_mem_nil _,hp,rfl⟩
    | ok next =>
      rw [hr] at hp
      obtain ⟨ht⟩ := hp
      rcases ih next with ⟨hall,last,hlast⟩ | ⟨before,key,values,after,error,rfl,hall,ho,herror⟩
      · exact .inl ⟨List.forall_mem_cons.mpr ⟨ht,hall⟩,last,hlast⟩
      · have htaken : ∀ e ∈ p :: before, Takes e.1 e.2 := List.forall_mem_cons.mpr ⟨ht,hall⟩
        exact .inr ⟨p :: before,key,values,after,error,rfl,htaken,ho,herror⟩

theorem exists_readAll {params : List (String × List String)} (h : ∀ p ∈ params, Takes p.1 p.2)
    (query : Query) : ∃ next, readAll query params = .ok next := by
  rcases readAll_outcome query params with ⟨-,hread⟩ | ⟨before,key,values,after,error,hp,-,ho,-⟩
  · exact hread
  · have ht : Takes key values := h (key,values) (hp ▸ List.mem_append_right before List.mem_cons_self)
    cases ho with
    | lacking hkey hnone =>
      have := ht.single hkey
      rw [hnone] at this
      cases this
    | refused _ hnot => exact absurd ht hnot

/-- A name that must have a value and has none ends the reading. -/
theorem readParam_nil (query : Query) {key : String} (h : key ∈ singleValued) :
    readParam query key [] = .error (.noValue key) := by
  have ho := readParam_outcome query key []
  cases hr : readParam query key [] with
  | ok next =>
    rw [hr] at ho
    obtain ⟨ht⟩ := ho
    exact absurd (ht.single h) (by simp)
  | error error =>
    rw [hr] at ho
    cases ho with
    | lacking => rfl
    | refused hsome => exact absurd rfl (hsome h)

theorem asks_nothing : Asks (fun _ => []) {} :=
  fun _ => ⟨fun _ => rfl,fun _ => rfl,fun _ => rfl,fun _ => rfl,fun _ => rfl,fun _ => rfl,fun _ => rfl,
    fun _ => rfl,fun _ => ⟨[],.nil,rfl⟩⟩

/-- The query that is read is the one that is asked for. -/
theorem asks_of_readAll {params : List (String × List String)} {query : Query}
    (hn : (params.map (·.1)).Nodup) (h : readAll {} params = .ok query) : Asks (valuesOf params) query := by
  induction params using List.reverseRecOn generalizing query with
  | nil =>
    cases h
    exact asks_nothing
  | append_singleton params p ih =>
    rw [readAll_concat,bind_eq_ok] at h
    obtain ⟨before,hbefore,hp⟩ := h
    rw [List.map_append,List.nodup_append] at hn
    have hnew : p.1 ∉ params.map (·.1) := fun hm => hn.2.2 p.1 hm p.1 (by simp) rfl
    have hchange := change_of_readParam hp
    intro key
    rw [valuesOf_concat]
    split_ifs with hkey
    · subst hkey
      rw [valuesOf_of_not_mem hnew]
      exact hchange.sets
    · exact hchange.frame (Ne.symm hkey) (ih hn.1 hbefore key)

section
variable {α : Type} {reads : String → α → Prop} {default x y : α} {values : List String}

theorem Single.unique (hx : Single reads default values x) (hy : Single reads default values y)
    (hreads : ∀ v x y, reads v x → reads v y → x = y) : x = y := by
  match values with
  | [] => exact Eq.trans hx hy.symm
  | [v] => exact hreads v x y hx hy
  | _ :: _ :: _ => exact hx.elim

theorem Single.eq_of_text {x y : String} (hx : Single Eq "" values x) (hy : Single Eq "" values y) : x = y :=
  hx.unique hy fun _ _ _ h h' => h.symm.trans h'

theorem Single.length_le (h : Single reads default values x) : values.length ≤ 1 := by
  match values with
  | [] => exact Nat.zero_le 1
  | [v] => exact Nat.le_refl 1
  | _ :: _ :: _ => exact h.elim

theorem Single.of_mem (h : Single reads default values x) {v : String} (hv : v ∈ values) : reads v x := by
  match values with
  | [] => cases hv
  | [w] => exact List.mem_singleton.mp hv ▸ h
  | _ :: _ :: _ => exact h.elim

end

section
variable {key : String} {values : List String} {query other : Query}

theorem writes_unique {s : Chars} {n m : Int} (hn : Writes s n) (hm : Writes s m) : n = m :=
  Except.ok.inj ((readInt_eq_ok_iff.mpr hn).symm.trans (readInt_eq_ok_iff.mpr hm))

theorem writesFlag_unique {v : String} {flag flag' : Bool} (h : WritesFlag v flag) (h' : WritesFlag v flag') :
    flag = flag' :=
  Except.ok.inj ((readFlag_eq_ok_iff.mpr h).symm.trans (readFlag_eq_ok_iff.mpr h'))

theorem forall₂_writesCategories {lists : List (List Int)} :
    List.Forall₂ WritesCategories values lists ↔ values.mapM readCategories = .ok lists := by
  rw [mapM_eq_ok_iff]
  have heq : WritesCategories = fun v ids => readCategories v = .ok ids :=
    funext₂ fun _ _ => propext readCategories_eq_ok_iff.symm
  rw [heq]

/-- At most one query is asked for. -/
theorem Asks.unique {given : String → List String} (h : Asks given query) (hother : Asks given other) :
    query = other := by
  have htype := ((h "t").type rfl).eq_of_text ((hother "t").type rfl)
  have hq := ((h "q").q rfl).trans ((hother "q").q rfl).symm
  have hep := ((h "ep").ep rfl).eq_of_text ((hother "ep").ep rfl)
  have hseason := ((h "season").season rfl).eq_of_text ((hother "season").season rfl)
  have hapikey := ((h "apikey").apikey rfl).eq_of_text ((hother "apikey").apikey rfl)
  have hlimit := ((h "limit").limit rfl).unique ((hother "limit").limit rfl) fun _ _ _ => writes_unique
  have hoffset := ((h "offset").offset rfl).unique ((hother "offset").offset rfl) fun _ _ _ => writes_unique
  have hextended := ((h "extended").extended rfl).unique ((hother "extended").extended rfl) fun _ _ _ =>
    writesFlag_unique
  have hcategories : query.categories = other.categories := by
    obtain ⟨lists,hl,he⟩ := (h "cat").categories rfl
    obtain ⟨lists',hl',he'⟩ := (hother "cat").categories rfl
    rw [forall₂_writesCategories] at hl hl'
    rw [he,he',Except.ok.inj (hl.symm.trans hl')]
  cases query
  cases other
  exact (Query.mk.injEq ..).mpr ⟨htype,hq,hseason,hep,hcategories,hlimit,hoffset,hextended,hapikey⟩

theorem Sets.length_le (h : Sets key values query) (hkey : key ∈ singleValued) : values.length ≤ 1 := by
  simp only [singleValued,List.mem_cons,List.not_mem_nil,or_false] at hkey
  rcases hkey with hk | hk | hk | hk | hk | hk | hk
  · exact (h.type hk).length_le
  · exact (h.ep hk).length_le
  · exact (h.season hk).length_le
  · exact (h.apikey hk).length_le
  · exact (h.limit hk).length_le
  · exact (h.offset hk).length_le
  · exact (h.extended hk).length_le

/-- Values that say something of a query can be taken over. -/
theorem Sets.takes (h : Sets key values query) (hne : key ∈ singleValued → values ≠ []) :
    Takes key values where
  single hkey := by
    have := h.length_le hkey
    have := List.length_pos_iff.mpr (hne hkey)
    omega
  value v hv := by
    refine ⟨fun hk => ?_,fun hk => ⟨_,(h.extended hk).of_mem hv⟩,fun hk => ?_⟩
    · rcases hk with hk | hk
      · exact ⟨_,(h.limit hk).of_mem hv⟩
      · exact ⟨_,(h.offset hk).of_mem hv⟩
    · obtain ⟨lists,hl,-⟩ := h.categories hk
      have hall := exists_mapM_eq_ok.mp ⟨lists,forall₂_writesCategories.mp hl⟩
      exact exists_categories.mp (hall v hv)

end

/-- A query is read of parameters just when it is the one that is asked for and each name that must have
a value has one. -/
theorem ofParams_eq_ok_iff {params : List (String × List String)} {query : Query} :
    ofParams params = .ok query ↔ Asks (valuesOf params) query ∧
      ∀ key ∈ params.map (·.1), key ∈ singleValued → valuesOf params key ≠ [] := by
  have hgiven : valuesOf (gather params) = valuesOf params := funext valuesOf_gather
  rw [ofParams_eq]
  rcases readAll_outcome {} (gather params) with
    ⟨hall,next,hnext⟩ | ⟨before,key,values,after,error,hp,-,ho,herror⟩
  · have hasks := asks_of_readAll nodup_gather_names hnext
    rw [hgiven] at hasks
    constructor
    · intro h
      rw [hnext] at h
      cases h
      refine ⟨hasks,fun key hkey hs hnone => ?_⟩
      have := (hall _ (mem_gather.mpr ⟨hkey,rfl⟩)).single hs
      rw [hnone] at this
      cases this
    · rintro ⟨h,-⟩
      rw [hnext,hasks.unique h]
  · have hmem : (key,values) ∈ gather params := hp ▸ List.mem_append_right before List.mem_cons_self
    obtain ⟨hkey,rfl⟩ := mem_gather.mp hmem
    rw [herror]
    refine iff_of_false (fun h => by cases h) fun ⟨hasks,hne⟩ => ?_
    cases ho with
    | lacking hs hnone => exact hne key hkey hs hnone
    | refused _ hnot => exact hnot ((hasks key).takes (hne key hkey))

theorem ofParams_outcome (params : List (String × List String)) :
    (∃ query, ofParams params = .ok query) ∨ (∃ key, ofParams params = .error (.noValue key)) ∨
      ∃ text, ofParams params = .error (refuse text) := by
  rw [ofParams_eq]
  rcases readAll_outcome {} (gather params) with ⟨-,hread⟩ | ⟨_,key,_,_,_,-,-,ho,herror⟩
  · exact .inl hread
  · cases ho with
    | lacking => exact .inr (.inl ⟨key,herror⟩)
    | refused => exact .inr (.inr ⟨_,herror⟩)

/-- Reading ends at a name without a value just where every name before it can be taken over. -/
theorem ofParams_eq_noValue_iff {params : List (String × List String)} {key : String} :
    ofParams params = .error (.noValue key) ↔ key ∈ singleValued ∧
      ∃ front back, gather params = front ++ (key,[]) :: back ∧ ∀ p ∈ front, Takes p.1 p.2 := by
  rw [ofParams_eq]
  constructor
  · intro h
    rcases readAll_outcome {} (gather params) with
      ⟨-,next,hnext⟩ | ⟨front,name,values,back,error,hg,hfront,ho,herror⟩
    · rw [hnext] at h
      cases h
    · rw [herror] at h
      cases h
      cases ho with
      | lacking hkey hnone => exact ⟨hkey,front,back,hnone ▸ hg,hfront⟩
  · rintro ⟨hkey,front,back,hg,hfront⟩
    obtain ⟨next,hnext⟩ := exists_readAll hfront {}
    rw [hg,readAll_append,hnext]
    change readAll next ((key,[]) :: back) = _
    rw [readAll_cons,readParam_nil next hkey]
    rfl

/-- Where each parameter comes with a value, the values of the known names say all. -/
theorem ofParams_eq_ok_iff_of_values {params : List (String × List String)} (h : ∀ p ∈ params, p.2 ≠ [])
    {query : Query} : ofParams params = .ok query ↔ Asks (valuesOf params) query := by
  refine ofParams_eq_ok_iff.trans (and_iff_left fun key hkey _ hnone => ?_)
  obtain ⟨p,hp,rfl⟩ := List.mem_map.mp hkey
  have hvalues : p.2 = [] := by
    rw [valuesOf,List.flatMap_eq_nil_iff] at hnone
    exact hnone p (List.mem_filter.mpr ⟨hp,beq_self_eq_true _⟩)
  exact h p hp hvalues

end TrackerHub.Query
