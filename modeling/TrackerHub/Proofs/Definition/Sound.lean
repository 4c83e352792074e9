import Mathlib.Data.List.Induction
import Mathlib.Data.List.Nodup
import TrackerHub.Proofs.Definition.ReadCategories

/-! # Sound definitions

What can be relied on in every definition that is read from a document: it has all that a tracker needs,
its local ids and its fields are those of the document, each once and in order, and what is left out is
settled by the rest.
-/
namespace TrackerHub

namespace FieldKind

theorem name_of_ofName? {name : String} {kind : FieldKind} (h : ofName? name = some kind) :
    kind.name = name := by
  have table : ∀ e ∈ FieldKind.table, e.2.name = e.1 := by decide
  obtain ⟨e,he,rfl⟩ := Option.map_eq_some_iff.mp h
  have hname : e.1 = name := by simpa using List.find?_some he
  rw [table e (List.mem_of_find?_eq_some he),hname]

end FieldKind

namespace Schema
variable {ε α β : Type}

/-- The entries of the mapping that a field holds; none if it holds no mapping. -/
def entriesAt (entries : Entries) (name : String) : Entries :=
  match Value.find? entries (.text name) with
  | some (.map es) => es
  | _ => []

section
variable {entries : Entries} {name : String} {x : α}

theorem field_eq_good {usual : α} {read : Value → Outcome ε α} :
    field name usual read entries = .good x ↔
      (∃ v, Value.find? entries (.text name) = some v ∧ read v = .good x) ∨
      Value.find? entries (.text name) = none ∧ x = usual := by
  unfold field
  split
  next v h => simp [h,Outcome.under_eq_good]
  next h => simp [h,eq_comm]

theorem of_required_eq_good {read : Value → Outcome ε α} (h : required name read entries = .good x) :
    ∃ v, read v = .good x := by
  unfold required at h
  split at h
  next v _ => exact ⟨v,Outcome.under_eq_good.mp h⟩
  · cases h

theorem map_of_all_eq_good {γ : Type} {f : α → Outcome ε β} {g : β → γ} {h : α → γ}
    (hf : ∀ x y, f x = .good y → g y = h x) {xs : List α} {ys : List β}
    (ha : Outcome.all f xs = .good ys) : ys.map g = xs.map h := by
  induction xs generalizing ys with
  | nil => cases ha; rfl
  | cons x xs ih =>
    obtain ⟨_,rest,hx,hrest,rfl⟩ := Outcome.seq_eq_good.mp ha
    obtain ⟨y,hy,rfl⟩ := Outcome.map_eq_good.mp hx
    simp [hf x y hy,ih hrest]

theorem exists_of_mem_list {item : Value → Outcome ε α} {v : Value} {xs : List α}
    (h : list item v = .good xs) (hx : x ∈ xs) : ∃ u, item u = .good x := by
  have read : ∀ {us : List (Value × Int)} {ys : List α},
      Outcome.all (fun (u,i) => (item u).under (.index i)) us = .good ys → x ∈ ys →
      ∃ u, item u = .good x := by
    intro us
    induction us with
    | nil =>
      intro ys h hx
      cases h
      cases hx
    | cons u us ih =>
      intro ys h hx
      obtain ⟨_,rest,hu,hrest,rfl⟩ := Outcome.seq_eq_good.mp h
      obtain ⟨y,hy,rfl⟩ := Outcome.map_eq_good.mp hu
      rcases List.mem_cons.mp hx with rfl | hx
      · exact ⟨u.1,Outcome.under_eq_good.mp hy⟩
      · exact ih hrest hx
  unfold list at h
  dsimp only at h
  split at h
  · exact read h hx
  · exact read h hx
  · exact read h hx
  · cases h

/-- A block that may be left out is read from the entries that its field holds. -/
theorem block_of_field {usual : α} {fields : Entries → Outcome ε α} (hu : fields [] = .good usual)
    (h : field name usual (block fields) entries = .good x) :
    fields (entriesAt entries name) = .good x := by
  rcases field_eq_good.mp h with ⟨v,hv,hx⟩ | ⟨hv,rfl⟩
  · unfold block at hx
    split at hx
    · rwa [entriesAt,hv]
    · cases hx
  · rwa [entriesAt,hv]

end

end Schema

open Schema

/-- What holds of every login that is read from a block of entries `es`. -/
structure Login.IsSound (es : Entries) (login : Login) : Prop where
  /-- An error block with a selector has a message to show. -/
  errors : ∀ e ∈ login.errors, e.selector ≠ "" → e.message.selector ≠ "" ∨ e.message.text ≠ ""
  /-- There is no login just when the block gives neither a path nor a method. -/
  declared : login.declared = false ↔
    field "path" "" text es = (.good "" : Definition.Outcome String) ∧
    field "method" none Definition.readLoginMethod es = .good none

namespace Definition

/-- The texts of the keys of a mapping with the texts of its values, as they are declared. -/
def declared (es : Entries) : List (String × String) := es.map fun (k,v) => (k.plainText,textOf v)

/-- What holds of every definition `d` that is read from a document of entries `es`. -/
structure IsSound (es : Entries) (d : Definition) : Prop where
  site : d.site ≠ ""
  name : d.name ≠ ""
  links : d.links ≠ []
  settings : d.settings ≠ []
  modes : d.modes ≠ []
  localIds : (d.categories.entries.map (·.1)).Nodup
  /-- The local ids of the document stand for the categories with the names that it gives. -/
  categories : d.categories.entries.map (fun e => (e.1,e.2.name)) =
    Named.ofList (declared (entriesAt (entriesAt es "caps") "categories"))
  /-- Each of them is the first one of the taxonomy with its name. -/
  first : ∀ e ∈ d.categories.entries, ∃ before after, Category.taxonomy = before ++ e.2 :: after ∧
    ∀ c ∈ before, c.name ≠ e.2.name
  kinds : (d.search.fields.map (·.kind)).Nodup
  /-- The fields are those that the document names, in its order. -/
  fields : ∃ names : List String,
    (entriesAt (entriesAt es "search") "fields").map (fun e => (text e.1 : Outcome String)) = names.map .good ∧
    d.search.fields.map (·.kind.name) = names.eraseDups
  /-- The number of rows that follow is the one that the document gives, which is not negative. -/
  after : field "after" 0 int (entriesAt (entriesAt es "search") "rows") =
    (.good (d.search.rows.after : Int) : Outcome Int)
  login : d.login.IsSound (entriesAt es "login")
  /-- Modes that are not declared follow from the categories. -/
  usual : entriesAt (entriesAt es "caps") "modes" = [] →
    let c : Capabilities := { categories := d.categories.categories }
    ((∃ m ∈ d.modes, m.key = "tv-search") ↔ c.hasSeries = true) ∧
    ((∃ m ∈ d.modes, m.key = "movie-search") ↔ c.hasMovies = true)

theorem optionalBlock_of_field {α : Type} {es : Entries} {name : String} {usual x : α}
    {fields : Entries → Outcome α} (hu : fields [] = .good usual)
    (h : field name usual (optionalBlock fields) es = .good x) : fields (entriesAt es name) = .good x := by
  rcases field_eq_good.mp h with ⟨v,hv,hx⟩ | ⟨hv,rfl⟩
  · unfold optionalBlock at hx
    split at hx
    · rwa [entriesAt,hv]
    · unfold block at hx
      split at hx
      · rwa [entriesAt,hv]
      · cases hx
  · rwa [entriesAt,hv]

section
variable {es : Entries} {r : Raw}

theorem raw_eq_good (h : raw es = .good r) :
    (required "site" filledText es : Outcome String) = .good r.site ∧
    required "links" readLinks es = .good r.links ∧
    field "caps" {} (optionalBlock readCapabilities) es = .good r.capabilities ∧
    field "login" none readOptionalLogin es = .good r.login ∧
    field "search" ⟨"",false,[],{},[]⟩ (optionalBlock readSearch) es = .good r.search := by
  obtain ⟨_,search,h₁,hsearch,rfl⟩ := Outcome.seq_eq_good.mp h
  obtain ⟨_,ratio,h₂,-,rfl⟩ := Outcome.seq_eq_good.mp h₁
  obtain ⟨_,login,h₃,hlogin,rfl⟩ := Outcome.seq_eq_good.mp h₂
  obtain ⟨_,caps,h₄,hcaps,rfl⟩ := Outcome.seq_eq_good.mp h₃
  obtain ⟨_,links,h₅,hlinks,rfl⟩ := Outcome.seq_eq_good.mp h₄
  obtain ⟨_,language,h₆,-,rfl⟩ := Outcome.seq_eq_good.mp h₅
  obtain ⟨_,description,h₇,-,rfl⟩ := Outcome.seq_eq_good.mp h₆
  obtain ⟨_,name,h₈,-,rfl⟩ := Outcome.seq_eq_good.mp h₇
  obtain ⟨_,settings,h₉,-,rfl⟩ := Outcome.seq_eq_good.mp h₈
  obtain ⟨site,hsite,rfl⟩ := Outcome.map_eq_good.mp h₉
  exact ⟨hsite,hlinks,hcaps,hlogin,hsearch⟩

theorem site_ne_empty {site : String}
    (h : (required "site" filledText es : Outcome String) = .good site) : site ≠ "" := by
  obtain ⟨v,hv⟩ := of_required_eq_good h
  obtain ⟨s,-,hs⟩ := Outcome.andThen_eq_good.mp hv
  split at hs
  · cases hs
  next hne =>
    cases hs
    simpa using hne

theorem links_ne_nil {links : List String} (h : required "links" readLinks es = .good links) :
    links ≠ [] := by
  obtain ⟨v,hv⟩ := of_required_eq_good h
  unfold readLinks at hv
  split at hv
  · cases hv
    exact List.cons_ne_nil _ _
  · obtain ⟨ls,-,hls⟩ := Outcome.andThen_eq_good.mp hv
    split at hls
    · cases hls
    next hne =>
      cases hls
      simpa using hne

theorem readCapabilities_of_raw (h : raw es = .good r) :
    readCapabilities (entriesAt es "caps") = .good r.capabilities := by
  obtain ⟨-,-,hcaps,-,-⟩ := raw_eq_good h
  exact optionalBlock_of_field rfl hcaps

theorem readSearch_of_raw (h : raw es = .good r) :
    readSearch (entriesAt es "search") = .good r.search := by
  obtain ⟨-,-,-,-,hsearch⟩ := raw_eq_good h
  exact optionalBlock_of_field rfl hsearch

theorem readCapabilities_eq_good {c : RawCapabilities} (h : readCapabilities es = .good c) :
    field "categories" [] readTexts es = .good c.categories ∧
    field "modes" [] readModes es = .good c.modes := by
  obtain ⟨_,modes,h₁,hmodes,rfl⟩ := Outcome.seq_eq_good.mp h
  obtain ⟨names,hnames,rfl⟩ := Outcome.map_eq_good.mp h₁
  exact ⟨hnames,hmodes⟩

theorem readSearch_eq_good {search : RawSearch} (h : readSearch es = .good search) :
    field "rows" {} (block readRows) es = .good search.rows ∧
    field "fields" [] readFieldBlocks es = .good search.fields := by
  obtain ⟨_,blocks,h₁,hblocks,rfl⟩ := Outcome.seq_eq_good.mp h
  obtain ⟨_,rows,h₂,hrows,rfl⟩ := Outcome.seq_eq_good.mp h₁
  obtain ⟨_,inputs,h₃,-,rfl⟩ := Outcome.seq_eq_good.mp h₂
  obtain ⟨_,post,h₄,-,rfl⟩ := Outcome.seq_eq_good.mp h₃
  obtain ⟨path,-,rfl⟩ := Outcome.map_eq_good.mp h₄
  exact ⟨hrows,hblocks⟩

theorem readRows_eq_good {rows : Rows} (h : readRows es = .good rows) :
    ∃ after, (field "after" 0 (intFrom 0) es : Outcome Int) = .good after ∧ rows.after = after.toNat := by
  obtain ⟨_,headers,h₁,-,rfl⟩ := Outcome.seq_eq_good.mp h
  obtain ⟨_,after,h₂,hafter,rfl⟩ := Outcome.seq_eq_good.mp h₁
  obtain ⟨block,-,rfl⟩ := Outcome.map_eq_good.mp h₂
  exact ⟨after,hafter,rfl⟩

theorem readLogin_eq_good {login : Login} (h : readLogin es = .good login) : ∃ method,
    (field "path" "" text es : Outcome String) = .good login.path ∧
    field "method" none readLoginMethod es = .good method ∧
    field "error" [] readErrorBlocks es = .good login.errors ∧
    login.declared = (!login.path.isEmpty || method.isSome) := by
  obtain ⟨_,test,h₁,-,rfl⟩ := Outcome.seq_eq_good.mp h
  obtain ⟨_,errors,h₂,herrors,rfl⟩ := Outcome.seq_eq_good.mp h₁
  obtain ⟨_,inputs,h₃,-,rfl⟩ := Outcome.seq_eq_good.mp h₂
  obtain ⟨_,method,h₄,hmethod,rfl⟩ := Outcome.seq_eq_good.mp h₃
  obtain ⟨_,form,h₅,-,rfl⟩ := Outcome.seq_eq_good.mp h₄
  obtain ⟨path,hpath,rfl⟩ := Outcome.map_eq_good.mp h₅
  exact ⟨method,hpath,hmethod,herrors,rfl⟩

theorem categories_of_readCapabilities {c : RawCapabilities} (h : readCapabilities es = .good c) :
    c.categories = Named.ofList (declared (entriesAt es "categories")) := by
  rcases field_eq_good.mp (readCapabilities_eq_good h).1 with ⟨v,hv,hnames⟩ | ⟨hv,hnone⟩
  · unfold readTexts at hnames
    split at hnames
    · rw [entriesAt,hv,← Outcome.good.inj hnames]
      rfl
    · rw [entriesAt,hv,← Outcome.good.inj hnames]
      rfl
    · cases hnames
  · rw [entriesAt,hv,hnone]
    rfl

theorem modes_of_readCapabilities {c : RawCapabilities} (h : readCapabilities es = .good c)
    (hm : entriesAt es "modes" = []) : c.modes = [] := by
  rcases field_eq_good.mp (readCapabilities_eq_good h).2 with ⟨v,hv,hmodes⟩ | ⟨-,hnone⟩
  · unfold readModes at hmodes
    split at hmodes
    · exact (Outcome.good.inj hmodes).symm
    · rw [entriesAt,hv] at hm
      cases hm
      exact (Outcome.good.inj hmodes).symm
    · cases hmodes
  · exact hnone

/-- The blocks of fields have the names that the document gives, each in its first place. -/
theorem names_of_readSearch {search : RawSearch} (h : readSearch es = .good search) :
    ∃ names : List String,
      (entriesAt es "fields").map (fun e => (text e.1 : Outcome String)) = names.map .good ∧
      search.fields.map (·.1) = names.eraseDups := by
  rcases field_eq_good.mp (readSearch_eq_good h).2 with ⟨v,hv,hblocks⟩ | ⟨hv,hnone⟩
  · rw [entriesAt,hv]
    unfold readFieldBlocks at hblocks
    split at hblocks
    · rw [← Outcome.good.inj hblocks]
      exact ⟨[],rfl,rfl⟩
    · unfold mapping at hblocks
      split at hblocks
      next entries _ =>
        obtain ⟨pairs,hpairs,hofList⟩ := Outcome.map_eq_good.mp hblocks
        refine ⟨pairs.map (·.1),?_,?_⟩
        · rw [List.map_map]
          refine (map_of_all_eq_good (fun e pair hread => ?_) hpairs).symm
          obtain ⟨_,block,hname,-,rfl⟩ := Outcome.seq_eq_good.mp hread
          obtain ⟨name,htext,rfl⟩ := Outcome.map_eq_good.mp hname
          exact (Outcome.under_eq_good.mp (Outcome.under_eq_good.mp htext)).symm
        · rw [← hofList,Named.names_ofList]
      · cases hblocks
  · rw [entriesAt,hv,hnone]
    exact ⟨[],rfl,rfl⟩

/-- The number of rows that follow is not negative, so it is kept as it is. -/
theorem after_of_readSearch {search : RawSearch} (h : readSearch es = .good search) :
    field "after" 0 int (entriesAt es "rows") = (.good (search.rows.after : Int) : Outcome Int) := by
  obtain ⟨after,hafter,heq⟩ := readRows_eq_good (block_of_field rfl (readSearch_eq_good h).1)
  rw [heq,field_eq_good]
  rcases field_eq_good.mp hafter with ⟨v,hv,hread⟩ | ⟨hv,rfl⟩
  · obtain ⟨n,hn,hleast⟩ := Outcome.andThen_eq_good.mp hread
    split at hleast
    · cases hleast
    next hge =>
      cases hleast
      exact .inl ⟨v,hv,by rw [hn]; congr; omega⟩
  · exact .inr ⟨hv,rfl⟩

theorem message_of_readErrorBlock {v : Value} {e : ErrorBlock} (h : readErrorBlock v = .good e)
    (hs : e.selector ≠ "") : e.message.selector ≠ "" ∨ e.message.text ≠ "" := by
  unfold readErrorBlock block at h
  split at h
  next es =>
    obtain ⟨_,message,h₁,-,rfl⟩ := Outcome.seq_eq_good.mp h
    obtain ⟨_,selector,h₂,-,rfl⟩ := Outcome.seq_eq_good.mp h₁
    obtain ⟨path,-,rfl⟩ := Outcome.map_eq_good.mp h₂
    dsimp only at hs ⊢
    split
    next hempty => exact .inl hs
    next hempty =>
      by_cases hm : message.selector = ""
      · exact .inr (by simpa [hs,Block.isEmpty,hm] using hempty)
      · exact .inl hm
  · cases h

theorem isSound_of_readLogin {login : Login} (h : readLogin es = .good login) : login.IsSound es := by
  obtain ⟨method,hpath,hmethod,herrors,hdeclared⟩ := readLogin_eq_good h
  constructor
  case errors =>
    refine field_good (P := fun errors : List ErrorBlock => ∀ e ∈ errors, e.selector ≠ "" →
      e.message.selector ≠ "" ∨ e.message.text ≠ "") herrors (by simp) fun v errors hv e he => ?_
    have read : ∃ u, readErrorBlock u = .good e := by
      unfold readErrorBlocks at hv
      split at hv
      · exact exists_of_mem_list hv he
      · unfold optionalList at hv
        split at hv
        · cases hv
          cases he
        · exact exists_of_mem_list hv he
    obtain ⟨u,hu⟩ := read
    exact message_of_readErrorBlock hu
  case declared =>
    rw [hdeclared,hpath,hmethod]
    cases method <;> simp

theorem isSound_login_of_raw (h : raw es = .good r) : (r.login.getD {}).IsSound (entriesAt es "login") := by
  have hnone : Login.IsSound [] {} := ⟨by simp,fun _ => ⟨rfl,rfl⟩,fun _ => rfl⟩
  obtain ⟨-,-,-,hlogin,-⟩ := raw_eq_good h
  rcases field_eq_good.mp hlogin with ⟨v,hv,hread⟩ | ⟨hv,hr⟩
  · unfold readOptionalLogin at hread
    split at hread
    · rw [entriesAt,hv,← Outcome.good.inj hread]
      exact hnone
    · obtain ⟨login,hblock,hr⟩ := Outcome.map_eq_good.mp hread
      unfold block at hblock
      split at hblock
      · rw [entriesAt,hv,← hr]
        exact isSound_of_readLogin hblock
      · cases hblock
  · rw [entriesAt,hv,hr]
    exact hnone

end

theorem categories_of_categoryMap {names : Named String} {m : CategoryMap}
    (h : categoryMap names = .ok m) : m.entries.map (fun e => (e.1,e.2.name)) = names ∧
      ∀ e ∈ m.entries, ∃ before after, Category.taxonomy = before ++ e.2 :: after ∧
        ∀ c ∈ before, c.name ≠ e.2.name := by
  obtain ⟨entries,hread,rfl⟩ := map_eq_ok.mp h
  have kept := mapM_eq_ok (g := fun e : String × Category => (e.1,e.2.name)) (h := id)
    (P := fun e : String × Category => ∃ before after, Category.taxonomy = before ++ e.2 :: after ∧
      ∀ c ∈ before, c.name ≠ e.2.name) ?_ hread
  · exact ⟨by simpa using kept.1,kept.2⟩
  · rintro ⟨localId,name⟩ e he
    dsimp only at he
    split at he
    next c hc =>
      cases he
      obtain ⟨hname,before,after,htaxonomy,hbefore⟩ := List.find?_eq_some_iff_append.mp hc
      obtain rfl : c.name = name := by simpa using hname
      exact ⟨rfl,before,after,htaxonomy,fun c hc => by simpa using hbefore c hc⟩
    · cases he

theorem names_of_fieldsOf {blocks : Named Block} {fields : List FieldBlock}
    (h : fieldsOf blocks = .ok fields) : fields.map (·.kind.name) = blocks.map (·.1) := by
  refine (mapM_eq_ok (P := fun _ => True) ?_ h).1
  rintro ⟨name,block⟩ f hf
  dsimp only at hf
  split at hf
  next kind hkind =>
    cases hf
    exact ⟨FieldKind.name_of_ofName? hkind,trivial⟩
  · cases hf

theorem mem_usualModes (m : CategoryMap) :
    let c : Capabilities := { categories := m.categories }
    ((∃ mode ∈ usualModes m, mode.key = "tv-search") ↔ c.hasSeries = true) ∧
    ((∃ mode ∈ usualModes m, mode.key = "movie-search") ↔ c.hasMovies = true) := by
  intro c
  have heq : usualModes m = [{ key := "search", params := ["q"] }]
    ++ (if c.hasSeries then [{ key := "tv-search", params := ["q","season","ep"] }] else [])
    ++ (if c.hasMovies then [{ key := "movie-search", params := ["q"] }] else []) := rfl
  rw [heq]
  cases c.hasSeries <;> cases c.hasMovies <;> simp

/-- What a document stands for is sound. -/
theorem isSound_of_ofRaw {es : Entries} {r : Raw} {origin : Origin} {d : Definition}
    (hr : raw es = .good r) (h : ofRaw r origin = .ok d) : d.IsSound es := by
  obtain ⟨categories,hcategories,h⟩ := bind_eq_ok.mp h
  obtain ⟨fields,hfields,h⟩ := bind_eq_ok.mp h
  obtain ⟨hsite,hlinks,-,-,-⟩ := raw_eq_good hr
  obtain ⟨hentries,hfirst⟩ := categories_of_categoryMap hcategories
  obtain ⟨names,htexts,hnames⟩ := names_of_readSearch (readSearch_of_raw hr)
  have hkinds := (names_of_fieldsOf hfields).trans hnames
  have hsiteNe := site_ne_empty hsite
  cases h
  constructor
  case site => exact hsiteNe
  case name =>
    dsimp only
    split
    · exact hsiteNe
    next hname => simpa using hname
  case links => exact links_ne_nil hlinks
  case settings =>
    dsimp only
    split
    · exact List.cons_ne_nil _ _
    next hsettings => simpa using hsettings
  case modes =>
    dsimp only
    split
    · exact List.cons_ne_nil _ _
    next hmodes => simpa using hmodes
  case localIds =>
    have hids := congrArg (List.map Prod.fst) hentries
    rw [List.map_map] at hids
    exact hids ▸ nodup_raw hr
  case categories =>
    exact hentries.trans (categories_of_readCapabilities (readCapabilities_of_raw hr))
  case first => exact hfirst
  case kinds =>
    have hnodup : (fields.map (·.kind.name)).Nodup := hkinds ▸ Named.nodup_eraseDups names
    refine List.Nodup.of_map FieldKind.name ?_
    rwa [List.map_map]
  case fields => exact ⟨names,htexts,hkinds⟩
  case after => exact after_of_readSearch (readSearch_of_raw hr)
  case login => exact isSound_login_of_raw hr
  case usual =>
    intro hnone
    have hmodes := modes_of_readCapabilities (readCapabilities_of_raw hr) hnone
    dsimp only
    rw [hmodes]
    exact mem_usualModes categories

/-- Every definition that is read from a document is sound. -/
theorem isSound_of_parse {b : Text.Bytes} {source : String} {d : Definition}
    (h : parse b source = .ok d) : ∃ es, Yaml.loadBytes b = .ok (.map es) ∧ d.IsSound es := by
  unfold parse at h
  split at h
  · cases h
  · cases h
  next es hload =>
    split at h
    · cases h
    · cases h
    next r hr =>
      refine ⟨es,hload,?_⟩
      exact isSound_of_ofRaw hr h
  · cases h

/-- A definition that maps a number and a text which stand for the same local id. -/
def mixedKeys : Text.Bytes := Text.encodeUtf8
  "site: s\nlinks: x\ncaps:\n  categories:\n    1: TV\n    '1': Movies\nsearch:\n  fields:\n    title:\n      selector: a\n".toList

set_option maxRecDepth 100000 in
/-- The local id is mapped once. -/
theorem mixed_keys_isSound : ∃ d, parse mixedKeys "" = .ok d ∧
    d.categories.entries = [("1",⟨2000,"Movies"⟩)] ∧ (d.modes.map (·.key)) = ["search","movie-search"] ∧
    ∃ es, Yaml.loadBytes mixedKeys = .ok (.map es) ∧ d.IsSound es := by
  have hread : (parse mixedKeys "").toOption.map (fun d => (d.categories.entries,d.modes.map (·.key))) =
      some ([("1",⟨2000,"Movies"⟩)],["search","movie-search"]) := by decide +kernel
  obtain ⟨d,hd,hread⟩ := Option.map_eq_some_iff.mp hread
  obtain ⟨hentries,hmodes⟩ := Prod.mk.inj hread
  have hparse := toOption_eq_some.mp hd
  exact ⟨d,hparse,hentries,hmodes,isSound_of_parse hparse⟩

end Definition

end TrackerHub
