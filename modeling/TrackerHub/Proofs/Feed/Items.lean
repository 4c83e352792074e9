import Mathlib.Data.List.Forall2
import TrackerHub.Feed.Documents
import TrackerHub.Proofs.Feed.MarkupReading
import TrackerHub.Proofs.Number.Numeral

/-! # The items of a feed

A feed tells which releases it was made from: each item is one release, and all texts and numbers of it
can be read off the item, whatever characters they hold.
-/
namespace TrackerHub.Feed
open TrackerHub.Text

/-! ## Renamed elements -/

mutual

theorem names_renamed (f : String → String) : ∀ e : Element, (e.renamed f).names = e.names.map f
  | .mk name attributes text children => by
    simp [Element.renamed,Element.names,namesOf_renamedAll f children]

theorem namesOf_renamedAll (f : String → String) : ∀ es, namesOf (renamedAll f es) = (namesOf es).map f
  | [] => rfl
  | e :: r => by simp [renamedAll,namesOf,names_renamed f e,namesOf_renamedAll f r]

end

mutual

theorem isOneKind_renamed (f : String → String) : ∀ e : Element, e.IsOneKind → (e.renamed f).IsOneKind
  | .mk name attributes text children => by
    rintro ⟨h,hc⟩
    refine ⟨h.imp_right fun h => ?_,areOneKind_renamedAll f children hc⟩
    rw [h]
    rfl

theorem areOneKind_renamedAll (f : String → String) :
    ∀ es, AreOneKind es → AreOneKind (renamedAll f es)
  | [] => fun _ => trivial
  | e :: r => fun h => ⟨isOneKind_renamed f e h.1,areOneKind_renamedAll f r h.2⟩

end

mutual

/-- Names that can be taken back leave the element as it was. -/
theorem renamed_inverse {f g : String → String} :
    ∀ e : Element, (∀ n ∈ e.names, g (f n) = n) → (e.renamed f).renamed g = e
  | .mk name attributes text children => by
    intro h
    simp only [Element.names,List.cons_append,List.mem_cons,List.mem_append,List.mem_map] at h
    have hattributes : (attributes.map fun a => (f a.1,a.2)).map (fun a => (g a.1,a.2)) = attributes := by
      rw [List.map_map]
      refine (List.map_congr_left fun a ha => ?_).trans (List.map_id _)
      exact Prod.ext (h a.1 (.inr (.inl ⟨a,ha,rfl⟩))) rfl
    simp only [Element.renamed]
    rw [h name (.inl rfl),hattributes,
      renamedAll_inverse children fun n hn => h n (.inr (.inr hn))]

theorem renamedAll_inverse {f g : String → String} :
    ∀ es, (∀ n ∈ namesOf es, g (f n) = n) → renamedAll g (renamedAll f es) = es
  | [] => fun _ => rfl
  | e :: r => fun h => by
    simp only [namesOf,List.mem_append] at h
    rw [renamedAll,renamedAll,renamed_inverse e fun n hn => h n (.inl hn),
      renamedAll_inverse r fun n hn => h n (.inr hn)]

end

/-! ## The names of a feed -/

/-- The name of the attributes that a feed adds to its items. -/
def extraName : String := nameIn attributeSpace "attr"

/-- The other names of a feed. -/
def plainNames : List String := [
  "rss","version","channel","title","description","link","language","item","guid","comments","category",
  "size","pubDate","enclosure","url","length","type","name","value"]

/-- The name space that a feed with items declares. -/
def feedSpaces : Named String := [(attributeSpace,"torznab")]

theorem declare_plain : ∀ n ∈ plainNames, declare [] n = [] ∧ declare feedSpaces n = feedSpaces := by
  decide

theorem declare_extra : declare [] extraName = feedSpaces ∧ declare feedSpaces extraName = feedSpaces := by
  decide

/-- How a name is taken back from its written form. -/
def unwritten (name : String) : String := if name = "torznab:attr" then extraName else name

theorem writtenName_known : ∀ n ∈ extraName :: plainNames,
    IsName (writtenName feedSpaces n) ∧ unwritten (writtenName feedSpaces n) = n := by
  decide

theorem writtenName_plain : ∀ n ∈ plainNames, IsName (writtenName [] n) := by
  decide

/-- A document declares the name space of the added attributes if it has one of them. -/
theorem foldl_declare {names : List String} (h : ∀ n ∈ names, n ∈ extraName :: plainNames) :
    names.foldl declare [] = if extraName ∈ names then feedSpaces else [] := by
  have declared {names : List String} (h : ∀ n ∈ names, n ∈ extraName :: plainNames) :
      names.foldl declare feedSpaces = feedSpaces := by
    induction names with
    | nil => rfl
    | cons n r ih =>
      have hn : declare feedSpaces n = feedSpaces := by
        rcases List.mem_cons.mp (h n List.mem_cons_self) with rfl | hn
        · exact declare_extra.2
        · exact (declare_plain n hn).2
      rw [List.foldl_cons,hn,ih fun m hm => h m (List.mem_cons_of_mem _ hm)]
  induction names with
  | nil => rfl
  | cons n r ih =>
    have hr : ∀ m ∈ r, m ∈ extraName :: plainNames := fun m hm => h m (List.mem_cons_of_mem _ hm)
    rw [List.foldl_cons]
    by_cases hn : extraName = n
    · rw [← hn,declare_extra.1,declared hr,if_pos List.mem_cons_self]
    · have hplain := (List.mem_cons.mp (h n List.mem_cons_self)).resolve_left (Ne.symm hn)
      rw [(declare_plain n hplain).1,ih hr]
      simp [hn]

/-! ## The document -/

/-- The tree of a feed. -/
def channelRoot (info : Info) (items : List Release) : Element :=
  .mk "rss" [("version","2.0")] "" [node "channel" (
    [leaf "title" (if info.title.isEmpty then info.id else info.title),
     leaf "description" (if info.description.isEmpty then info.title else info.description),
     leaf "link" info.link,leaf "language" info.language] ++ items.map item)]

theorem payload_channel (info : Info) (items : List Release) :
    (channel info items).payload = document (channelRoot info items) := rfl

/-- An element of a feed: all names in it are known, and no element holds text beside others. -/
def IsKnown (e : Element) : Prop := (∀ n ∈ e.names, n ∈ extraName :: plainNames) ∧ e.IsOneKind

theorem mem_namesOf {n : String} {es : List Element} : n ∈ namesOf es ↔ ∃ e ∈ es, n ∈ e.names := by
  induction es with
  | nil => simp [namesOf]
  | cons e r ih => simp [namesOf,ih]

theorem areOneKind_iff {es : List Element} : AreOneKind es ↔ ∀ e ∈ es, e.IsOneKind := by
  induction es with
  | nil => simp [AreOneKind]
  | cons e r ih => simp [AreOneKind,ih]

theorem isKnown_mk {name text : String} {attributes : List (String × String)} {children : List Element}
    (hn : ∀ n ∈ name :: attributes.map (·.1), n ∈ extraName :: plainNames)
    (h : text = "" ∨ children = []) (hc : ∀ e ∈ children, IsKnown e) :
    IsKnown (.mk name attributes text children) := by
  refine ⟨fun n hmem => ?_,h,areOneKind_iff.mpr fun e he => (hc e he).2⟩
  rw [Element.names] at hmem
  rcases List.mem_append.mp hmem with hmem | hmem
  · exact hn n hmem
  · obtain ⟨e,he,hmem⟩ := mem_namesOf.mp hmem
    exact (hc e he).1 n hmem

theorem isKnown_leaf {name text : String} (hn : name ∈ plainNames) : IsKnown (leaf name text) :=
  isKnown_mk (by simpa using Or.inr hn) (.inr rfl) (by simp)

theorem isKnown_node {name : String} {children : List Element} (hn : name ∈ plainNames)
    (hc : ∀ e ∈ children, IsKnown e) : IsKnown (node name children) :=
  isKnown_mk (by simpa using Or.inr hn) (.inl rfl) hc

theorem isKnown_given {name text : String} (hn : name ∈ plainNames) : ∀ e ∈ given name text, IsKnown e := by
  unfold given
  split
  · simp
  · simpa using isKnown_leaf hn

theorem isKnown_extra (name value : String) : IsKnown (extra name value) :=
  isKnown_mk (List.forall_mem_cons.mpr ⟨List.mem_cons_self,
    (by decide : ∀ n ∈ ["name","value"], n ∈ extraName :: plainNames)⟩) (.inl rfl) (by simp)

def dateOf (r : Release) : List Element :=
  match r.publishDate with
  | none => []
  | some t => [leaf "pubDate" (String.ofList t.mailText)]

/-- The file that an item offers. -/
def enclosureOf (r : Release) : List Element :=
  if r.link.isEmpty then []
  else [.mk "enclosure" [("url",r.link),("length",intText r.size),
    ("type","application/x-bittorrent")] "" []]

/-- An added attribute of an item that may be missing. -/
def optionalExtra (name : String) (n : Option Int) : List Element :=
  match n with
  | none => []
  | some n => [extra name (intText n)]

/-- What an item holds, in groups. -/
def itemParts (r : Release) : List (List Element) := [
  [leaf "title" r.title],given "description" r.description,given "guid" r.guid,
  given "comments" r.comments,given "link" r.link,
  [leaf "category" (intText r.category),leaf "size" (intText r.size)],dateOf r,enclosureOf r,
  [extra "site" r.site,extra "category" (intText r.category),extra "seeders" (intText r.seeders),
    extra "peers" (intText r.peers),extra "minimumratio" (String.ofList r.minimumRatio.toGeneral),
    extra "minimumseedtime" (String.ofList (r.minimumSeedTime.toFixed 0)),
    extra "size" (intText r.size),
    extra "downloadvolumefactor" (String.ofList r.downloadVolumeFactor.toGeneral),
    extra "uploadvolumefactor" (String.ofList r.uploadVolumeFactor.toGeneral)],
  optionalExtra "files" r.files,optionalExtra "grabs" r.grabs]

theorem item_eq (r : Release) : item r = node "item" (itemParts r).flatten := by
  simp only [itemParts,List.flatten_cons,List.flatten_nil,List.append_nil,← List.append_assoc]
  rfl

theorem isKnown_item (r : Release) : IsKnown (item r) := by
  have hdate : ∀ e ∈ dateOf r, IsKnown e := by
    unfold dateOf
    split
    · simp
    · simpa using isKnown_leaf (by decide)
  have henclosure : ∀ e ∈ enclosureOf r, IsKnown e := by
    unfold enclosureOf
    split
    · simp
    · simpa using isKnown_mk (by decide :
        ∀ n ∈ ["enclosure","url","length","type"], n ∈ extraName :: plainNames) (.inl rfl) (by simp)
  have hnumber (name : String) (n : Option Int) : ∀ e ∈ optionalExtra name n, IsKnown e := by
    cases n with
    | none => simp [optionalExtra]
    | some n => simpa [optionalExtra] using isKnown_extra name _
  have hparts : ∀ part ∈ itemParts r, ∀ e ∈ part, IsKnown e := by
    simp only [itemParts,List.forall_mem_cons]
    refine ⟨⟨isKnown_leaf (by decide),nofun⟩,isKnown_given (by decide),isKnown_given (by decide),
      isKnown_given (by decide),isKnown_given (by decide),
      ⟨isKnown_leaf (by decide),isKnown_leaf (by decide),nofun⟩,hdate,henclosure,?_,
      hnumber _ _,hnumber _ _,nofun⟩
    simp [isKnown_extra]
  rw [item_eq]
  refine isKnown_node (by decide) fun e he => ?_
  obtain ⟨part,hpart,he⟩ := List.mem_flatten.mp he
  exact hparts part hpart e he

theorem extraName_mem_item (r : Release) : extraName ∈ (item r).names := by
  rw [item_eq,node,Element.names]
  refine List.mem_append_right _ (mem_namesOf.mpr ⟨extra "site" r.site,?_,List.mem_cons_self⟩)
  exact List.mem_flatten.mpr ⟨_,List.mem_of_getElem? (i := 8) rfl,List.mem_cons_self⟩

theorem isKnown_channelRoot (info : Info) (items : List Release) : IsKnown (channelRoot info items) := by
  refine isKnown_mk (by decide : ∀ n ∈ ["rss","version"], n ∈ extraName :: plainNames) (.inl rfl) ?_
  simp only [List.forall_mem_cons]
  refine ⟨isKnown_node (by decide) ?_,nofun⟩
  simp only [List.forall_mem_append,List.forall_mem_cons,List.forall_mem_map]
  exact ⟨⟨isKnown_leaf (by decide),isKnown_leaf (by decide),isKnown_leaf (by decide),
    isKnown_leaf (by decide),nofun⟩,fun r _ => isKnown_item r⟩

theorem extraName_mem_channelRoot {info : Info} {items : List Release} :
    extraName ∈ (channelRoot info items).names ↔ items ≠ [] := by
  constructor
  · rintro h rfl
    have hnames : (channelRoot info []).names =
        ["rss","version","channel","title","description","link","language"] := rfl
    rw [hnames] at h
    revert h
    decide
  · intro h
    obtain ⟨r,rest,rfl⟩ := List.exists_cons_of_ne_nil h
    refine List.mem_append_right _ (mem_namesOf.mpr ⟨_,List.mem_cons_self,?_⟩)
    refine List.mem_append_right _ (mem_namesOf.mpr ⟨item r,?_,extraName_mem_item r⟩)
    simp

def spacesOf (items : List Release) : Named String := if items = [] then [] else feedSpaces

theorem declared_channelRoot (info : Info) (items : List Release) :
    (channelRoot info items).names.foldl declare [] = spacesOf items := by
  rw [foldl_declare (isKnown_channelRoot info items).1,spacesOf]
  simp only [extraName_mem_channelRoot,ne_eq,ite_not]

def writtenRoot (info : Info) (items : List Release) : Element :=
  ((channelRoot info items).renamed (writtenName (spacesOf items))).declaring (spacesOf items)

theorem document_channelRoot (info : Info) (items : List Release) : document (channelRoot info items) =
    "<?xml version='1.0' encoding='utf-8'?>\n" ++ String.ofList ((writtenRoot info items).write 0) := by
  unfold writtenRoot document
  simp only [declared_channelRoot]

theorem names_declaring {declared : Named String} {e : Element} {n : String}
    (h : n ∈ (e.declaring declared).names) : n ∈ e.names ∨ ∃ s ∈ declared, n = "xmlns:" ++ s.2 := by
  cases e with
  | mk name attributes text children =>
    simp only [Element.declaring,Element.names,List.map_append,List.map_map,List.cons_append,
      List.mem_cons,List.mem_append,List.mem_map,List.mem_mergeSort] at h ⊢
    grind

theorem isName_writtenRoot (info : Info) (items : List Release) :
    ∀ n ∈ (writtenRoot info items).names, IsName n := by
  intro n hn
  have hknown := (isKnown_channelRoot info items).1
  rcases names_declaring hn with hn | ⟨s,hs,rfl⟩
  · rw [names_renamed] at hn
    obtain ⟨m,hm,rfl⟩ := List.mem_map.mp hn
    by_cases hitems : items = []
    · rw [spacesOf,if_pos hitems]
      refine writtenName_plain m ((List.mem_cons.mp (hknown m hm)).resolve_left ?_)
      rintro rfl
      exact extraName_mem_channelRoot.mp hm hitems
    · rw [spacesOf,if_neg hitems]
      exact (writtenName_known m (hknown m hm)).1
  · unfold spacesOf at hs
    split at hs
    · cases hs
    · exact (by decide : ∀ s ∈ feedSpaces, IsName ("xmlns:" ++ s.2)) s hs

theorem isOneKind_declaring {declared : Named String} {e : Element} (h : e.IsOneKind) :
    (e.declaring declared).IsOneKind := by
  cases e with
  | mk name attributes text children => exact h

/-- The same document comes from the same tree. -/
theorem writtenRoot_unique {info : Info} {items items' : List Release}
    (h : (channel info items).payload = (channel info items').payload) :
    writtenRoot info items = writtenRoot info items' := by
  have isOneKind (items : List Release) : (writtenRoot info items).IsOneKind :=
    isOneKind_declaring (isOneKind_renamed _ _ (isKnown_channelRoot info items).2)
  rw [payload_channel,payload_channel,document_channelRoot,document_channelRoot] at h
  have h := String.ofList_injective (String.append_right_inj _ |>.mp h)
  exact (Element.write_unique (isName_writtenRoot info items) (isName_writtenRoot info items')
    (isOneKind items) (isOneKind items') (congrArg (· ++ []) h)).1

def attributeCount : Element → Nat
  | .mk _ attributes _ _ => attributes.length

theorem attributeCount_writtenRoot (info : Info) (items : List Release) :
    attributeCount (writtenRoot info items) = (spacesOf items).length + 1 := by
  simp [writtenRoot,channelRoot,Element.renamed,Element.declaring,attributeCount]

theorem declaring_inj {declared : Named String} {e e' : Element}
    (h : e.declaring declared = e'.declaring declared) : e = e' := by
  cases e
  cases e'
  simpa [Element.declaring] using h

/-- The same document has the same items. -/
theorem items_unique {info : Info} {items items' : List Release}
    (h : (channel info items).payload = (channel info items').payload) :
    items.map item = items'.map item := by
  have hroot := writtenRoot_unique h
  have hcount := congrArg attributeCount hroot
  rw [attributeCount_writtenRoot,attributeCount_writtenRoot] at hcount
  by_cases hitems : items = [] <;> by_cases hitems' : items' = []
  · rw [hitems,hitems']
  · simp [spacesOf,hitems,hitems',feedSpaces] at hcount
  · simp [spacesOf,hitems,hitems',feedSpaces] at hcount
  · rw [writtenRoot,writtenRoot,spacesOf,spacesOf,if_neg hitems,if_neg hitems'] at hroot
    have back (items : List Release) :
        ((channelRoot info items).renamed (writtenName feedSpaces)).renamed unwritten =
          channelRoot info items :=
      renamed_inverse _ fun n hn => (writtenName_known n ((isKnown_channelRoot info items).1 n hn)).2
    have heq := congrArg (Element.renamed unwritten) (declaring_inj hroot)
    rw [back,back] at heq
    simpa [channelRoot,node] using heq

/-! ## Items -/

theorem intText_inj {m n : Int} (h : intText m = intText n) : m = n := by
  have hdecimal {m n : Nat} (h : decimal m = decimal n) : m = n := by
    rw [← Numeral.digitsValue_decimal m,h,Numeral.digitsValue_decimal]
  -- Only a negative number begins with a sign.
  have hsign {m : Nat} {s : Chars} : decimal m ≠ '-' :: s := fun h =>
    absurd (Numeral.decimal_head h) (by decide)
  have h := String.ofList_injective h
  cases m <;> cases n
  · rw [hdecimal h]
  · exact absurd h hsign
  · exact absurd h.symm hsign
  · rw [Nat.succ.inj (hdecimal (List.cons.inj h).2)]

/-- The text of the first element with a name. -/
def textNamed (name : String) (es : List Element) : Option String :=
  es.findSome? fun
    | .mk n _ text _ => if n = name then some text else none

/-- The value of the first added attribute with a name. -/
def extraNamed (name : String) (es : List Element) : Option String :=
  es.findSome? fun
    | .mk _ [(_,n),(_,value)] _ _ => if n = name then some value else none
    | _ => none

section
variable (name other text value : String) (r : Release) (n : Option Int) (es fs : List Element)

theorem textNamed_append : textNamed name (es ++ fs) = (textNamed name es).or (textNamed name fs) :=
  List.findSome?_append

theorem extraNamed_append : extraNamed name (es ++ fs) = (extraNamed name es).or (extraNamed name fs) :=
  List.findSome?_append

theorem textNamed_cons (attributes : List (String × String)) (children : List Element) :
    textNamed name (.mk other attributes text children :: es) =
      if other = name then some text else textNamed name es := by
  by_cases h : other = name <;> simp [textNamed,h]

theorem textNamed_extra (h : extraName ≠ name) :
    textNamed name (extra other value :: es) = textNamed name es :=
  (textNamed_cons name extraName "" es _ []).trans (if_neg h)

theorem extraNamed_leaf : extraNamed name (leaf other text :: es) = extraNamed name es := rfl

theorem extraNamed_extra : extraNamed name (extra other value :: es) =
    if other = name then some value else extraNamed name es := by
  by_cases h : other = name <;> simp [extraNamed,extra,h]

theorem textNamed_given : textNamed name (given other text) =
    if other = name ∧ text ≠ "" then some text else none := by
  by_cases h : text = ""
  · simp [given,h,textNamed]
  · simp [given,h,leaf,textNamed_cons]
    rfl

theorem extraNamed_given : extraNamed name (given other text) = none := by
  unfold given
  split <;> rfl

theorem extraNamed_optionalExtra : extraNamed name (optionalExtra other n) =
    if other = name then n.map intText else none := by
  cases n with
  | none => simp [optionalExtra,extraNamed]
  | some n => exact extraNamed_extra name other (intText n) []

theorem textNamed_optionalExtra (h : extraName ≠ name) : textNamed name (optionalExtra other n) = none := by
  cases n with
  | none => rfl
  | some n => exact textNamed_extra name other (intText n) [] h

theorem extraNamed_dateOf : extraNamed name (dateOf r) = none := by
  unfold dateOf
  split <;> rfl

theorem textNamed_dateOf (h : "pubDate" ≠ name) : textNamed name (dateOf r) = none := by
  unfold dateOf
  split
  · rfl
  · exact (textNamed_cons name "pubDate" _ [] [] []).trans (if_neg h)

theorem extraNamed_enclosureOf : extraNamed name (enclosureOf r) = none := by
  unfold enclosureOf
  split <;> rfl

theorem textNamed_enclosureOf (h : "enclosure" ≠ name) : textNamed name (enclosureOf r) = none := by
  unfold enclosureOf
  split
  · rfl
  · exact (textNamed_cons name "enclosure" "" [] _ []).trans (if_neg h)

end

/-- The text of the element that shows a text, which is missing for the empty text. -/
def givenText (text : String) : Option String := if text = "" then none else some text

theorem givenText_inj {text text' : String} (h : givenText text = givenText text') : text = text' := by
  unfold givenText at h
  split at h <;> split at h <;> simp_all

theorem extraName_ne : ∀ n ∈ plainNames, extraName ≠ n := by
  decide

/-- The texts that an item shows in elements of their own. -/
theorem textNamed_itemParts (r : Release) :
    textNamed "title" (itemParts r).flatten = some r.title ∧
    textNamed "description" (itemParts r).flatten = givenText r.description ∧
    textNamed "guid" (itemParts r).flatten = givenText r.guid ∧
    textNamed "comments" (itemParts r).flatten = givenText r.comments ∧
    textNamed "link" (itemParts r).flatten = givenText r.link ∧
    textNamed "category" (itemParts r).flatten = some (intText r.category) ∧
    textNamed "size" (itemParts r).flatten = some (intText r.size) := by
  have hextra := extraName_ne
  simp only [plainNames,List.forall_mem_cons] at hextra
  simp [itemParts,leaf,textNamed_append,textNamed_cons,textNamed_extra,textNamed_given,textNamed_dateOf,
    textNamed_enclosureOf,textNamed_optionalExtra,hextra,givenText]

/-- The values that an item shows as added attributes. -/
theorem extraNamed_itemParts (r : Release) :
    extraNamed "site" (itemParts r).flatten = some r.site ∧
    extraNamed "seeders" (itemParts r).flatten = some (intText r.seeders) ∧
    extraNamed "peers" (itemParts r).flatten = some (intText r.peers) ∧
    extraNamed "files" (itemParts r).flatten = r.files.map intText ∧
    extraNamed "grabs" (itemParts r).flatten = r.grabs.map intText := by
  simp [itemParts,extraNamed_append,extraNamed_leaf,extraNamed_extra,extraNamed_given,
    extraNamed_dateOf,extraNamed_enclosureOf,extraNamed_optionalExtra]

/-- Two releases that agree in all that a client reads off their items. -/
structure ShownAlike (r r' : Release) : Prop where
  title : r.title = r'.title
  description : r.description = r'.description
  guid : r.guid = r'.guid
  comments : r.comments = r'.comments
  link : r.link = r'.link
  category : r.category = r'.category
  size : r.size = r'.size
  site : r.site = r'.site
  seeders : r.seeders = r'.seeders
  peers : r.peers = r'.peers
  files : r.files = r'.files
  grabs : r.grabs = r'.grabs

theorem shownAlike_of_item {r r' : Release} (h : item r = item r') : ShownAlike r r' := by
  have hparts : (itemParts r).flatten = (itemParts r').flatten := by
    simpa [item_eq,node] using h
  have htexts := textNamed_itemParts r
  have hextras := extraNamed_itemParts r
  rw [hparts] at htexts hextras
  obtain ⟨htitle,hdescription,hguid,hcomments,hlink,hcategory,hsize⟩ := textNamed_itemParts r'
  obtain ⟨hsite,hseeders,hpeers,hfiles,hgrabs⟩ := extraNamed_itemParts r'
  rw [htitle,hdescription,hguid,hcomments,hlink,hcategory,hsize] at htexts
  rw [hsite,hseeders,hpeers,hfiles,hgrabs] at hextras
  have optional_inj := Option.map_injective fun _ _ => intText_inj
  exact {
    title := (Option.some.inj htexts.1).symm
    description := (givenText_inj htexts.2.1).symm
    guid := (givenText_inj htexts.2.2.1).symm
    comments := (givenText_inj htexts.2.2.2.1).symm
    link := (givenText_inj htexts.2.2.2.2.1).symm
    category := (intText_inj (Option.some.inj htexts.2.2.2.2.2.1)).symm
    size := (intText_inj (Option.some.inj htexts.2.2.2.2.2.2)).symm
    site := (Option.some.inj hextras.1).symm
    seeders := (intText_inj (Option.some.inj hextras.2.1)).symm
    peers := (intText_inj (Option.some.inj hextras.2.2.1)).symm
    files := (optional_inj hextras.2.2.2.1).symm
    grabs := (optional_inj hextras.2.2.2.2).symm }

theorem writeChannel_ok {info : Info} {items : List Release} {feed : Rendered}
    (h : writeChannel info items = .ok feed) : feed = channel info items := by
  unfold writeChannel checked at h
  grind

/-- Feeds with the same text are made from equally many releases, and from ones that agree pairwise. -/
theorem writeChannel_determines_items {info : Info} {items items' : List Release} {feed feed' : Rendered}
    (h : writeChannel info items = .ok feed) (h' : writeChannel info items' = .ok feed')
    (heq : feed.payload = feed'.payload) : List.Forall₂ ShownAlike items items' := by
  rw [writeChannel_ok h,writeChannel_ok h'] at heq
  have hitems := items_unique heq
  have hforall : List.Forall₂ (fun r r' => item r = item r') items items' := by
    rwa [← List.forall₂_eq_eq_eq,List.forall₂_map_left_iff,List.forall₂_map_right_iff] at hitems
  exact hforall.imp fun _ _ => shownAlike_of_item

theorem writeChannel_of_short {info : Info} {items : List Release}
    (h : (items.flatMap Release.numbers).any isTooLong = false) :
    writeChannel info items = .ok (channel info items) := by
  simp [writeChannel,checked,h]

/-- A title that looks like the end of its item and the start of another one stays one title. -/
theorem forged_items_shownAlike :
    List.Forall₂ ShownAlike
      [{site := "s",title := "</title></item>\n<item>&amp;]]>",
        publishDate := some {date := ⟨2024,2,29⟩,offset := some 0}}]
      [{site := "s",title := "</title></item>\n<item>&amp;]]>",
        publishDate := some {date := ⟨2024,2,29⟩,micro := 7,offset := some 0}}] := by
  -- The date is written without the parts of its second.
  have hdate : ({date := ⟨2024,2,29⟩,offset := some 0} : Time.DateTime).mailText =
      ({date := ⟨2024,2,29⟩,micro := 7,offset := some 0} : Time.DateTime).mailText := rfl
  refine @writeChannel_determines_items {id := "i",title := "t"} _ _ _ _
    (writeChannel_of_short ?_) (writeChannel_of_short ?_) ?_
  · decide +kernel
  · decide +kernel
  · simp only [payload_channel,channelRoot,List.map_cons,List.map_nil,item,hdate]

end TrackerHub.Feed
