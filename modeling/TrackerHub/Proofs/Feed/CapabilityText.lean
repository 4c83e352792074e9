import TrackerHub.Agent.Basic
import TrackerHub.Proofs.Definition.Sound
import TrackerHub.Proofs.Feed.Faults
import TrackerHub.Proofs.Feed.Items
import TrackerHub.Proofs.Text.CutText

/-! # The text of capabilities

What can be read off a document of capabilities. Its categories can, whatever the search modes are called.
The key of a mode is written as the name of an element, and nothing in it is escaped: the modes can be read off
as long as no key begins a name space, or holds the end of an element and the beginning of another one.
-/
namespace TrackerHub.Feed
open TrackerHub.Text

/-! ## Modes -/

/-- What stands between the parameters of a mode and the key of the next one. -/
def seam : Chars := ['"',' ','/','>','\n',' ',' ',' ',' ','<']

/-- Whether the key of a mode can be told from the elements around it: it begins no name space, and holds no
end of an element with the beginning of another one. -/
structure IsPlainKey (key : String) : Prop where
  space : key.toList.head? ≠ some '\x7b'
  seamless : ¬seam <:+: key.toList

/-- Whether two modes are told alike. -/
structure ToldAlike (m m' : SearchMode) : Prop where
  key : m.key = m'.key
  available : m.available = m'.available
  params : ",".intercalate m.params = ",".intercalate m'.params

def availableText (m : SearchMode) : Chars :=
  (if m.available then "yes" else "no").toList.flatMap escapeAttributeChar

def paramsText (m : SearchMode) : Chars := (",".intercalate m.params).toList.flatMap escapeAttributeChar

def label (name : String) : Chars := ' ' :: (name.toList ++ ['='])

/-- The text of a mode from its key to its parameters. -/
def modeText (m : SearchMode) : Chars :=
  m.key.toList ++ (label "available" ++ '"' ::
    (availableText m ++ '"' :: (label "supportedParams" ++ '"' :: paramsText m)))

section
variable {m m' : SearchMode} {ms ms' : List SearchMode}

theorem write_modeElement (depth : Nat) (m : SearchMode) :
    (modeElement m).write depth = '<' :: (modeText m ++ ['"',' ','/','>']) := by
  have hattributes (r : Chars) : attributesText [("available",if m.available then "yes" else "no"),
      ("supportedParams",",".intercalate m.params)] ++ r = label "available" ++ '"' ::
        (availableText m ++ '"' :: (label "supportedParams" ++ '"' :: (paramsText m ++ '"' :: r))) := by
    rw [attributesText_cons,attributesText_cons]
    simp only [label,availableText,paramsText,attributesText,List.flatMap_nil,List.nil_append,List.cons_append,
      List.append_assoc]
  have hrest : tagRest depth m.key "" [] [] = [' ','/','>'] := if_pos ⟨rfl,rfl⟩
  rw [modeElement,← List.append_nil (Element.write _ _),write_append,hattributes,hrest,modeText]
  simp only [List.append_assoc,List.cons_append]

/-- The lines of modes are their texts with seams between them. -/
theorem writeLines_modes (h : ms ≠ []) : writeLines 2 (ms.map modeElement) =
    newLine 2 ++ '<' :: (join seam (ms.map modeText) ++ ['"',' ','/','>']) := by
  induction ms with
  | nil => exact absurd rfl h
  | cons m ms ih =>
    rw [List.map_cons,writeLines,write_modeElement]
    cases ms with
    | nil => simp [writeLines,join]
    | cons m' ms =>
      rw [ih (List.cons_ne_nil m' ms)]
      simp [join,seam,newLine,List.replicate]

theorem quote_not_mem_paramsText : '"' ∉ paramsText m := fun h => mem_escapeAttribute h rfl

theorem gt_not_mem_paramsText : '>' ∉ paramsText m := by
  intro h
  obtain ⟨c,-,hc⟩ := List.mem_flatMap.mp h
  rw [escapeAttributeChar_eq] at hc
  exact not_mem_coded areNames_attributeNames (by decide) (by decide) (by decide) (by decide) hc

/-- A mode can be read off its text: its parameters hold no quotation mark, and its key is all that stands
before the two attributes. -/
theorem toldAlike_of_modeText (h : modeText m = modeText m') : ToldAlike m m' := by
  have hquote (m : SearchMode) : '"' ∉ availableText m := fun h => mem_escapeAttribute h rfl
  have hsplit (m : SearchMode) : modeText m = (m.key.toList ++ label "available" ++ '"' ::
      (availableText m ++ '"' :: label "supportedParams")) ++ '"' :: paramsText m := by
    simp only [modeText,List.append_assoc,List.cons_append]
  rw [hsplit,hsplit] at h
  obtain ⟨hkey,hparams⟩ := append_cons_unique quote_not_mem_paramsText quote_not_mem_paramsText h
  have hkey : (m.key.toList ++ label "available" ++ '"' :: availableText m) ++ '"' :: label "supportedParams" =
      (m'.key.toList ++ label "available" ++ '"' :: availableText m') ++ '"' :: label "supportedParams" := by
    simpa only [List.append_assoc,List.cons_append] using hkey
  obtain ⟨hkey,havailable⟩ := append_cons_unique (hquote m) (hquote m') (List.append_cancel_right hkey)
  refine ⟨String.toList_inj.mp (List.append_cancel_right hkey),?_,
    String.toList_inj.mp (escapeAttribute_unique hparams)⟩
  have hvalue := escapeAttribute_unique havailable
  cases hm : m.available <;> cases hm' : m'.available <;> simp_all

end

/-! ## Seams -/

/-- Whether no seam begins in a text that is followed by a seam. -/
def Seamless (s : Chars) : Prop := ∀ t, t ≠ [] → t <:+ s → ∀ r, ¬seam <+: t ++ seam ++ r

section
variable {s t : Chars} {c : Char}

theorem seamless_nil : Seamless [] := fun _ hne ht => absurd (List.suffix_nil.mp ht) hne

theorem seamless_cons (hs : Seamless s) (h : ∀ r, ¬seam <+: c :: (s ++ seam ++ r)) : Seamless (c :: s) := by
  intro t hne ht r
  rcases List.suffix_cons_iff.mp ht with rfl | ht
  · exact h r
  · exact hs t hne ht r

/-- A seam begins with a quotation mark. -/
theorem seamless_append (hs : Seamless s) (h : '"' ∉ t) : Seamless (t ++ s) := by
  induction t with
  | nil => exact hs
  | cons c t ih =>
    obtain ⟨hc,ht⟩ := not_or.mp (List.mem_cons.not.mp h)
    refine seamless_cons (ih ht) fun r hseam => hc ?_
    exact (List.cons_prefix_cons.mp hseam).1

/-- Behind the quotation mark of a seam an element ends. -/
theorem seamless_quoted (hs : Seamless s) (hend : '>' ∉ s) (hquote : '"' ∉ s) : Seamless ('"' :: s) := by
  refine seamless_cons hs fun r hseam => ?_
  match s with
  | [] | [_] | [_,_] => simp_all [seam,List.cons_prefix_cons]
  | _ :: _ :: _ :: _ => simp_all [seam,List.cons_prefix_cons]

/-- A key that holds no seam does not begin one before the attributes that follow it. -/
theorem seamless_key {key : Chars} (h : ¬seam <:+: key) (hs : Seamless (' ' :: 'a' :: s)) :
    Seamless (key ++ ' ' :: 'a' :: s) := by
  induction key with
  | nil => exact hs
  | cons c key ih =>
    refine seamless_cons (ih fun hin => h (List.infix_cons hin)) fun r hseam => ?_
    have hseam : seam <+: (c :: key) ++ (' ' :: 'a' :: s ++ (seam ++ r)) := by simpa using hseam
    rcases List.prefix_or_prefix_of_prefix hseam (List.prefix_append (c :: key) _) with hin | ⟨rest,hrest⟩
    · exact h hin.isInfix
    · -- What is left of the seam would have to be the beginning of the attributes.
      rw [← hrest] at hseam
      have hrest' := (List.prefix_append_right_inj _).mp hseam
      have ha : 'a' ∉ seam := by decide
      have hlast : seam.getLast? = some '<' := by decide
      rw [← hrest] at ha hlast h
      match rest with
      | [] => simp at h
      | [x] =>
        obtain rfl : x = '<' := Option.some.inj (List.getLast?_concat.symm.trans hlast)
        exact absurd (List.cons_prefix_cons.mp hrest').1 (by decide)
      | x :: y :: rest =>
        obtain rfl : y = 'a' := (List.cons_prefix_cons.mp (List.cons_prefix_cons.mp hrest').2).1
        simp at ha

/-- A text in which no seam begins ends at the first seam. -/
theorem Seamless.endsFirst (h : Seamless s) : EndsFirst seam s := by
  refine fun r => ⟨rfl,fun pre post hpre => ?_⟩
  by_contra hshort
  have hpre' : pre <+: s ++ seam ++ r := ⟨seam ++ post,by rw [hpre,List.append_assoc]⟩
  have hs : s <+: s ++ seam ++ r := ⟨seam ++ r,by rw [List.append_assoc]⟩
  obtain ⟨t,rfl⟩ := List.prefix_of_prefix_length_le hpre' hs (by omega)
  have hne : t ≠ [] := by
    rintro rfl
    simp at hshort
  refine h t hne (List.suffix_append pre t) r ⟨post,?_⟩
  simpa using hpre.symm

end

section
variable {m : SearchMode} {ms ms' : List SearchMode}

/-- No seam begins in the text of a mode, unless its key holds one. -/
theorem seamless_modeText (h : ¬seam <:+: m.key.toList) : Seamless (modeText m) := by
  have hparams : Seamless (paramsText m) := by
    simpa using seamless_append seamless_nil (quote_not_mem_paramsText (m := m))
  have hlabel := seamless_append (t := label "supportedParams")
    (seamless_quoted hparams gt_not_mem_paramsText quote_not_mem_paramsText) (by decide)
  have hvalue : Seamless (availableText m ++ '"' :: (label "supportedParams" ++ '"' :: paramsText m)) :=
    seamless_append (seamless_cons hlabel fun r hseam => by
      -- The space behind the mark is that of the next attribute.
      have hnext := (List.cons_prefix_cons.mp (List.cons_prefix_cons.mp (List.cons_prefix_cons.mp hseam).2).2).1
      exact absurd hnext (by decide)) fun hmem => mem_escapeAttribute hmem rfl
  have hquoted : Seamless ('"' :: (availableText m ++ '"' :: (label "supportedParams" ++ '"' :: paramsText m))) :=
    seamless_cons hvalue fun r hseam => by
      have hnext := (List.cons_prefix_cons.mp hseam).2
      unfold availableText at hnext
      split at hnext <;> exact absurd (List.cons_prefix_cons.mp hnext).1 (by decide)
  exact seamless_key h (seamless_append (t := label "available") hquoted (by decide))

/-- Modes are found again in their lines, if no key holds a seam. -/
theorem toldAlike_of_writeLines (h : ∀ m ∈ ms, ¬seam <:+: m.key.toList)
    (h' : ∀ m ∈ ms', ¬seam <:+: m.key.toList) (hms : ms ≠ []) (hms' : ms' ≠ [])
    (hlines : writeLines 2 (ms.map modeElement) = writeLines 2 (ms'.map modeElement)) :
    List.Forall₂ ToldAlike ms ms' := by
  have endsFirst {ms : List SearchMode} (h : ∀ m ∈ ms, ¬seam <:+: m.key.toList) :
      ∀ p ∈ ms.map modeText, EndsFirst seam p :=
    List.forall_mem_map.mpr fun m hm => (seamless_modeText (h m hm)).endsFirst
  rw [writeLines_modes hms,writeLines_modes hms'] at hlines
  have hjoin := List.append_cancel_right (List.cons.inj (List.append_cancel_left hlines)).2
  have htexts := join_unique (by decide) (endsFirst h) (endsFirst h') (by simpa using hms) (by simpa using hms')
    hjoin
  rw [← List.forall₂_eq_eq_eq,List.forall₂_map_left_iff,List.forall₂_map_right_iff] at htexts
  exact htexts.imp fun _ _ => toldAlike_of_modeText

end

/-! ## The document -/

/-- The line that ends the modes. -/
def modesEnd : Chars := ' ' :: ' ' :: '<' :: '/' :: ("searching".toList ++ ['>'])

def categoriesElement (ks : List Category) : Element := node "categories" (ks.map categoryElement)

/-- The text behind the modes. -/
def categoriesText (ks : List Category) : Chars :=
  ' ' :: ' ' :: ((categoriesElement ks).write 1 ++ '\n' :: '<' :: '/' :: ("caps".toList ++ ['>']))

def declaredSpaces (c : Capabilities) : Named String :=
  (node "caps" [node "searching" (c.modes.map modeElement),
    categoriesElement (Category.sortById c.categories)]).names.foldl declare []

/-- The text up to the end of the last mode. -/
def modesText (declared : Named String) (modes : List Element) : Chars :=
  "<?xml version='1.0' encoding='utf-8'?>\n".toList ++ '<' :: ("caps".toList ++
    (attributesText ((declared.mergeSort fun a b => decide (a.2 ≤ b.2)).map fun (space,p) => ("xmlns:" ++ p,space)) ++
      '>' :: (newLine 1 ++ '<' :: ("searching".toList ++ '>' :: writeLines 2 modes))))

section
variable {name : String} {attributes : List (String × String)} {children : List Element}
  {c c' : Capabilities}

theorem write_lines (depth : Nat) (hc : children ≠ []) : (Element.mk name attributes "" children).write depth =
    '<' :: (name.toList ++ (attributesText attributes ++ '>' :: (writeLines (depth + 1) children ++
      (newLine depth ++ '<' :: '/' :: (name.toList ++ ['>']))))) := by
  rw [← List.append_nil (Element.write _ _),write_append,tagRest_lines hc]

theorem renamedAll_eq_map (f : String → String) (es : List Element) :
    renamedAll f es = es.map (·.renamed f) := by
  induction es with
  | nil => rfl
  | cons e r ih => rw [renamedAll,ih,List.map_cons]

theorem spaceAndName?_of_head (h : name.toList.head? ≠ some '\x7b') : spaceAndName? name = none := by
  unfold spaceAndName?
  split
  next heq => simp [heq] at h
  · rfl

/-- A name in no name space stays as it is. -/
theorem writtenName_of_head (declared : Named String) (h : name.toList.head? ≠ some '\x7b') :
    writtenName declared name = name := by
  rw [writtenName,spaceAndName?_of_head h]

/-- Names in no name space declare none. -/
theorem foldl_declare_of_head {names : List String} (h : ∀ n ∈ names, n.toList.head? ≠ some '\x7b') :
    names.foldl declare [] = [] := by
  induction names with
  | nil => rfl
  | cons n names ih =>
    obtain ⟨hn,hnames⟩ := List.forall_mem_cons.mp h
    have hdeclare : declare [] n = [] := by rw [declare,spaceAndName?_of_head hn]
    rw [List.foldl_cons,hdeclare,ih hnames]

theorem renamed_categoriesElement (declared : Named String) (ks : List Category) :
    (categoriesElement ks).renamed (writtenName declared) = categoriesElement ks := by
  have hcategory (k : Category) : (categoryElement k).renamed (writtenName declared) = categoryElement k := by
    simp only [categoryElement,Element.renamed,renamedAll,List.map_cons,List.map_nil]
    rw [writtenName_of_head declared (by decide),writtenName_of_head declared (by decide),
      writtenName_of_head declared (by decide)]
  rw [categoriesElement,node,Element.renamed,writtenName_of_head declared (by decide),renamedAll_eq_map,
    List.map_map]
  simp only [Function.comp_def,hcategory,List.map_nil]

/-- The document ends with the end of its modes and its categories. -/
theorem payload_capabilities (hm : c.modes ≠ []) : (capabilities c).payload.toList =
    modesText (declaredSpaces c) (renamedAll (writtenName (declaredSpaces c)) (c.modes.map modeElement)) ++
      '\n' :: (modesEnd ++ '\n' :: categoriesText (Category.sortById c.categories)) := by
  generalize hD : declaredSpaces c = declared
  generalize hks : Category.sortById c.categories = ks
  have hdocument : (capabilities c).payload = "<?xml version='1.0' encoding='utf-8'?>\n" ++ String.ofList
      (((node "caps" [node "searching" (c.modes.map modeElement),categoriesElement ks]).renamed
        (writtenName declared)).declaring declared |>.write 0) := by
    rw [← hD,← hks]
    rfl
  have helement : ((node "caps" [node "searching" (c.modes.map modeElement),categoriesElement ks]).renamed
      (writtenName declared)).declaring declared = .mk "caps"
        ((declared.mergeSort fun a b => decide (a.2 ≤ b.2)).map fun (space,p) => ("xmlns:" ++ p,space)) ""
        [.mk "searching" [] "" (renamedAll (writtenName declared) (c.modes.map modeElement)),
          categoriesElement ks] := by
    simp only [node,Element.renamed,renamedAll,List.map_nil,Element.declaring,List.append_nil]
    rw [writtenName_of_head declared (by decide),writtenName_of_head declared (by decide),
      renamed_categoriesElement]
  have hchildren : renamedAll (writtenName declared) (c.modes.map modeElement) ≠ [] := by
    simpa [renamedAll_eq_map] using hm
  rw [hdocument,helement,write_lines 0 (List.cons_ne_nil _ _),writeLines,writeLines,writeLines,
    write_lines 1 hchildren]
  unfold modesText modesEnd categoriesText
  have hnone : attributesText [] = [] := rfl
  generalize "<?xml version='1.0' encoding='utf-8'?>\n" = header
  generalize "caps".toList = caps
  generalize "searching".toList = searching
  simp only [String.toList_append,String.toList_ofList,hnone,newLine,List.replicate,List.append_assoc,
    List.cons_append,List.nil_append,List.append_nil,Nat.reduceAdd]

end

/-! ## Categories -/

section
variable {k k' : Category} {ks ks' : List Category}

theorem categoryElement_inj (h : categoryElement k = categoryElement k') : k = k' := by
  obtain ⟨hid,hname⟩ : intText k.id = intText k'.id ∧ k.name = k'.name := by simpa [categoryElement] using h
  cases k
  cases k'
  exact congrArg₂ Category.mk (intText_inj hid) hname

theorem newLine_not_mem_category : '\n' ∉ (categoryElement k).write 2 := by
  have hvalue (value : String) : '\n' ∉ value.toList.flatMap escapeAttributeChar := by
    intro h
    obtain ⟨c,-,hc⟩ := List.mem_flatMap.mp h
    rw [escapeAttributeChar_eq] at hc
    exact not_mem_coded areNames_attributeNames (by decide) (by decide) (by decide) (by decide) hc
  have hnone : attributesText [] = [] := rfl
  rw [categoryElement,← List.append_nil (Element.write _ _),write_append,attributesText_cons,attributesText_cons,
    tagRest,if_pos ⟨rfl,rfl⟩]
  simp only [List.mem_cons,List.mem_append,hnone,hvalue,List.not_mem_nil]
  decide

def categoryLine (k : Category) : Chars := ' ' :: ' ' :: ' ' :: ' ' :: (categoryElement k).write 2

theorem splitOn_writeLines (s : Chars) (ks : List Category) :
    splitOn '\n' (s ++ writeLines 2 (ks.map categoryElement)) = splitOn '\n' s ++ ks.map categoryLine := by
  induction ks generalizing s with
  | nil => simp [writeLines]
  | cons k ks ih =>
    have hline : '\n' ∉ categoryLine k := by simpa [categoryLine] using newLine_not_mem_category
    have hcons : s ++ writeLines 2 ((k :: ks).map categoryElement) =
        s ++ '\n' :: (categoryLine k ++ writeLines 2 (ks.map categoryElement)) := by
      simp [writeLines,newLine,categoryLine,List.replicate]
    rw [hcons,splitOn_append_cons,ih,splitOn_of_not_mem hline,List.map_cons,List.singleton_append]

def categoriesBegin : Chars := ' ' :: ' ' :: '<' :: ("categories".toList ++ ['>'])

/-- The line that ends the categories, and the one behind it. -/
def categoriesEnd : Chars :=
  ' ' :: ' ' :: '<' :: '/' :: ("categories".toList ++ '>' :: '\n' :: '<' :: '/' :: ("caps".toList ++ ['>']))

theorem categoriesText_lines (h : ks ≠ []) : categoriesText ks =
    (categoriesBegin ++ writeLines 2 (ks.map categoryElement)) ++ '\n' :: categoriesEnd := by
  have hnone : attributesText [] = [] := rfl
  rw [categoriesText,categoriesElement,node,write_lines 1 (by simpa using h),categoriesBegin,categoriesEnd]
  generalize "categories".toList = name
  generalize "caps".toList = caps
  simp only [hnone,newLine,List.replicate,List.append_assoc,List.cons_append,List.nil_append]

/-- The modes do not end behind their end. -/
theorem modesEnd_not_mem : modesEnd ∉ splitOn '\n' (categoriesText ks) := by
  by_cases h : ks = []
  · rw [h]
    decide
  · have hbegin : modesEnd ∉ splitOn '\n' categoriesBegin := by decide
    have hend : modesEnd ∉ splitOn '\n' categoriesEnd := by decide
    rw [categoriesText_lines h,splitOn_append_cons,splitOn_writeLines]
    simp only [List.mem_append,not_or,List.mem_map]
    refine ⟨⟨hbegin,?_⟩,hend⟩
    -- The line of a category stands deeper.
    rintro ⟨k,-,hk⟩
    exact absurd hk (by simp [categoryLine,modesEnd])

/-- Categories can be read off their text. -/
theorem categoriesText_unique (h : categoriesText ks = categoriesText ks') : ks = ks' := by
  have names (ks : List Category) : ∀ n ∈ (categoriesElement ks).names, IsName n := by
    intro n hn
    rcases List.mem_append.mp hn with hn | hn
    · exact (by decide : ∀ n ∈ ["categories"], IsName n) n hn
    · obtain ⟨e,he,hn⟩ := mem_namesOf.mp hn
      obtain ⟨k,-,rfl⟩ := List.mem_map.mp he
      exact (by decide : ∀ n ∈ ["category","id","name"], IsName n) n hn
  have isOneKind (ks : List Category) : (categoriesElement ks).IsOneKind :=
    ⟨.inl rfl,areOneKind_iff.mpr (List.forall_mem_map.mpr fun _ _ => ⟨.inl rfl,trivial⟩)⟩
  obtain ⟨helement,-⟩ := Element.write_unique (names ks) (names ks') (isOneKind ks) (isOneKind ks')
    (List.cons.inj (List.cons.inj h).2).2
  have hmap : ks.map categoryElement = ks'.map categoryElement := by
    simpa [categoriesElement,node] using helement
  exact List.map_injective_iff.mpr (fun _ _ => categoryElement_inj) hmap

end

section
variable {c c' : Capabilities}

/-- The modes and the categories stand apart in a document. -/
theorem capabilities_unique (hm : c.modes ≠ []) (hm' : c'.modes ≠ [])
    (h : (capabilities c).payload = (capabilities c').payload) :
    modesText (declaredSpaces c) (renamedAll (writtenName (declaredSpaces c)) (c.modes.map modeElement)) =
      modesText (declaredSpaces c') (renamedAll (writtenName (declaredSpaces c')) (c'.modes.map modeElement)) ∧
    Category.sortById c.categories = Category.sortById c'.categories := by
  have htext := congrArg String.toList h
  rw [payload_capabilities hm,payload_capabilities hm'] at htext
  obtain ⟨hmodes,hcategories⟩ := line_unique (by decide) modesEnd_not_mem modesEnd_not_mem htext
  exact ⟨hmodes,categoriesText_unique hcategories⟩

theorem modesText_of_head (h : ∀ m ∈ c.modes, m.key.toList.head? ≠ some '\x7b') :
    modesText (declaredSpaces c) (renamedAll (writtenName (declaredSpaces c)) (c.modes.map modeElement)) =
      modesText [] (c.modes.map modeElement) := by
  have hmode : ∀ m ∈ c.modes, ∀ n ∈ (modeElement m).names, n.toList.head? ≠ some '\x7b' := by
    intro m hm n hn
    rcases List.mem_cons.mp hn with rfl | hn
    · exact h m hm
    · exact (by decide : ∀ n ∈ ["available","supportedParams"], n.toList.head? ≠ some '\x7b') n hn
  have hspaces : declaredSpaces c = [] := by
    refine foldl_declare_of_head fun n hn => ?_
    simp only [node,Element.names,namesOf,categoriesElement,List.map_nil,List.append_nil,List.cons_append,
      List.nil_append,List.mem_cons,List.mem_append,mem_namesOf,List.mem_map] at hn
    rcases hn with rfl | rfl | ⟨_,⟨m,hm,rfl⟩,hn⟩ | rfl | ⟨_,⟨k,-,rfl⟩,hn⟩
    · decide
    · decide
    · exact hmode m hm n hn
    · decide
    · exact (by decide : ∀ n ∈ ["category","id","name"], n.toList.head? ≠ some '\x7b') n hn
  have hrenamed : ∀ m ∈ c.modes, (modeElement m).renamed (writtenName []) = modeElement m := by
    intro m hm
    simp only [modeElement,Element.renamed,renamedAll,List.map_cons,List.map_nil]
    rw [writtenName_of_head [] (h m hm),writtenName_of_head [] (by decide),writtenName_of_head [] (by decide)]
  rw [hspaces,renamedAll_eq_map,List.map_map]
  exact congrArg _ (List.map_congr_left hrenamed)

/-- Modes with plain keys are told by a document. -/
theorem toldAlike_of_payload (hm : c.modes ≠ []) (hm' : c'.modes ≠ []) (hk : ∀ m ∈ c.modes, IsPlainKey m.key)
    (hk' : ∀ m ∈ c'.modes, IsPlainKey m.key) (h : (capabilities c).payload = (capabilities c').payload) :
    List.Forall₂ ToldAlike c.modes c'.modes := by
  obtain ⟨hmodes,-⟩ := capabilities_unique hm hm' h
  rw [modesText_of_head fun m hm => (hk m hm).space,modesText_of_head fun m hm => (hk' m hm).space] at hmodes
  refine toldAlike_of_writeLines (fun m hm => (hk m hm).seamless) (fun m hm => (hk' m hm).seamless) hm hm' ?_
  unfold modesText at hmodes
  simpa only [List.append_cancel_left_eq,List.cons.injEq,true_and] using hmodes

end

end TrackerHub.Feed

namespace TrackerHub

/-! ## The capabilities of definitions -/

/-- The categories that are mapped to have different ids. -/
theorem CategoryMap.nodup_categories (m : CategoryMap) : (m.categories.map (·.id)).Nodup := by
  have hfold (entries : Named Category) (found : List Category) (h : (found.map (·.id)).Nodup) :
      ((entries.foldl (fun acc e => if acc.any fun c => c.id == e.2.id then acc else acc ++ [e.2])
        found).map (·.id)).Nodup := by
    induction entries generalizing found with
    | nil => exact h
    | cons e entries ih =>
      rw [List.foldl_cons]
      refine ih _ ?_
      split
      next => exact h
      next hnew =>
        have hnew : e.2.id ∉ found.map (·.id) := by simpa using hnew
        rw [List.map_append,List.map_singleton,List.nodup_append_comm]
        exact List.nodup_cons.mpr ⟨hnew,h⟩
  exact hfold m.entries [] List.nodup_nil

/-- Different ids ascend when they are sorted. -/
theorem Category.pairwise_sortById {ks : List Category} (h : (ks.map (·.id)).Nodup) :
    (Category.sortById ks).Pairwise fun k k' => k.id < k'.id := by
  have hle : (Category.sortById ks).Pairwise fun k k' => k.id ≤ k'.id :=
    (List.pairwise_mergeSort (fun a b c hab hbc => by simp only [decide_eq_true_eq] at *; omega)
      (fun a b => by simp only [Bool.or_eq_true,decide_eq_true_eq]; omega) ks).imp of_decide_eq_true
  have hne : (Category.sortById ks).Pairwise fun k k' => k.id ≠ k'.id := by
    have hperm : (Category.sortById ks).Perm ks := List.mergeSort_perm _ _
    have hnodup : ((Category.sortById ks).map fun k => k.id).Nodup := (hperm.map fun k => k.id).nodup_iff.mpr h
    exact List.pairwise_map.mp hnodup
  exact hle.imp₂ (fun _ _ hle hne => Int.lt_iff_le_and_ne.mpr ⟨hle,hne⟩) hne

namespace Feed

/-- Whether a document ends with some categories. -/
def Lists (doc : Rendered) (ks : List Category) : Prop :=
  ∃ before, doc.payload.toList = before ++ '\n' :: categoriesText ks

end Feed

namespace Agent
open Feed

/-- The documents of capabilities of two definitions that are written alike tell the same categories, in the
order of their ids and none twice. They tell the same modes if the keys of the modes are plain. -/
theorem capabilities_told {a a' : Agent} {b b' : Text.Bytes} {source source' : String} {doc doc' : Rendered}
    (ha : Definition.parse b source = .ok a.definition) (ha' : Definition.parse b' source' = .ok a'.definition)
    (h : writeCapabilities a.capabilities = .ok doc) (h' : writeCapabilities a'.capabilities = .ok doc')
    (hp : doc.payload = doc'.payload) :
    (∃ ks : List Category, Lists doc ks ∧ ks.Pairwise (fun k k' => k.id < k'.id) ∧
      (∀ k, k ∈ ks ↔ k ∈ a.capabilities.categories) ∧ ∀ k, k ∈ ks ↔ k ∈ a'.capabilities.categories) ∧
    ((∀ m ∈ a.capabilities.modes ++ a'.capabilities.modes, IsPlainKey m.key) →
      List.Forall₂ ToldAlike a.capabilities.modes a'.capabilities.modes) := by
  have modes_ne_nil {a : Agent} {b : Text.Bytes} {source : String}
      (ha : Definition.parse b source = .ok a.definition) : a.capabilities.modes ≠ [] := by
    obtain ⟨es,-,hsound⟩ := Definition.isSound_of_parse ha
    simpa [Agent.capabilities] using hsound.modes
  have hm := modes_ne_nil ha
  have hm' := modes_ne_nil ha'
  obtain ⟨-,-,rfl⟩ := checked_eq_ok_iff.mp h
  obtain ⟨-,-,rfl⟩ := checked_eq_ok_iff.mp h'
  obtain ⟨-,hcategories⟩ := capabilities_unique hm hm' hp
  refine ⟨⟨Category.sortById a.capabilities.categories,?_,?_,?_,?_⟩,fun hplain => ?_⟩
  · exact ⟨_,(payload_capabilities hm).trans (List.append_assoc _ ('\n' :: modesEnd) _).symm⟩
  · exact Category.pairwise_sortById a.definition.categories.nodup_categories
  · exact fun _ => List.mem_mergeSort
  · rw [hcategories]
    exact fun _ => List.mem_mergeSort
  · obtain ⟨hplain,hplain'⟩ := List.forall_mem_append.mp hplain
    exact toldAlike_of_payload hm hm' hplain hplain' hp

/-- The modes of a definition and its document of capabilities. -/
def told (b : Text.Bytes) : Option (List SearchMode × String) :=
  (Definition.parse b "").toOption.bind fun d =>
    let c := ({ (default : Agent) with definition := d }).capabilities
    (writeCapabilities c).toOption.map fun doc => (c.modes,doc.payload)

/-- The modes of two definitions with the same document of capabilities. -/
def toldTogether (b b' : Text.Bytes) : Option (List SearchMode × List SearchMode) :=
  (told b).bind fun (modes,payload) => (told b').bind fun (modes',payload') =>
    if payload = payload' then some (modes,modes') else none

theorem exists_of_told {b : Text.Bytes} {modes : List SearchMode} {payload : String}
    (h : told b = some (modes,payload)) : ∃ (a : Agent) (doc : Rendered),
      Definition.parse b "" = .ok a.definition ∧ a.capabilities.modes = modes ∧
      writeCapabilities a.capabilities = .ok doc ∧ doc.payload = payload := by
  obtain ⟨d,hd,h⟩ := Option.bind_eq_some_iff.mp h
  obtain ⟨doc,hdoc,h⟩ := Option.map_eq_some_iff.mp h
  obtain ⟨hmodes,hpayload⟩ := Prod.mk.inj h
  exact ⟨{ (default : Agent) with definition := d },doc,toOption_eq_some.mp hd,hmodes,toOption_eq_some.mp hdoc,
    hpayload⟩

theorem exists_of_toldTogether {b b' : Text.Bytes} {modes modes' : List SearchMode}
    (h : toldTogether b b' = some (modes,modes')) : ∃ (a a' : Agent) (doc doc' : Rendered),
      Definition.parse b "" = .ok a.definition ∧ Definition.parse b' "" = .ok a'.definition ∧
      a.capabilities.modes = modes ∧ a'.capabilities.modes = modes' ∧
      writeCapabilities a.capabilities = .ok doc ∧ writeCapabilities a'.capabilities = .ok doc' ∧
      doc.payload = doc'.payload := by
  obtain ⟨⟨_,payload⟩,htold,h⟩ := Option.bind_eq_some_iff.mp h
  obtain ⟨⟨_,payload'⟩,htold',h⟩ := Option.bind_eq_some_iff.mp h
  dsimp only at h
  obtain ⟨hsame,h⟩ := Option.ite_none_right_eq_some.mp h
  obtain ⟨rfl,rfl⟩ := Prod.mk.inj (Option.some.inj h)
  obtain ⟨a,doc,ha,hmodes,hdoc,hpayload⟩ := exists_of_told htold
  obtain ⟨a',doc',ha',hmodes',hdoc',hpayload'⟩ := exists_of_told htold'
  exact ⟨a,a',doc,doc',ha,ha',hmodes,hmodes',hdoc,hdoc',hpayload.trans (hsame.trans hpayload'.symm)⟩

def withModes (modes : String) : Text.Bytes := Text.encodeUtf8
  ("site: s\nlinks: x\ncaps:\n  modes:\n".toList ++ modes.toList)

/-- A mode whose key holds the end of an element and the beginning of another one. -/
def forgedMode : Text.Bytes :=
  withModes "    \"a available=\\\"yes\\\" supportedParams=\\\"q\\\" />\\n    <b\": q\n"

set_option maxRecDepth 100000 in
/-- Parameters are told as they are joined; a mode whose key is not plain passes for two of them. -/
theorem forged_mode_told_alike :
    (∃ (a a' : Agent) (doc doc' : Rendered), writeCapabilities a.capabilities = .ok doc ∧
      writeCapabilities a'.capabilities = .ok doc' ∧ doc.payload = doc'.payload ∧
      a.capabilities.modes = [⟨"m",true,["q","r"]⟩] ∧ a'.capabilities.modes = [⟨"m",true,["q,r"]⟩] ∧
      List.Forall₂ ToldAlike a.capabilities.modes a'.capabilities.modes) ∧
    ∃ (a a' : Agent) (doc doc' : Rendered), Definition.parse forgedMode "" = .ok a.definition ∧
      writeCapabilities a.capabilities = .ok doc ∧ writeCapabilities a'.capabilities = .ok doc' ∧
      doc.payload = doc'.payload ∧ a.capabilities.modes.length = 1 ∧
      a'.capabilities.modes = [⟨"a",true,["q"]⟩,⟨"b",true,["q"]⟩] ∧
      ¬∀ m ∈ a.capabilities.modes ++ a'.capabilities.modes, IsPlainKey m.key := by
  constructor
  · have htold : toldTogether (withModes "    m: [q, r]\n") (withModes "    m: ['q,r']\n") =
        some ([⟨"m",true,["q","r"]⟩],[⟨"m",true,["q,r"]⟩]) := by decide +kernel
    obtain ⟨a,a',doc,doc',ha,ha',hmodes,hmodes',h,h',hp⟩ := exists_of_toldTogether htold
    refine ⟨a,a',doc,doc',h,h',hp,hmodes,hmodes',(capabilities_told ha ha' h h' hp).2 ?_⟩
    rw [hmodes,hmodes']
    have hplain : IsPlainKey "m" := ⟨by decide,by decide⟩
    simpa using hplain
  · have htold : (toldTogether forgedMode (withModes "    a: q\n    b: q\n")).map
        (fun modes => (modes.1.length,modes.2)) =
          some (1,[⟨"a",true,["q"]⟩,⟨"b",true,["q"]⟩]) := by decide +kernel
    obtain ⟨⟨modes,modes'⟩,htold,hmodes⟩ := Option.map_eq_some_iff.mp htold
    obtain ⟨hlength,rfl⟩ := Prod.mk.inj hmodes
    obtain ⟨a,a',doc,doc',ha,ha',rfl,hmodes',h,h',hp⟩ := exists_of_toldTogether htold
    refine ⟨a,a',doc,doc',ha,h,h',hp,hlength,hmodes',fun hplain => ?_⟩
    have hsame := ((capabilities_told ha ha' h h' hp).2 hplain).length_eq
    rw [hlength,hmodes'] at hsame
    exact absurd hsame (by decide)

end Agent

end TrackerHub
