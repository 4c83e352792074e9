import Mathlib.Data.List.TakeWhile
import TrackerHub.Feed.Markup

/-! # Unique reading of markup

A document can be read in one way only: elements that are written alike are the same, whatever stands
behind them. Names are letters, digits and colons, so that they end where they should; the escapes of
a text are told from each other by their first characters, and no text holds the mark that ends it.
-/
namespace TrackerHub.Feed
open TrackerHub.Text

/-- Where a run of characters ends is fixed by the first character that does not belong to it. -/
theorem run_unique {p : Char → Bool} {a b : Chars} {x y : Char} {r t : Chars}
    (ha : ∀ c ∈ a, p c = true) (hb : ∀ c ∈ b, p c = true) (hx : p x = false) (hy : p y = false)
    (h : a ++ x :: r = b ++ y :: t) : a = b ∧ x = y ∧ r = t := by
  have hab : a = b := by
    have := congrArg (List.takeWhile p) h
    rwa [List.takeWhile_append_of_pos ha,List.takeWhile_append_of_pos hb,
      List.takeWhile_cons_of_neg (by simp [hx]),List.takeWhile_cons_of_neg (by simp [hy]),
      List.append_nil,List.append_nil] at this
  subst hab
  have := List.append_cancel_left h
  cases this
  exact ⟨rfl,rfl,rfl⟩

/-- A text is fixed by its characters' codes if no code is the beginning of others. -/
theorem flatMap_unique {code : Char → Chars} (hne : ∀ c, code c ≠ [])
    (hcode : ∀ c d r t, code c ++ r = code d ++ t → c = d ∧ r = t) {s t : Chars}
    (h : s.flatMap code = t.flatMap code) : s = t := by
  induction s generalizing t with
  | nil =>
    cases t with
    | nil => rfl
    | cons d t => exact absurd (List.append_eq_nil_iff.mp h.symm).1 (hne d)
  | cons c s ih =>
    cases t with
    | nil => exact absurd (List.append_eq_nil_iff.mp h).1 (hne c)
    | cons d t =>
      obtain ⟨rfl,hst⟩ := hcode c d _ _ h
      rw [ih hst]

/-! ## Escapes -/

/-- A character as it is written: by its name between an ampersand and a semicolon, if it has one. -/
def coded (names : List (Char × Chars)) (c : Char) : Chars :=
  match names.find? fun e => e.1 == c with
  | some (_,name) => '&' :: name ++ [';']
  | none => [c]

/-- Whether names tell characters apart: the ampersand has one, and no name holds a semicolon. -/
structure AreNames (names : List (Char × Chars)) : Prop where
  ampersand : ∃ e ∈ names, e.1 = '&'
  ends : ∀ e ∈ names, ∀ c ∈ e.2, c ≠ ';'
  apart : ∀ e ∈ names, ∀ e' ∈ names, e.2 = e'.2 → e.1 = e'.1

section
variable {names : List (Char × Chars)} {c d x : Char} {r t : Chars}

/-- The code of a character is its name, or the character itself, which is no ampersand. -/
theorem coded_cases (h : AreNames names) (c : Char) :
    (∃ name, (c,name) ∈ names ∧ coded names c = '&' :: name ++ [';']) ∨
    (∀ e ∈ names, e.1 ≠ c) ∧ c ≠ '&' ∧ coded names c = [c] := by
  unfold coded
  cases hf : names.find? (fun e => e.1 == c) with
  | some e =>
    have hc : e.1 = c := by simpa using List.find?_some hf
    exact .inl ⟨e.2,hc ▸ List.mem_of_find?_eq_some hf,rfl⟩
  | none =>
    have hc : ∀ e ∈ names, e.1 ≠ c := fun e he => by simpa using List.find?_eq_none.mp hf e he
    obtain ⟨e,he,hamp⟩ := h.ampersand
    exact .inr ⟨hc,fun heq => hc e he (hamp.trans heq.symm),rfl⟩

theorem coded_ne_nil (h : AreNames names) (c : Char) : coded names c ≠ [] := by
  rcases coded_cases h c with ⟨name,-,hc⟩ | ⟨-,-,hc⟩ <;> simp [hc]

/-- No code is the beginning of another one. -/
theorem coded_unique (h : AreNames names) (heq : coded names c ++ r = coded names d ++ t) :
    c = d ∧ r = t := by
  rcases coded_cases h c with ⟨name,hmem,hc⟩ | ⟨-,hamp,hc⟩ <;>
    rcases coded_cases h d with ⟨name',hmem',hd⟩ | ⟨-,hamp',hd⟩ <;> rw [hc,hd] at heq
  · have heq : name ++ ';' :: r = name' ++ ';' :: t := by simpa using heq
    obtain ⟨hname,-,hr⟩ := run_unique (p := (· ≠ ';')) (by simpa using h.ends _ hmem)
      (by simpa using h.ends _ hmem') (by simp) (by simp) heq
    exact ⟨h.apart _ hmem _ hmem' hname,hr⟩
  · cases heq
    exact absurd rfl hamp'
  · cases heq
    exact absurd rfl hamp
  · cases heq
    exact ⟨rfl,rfl⟩

/-- A character that has a name, and is no part of one, is never written. -/
theorem not_mem_coded (h : AreNames names) (hx : ∃ e ∈ names, e.1 = x) (hmark : x ≠ ';')
    (hamp : x ≠ '&') (hname : ∀ e ∈ names, x ∉ e.2) : x ∉ coded names c := by
  obtain ⟨e,he,rfl⟩ := hx
  rcases coded_cases h c with ⟨name,hmem,hc⟩ | ⟨hnone,-,hc⟩
  · simpa [hc,hmark,hamp] using hname _ hmem
  · simpa [hc] using hnone e he

end

/-- The characters that have names in texts. -/
def textNames : List (Char × Chars) := [
  ('&',['a','m','p']),('<',['l','t']),('>',['g','t'])]

/-- The characters that have names or numbers in attributes. -/
def attributeNames : List (Char × Chars) := [
  ('"',['q','u','o','t']),('\r',['#','1','3']),('\n',['#','1','0']),('\t',['#','0','9'])] ++ textNames

theorem areNames_textNames : AreNames textNames := ⟨by decide,by simp [textNames],by decide⟩

theorem areNames_attributeNames : AreNames attributeNames :=
  ⟨by decide,by simp [attributeNames,textNames],by decide⟩

theorem escapeTextChar_eq (c : Char) : escapeTextChar c = coded textNames c := by
  unfold escapeTextChar coded textNames
  simp only [List.find?_cons,beq_iff_eq]
  grind

theorem escapeAttributeChar_eq (c : Char) : escapeAttributeChar c = coded attributeNames c := by
  unfold escapeAttributeChar
  rw [escapeTextChar_eq]
  unfold coded attributeNames textNames
  simp only [List.cons_append,List.nil_append,List.find?_cons,beq_iff_eq]
  grind

theorem escapeText_unique {s t : Chars} (h : s.flatMap escapeTextChar = t.flatMap escapeTextChar) :
    s = t := by
  rw [funext escapeTextChar_eq] at h
  exact flatMap_unique (coded_ne_nil areNames_textNames) (fun _ _ _ _ => coded_unique areNames_textNames) h

theorem escapeAttribute_unique {s t : Chars}
    (h : s.flatMap escapeAttributeChar = t.flatMap escapeAttributeChar) : s = t := by
  rw [funext escapeAttributeChar_eq] at h
  exact flatMap_unique (coded_ne_nil areNames_attributeNames)
    (fun _ _ _ _ => coded_unique areNames_attributeNames) h

/-- No tag begins inside a text. -/
theorem mem_escapeText {s : Chars} {c : Char} (h : c ∈ s.flatMap escapeTextChar) : c ≠ '<' := by
  obtain ⟨d,-,hc⟩ := List.mem_flatMap.mp h
  rw [escapeTextChar_eq] at hc
  rintro rfl
  exact not_mem_coded areNames_textNames (by decide) (by decide) (by decide) (by decide) hc

/-- No value ends inside an attribute. -/
theorem mem_escapeAttribute {s : Chars} {c : Char} (h : c ∈ s.flatMap escapeAttributeChar) : c ≠ '"' := by
  obtain ⟨d,-,hc⟩ := List.mem_flatMap.mp h
  rw [escapeAttributeChar_eq] at hc
  rintro rfl
  exact not_mem_coded areNames_attributeNames (by decide) (by decide) (by decide) (by decide) hc

/-! ## Names and attributes -/

def isNameChar (c : Char) : Bool := c.isAlphanum || c == ':'

def IsName (name : String) : Prop := name.toList ≠ [] ∧ ∀ c ∈ name.toList, isNameChar c = true

-- Decided for the characters of the name, not for all characters.
instance (name : String) : Decidable (IsName name) :=
  haveI := List.decidableBAll (fun c => isNameChar c = true) name.toList
  inferInstanceAs (Decidable (_ ∧ _))

theorem name_unique {name name' : String} {x y : Char} {r t : Chars} (hn : IsName name)
    (hn' : IsName name') (hx : isNameChar x = false) (hy : isNameChar y = false)
    (h : name.toList ++ x :: r = name'.toList ++ y :: t) : name = name' ∧ x = y ∧ r = t := by
  obtain ⟨hname,hrest⟩ := run_unique hn.2 hn'.2 hx hy h
  exact ⟨String.toList_inj.mp hname,hrest⟩

/-- What may follow the attributes of a start tag. -/
def EndsTag (s : Chars) : Prop := (∃ r, s = ' ' :: '/' :: r) ∨ ∃ r, s = '>' :: r

theorem attributesText_cons (name value : String) (rest : List (String × String)) (r : Chars) :
    attributesText ((name,value) :: rest) ++ r = ' ' :: (name.toList ++ '=' ::
      ('"' :: (value.toList.flatMap escapeAttributeChar ++ '"' :: (attributesText rest ++ r)))) := by
  simp [attributesText]

/-- A tag does not end where an attribute begins. -/
theorem not_endsTag_attribute {name : String} {r : Chars} (hn : IsName name) :
    ¬ EndsTag (' ' :: (name.toList ++ r)) := by
  rintro (⟨t,h⟩ | ⟨t,h⟩)
  · obtain ⟨c,cs,hc⟩ := List.exists_cons_of_ne_nil hn.1
    rw [hc] at h
    cases h
    exact absurd (hn.2 '/' (hc ▸ List.mem_cons_self)) (by decide)
  · cases h

theorem attributes_unique {attributes attributes' : List (String × String)} {r t : Chars}
    (hn : ∀ a ∈ attributes, IsName a.1) (hn' : ∀ a ∈ attributes', IsName a.1) (hr : EndsTag r)
    (ht : EndsTag t) (h : attributesText attributes ++ r = attributesText attributes' ++ t) :
    attributes = attributes' ∧ r = t := by
  induction attributes generalizing attributes' with
  | nil =>
    cases attributes' with
    | nil => exact ⟨rfl,h⟩
    | cons a rest =>
      rw [attributesText_cons] at h
      exact absurd ((show r = _ from h) ▸ hr) (not_endsTag_attribute (hn' a List.mem_cons_self))
  | cons a rest ih =>
    obtain ⟨name,value⟩ := a
    rw [attributesText_cons] at h
    have hname : IsName name := hn (name,value) List.mem_cons_self
    cases attributes' with
    | nil => exact absurd ((show _ = t from h) ▸ ht) (not_endsTag_attribute hname)
    | cons a' rest' =>
      obtain ⟨name',value'⟩ := a'
      rw [attributesText_cons] at h
      obtain ⟨rfl,-,h⟩ := name_unique hname (hn' (name',value') List.mem_cons_self) (by decide)
        (by decide) (List.cons.inj h).2
      obtain ⟨hvalue,-,h⟩ := run_unique (p := (· ≠ '"')) (fun c hc => by simpa using mem_escapeAttribute hc)
        (fun c hc => by simpa using mem_escapeAttribute hc) (by simp) (by simp) (List.cons.inj h).2
      obtain ⟨rfl,htail⟩ := ih (fun a ha => hn a (List.mem_cons_of_mem _ ha))
        (fun a ha => hn' a (List.mem_cons_of_mem _ ha)) h
      rw [String.toList_inj.mp (escapeAttribute_unique hvalue)]
      exact ⟨rfl,htail⟩

/-! ## Elements -/

mutual

/-- Whether every element in an element holds either text or further elements. -/
def Element.IsOneKind : Element → Prop
  | .mk _ _ text children => (text = "" ∨ children = []) ∧ AreOneKind children

def AreOneKind : List Element → Prop
  | [] => True
  | e :: r => e.IsOneKind ∧ AreOneKind r

end

theorem writeLines_eq_nil_iff {depth : Nat} {es : List Element} : writeLines depth es = [] ↔ es = [] := by
  cases es with
  | nil => simp [writeLines]
  | cons e r => simp [writeLines,newLine]

/-- What follows the attributes of an element: it closes itself, or holds text, or lines. -/
def tagRest (depth : Nat) (name text : String) (children : List Element) (r : Chars) : Chars :=
  if children = [] ∧ text = "" then ' ' :: '/' :: '>' :: r
  else '>' :: (text.toList.flatMap escapeTextChar ++ (writeLines (depth + 1) children ++
    ((if children = [] then [] else newLine depth) ++ '<' :: '/' :: (name.toList ++ '>' :: r))))

section
variable {depth : Nat} {name text : String} {attributes : List (String × String)}
  {children : List Element} {r : Chars}

theorem write_append : (Element.mk name attributes text children).write depth ++ r =
    '<' :: (name.toList ++ (attributesText attributes ++ tagRest depth name text children r)) := by
  simp only [Element.write,List.isEmpty_iff,writeLines_eq_nil_iff,Bool.and_eq_true,String.isEmpty_iff,
    tagRest]
  split_ifs <;> simp

theorem endsTag_tagRest (depth : Nat) (name text : String) (children : List Element) (r : Chars) :
    EndsTag (tagRest depth name text children r) := by
  unfold tagRest
  split
  · exact .inl ⟨_,rfl⟩
  · exact .inr ⟨_,rfl⟩

/-- A name ends before the attributes and before the end of the tag. -/
theorem exists_attributes_append (attributes : List (String × String)) (hr : EndsTag r) :
    ∃ x t, attributesText attributes ++ r = x :: t ∧ isNameChar x = false := by
  cases attributes with
  | nil => rcases hr with ⟨t,rfl⟩ | ⟨t,rfl⟩ <;> exact ⟨_,_,rfl,by decide⟩
  | cons a rest => exact ⟨_,_,attributesText_cons a.1 a.2 rest r,by decide⟩

theorem tagRest_text (ht : text ≠ "") : tagRest depth name text [] r =
    '>' :: (text.toList.flatMap escapeTextChar ++ '<' :: ('/' :: (name.toList ++ '>' :: r))) := by
  simp [tagRest,ht,writeLines]

theorem tagRest_lines (hc : children ≠ []) : tagRest depth name "" children r =
    '>' :: (writeLines (depth + 1) children ++
      (newLine depth ++ '<' :: '/' :: (name.toList ++ '>' :: r))) := by
  simp [tagRest,hc]

theorem not_mem_newLine {c : Char} (h : c ∈ newLine depth) : c = '\n' ∨ c = ' ' := by
  rcases List.mem_cons.mp h with rfl | h
  · exact .inl rfl
  · exact .inr (List.eq_of_mem_replicate h)

/-- Lines begin with the tag of the first element. -/
theorem writeLines_cons (depth : Nat) (e : Element) (rest : List Element) (r : Chars) :
    ∃ x t, writeLines depth (e :: rest) ++ r = newLine depth ++ '<' :: x :: t ∧
      ((∀ n ∈ e.names, IsName n) → isNameChar x = true) := by
  cases e with
  | mk name attributes text children =>
    rw [writeLines,List.append_assoc,List.append_assoc,write_append]
    cases hn : name.toList with
    | nil =>
      obtain ⟨x,t,hx,-⟩ := exists_attributes_append attributes
        (endsTag_tagRest depth name text children (writeLines depth rest ++ r))
      exact ⟨x,t,by rw [hx]; rfl,fun h => absurd hn (h name (by simp [Element.names])).1⟩
    | cons c cs =>
      exact ⟨c,_,rfl,fun h => (h name (by simp [Element.names])).2 c (hn ▸ List.mem_cons_self)⟩

/-- A text is not taken for lines. -/
theorem text_ne_lines {e : Element} {rest : List Element} {t u : Chars} (he : ∀ n ∈ e.names, IsName n) :
    text.toList.flatMap escapeTextChar ++ '<' :: '/' :: t ≠ writeLines depth (e :: rest) ++ u := by
  intro h
  obtain ⟨x,v,hlines,hx⟩ := writeLines_cons depth e rest u
  rw [hlines] at h
  obtain ⟨-,-,h⟩ := run_unique (p := (· ≠ '<')) (fun c hc => by simpa using mem_escapeText hc)
    (fun c hc => by rcases not_mem_newLine hc with rfl | rfl <;> decide) (by simp) (by simp) h
  cases h
  exact absurd (hx he) (by decide)

/-- An element without further elements is not taken for one that has some. -/
theorem tagRest_ne_lines {e : Element} {rest : List Element} {t : Chars} (he : ∀ n ∈ e.names, IsName n) :
    tagRest depth name text [] r ≠ tagRest depth name "" (e :: rest) t := by
  intro h
  rw [tagRest_lines (List.cons_ne_nil e rest)] at h
  by_cases ht : text = ""
  · rw [tagRest,if_pos ⟨rfl,ht⟩] at h
    cases h
  · rw [tagRest_text ht] at h
    exact text_ne_lines he (List.cons.inj h).2

/-- What an element without further elements holds is fixed by its text. -/
theorem text_of_tagRest {text' : String} {t : Chars}
    (h : tagRest depth name text [] r = tagRest depth name text' [] t) : text = text' ∧ r = t := by
  by_cases ht : text = "" <;> by_cases ht' : text' = ""
  · subst ht
    subst ht'
    exact ⟨rfl,by simpa [tagRest] using h⟩
  · rw [tagRest_text ht',tagRest,if_pos ⟨rfl,ht⟩] at h
    cases h
  · rw [tagRest_text ht,tagRest,if_pos ⟨rfl,ht'⟩] at h
    cases h
  · rw [tagRest_text ht,tagRest_text ht'] at h
    obtain ⟨htext,-,hrest⟩ := run_unique (p := (· ≠ '<')) (fun c hc => by simpa using mem_escapeText hc)
      (fun c hc => by simpa using mem_escapeText hc) (by simp) (by simp) (List.cons.inj h).2
    exact ⟨String.toList_inj.mp (escapeText_unique htext),by simpa using hrest⟩

/-- Lines end where the indentation does. -/
theorem newLine_ne_lines {e : Element} {rest : List Element} {t u : Chars} :
    newLine depth ++ '<' :: t ≠ writeLines (depth + 1) (e :: rest) ++ u := by
  intro h
  obtain ⟨x,v,hlines,-⟩ := writeLines_cons (depth + 1) e rest u
  rw [hlines] at h
  obtain ⟨h,-⟩ := run_unique (p := (· ≠ '<'))
    (fun c hc => by rcases not_mem_newLine hc with rfl | rfl <;> decide)
    (fun c hc => by rcases not_mem_newLine hc with rfl | rfl <;> decide) (by simp) (by simp) h
  have := congrArg List.length h
  simp only [newLine,List.length_cons,List.length_replicate] at this
  omega

end

mutual

/-- An element that is written at some depth can be read in one way only, whatever follows it. -/
theorem Element.write_unique : ∀ {e e' : Element} {depth : Nat} {r t : Chars},
    (∀ n ∈ e.names, IsName n) → (∀ n ∈ e'.names, IsName n) → e.IsOneKind → e'.IsOneKind →
    e.write depth ++ r = e'.write depth ++ t → e = e' ∧ r = t
  | .mk name attributes text children, .mk name' attributes' text' children', depth, r, t => by
    intro hn hn' hk hk' h
    rw [write_append,write_append] at h
    have h := (List.cons.inj h).2
    obtain ⟨x,u,hx,hxname⟩ := exists_attributes_append attributes (endsTag_tagRest depth name text children r)
    obtain ⟨y,v,hy,hyname⟩ := exists_attributes_append attributes' (endsTag_tagRest depth name' text' children' t)
    simp only [Element.names,List.cons_append,List.mem_cons,List.mem_append,List.mem_map] at hn hn'
    have hname : name = name' := by
      rw [hx,hy] at h
      exact (name_unique (hn _ (.inl rfl)) (hn' _ (.inl rfl)) hxname hyname h).1
    subst hname
    obtain ⟨rfl,htail⟩ := attributes_unique (fun a ha => hn _ (.inr (.inl ⟨a,ha,rfl⟩)))
      (fun a ha => hn' _ (.inr (.inl ⟨a,ha,rfl⟩))) (endsTag_tagRest _ _ _ _ _) (endsTag_tagRest _ _ _ _ _)
      (List.append_cancel_left h)
    have hc : ∀ n ∈ namesOf children, IsName n := fun n hmem => hn n (.inr (.inr hmem))
    have hc' : ∀ n ∈ namesOf children', IsName n := fun n hmem => hn' n (.inr (.inr hmem))
    obtain ⟨hkind,hchildren⟩ := hk
    obtain ⟨hkind',hchildren'⟩ := hk'
    match children, children', hc, hc', hkind, hkind', hchildren, hchildren', htail with
    | [], [], _, _, _, _, _, _, htail =>
      obtain ⟨rfl,hr⟩ := text_of_tagRest htail
      exact ⟨rfl,hr⟩
    | [], e :: rest, _, hc', _, hkind', _, _, htail =>
      obtain rfl := hkind'.resolve_right (List.cons_ne_nil e rest)
      exact absurd htail (tagRest_ne_lines fun n hmem =>
        hc' n (by rw [namesOf]; exact List.mem_append_left _ hmem))
    | e :: rest, [], hc, _, hkind, _, _, _, htail =>
      obtain rfl := hkind.resolve_right (List.cons_ne_nil e rest)
      exact absurd htail.symm (tagRest_ne_lines fun n hmem =>
        hc n (by rw [namesOf]; exact List.mem_append_left _ hmem))
    | e :: rest, e' :: rest', hc, hc', hkind, hkind', hchildren, hchildren', htail =>
      obtain rfl := hkind.resolve_right (List.cons_ne_nil e rest)
      obtain rfl := hkind'.resolve_right (List.cons_ne_nil e' rest')
      rw [tagRest_lines (List.cons_ne_nil e rest),tagRest_lines (List.cons_ne_nil e' rest')] at htail
      obtain ⟨hlines,hrest⟩ := writeLines_unique hc hc' hchildren hchildren' (List.cons.inj htail).2
      rw [hlines]
      exact ⟨rfl,by simpa using hrest⟩

/-- Lines can be read in one way only, up to the end tag that follows them. -/
theorem writeLines_unique : ∀ {es es' : List Element} {depth : Nat} {r t : Chars},
    (∀ n ∈ namesOf es, IsName n) → (∀ n ∈ namesOf es', IsName n) → AreOneKind es → AreOneKind es' →
    writeLines (depth + 1) es ++ (newLine depth ++ '<' :: '/' :: r) =
      writeLines (depth + 1) es' ++ (newLine depth ++ '<' :: '/' :: t) → es = es' ∧ r = t
  | [], [], depth, r, t => by
    intro _ _ _ _ h
    exact ⟨rfl,by simpa [writeLines] using h⟩
  | [], e :: rest, depth, r, t => by
    intro _ _ _ _ h
    exact absurd h newLine_ne_lines
  | e :: rest, [], depth, r, t => by
    intro _ _ _ _ h
    exact absurd h.symm newLine_ne_lines
  | e :: rest, e' :: rest', depth, r, t => by
    intro hn hn' hk hk' h
    simp only [namesOf,List.mem_append] at hn hn'
    simp only [writeLines,List.append_assoc] at h
    obtain ⟨rfl,hrest⟩ := Element.write_unique (fun n hmem => hn n (.inl hmem))
      (fun n hmem => hn' n (.inl hmem)) hk.1 hk'.1 (List.append_cancel_left h)
    obtain ⟨rfl,hr⟩ := writeLines_unique (fun n hmem => hn n (.inr hmem)) (fun n hmem => hn' n (.inr hmem))
      hk.2 hk'.2 hrest
    exact ⟨rfl,hr⟩

end

end TrackerHub.Feed
