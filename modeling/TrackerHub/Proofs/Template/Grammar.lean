import TrackerHub.Proofs.ReadLists
import TrackerHub.Proofs.Template.Actions
import TrackerHub.Proofs.Text.SplitText

/-! # The grammar of templates

Which texts are templates. What the actions of a template say has to be a derivation of a small grammar:
paths, sections that are repeated over a path, and sections that depend on one.
-/
namespace TrackerHub.Template
open TrackerHub.Text

/-! ## Paths -/

/-- A name behind each of one or more dots. -/
def IsNames (r : Chars) : Prop :=
  ∃ name names, r = ((name :: names).flatMap fun n => '.' :: n) ∧ ∀ n ∈ name :: names, isKey n = true

/-- The texts that are paths: the present value, the root, or the names that lead from one of them to a
value. -/
inductive IsPath : Chars → Prop where
  | here : IsPath ['.']
  | root : IsPath ['$']
  | names {r : Chars} (h : IsNames r) : IsPath r
  | namesFromRoot {r : Chars} (h : IsNames r) : IsPath ('$' :: r)

theorem flatMap_dots (name : Chars) (names : List Chars) :
    ((name :: names).flatMap fun n => '.' :: n) = join ['.'] ([] :: name :: names) := by
  induction names generalizing name with
  | nil => simp [join]
  | cons n names ih => simpa [join] using ih n

theorem dot_not_mem {name : Chars} (h : isKey name = true) : '.' ∉ name := by
  cases name with
  | nil => cases h
  | cons c r =>
    simp only [isKey,Bool.and_eq_true,Bool.or_eq_true,beq_iff_eq,List.all_eq_true] at h
    intro hmem
    rcases List.mem_cons.mp hmem with rfl | hmem
    · exact absurd h.1 (by decide)
    · exact absurd (h.2 '.' hmem) (by decide)

theorem isNames_iff {r : Chars} : IsNames r ↔
    ∃ name names, splitOn '.' r = [] :: name :: names ∧ ∀ n ∈ name :: names, isKey n = true := by
  constructor
  · rintro ⟨name,names,rfl,hkeys⟩
    refine ⟨name,names,?_,hkeys⟩
    rw [flatMap_dots]
    exact splitOn_join (List.cons_ne_nil _ _)
      (List.forall_mem_cons.mpr ⟨List.not_mem_nil,fun n hn => dot_not_mem (hkeys n hn)⟩)
  · rintro ⟨name,names,hsplit,hkeys⟩
    refine ⟨name,names,?_,hkeys⟩
    rw [flatMap_dots,← hsplit,join_splitOn]

/-- The path behind its start. -/
def readNames? (text : String) (root : Bool) (r : Chars) : Option Path :=
  match splitOn '.' r with
  | [] :: k :: ks => if (k :: ks).all isKey then some ⟨text,root,(k :: ks).map String.ofList⟩ else none
  | _ => none

theorem isSome_readNames?_iff {text : String} {root : Bool} {r : Chars} :
    (readNames? text root r).isSome ↔ IsNames r := by
  rw [isNames_iff,readNames?]
  split
  next k ks heq =>
    rw [heq]
    by_cases h : (k :: ks).all isKey
    · rw [if_pos h]
      exact iff_of_true rfl ⟨k,ks,rfl,List.all_eq_true.mp h⟩
    · rw [if_neg h]
      refine iff_of_false Bool.false_ne_true ?_
      rintro ⟨_,_,⟨⟩,hkeys⟩
      exact h (List.all_eq_true.mpr hkeys)
  next hne => exact iff_of_false Bool.false_ne_true fun h => by grind

theorem readPath?_fromRoot {r : Chars} (h : r ≠ []) :
    readPath? ('$' :: r) = readNames? (String.ofList ('$' :: r)) true r := by
  cases r with
  | nil => exact absurd rfl h
  | cons c r => rfl

theorem readPath?_fromHere {s : Chars} (hhere : s ≠ ['.']) (hroot : ∀ r, s ≠ '$' :: r) :
    readPath? s = readNames? (String.ofList s) false s := by
  cases s with
  | nil => rfl
  | cons c r =>
    have hc : c ≠ '$' := fun h => hroot r (by rw [h])
    simp only [readPath?,readNames?]
    split
    next h => exact absurd h hhere
    next h => exact absurd h (hroot [])
    next => rfl

theorem IsNames.ne {r : Chars} (h : IsNames r) : r ≠ [] ∧ r ≠ ['.'] ∧ ∀ t, r ≠ '$' :: t := by
  obtain ⟨name,names,rfl,hkeys⟩ := h
  have hname := hkeys name List.mem_cons_self
  refine ⟨by simp,?_,by simp⟩
  rintro heq
  obtain rfl : name = [] := by simp_all
  cases hname

theorem isSome_readPath?_iff {s : Chars} : (readPath? s).isSome ↔ IsPath s := by
  constructor
  · intro h
    by_cases hhere : s = ['.']
    · exact hhere ▸ .here
    by_cases hroot : ∃ r, s = '$' :: r
    · obtain ⟨r,rfl⟩ := hroot
      by_cases hr : r = []
      · exact hr ▸ .root
      · rw [readPath?_fromRoot hr] at h
        exact .namesFromRoot (isSome_readNames?_iff.mp h)
    · rw [readPath?_fromHere hhere (not_exists.mp hroot)] at h
      exact .names (isSome_readNames?_iff.mp h)
  · rintro (_ | _ | h | h)
    · rfl
    · rfl
    · rw [readPath?_fromHere h.ne.2.1 h.ne.2.2]
      exact isSome_readNames?_iff.mpr h
    · rw [readPath?_fromRoot h.ne.1]
      exact isSome_readNames?_iff.mpr h

/-! ## Blanks around a path -/

/-- Whether the character may stand in a path. -/
def isPathChar (c : Char) : Bool := c == '.' || c == '$' || c == '_' || c.isAlpha || isWordChar c

theorem nonblank_of_isPathChar {c : Char} (h : isPathChar c = true) : isBlank c = false := by
  refine Bool.eq_false_iff.mpr fun hblank => ?_
  have hnot : (!isPathChar c) = true := forall_blank (p := fun c => !isPathChar c) (by decide +kernel) hblank
  simp [h] at hnot

theorem isPathChar_of_isKey {name : Chars} (h : isKey name = true) : ∀ c ∈ name, isPathChar c = true := by
  cases name with
  | nil => cases h
  | cons c r =>
    simp only [isKey,Bool.and_eq_true,List.all_eq_true] at h
    refine List.forall_mem_cons.mpr ⟨?_,fun d hd => ?_⟩
    · rcases (Bool.or_eq_true _ _).mp h.1 with h | h <;> simp [isPathChar,h]
    · simp [isPathChar,h.2 d hd]

theorem isPathChar_of_isNames {r : Chars} (h : IsNames r) : ∀ c ∈ r, isPathChar c = true := by
  obtain ⟨name,names,rfl,hkeys⟩ := h
  intro c hc
  obtain ⟨n,hn,hc⟩ := List.mem_flatMap.mp hc
  rcases List.mem_cons.mp hc with rfl | hc
  · rfl
  · exact isPathChar_of_isKey (hkeys n hn) c hc

theorem isPathChar_of_isPath {p : Chars} (h : IsPath p) : ∀ c ∈ p, isPathChar c = true := by
  rcases h with _ | _ | h | h
  · exact List.forall_mem_singleton.mpr rfl
  · exact List.forall_mem_singleton.mpr rfl
  · exact isPathChar_of_isNames h
  · exact List.forall_mem_cons.mpr ⟨rfl,isPathChar_of_isNames h⟩

theorem nonblank_of_isPath {p : Chars} (h : IsPath p) : ∀ c ∈ p, isBlank c = false :=
  fun c hc => nonblank_of_isPathChar (isPathChar_of_isPath h c hc)

/-- A path begins with a dot or with the mark of the root. -/
theorem IsPath.head {p : Chars} (h : IsPath p) : ∃ c r, p = c :: r ∧ (c = '.' ∨ c = '$') := by
  rcases h with _ | _ | ⟨_,_,rfl,_⟩ | _
  · exact ⟨_,_,rfl,.inl rfl⟩
  · exact ⟨_,_,rfl,.inr rfl⟩
  · exact ⟨_,_,rfl,.inl rfl⟩
  · exact ⟨_,_,rfl,.inr rfl⟩

theorem isPath_trim_iff {r : Chars} : IsPath (trim r) ↔ ∃ lead path trail, r = lead ++ path ++ trail ∧
    IsPath path ∧ (∀ c ∈ lead, isBlank c = true) ∧ ∀ c ∈ trail, isBlank c = true := by
  constructor
  · intro h
    obtain ⟨lead,trail,hr,hlead,htrail⟩ := exists_trim r
    exact ⟨lead,trim r,trail,hr,h,hlead,htrail⟩
  · rintro ⟨lead,path,trail,rfl,hpath,hlead,htrail⟩
    obtain ⟨c,r,rfl,-⟩ := hpath.head
    rwa [trim_blanks hlead (nonblank_of_isPath hpath) htrail]

/-! ## The language -/

/-- What an action says up to its first space. -/
def firstWord (a : Chars) : Chars := a.takeWhile (· != ' ')

/-- An action that opens a section: a word, a space, and a path with blanks around it. -/
def Opens (word : String) (a : Chars) : Prop :=
  ∃ lead path trail, a = word.toList ++ ' ' :: (lead ++ path ++ trail) ∧ IsPath path ∧
    (∀ c ∈ lead, isBlank c = true) ∧ ∀ c ∈ trail, isBlank c = true

/-- The sequences of actions that a template may have; `Stands` tells when an action is taken as a closing
word. -/
inductive Nodes (Stands : String → Chars → Prop) : List Chars → Prop where
  | nil : Nodes Stands []
  | path {a : Chars} {rest : List Chars} (ha : IsPath a) (h : Nodes Stands rest) : Nodes Stands (a :: rest)
  | range {a c : Chars} {body rest : List Chars} (ha : Opens "range" a) (hbody : Nodes Stands body)
      (hc : Stands "end" c) (h : Nodes Stands rest) : Nodes Stands (a :: (body ++ c :: rest))
  | choice {a c : Chars} {yes rest : List Chars} (ha : Opens "if" a) (hyes : Nodes Stands yes)
      (hc : Stands "end" c) (h : Nodes Stands rest) : Nodes Stands (a :: (yes ++ c :: rest))
  | choiceElse {a b c : Chars} {yes no rest : List Chars} (ha : Opens "if" a) (hyes : Nodes Stands yes)
      (hb : Stands "else" b) (hno : Nodes Stands no) (hc : Stands "end" c) (h : Nodes Stands rest) :
      Nodes Stands (a :: (yes ++ b :: (no ++ c :: rest)))

/-- An action that is exactly a word. -/
def IsWord (word : String) (a : Chars) : Prop := a = word.toList

/-- An action that is a word, or a word and anything behind a space. -/
def BeginsWith (word : String) (a : Chars) : Prop := firstWord a = word.toList

theorem ofList_firstWord_eq_iff {a : Chars} {word : String} :
    String.ofList (firstWord a) = word ↔ BeginsWith word a := by
  rw [BeginsWith,← String.toList_inj,String.toList_ofList]

theorem firstWord_append {word : Chars} (h : ' ' ∉ word) (r : Chars) : firstWord (word ++ ' ' :: r) = word := by
  have hword : ∀ c ∈ word, (c != ' ') = true := fun c hc => bne_iff_ne.mpr fun heq => h (heq ▸ hc)
  rw [firstWord,List.takeWhile_append_of_pos hword,List.takeWhile_cons_of_neg (by decide),List.append_nil]

theorem firstWord_of_isPath {a : Chars} (h : IsPath a) : firstWord a = a := by
  refine List.takeWhile_eq_self_iff.mpr fun c hc => bne_iff_ne.mpr ?_
  rintro rfl
  exact absurd (nonblank_of_isPath h ' ' hc) (by decide)

/-- What an action says behind its first space, without the blanks around it. -/
def argument (a : Chars) : Chars := trim ((a.drop (firstWord a).length).drop 1)

theorem splitAction_eq (a : Chars) : splitAction a = (firstWord a,argument a) := rfl

theorem argument_append {word : Chars} (h : ' ' ∉ word) (r : Chars) : argument (word ++ ' ' :: r) = trim r := by
  rw [argument,firstWord_append h,List.drop_left,List.drop_one,List.tail_cons]

/-- An action is one word, or a word and more behind a space. -/
theorem word_cases (a : Chars) : (firstWord a = a ∧ argument a = []) ∨ ∃ r, a = firstWord a ++ ' ' :: r := by
  have hsplit : a = firstWord a ++ a.dropWhile (· != ' ') := List.takeWhile_append_dropWhile.symm
  cases hdrop : a.dropWhile (· != ' ') with
  | nil =>
    rw [hdrop,List.append_nil] at hsplit
    refine .inl ⟨hsplit.symm,?_⟩
    rw [argument,← hsplit,List.drop_length]
    rfl
  | cons c r =>
    have hc := List.head_dropWhile_not (· != ' ') (l := a) (by simp [hdrop])
    rw [hdrop] at hsplit
    simp only [hdrop,List.head_cons] at hc
    obtain rfl : c = ' ' := by simpa using hc
    exact .inr ⟨r,hsplit⟩

theorem opens_iff {word : String} {a : Chars} (h : ' ' ∉ word.toList) :
    Opens word a ↔ BeginsWith word a ∧ IsPath (argument a) := by
  constructor
  · rintro ⟨lead,path,trail,rfl,hpath,hlead,htrail⟩
    refine ⟨firstWord_append h _,?_⟩
    rw [argument_append h]
    exact isPath_trim_iff.mpr ⟨lead,path,trail,rfl,hpath,hlead,htrail⟩
  · rintro ⟨hword,hpath⟩
    rcases word_cases a with ⟨-,harg⟩ | ⟨r,ha⟩
    · obtain ⟨c,r,hcons,-⟩ := hpath.head
      simp [harg] at hcons
    · rw [hword] at ha
      rw [ha,argument_append h] at hpath
      obtain ⟨lead,path,trail,rfl,hpath,hlead,htrail⟩ := isPath_trim_iff.mp hpath
      exact ⟨lead,path,trail,ha,hpath,hlead,htrail⟩

theorem BeginsWith.inj {word word' : String} {a : Chars} (h : BeginsWith word a) (h' : BeginsWith word' a) :
    word = word' :=
  String.toList_inj.mp (h.symm.trans h')

theorem beginsWith_of_opens {word : String} {a : Chars} (h : ' ' ∉ word.toList) (ha : Opens word a) :
    BeginsWith word a :=
  ((opens_iff h).mp ha).1

theorem not_beginsWith_of_isPath {a : Chars} (h : IsPath a) :
    ∀ word ∈ ["range","if","else","end"], ¬BeginsWith word a := by
  intro word hword hbegins
  obtain ⟨c,r,rfl,hc⟩ := h.head
  rw [BeginsWith,firstWord_of_isPath h] at hbegins
  have hhead : ∀ word ∈ ["range","if","else","end"],
      word.toList.head? ≠ some '.' ∧ word.toList.head? ≠ some '$' := by decide
  have hhead := hhead word hword
  rw [← hbegins] at hhead
  rcases hc with rfl | rfl
  · exact hhead.1 rfl
  · exact hhead.2 rfl

/-- Whether what begins with a closing word says nothing else. -/
def IsPlain (a : Chars) : Prop := ∀ word ∈ ["else","end"], BeginsWith word a → IsWord word a

theorem beginsWith_of_isWord {word : String} {a : Chars} (h : ' ' ∉ word.toList) (ha : IsWord word a) :
    BeginsWith word a := by
  rw [BeginsWith,ha]
  exact List.takeWhile_eq_self_iff.mpr fun c hc => bne_iff_ne.mpr fun heq => h (heq ▸ hc)

theorem isPlain_of_isPath {a : Chars} (h : IsPath a) : IsPlain a := fun word hword hbegins =>
  absurd hbegins (not_beginsWith_of_isPath h word (by simp_all))

theorem isPlain_of_opens {word : String} {a : Chars} (h : ' ' ∉ word.toList) (hword : word ∉ ["else","end"])
    (ha : Opens word a) : IsPlain a := fun _ hstop hbegins =>
  absurd ((beginsWith_of_opens h ha).inj hbegins ▸ hstop) hword

theorem isPlain_of_isWord {word : String} {a : Chars} (h : ' ' ∉ word.toList) (ha : IsWord word a) : IsPlain a :=
  fun _ _ hbegins => (beginsWith_of_isWord h ha).inj hbegins ▸ ha

/-- The closing words stand alone just in those sequences of actions in which nothing is added to them. -/
theorem nodes_isWord_iff {acts : List Chars} :
    Nodes IsWord acts ↔ Nodes BeginsWith acts ∧ ∀ a ∈ acts, IsPlain a := by
  constructor
  · intro h
    induction h with
    | nil => exact ⟨.nil,by simp⟩
    | path ha _ ih => exact ⟨.path ha ih.1,List.forall_mem_cons.mpr ⟨isPlain_of_isPath ha,ih.2⟩⟩
    | range ha _ hc _ ihBody ihRest =>
      refine ⟨.range ha ihBody.1 (beginsWith_of_isWord (by decide) hc) ihRest.1,?_⟩
      simp only [List.forall_mem_cons,List.forall_mem_append]
      exact ⟨isPlain_of_opens (by decide) (by decide) ha,ihBody.2,isPlain_of_isWord (by decide) hc,ihRest.2⟩
    | choice ha _ hc _ ihYes ihRest =>
      refine ⟨.choice ha ihYes.1 (beginsWith_of_isWord (by decide) hc) ihRest.1,?_⟩
      simp only [List.forall_mem_cons,List.forall_mem_append]
      exact ⟨isPlain_of_opens (by decide) (by decide) ha,ihYes.2,isPlain_of_isWord (by decide) hc,ihRest.2⟩
    | choiceElse ha _ hb _ hc _ ihYes ihNo ihRest =>
      refine ⟨.choiceElse ha ihYes.1 (beginsWith_of_isWord (by decide) hb) ihNo.1
        (beginsWith_of_isWord (by decide) hc) ihRest.1,?_⟩
      simp only [List.forall_mem_cons,List.forall_mem_append]
      exact ⟨isPlain_of_opens (by decide) (by decide) ha,ihYes.2,isPlain_of_isWord (by decide) hb,ihNo.2,
        isPlain_of_isWord (by decide) hc,ihRest.2⟩
  · rintro ⟨h,hplain⟩
    induction h with
    | nil => exact .nil
    | path ha _ ih => exact .path ha (ih fun a h => hplain a (List.mem_cons_of_mem _ h))
    | range ha _ hc _ ihBody ihRest =>
      simp only [List.forall_mem_cons,List.forall_mem_append] at hplain
      obtain ⟨-,hbody,hclose,hrest⟩ := hplain
      exact .range ha (ihBody hbody) (hclose _ (by simp) hc) (ihRest hrest)
    | choice ha _ hc _ ihYes ihRest =>
      simp only [List.forall_mem_cons,List.forall_mem_append] at hplain
      obtain ⟨-,hyes,hclose,hrest⟩ := hplain
      exact .choice ha (ihYes hyes) (hclose _ (by simp) hc) (ihRest hrest)
    | choiceElse ha _ hb _ hc _ ihYes ihNo ihRest =>
      simp only [List.forall_mem_cons,List.forall_mem_append] at hplain
      obtain ⟨-,hyes,helse,hno,hclose,hrest⟩ := hplain
      exact .choiceElse ha (ihYes hyes) (helse _ (by simp) hb) (ihNo hno) (hclose _ (by simp) hc) (ihRest hrest)

end TrackerHub.Template
