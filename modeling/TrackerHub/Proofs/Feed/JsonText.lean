import Mathlib.Data.List.Forall2
import TrackerHub.Proofs.Feed.JsonNumbers
import TrackerHub.Text.Utf16

/-! # The text of JSON values

What is read off the text of a value. Every value but a floating-point number that is not finite is written by
the grammar; whatever characters a string holds, it is read as the units of these characters.
-/
namespace TrackerHub.Json
open TrackerHub.Text

/-! ## Strings -/

def unitsOf (s : String) : List Nat := s.toList.flatMap units

section
variable {us : List Nat} {t r : Chars}

theorem spells_hex {n : Nat} (hn : n < 0x10000) (ht : Spells us t r) :
    Spells (n :: us) ('\\' :: 'u' :: (hex 4 n ++ t)) r := by
  have hread : readHex? ((hex 4 n).map id) = some n := readHex?_map_hex (by decide) hn (by decide)
  rw [List.map_id] at hread
  have hstep : readUnits? ('\\' :: 'u' :: (hex 4 n ++ t)) = some ([n],t) := by
    obtain ⟨a,b,c,d,hdigits⟩ : ∃ a b c d, hex 4 n = [a,b,c,d] := ⟨_,_,_,_,rfl⟩
    rw [hdigits] at hread ⊢
    simp [readUnits?,hread]
  exact .cons hstep ht

/-- A character behind a backslash stands for its unit. -/
theorem spells_short {c letter : Char} (hread : readUnits? ('\\' :: letter :: t) = some (units c,t))
    (ht : Spells us t r) : Spells (units c ++ us) (['\\',letter] ++ t) r := .cons hread ht

theorem spells_escapeWide (c : Char) (ht : Spells us t r) : Spells (units c ++ us) (escapeWide c ++ t) r := by
  unfold escapeWide units
  dsimp only
  split
  next hc => exact spells_hex hc ht
  next hc =>
    have hvalid := toNat_lt c
    have hlow := spells_hex (show 0xDC00 + (c.toNat - 0x10000) % 0x400 < 0x10000 by omega) ht
    have hhigh := spells_hex (show 0xD800 + (c.toNat - 0x10000) / 0x400 < 0x10000 by omega) hlow
    simpa using hhigh

/-- A character of a string is read as its units. -/
theorem spells_escapeChar (c : Char) (ht : Spells us t r) : Spells (units c ++ us) (escapeChar c ++ t) r := by
  have hcode {n : Nat} (h : (c.toNat == n) = true) : c = Char.ofNat n := by
    rw [← beq_iff_eq.mp h,Char.ofNat_toNat]
  unfold escapeChar
  split_ifs with hmark hn hr htab hb hf hplain
  · rcases Bool.or_eq_true_iff.mp hmark with h | h <;> obtain rfl := beq_iff_eq.mp h <;>
      exact spells_short rfl ht
  · obtain rfl := beq_iff_eq.mp hn
    exact spells_short rfl ht
  · obtain rfl := beq_iff_eq.mp hr
    exact spells_short rfl ht
  · obtain rfl := beq_iff_eq.mp htab
    exact spells_short rfl ht
  · obtain rfl := hcode hb
    exact spells_short rfl ht
  · obtain rfl := hcode hf
    exact spells_short rfl ht
  · have hstep : readUnits? (c :: t) = some (units c,t) := by
      simp only [Bool.or_eq_true,beq_iff_eq,not_or] at hmark
      unfold readUnits?
      split <;> simp_all
    exact .cons hstep ht
  · exact spells_escapeWide c ht

theorem quoted_stringText (s : String) (r : Chars) : Quoted (unitsOf s) (stringText s ++ r) r := by
  have hspells (s : Chars) (r : Chars) : Spells (s.flatMap units) (s.flatMap escapeChar ++ r) r := by
    induction s with
    | nil => exact .nil
    | cons c s ih =>
      rw [List.flatMap_cons,List.flatMap_cons,List.append_assoc]
      exact spells_escapeChar c ih
  exact ⟨s.toList.flatMap escapeChar ++ '"' :: r,by simp [stringText],hspells s.toList _⟩

end

/-! ## Lists and objects -/

section
variable {α : Type} {part : α → Chars → Chars → Prop} {ds : List α} {parts : List Chars} {line s r q : Chars}

theorem Gap.refl (s : Chars) : Gap s s := ⟨[],nofun,rfl⟩

theorem Gap.append {a : Chars} (ha : ∀ c ∈ a, isGap c = true) (s : Chars) : Gap (a ++ s) s := ⟨a,ha,rfl⟩

theorem isGap_newLine (depth : Nat) : ∀ c ∈ Feed.newLine depth, isGap c = true := by
  intro c hc
  rcases Feed.not_mem_newLine hc with rfl | rfl <;> rfl

/-- Whether a text is read as a part, whatever follows. -/
def IsTextOf (part : α → Chars → Chars → Prop) (d : α) (s : Chars) : Prop := ∀ r, part d (s ++ r) r

/-- Further parts are read off the lines behind the first one. -/
theorem more_join (hline : ∀ c ∈ line, isGap c = true) (hs : Gap s r)
    (h : List.Forall₂ (IsTextOf part) ds parts) (first : Chars) :
    ∃ t, join (',' :: line) (first :: parts) ++ s = first ++ t ∧ More part ds t r := by
  induction h generalizing first with
  | nil => exact ⟨s,rfl,.nil hs⟩
  | @cons d x ds parts hd _ ih =>
    obtain ⟨t,ht,hmore⟩ := ih x
    refine ⟨',' :: (line ++ (x ++ t)),?_,.cons (Gap.refl _) (Gap.append hline _) (hd t) hmore⟩
    rw [join,← ht]
    simp only [List.append_assoc,List.cons_append]

theorem exists_separated {opening closing : Char} {depth : Nat} (h : List.Forall₂ (IsTextOf part) ds parts)
    (r : Chars) : ∃ s, bracket opening closing depth parts ++ r = opening :: s ∧
      Separated part ds s (closing :: r) := by
  cases h with
  | nil => exact ⟨closing :: r,rfl,.none (Gap.refl _)⟩
  | @cons d x ds parts hd h =>
    obtain ⟨t,ht,hmore⟩ := more_join (isGap_newLine (depth + 1)) (Gap.append (isGap_newLine depth) _) h x
    refine ⟨Feed.newLine (depth + 1) ++ (x ++ t),?_,.some (Gap.append (isGap_newLine (depth + 1)) _) (hd t) hmore⟩
    rw [← ht]
    simp [bracket]

end

/-! ## Values -/

mutual

/-- What the text of a value holds. -/
def datum : Json → Datum
  | .null => .word "null".toList
  | .bool b => .word (if b then "true" else "false").toList
  | .int n => .word (decimalInt n)
  | .float x => .word (floatText x)
  | .text s => .text (unitsOf s)
  | .list items => .list (data items)
  | .object members => .object (memberData members)

def data : List Json → List Datum
  | [] => []
  | x :: r => datum x :: data r

def memberData : List (String × Json) → List (List Nat × Datum)
  | [] => []
  | (k,v) :: r => (unitsOf k,datum v) :: memberData r

end

mutual

/-- The floating-point numbers in a value. -/
def floats : Json → List Binary64
  | .float x => [x]
  | .list items => floatsOf items
  | .object members => memberFloats members
  | _ => []

def floatsOf : List Json → List Binary64
  | [] => []
  | x :: r => floats x ++ floatsOf r

def memberFloats : List (String × Json) → List Binary64
  | [] => []
  | (_,v) :: r => floats v ++ memberFloats r

end

/-- Whether a grammar has the names of values and the integers. -/
structure Admits (P : Chars → Prop) : Prop where
  name : ∀ w ∈ names, P w
  int : ∀ n, P (decimalInt n)

section
variable {P : Chars → Prop}

mutual

/-- A value is read off its text, if the grammar has the floating-point numbers in it. -/
theorem isTextOf_write (hP : Admits P) : ∀ (j : Json) (depth : Nat), (∀ x ∈ floats j, P (floatText x)) →
    IsTextOf (Reads P) (datum j) (write depth j)
  | .null, _ => fun _ _ => .word (hP.name _ (by decide))
  | .bool b, _ => fun _ r => by
    cases b
    · exact .word (hP.name _ (by decide))
    · exact .word (hP.name _ (by decide))
  | .int n, _ => fun _ _ => .word (hP.int n)
  | .float x, _ => fun h _ => .word (h x List.mem_cons_self)
  | .text s, _ => fun _ r => .text (quoted_stringText s r)
  | .list items, depth => fun h r => by
    obtain ⟨s,hs,hitems⟩ := exists_separated (isTextOf_writeItems hP items (depth + 1) h) r
    rw [write,hs]
    exact .list hitems
  | .object members, depth => fun h r => by
    obtain ⟨s,hs,hmembers⟩ := exists_separated (isTextOf_writeMembers hP members (depth + 1) h) r
    rw [write,hs]
    exact .object hmembers

theorem isTextOf_writeItems (hP : Admits P) : ∀ (js : List Json) (depth : Nat),
    (∀ x ∈ floatsOf js, P (floatText x)) →
    List.Forall₂ (IsTextOf (Reads P)) (data js) (writeItems depth js)
  | [], _ => fun _ => .nil
  | j :: js, depth => fun h => by
    obtain ⟨hj,hjs⟩ := List.forall_mem_append.mp h
    exact .cons (isTextOf_write hP j depth hj) (isTextOf_writeItems hP js depth hjs)

theorem isTextOf_writeMembers (hP : Admits P) : ∀ (ms : List (String × Json)) (depth : Nat),
    (∀ x ∈ memberFloats ms, P (floatText x)) →
    List.Forall₂ (IsTextOf (Member (Reads P))) (memberData ms) (writeMembers depth ms)
  | [], _ => fun _ => .nil
  | (k,j) :: ms, depth => fun h => by
    obtain ⟨hj,hms⟩ := List.forall_mem_append.mp h
    refine .cons (fun r => ?_) (isTextOf_writeMembers hP ms depth hms)
    have hvalue := isTextOf_write hP j depth hj r
    simp only [List.append_assoc,List.cons_append]
    exact .intro (quoted_stringText k _) (Gap.refl _) (Gap.append (a := [' ']) (by simp [isGap]) _) hvalue

end

theorem More.forall {α : Type} {part : α → Chars → Chars → Prop} {ds : List α} {s r : Chars}
    (h : More part ds s r) : ∀ d ∈ ds, ∃ s r, part d s r := by
  induction h with
  | nil => nofun
  | cons _ _ hx _ ih => exact List.forall_mem_cons.mpr ⟨⟨_,_,hx⟩,ih⟩

theorem Separated.forall {α : Type} {part : α → Chars → Chars → Prop} {ds : List α} {s r : Chars}
    (h : Separated part ds s r) : ∀ d ∈ ds, ∃ s r, part d s r := by
  cases h with
  | none => nofun
  | some _ hx hy => exact List.forall_mem_cons.mpr ⟨⟨_,_,hx⟩,hy.forall⟩

mutual

/-- A grammar that reads what a value holds has the floating-point numbers in it. -/
theorem floats_of_reads : ∀ (j : Json), (∃ s r, Reads P (datum j) s r) → ∀ x ∈ floats j, P (floatText x)
  | .null => fun _ => nofun
  | .bool _ => fun _ => nofun
  | .int _ => fun _ => nofun
  | .text _ => fun _ => nofun
  | .float x => fun ⟨_,_,h⟩ => by simpa [floats] using (reads_word_iff.mp h).1
  | .list items => fun ⟨_,_,h⟩ => by
    obtain ⟨_,-,hitems⟩ := reads_list_iff.mp h
    exact floats_of_items items hitems.forall
  | .object members => fun ⟨_,_,h⟩ => by
    obtain ⟨_,-,hmembers⟩ := reads_object_iff.mp h
    exact floats_of_members members hmembers.forall

theorem floats_of_items : ∀ (js : List Json), (∀ d ∈ data js, ∃ s r, Reads P d s r) →
    ∀ x ∈ floatsOf js, P (floatText x)
  | [] => fun _ => nofun
  | j :: js => fun h => by
    obtain ⟨hj,hjs⟩ := List.forall_mem_cons.mp h
    exact List.forall_mem_append.mpr ⟨floats_of_reads j hj,floats_of_items js hjs⟩

theorem floats_of_members : ∀ (ms : List (String × Json)),
    (∀ m ∈ memberData ms, ∃ s r, Member (Reads P) m s r) → ∀ x ∈ memberFloats ms, P (floatText x)
  | [] => fun _ => nofun
  | (k,j) :: ms => fun h => by
    obtain ⟨⟨s,r,hmember⟩,hms⟩ := List.forall_mem_cons.mp h
    cases hmember with
    | intro _ _ _ hj => exact List.forall_mem_append.mpr ⟨floats_of_reads j ⟨_,_,hj⟩,floats_of_members ms hms⟩

end

end

/-! ## Documents -/

theorem IsDigits.areWordChars {s : Chars} (h : IsDigits s) : ∀ c ∈ s, isWordChar c = true := by
  intro c hc
  simp [isWordChar,Char.isAlphanum,h.2 c hc]

theorem IsUnsigned.isRun {s : Chars} (h : IsUnsigned s) : IsRun s := by
  cases h with
  | @intro whole fraction exponent hw hf he =>
    have hfraction : ∀ c ∈ fraction, isWordChar c = true := by
      cases hf with
      | none => nofun
      | some h => exact List.forall_mem_cons.mpr ⟨by decide,h.areWordChars⟩
    have hexponent : ∀ c ∈ exponent, isWordChar c = true := by
      cases he with
      | none => nofun
      | some he hs h =>
        refine List.forall_mem_cons.mpr ⟨by rcases he with rfl | rfl <;> decide,
          List.forall_mem_append.mpr ⟨?_,h.areWordChars⟩⟩
        exact List.all_eq_true.mp ((by decide : ∀ sign ∈ [[],['+'],['-']], sign.all isWordChar = true) _ hs)
    exact ⟨List.append_ne_nil_of_left_ne_nil hw.1.1 _,List.forall_mem_append.mpr
      ⟨hw.1.areWordChars,List.forall_mem_append.mpr ⟨hfraction,hexponent⟩⟩⟩

theorem areRuns_isWord : AreRuns IsWord := by
  rintro w (hw | hw)
  · exact (by decide : ∀ w ∈ names, IsRun w) w hw
  · cases hw with
    | plain hs => exact hs.isRun
    | minus hs => exact ⟨List.cons_ne_nil _ _,List.forall_mem_cons.mpr ⟨by decide,hs.isRun.2⟩⟩

/-- A number begins with a digit, behind its sign. -/
theorem IsNumber.begins {w : Chars} (h : IsNumber w) :
    ∃ c r, c.isDigit = true ∧ (w = c :: r ∨ w = '-' :: c :: r) := by
  have hunsigned {s : Chars} (h : IsUnsigned s) : ∃ c r, c.isDigit = true ∧ s = c :: r := by
    cases h with
    | @intro whole _ _ hw =>
      obtain ⟨c,whole,rfl⟩ := List.exists_cons_of_ne_nil hw.1.1
      exact ⟨c,_,hw.1.2 c List.mem_cons_self,rfl⟩
  cases h with
  | plain hs =>
    obtain ⟨c,r,hc,hs⟩ := hunsigned hs
    exact ⟨c,r,hc,.inl hs⟩
  | minus hs =>
    obtain ⟨c,r,hc,hs⟩ := hunsigned hs
    exact ⟨c,r,hc,.inr (congrArg _ hs)⟩

theorem isRun_floatText (x : Binary64) : IsRun (floatText x) := by
  cases x with
  | nan => decide
  | infinite s => cases s <;> decide
  | finite s m e => exact areRuns_isWord _ (.inr (isNumber_toText s m e))

/-- Only finite numbers are written as numbers. -/
theorem isWord_floatText_iff {x : Binary64} : IsWord (floatText x) ↔ x.IsFinite := by
  have hname {c d : Char} {r : Chars} (hc : c.isDigit = false) (hd : d.isDigit = false)
      (hnames : c :: d :: r ∉ names) : ¬IsWord (c :: d :: r) := by
    rintro (h | h)
    · exact hnames h
    · obtain ⟨b,t,hb,heq | heq⟩ := h.begins
      · cases heq
        rw [hc] at hb
        cases hb
      · cases heq
        rw [hd] at hb
        cases hb
  constructor
  · intro h
    cases x with
    | nan => exact absurd h (hname (by decide) (by decide) (by decide))
    | infinite s => cases s <;> exact absurd h (hname (by decide) (by decide) (by decide))
    | finite s m e => exact ⟨s,m,e,rfl⟩
  · rintro ⟨s,m,e,rfl⟩
    exact .inr (isNumber_toText s m e)

theorem admits_isWord : Admits IsWord := ⟨fun _ => .inl,fun n => .inr (isNumber_decimalInt n)⟩

/-- A value is written as a document just when the floating-point numbers in it are finite. What the document
holds is fixed in any case. -/
theorem isDocument_write (j : Json) :
    ((∃ d, IsDocument d (j.write 0)) ↔ ∀ x ∈ floats j, x.IsFinite) ∧
    ∀ d, IsDocument d (j.write 0) → d = datum j := by
  have written {P : Chars → Prop} (hP : Admits P) (h : ∀ x ∈ floats j, P (floatText x)) :
      IsDocumentOf P (datum j) (j.write 0) := by
    have hread := isTextOf_write hP j 0 h []
    rw [List.append_nil] at hread
    exact ⟨_,_,Gap.refl _,hread,Gap.refl _⟩
  -- With runs of any kind for names and numbers, the text is a document in any case.
  have hruns : IsDocumentOf IsRun (datum j) (j.write 0) :=
    written ⟨fun w hw => areRuns_isWord w (admits_isWord.name w hw),fun n => areRuns_isWord _ (admits_isWord.int n)⟩
      fun x _ => isRun_floatText x
  have hdatum (d : Datum) (h : IsDocument d (j.write 0)) : d = datum j :=
    IsDocumentOf.unique areRuns_isWord (fun _ => id) h hruns
  refine ⟨⟨?_,fun h => ⟨datum j,written admits_isWord fun x hx => isWord_floatText_iff.mpr (h x hx)⟩⟩,hdatum⟩
  rintro ⟨d,h⟩ x hx
  obtain rfl := hdatum d h
  obtain ⟨_,_,-,hread,-⟩ := h
  exact isWord_floatText_iff.mp (floats_of_reads j ⟨_,_,hread⟩ x hx)

end TrackerHub.Json
