import Mathlib.Data.List.TakeWhile
import TrackerHub.Proofs.Yaml.QuotedText

/-! # Reading back plain texts

A text that has been written without quotation marks is read as itself, as far as the colon behind it or
the next line that is indented less.
-/
namespace TrackerHub.Yaml
open TrackerHub.Text

/-- The characters of words that are written without quotation marks. -/
def isInk (c : Char) : Bool := decide (0x20 < c.toNat) && decide (c.toNat ≤ 0x7E)

theorem isInk_gap {c : Char} (h : isInk c = true) :
    isSpace c = false ∧ isBreak c = false ∧ atGap [c] = false ∧ Write.isGap c = false := by
  have hgaps : ∀ d ∈ [' ','\t','\n','\r','\x00','\x85','\u2028','\u2029'], isInk d = false := by simp [isInk]
  have hne : ∀ d ∈ [' ','\t','\n','\r','\x00','\x85','\u2028','\u2029'], c ≠ d := by
    rintro d hd rfl
    exact absurd h (by simp [hgaps c hd])
  simp only [List.forall_mem_cons] at hne
  simp [isSpace,isBreak,atGap,Write.isGap,Write.isLineEnd,hne]

theorem space_or_isInk {c : Char} (hl : 0x20 ≤ c.toNat) (hu : c.toNat ≤ 0x7E) : c = ' ' ∨ isInk c = true := by
  by_cases hspace : c.toNat = 32
  · exact .inl (Char.toNat_inj.mp hspace)
  · refine .inr ?_
    simp only [isInk,Bool.and_eq_true,decide_eq_true_eq]
    omega

/-- A text whose words can be written without quotation marks. -/
structure IsPlain (s : Chars) : Prop where
  chars : ∀ c ∈ s, c = ' ' ∨ isInk c = true
  /-- No colon stands at the end of a word, and no number sign at its beginning. -/
  marks : Write.marksInside ' ' s = false
  head : s.head? ≠ some ' '
  last : s.getLast? ≠ some ' '

theorem marksInside_of_hasMarks {s : Chars} (h : Write.hasMarks s = false) :
    Write.marksInside ' ' s = false := by
  cases s with
  | nil => rfl
  | cons c r =>
    simp only [Write.hasMarks,Bool.or_eq_false_iff] at h
    have hsharp : c ≠ '#' := by
      rintro rfl
      exact absurd h.1.1.2 (by decide)
    have hcolon : (c == ':' && Write.atGap r) = false := by
      have hgap := h.1.2
      by_cases hc : c = ':' <;> simp_all
    simp [Write.marksInside,hcolon,hsharp,h.2]

theorem isPlain_of_allowsPlain {s : Chars} (h : Write.allowsPlain s = true) : IsPlain s := by
  simp only [Write.allowsPlain,Bool.and_eq_true,decide_eq_true_eq,List.all_eq_true,Bool.not_eq_true',
    List.any_eq_false,bne_iff_ne] at h
  obtain ⟨⟨⟨⟨⟨-,hsimple⟩,hends⟩,hmarks⟩,hhead⟩,hlast⟩ := h
  refine ⟨fun c hc => ?_,marksInside_of_hasMarks hmarks,hhead,hlast⟩
  have hbreak : c ≠ '\n' := by
    rintro rfl
    exact hends '\n' hc (by decide)
  have hc := hsimple c hc
  simp only [Write.isSimple,Bool.or_eq_true,Bool.and_eq_true,decide_eq_true_eq,beq_iff_eq] at hc
  obtain ⟨hl,hu⟩ := hc.resolve_left hbreak
  exact space_or_isInk hl hu

/-! ## Words -/

section
variable {w x : Chars}

theorem plainPiece_word {y : Chars} {before : Char} (hw : ∀ c ∈ w, isInk c = true)
    (hmarks : Write.marksInside before (w ++ y) = false) (hy : Write.atGap y = true)
    (hx : plainPiece false x = ([],x)) : plainPiece false (w ++ x) = (w,x) := by
  induction w generalizing before with
  | nil => exact hx
  | cons c w ih =>
    obtain ⟨-,-,hgap,-⟩ := isInk_gap (hw c List.mem_cons_self)
    simp only [List.cons_append,Write.marksInside,Bool.or_eq_false_iff] at hmarks
    have hcolon : (c == ':' && atGap (w ++ x)) = false := by
      by_cases hc : c = ':'
      · have hnext := hmarks.1.1
        cases w with
        | nil => simp [hc,hy] at hnext
        | cons d w =>
          have hd := (isInk_gap (hw d (by simp))).2.2.1
          have hd' : atGap (d :: (w ++ x)) = false := hd
          simp [hd']
      · simp [hc]
    have hends : plainEnds false c (w ++ x) = false := by
      simp only [plainEnds,hgap,Bool.false_and,Bool.or_false,Bool.false_or]
      exact hcolon
    simp [plainPiece,hends,ih (fun d hd => hw d (List.mem_cons_of_mem c hd)) hmarks.2]

/-- A word is written as it is. -/
theorem foldLines_word (split : Bool) (indent : Nat) (hw : ∀ c ∈ w, isInk c = true) (hne : w ≠ [])
    (before : Option Char) (column : Nat) (r : Chars) : ∃ b k, b ≠ ' ' ∧
    Write.foldLines false split indent before column (w ++ r) =
      w ++ Write.foldLines false split indent (some b) k r := by
  induction w generalizing before column with
  | nil => exact absurd rfl hne
  | cons c w ih =>
    have hink := hw c List.mem_cons_self
    have hspace : c ≠ ' ' := by
      rintro rfl
      exact absurd hink (by decide)
    have hbreak : c ≠ '\n' := by
      rintro rfl
      exact absurd hink (by decide)
    have hwritten : Write.foldLines false split indent before column (c :: (w ++ r)) =
        c :: Write.foldLines false split indent (some c) (column + 1) (w ++ r) :=
      foldLines_other split hspace hbreak (fun h : false = true => nomatch h) before column (w ++ r)
    by_cases hend : w = []
    · subst hend
      exact ⟨c,column + 1,hspace,hwritten⟩
    · obtain ⟨b,k,hb,hrest⟩ := ih (fun d hd => hw d (List.mem_cons_of_mem c hd)) hend (some c) (column + 1)
      exact ⟨b,k,hb,by rw [List.cons_append,hwritten,hrest]; rfl⟩

/-- Spaces behind a space are written as they are. -/
theorem foldLines_spaces (quoted split : Bool) (indent n : Nat) (column : Nat) (r : Chars) : ∃ k,
    Write.foldLines quoted split indent (some ' ') column (List.replicate n ' ' ++ r) =
      List.replicate n ' ' ++ Write.foldLines quoted split indent (some ' ') k r := by
  induction n generalizing column with
  | zero => exact ⟨column,rfl⟩
  | succ n ih =>
    rcases foldLines_space split indent quoted (some ' ') column (List.replicate n ' ' ++ r) with
      ⟨k,hk⟩ | ⟨hne,-⟩
    · obtain ⟨k',hk'⟩ := ih k
      exact ⟨k',by rw [List.replicate_succ,List.cons_append,hk,hk']; rfl⟩
    · exact absurd rfl hne

/-- Spaces between two words are written as they are, or a single one as a new line. -/
theorem foldLines_gap (quoted split : Bool) (indent n : Nat) (before : Option Char) (column : Nat) (r : Chars) :
    (∃ k, Write.foldLines quoted split indent before column (List.replicate (n + 1) ' ' ++ r) =
      List.replicate (n + 1) ' ' ++ Write.foldLines quoted split indent (some ' ') k r) ∨
    (n = 0 ∧ Write.foldLines quoted split indent before column (List.replicate (n + 1) ' ' ++ r) =
      Write.newLine indent ++ Write.foldLines quoted split indent (some ' ') indent r) := by
  rcases foldLines_space split indent quoted before column (List.replicate n ' ' ++ r) with
    ⟨k,hk⟩ | ⟨-,⟨c,hc,hne⟩,hk⟩
  · obtain ⟨k',hk'⟩ := foldLines_spaces quoted split indent n k r
    exact .inl ⟨k',by rw [List.replicate_succ,List.cons_append,hk,hk']; rfl⟩
  · cases n with
    | zero => exact .inr ⟨rfl,hk⟩
    | succ n =>
      simp only [List.replicate_succ,List.cons_append,List.head?_cons,Option.some.injEq] at hc
      exact absurd hc.symm hne

end

/-! ## Gaps -/

section
variable {s : Chars}

theorem plainGap_spaces (h : StartsFirm s) (n : Nat) :
    plainGap (List.replicate (n + 1) ' ' ++ s) = ⟨List.replicate (n + 1) ' ',false,0,s⟩ := by
  obtain ⟨c,r,rfl,hs,hb⟩ := h
  have hc : (c == ' ') = false := (Bool.or_eq_false_iff.mp hs).1
  have hrun : (List.replicate (n + 1) ' ' ++ c :: r).takeWhile (· == ' ') = List.replicate (n + 1) ' ' := by
    rw [List.takeWhile_append_of_pos (by simp)]
    simp [hc]
  unfold plainGap
  simp only [hrun,List.drop_left,hb,Bool.false_eq_true,↓reduceIte]

theorem plainBreaks?_spaces (h : StartsFirm s) (n column : Nat) :
    plainBreaks? false column (List.replicate n ' ' ++ s) = some ([],column + n,s) := by
  induction n generalizing column with
  | zero =>
    obtain ⟨c,r,rfl,hs,hb⟩ := h
    have hc : (c == ' ') = false := (Bool.or_eq_false_iff.mp hs).1
    simp [plainBreaks?,hb,hc]
  | succ n ih => simpa [List.replicate_succ,plainBreaks?,Nat.add_comm,Nat.add_left_comm] using ih (column + 1)

theorem plainGap_newLine (h : StartsFirm s) {indent : Nat} (hi : 0 < indent) :
    plainGap (Write.newLine indent ++ s) = ⟨[' '],true,indent,s⟩ := by
  obtain ⟨n,rfl⟩ := Nat.exists_eq_succ_of_ne_zero (Nat.ne_zero_of_lt hi)
  have hbreaks : plainBreaks? true 0 (List.replicate (n + 1) ' ' ++ s) = some ([],n + 1,s) := by
    have hspaces := plainBreaks?_spaces h n 1
    simpa [List.replicate_succ,plainBreaks?,atDocumentMark_space,Nat.add_comm] using hspaces
  have hrun : (Write.newLine (n + 1) ++ s).takeWhile (· == ' ') = [] := rfl
  unfold plainGap
  simp only [hrun,List.length_nil,List.drop_zero]
  simp only [Write.newLine,List.cons_append,hbreaks]
  rfl

theorem marksInside_word {w r : Chars} {before : Char} (h : Write.marksInside before (w ++ r) = false)
    (hw : w ≠ []) : ∃ b, Write.marksInside b r = false ∧ w.getLast? = some b := by
  induction w generalizing before with
  | nil => exact absurd rfl hw
  | cons c w ih =>
    simp only [List.cons_append,Write.marksInside,Bool.or_eq_false_iff] at h
    by_cases hend : w = []
    · subst hend
      exact ⟨c,h.2,rfl⟩
    · obtain ⟨b,hb,hlast⟩ := ih h.2 hend
      exact ⟨b,hb,by rw [List.getLast?_cons_of_ne_nil hend,hlast]⟩

/-- A plain text is a word, and perhaps a gap and another plain text. -/
theorem IsPlain.split (h : IsPlain s) (hne : s ≠ []) : ∃ w, w ≠ [] ∧ (∀ c ∈ w, isInk c = true) ∧
    (s = w ∨ ∃ n t, s = w ++ (List.replicate (n + 1) ' ' ++ t) ∧ IsPlain t ∧ t ≠ []) := by
  have hw : s.takeWhile isInk ≠ [] := by
    obtain ⟨c,r,rfl⟩ := List.exists_cons_of_ne_nil hne
    have hc := (h.chars c List.mem_cons_self).resolve_left (by simpa using h.head)
    rw [List.takeWhile_cons_of_pos hc]
    exact List.cons_ne_nil _ _
  refine ⟨s.takeWhile isInk,hw,fun c hc => List.mem_takeWhile_imp hc,?_⟩
  have hs : s.takeWhile isInk ++ s.dropWhile isInk = s := List.takeWhile_append_dropWhile
  cases hr : s.dropWhile isInk with
  | nil =>
    rw [hr,List.append_nil] at hs
    exact .inl hs.symm
  | cons c r =>
    have hc : c = ' ' := by
      have hmem : c ∈ s := hs ▸ hr ▸ List.mem_append_right _ List.mem_cons_self
      refine (h.chars c hmem).resolve_right fun hink => ?_
      have hhead := List.head?_dropWhile_not isInk s
      rw [hr] at hhead
      simp [hink] at hhead
    subst hc
    -- Behind the word stand all the spaces of the gap, and then the other plain text.
    have hspaces : r.takeWhile (· == ' ') = List.replicate (r.takeWhile (· == ' ')).length ' ' :=
      List.eq_replicate_iff.mpr ⟨rfl,fun c hc => by simpa using List.mem_takeWhile_imp hc⟩
    have hsplit : s = s.takeWhile isInk ++ (List.replicate ((r.takeWhile (· == ' ')).length + 1) ' ' ++
        r.dropWhile (· == ' ')) := by
      rw [List.replicate_succ,← hspaces,List.cons_append,List.takeWhile_append_dropWhile,← hr,hs]
    have ht : r.dropWhile (· == ' ') ≠ [] := by
      intro ht
      refine h.last ?_
      rw [hsplit,ht,List.append_nil]
      simp [List.getLast?_append,List.getLast?_replicate]
    refine .inr ⟨_,_,hsplit,?_,ht⟩
    obtain ⟨d,hd⟩ : ∃ d, (r.dropWhile (· == ' ')).getLast? = some d :=
      ⟨_,List.getLast?_eq_some_getLast ht⟩
    have hmarks := h.marks
    rw [hsplit,← List.append_assoc] at hmarks
    obtain ⟨b,hb,hlast⟩ := marksInside_word hmarks (by simp [hw])
    have hb' : b = ' ' := by simpa [List.getLast?_append,List.getLast?_replicate,eq_comm] using hlast
    refine ⟨fun c hc => h.chars c ?_,hb' ▸ hb,?_,?_⟩
    · rw [hsplit]
      exact List.mem_append_right _ (List.mem_append_right _ hc)
    · intro hhead
      have hnot := List.head?_dropWhile_not (· == ' ') r
      rw [hhead] at hnot
      simp at hnot
    · intro hspace
      refine h.last ?_
      rw [hsplit]
      simpa [List.getLast?_append,hd] using hspace

/-! ## Plain texts -/

theorem IsPlain.head_ne (h : IsPlain s) : s.head? ≠ some '#' := by
  intro hhead
  obtain ⟨r,rfl⟩ := List.head?_eq_some_iff.mp hhead
  exact absurd h.marks (by simp [Write.marksInside,Write.isGap])

theorem startsFirm_of_ink {c : Char} (h : isInk c = true) (r : Chars) : StartsFirm (c :: r) :=
  ⟨c,r,rfl,(isInk_gap h).1,(isInk_gap h).2.1⟩

/-- What is written of a plain text begins as the text does. -/
theorem IsPlain.written_head (h : IsPlain s) (hne : s ≠ []) (splits : Bool) (indent : Nat) (before : Option Char)
    (column : Nat) : ∃ c r, isInk c = true ∧ s.head? = some c ∧
    Write.foldLines false splits indent before column s = c :: r := by
  obtain ⟨c,r,rfl⟩ := List.exists_cons_of_ne_nil hne
  have hspace : c ≠ ' ' := by simpa using h.head
  have hink := (h.chars c List.mem_cons_self).resolve_left hspace
  have hbreak : c ≠ '\n' := by
    rintro rfl
    exact absurd hink (by decide)
  exact ⟨c,_,hink,rfl,foldLines_other splits hspace hbreak (fun h : false = true => nomatch h) _ _ _⟩

theorem plainPiece_space (s : Chars) : plainPiece false (' ' :: s) = ([],' ' :: s) := rfl

theorem plainPiece_break (s : Chars) : plainPiece false ('\n' :: s) = ([],'\n' :: s) := rfl

/-- A piece of a plain text is read, and then what is behind its gap. -/
theorem plainFrom_piece {least fuel : Nat} {joint piece rest : Chars} {newLine : Bool}
    (hhead : (piece ++ rest).head? ≠ some '#') (hpiece : plainPiece false (piece ++ rest) = (piece,rest))
    (hne : piece ≠ []) :
    plainFrom false least (fuel + 1) joint newLine (piece ++ rest) =
      let gap := plainGap rest
      if gap.joint.isEmpty || gap.rest.head? == some '#' || (gap.newLine && decide (gap.column < least)) then
        ⟨joint ++ piece,gap.newLine,gap.rest⟩
      else
        let more := plainFrom false least fuel gap.joint gap.newLine gap.rest
        ⟨joint ++ piece ++ more.text,more.newLine,more.rest⟩ := by
  have hsharp : ((piece ++ rest).head? == some '#') = false := by simpa using hhead
  have hempty : piece.isEmpty = false := by simpa using hne
  simp only [plainFrom,hsharp,hpiece,hempty,Bool.false_eq_true,↓reduceIte,Bool.not_false,Bool.true_and]

/-- Behind a gap the text goes on. -/
theorem plainGap_goes_on {least fuel column : Nat} {joint piece text rest following blanks : Chars}
    {newLine newLine' : Bool} (hgap : plainGap rest = ⟨blanks,newLine,column,following⟩) (hne : blanks ≠ [])
    (hsharp : following.head? ≠ some '#') (hcolumn : newLine = true → least ≤ column)
    {rest' : Chars} (hmore : plainFrom false least fuel blanks newLine following =
      ⟨blanks ++ text,newLine',rest'⟩) :
    (let gap := plainGap rest
      if gap.joint.isEmpty || gap.rest.head? == some '#' || (gap.newLine && decide (gap.column < least)) then
        (⟨joint ++ piece,gap.newLine,gap.rest⟩ : PlainScalar)
      else
        let more := plainFrom false least fuel gap.joint gap.newLine gap.rest
        ⟨joint ++ piece ++ more.text,more.newLine,more.rest⟩) =
      ⟨joint ++ (piece ++ (blanks ++ text)),newLine',rest'⟩ := by
  have hends : (blanks.isEmpty || following.head? == some '#' || (newLine && decide (column < least))) = false := by
    cases newLine <;> simp_all
  simp only [hgap,hends,Bool.false_eq_true,↓reduceIte,hmore,List.append_assoc]

theorem head?_ne {w r : Chars} {c : Char} (h : w.head? ≠ some c) (hw : w ≠ []) : (w ++ r).head? ≠ some c := by
  obtain ⟨d,w,rfl⟩ := List.exists_cons_of_ne_nil hw
  exact h

/-- A plain text is read as itself, up to a text that cannot belong to it. -/
theorem plainFrom_foldLines (splits : Bool) {least indent : Nat} (hi : 0 < indent) (hleast : least ≤ indent)
    {tail : Chars} (htail : plainPiece false tail = ([],tail))
    (hend : (plainGap tail).joint = [] ∨ ((plainGap tail).newLine = true ∧ (plainGap tail).column < least))
    (s : Chars) (before : Option Char) (column fuel : Nat) (joint : Chars) (newLine : Bool) (h : IsPlain s)
    (hne : s ≠ []) (hfuel : (Write.foldLines false splits indent before column s ++ tail).length < fuel) :
    plainFrom false least fuel joint newLine (Write.foldLines false splits indent before column s ++ tail) =
      ⟨joint ++ s,(plainGap tail).newLine,(plainGap tail).rest⟩ := by
  obtain ⟨fuel,rfl⟩ := Nat.exists_eq_succ_of_ne_zero (Nat.ne_zero_of_lt hfuel)
  obtain ⟨w,hw,hink,rfl | ⟨n,t,rfl,ht,htne⟩⟩ := h.split hne
  · obtain ⟨b,k,hb,hwritten⟩ := foldLines_word splits indent hink hw before column []
    simp only [List.append_nil,Write.foldLines] at hwritten
    have hmarks := h.marks
    rw [← List.append_nil s] at hmarks
    have hpiece := plainPiece_word hink hmarks rfl htail
    rw [hwritten,plainFrom_piece (head?_ne h.head_ne hw) hpiece hw]
    rcases hend with hend | ⟨hline,hcolumn⟩
    · simp [hend]
    · simp [hline,hcolumn]
  · obtain ⟨b,k,hb,hwritten⟩ := foldLines_word splits indent hink hw before column
      (List.replicate (n + 1) ' ' ++ t)
    have hhead : w.head? ≠ some '#' := by
      intro hsharp
      obtain ⟨v,rfl⟩ := List.head?_eq_some_iff.mp hsharp
      exact h.head_ne rfl
    have hfollows (k : Nat) : StartsFirm (Write.foldLines false splits indent (some ' ') k t ++ tail) ∧
        (Write.foldLines false splits indent (some ' ') k t ++ tail).head? ≠ some '#' := by
      obtain ⟨c,r,hc,hcr,hr⟩ := ht.written_head htne splits indent (some ' ') k
      rw [hr]
      refine ⟨startsFirm_of_ink hc _,?_⟩
      rw [List.cons_append,List.head?_cons,← hcr]
      exact ht.head_ne
    -- The gap is written as it stands, or as a new line.
    rcases foldLines_gap false splits indent n (some b) k t with ⟨k',hgap⟩ | ⟨rfl,hgap⟩
    · obtain ⟨hfirm,hsharp⟩ := hfollows k'
      rw [hwritten,hgap,List.append_assoc,List.append_assoc] at hfuel ⊢
      have hpiece := plainPiece_word hink h.marks (y := List.replicate (n + 1) ' ' ++ t) rfl
        (plainPiece_space (List.replicate n ' ' ++ (Write.foldLines false splits indent (some ' ') k' t ++ tail)))
      have ih := plainFrom_foldLines splits hi hleast htail hend t (some ' ') k' fuel
        (List.replicate (n + 1) ' ') false ht htne (by simp at hfuel ⊢; omega)
      refine (plainFrom_piece (head?_ne hhead hw) hpiece hw).trans ?_
      exact plainGap_goes_on (plainGap_spaces hfirm n) (by simp) hsharp (by simp) ih
    · obtain ⟨hfirm,hsharp⟩ := hfollows indent
      rw [hwritten,hgap,List.append_assoc,List.append_assoc] at hfuel ⊢
      have hpiece := plainPiece_word hink h.marks (y := List.replicate (0 + 1) ' ' ++ t) rfl
        (plainPiece_break (List.replicate indent ' ' ++
          (Write.foldLines false splits indent (some ' ') indent t ++ tail)))
      have ih := plainFrom_foldLines splits hi hleast htail hend t (some ' ') indent fuel [' '] true ht htne
        (by simp [Write.newLine] at hfuel ⊢; omega)
      refine (plainFrom_piece (head?_ne hhead hw) hpiece hw).trans ?_
      exact plainGap_goes_on (plainGap_newLine hfirm hi) (by simp) hsharp (fun _ => hleast) ih
termination_by s.length

end

end TrackerHub.Yaml
