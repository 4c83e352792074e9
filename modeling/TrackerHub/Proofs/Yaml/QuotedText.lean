import Mathlib.Algebra.Group.Nat.Defs
import Mathlib.Tactic.SplitIfs
import TrackerHub.Proofs.Number.Numeral
import TrackerHub.Proofs.Text.Blanks
import TrackerHub.Yaml.ScalarText
import TrackerHub.Yaml.Write

/-! # Reading back quoted texts

A text that has been written between quotation marks is read as itself, wherever its lines have been
folded.
-/
namespace TrackerHub.Yaml
open TrackerHub.Text

/-! ## Pieces -/

/-- A quoted text is read as `text`, with `rest` behind its closing mark. -/
def ReadsQuoted (double : Bool) (s text rest : Chars) : Prop :=
  ∀ fuel, s.length < fuel → quotedFrom double fuel s = .ok (text,rest)

/-- The blanks of quoted texts that do not end a line. -/
def isSpace (c : Char) : Bool := c == ' ' || c == '\t'

/-- Characters that stand for themselves between quotation marks. -/
def isOrdinary (double : Bool) (c : Char) : Bool :=
  !isSpace c && !isBreak c && (if double then c != '"' && c != '\\' else c != '\'')

/-- Behind its spaces, the text goes on in the same line. -/
def GoesOn (s : Chars) : Prop := ∃ c r, s.dropWhile isSpace = c :: r ∧ isBreak c = false

theorem quotedBlanks_of_goesOn {s : Chars} (h : GoesOn s) :
    quotedBlanks s = .ok (s.takeWhile isSpace,s.dropWhile isSpace) := by
  obtain ⟨c,r,hrest,hc⟩ := h
  have hdrop : s.drop (s.takeWhile fun c => c == ' ' || c == '\t').length = c :: r :=
    (drop_takeWhile_length isSpace s).trans hrest
  simp only [quotedBlanks,hdrop,hc,hrest]
  rfl

namespace ReadsQuoted
variable {double : Bool} {s r text rest : Chars}

attribute [local simp] quotedFrom

theorem readQuoted (h : ReadsQuoted double s text rest) : readQuoted double s = .ok (text,rest) :=
  h _ (Nat.lt_succ_self _)

/-- A piece that is read before a text, from the characters in front of it, is read with the text. -/
theorem of_piece (piece : Chars) {s' : Chars} (hpiece : ∀ fuel, quotedFrom double (fuel + 1) s =
      (quotedFrom double fuel s').map fun (text,rest) => (piece ++ text,rest))
    (hlength : s'.length < s.length) (h : ReadsQuoted double s' text rest) :
    ReadsQuoted double s (piece ++ text) rest := by
  intro fuel hf
  obtain ⟨fuel,rfl⟩ := Nat.exists_eq_succ_of_ne_zero (Nat.ne_zero_of_lt hf)
  rw [hpiece,h fuel (by omega)]
  rfl

theorem double_end : ReadsQuoted true ('"' :: rest) [] rest := by
  intro fuel hf
  obtain ⟨fuel,rfl⟩ := Nat.exists_eq_succ_of_ne_zero (Nat.ne_zero_of_lt hf)
  simp [isBreak]

theorem single_end (h : rest.head? ≠ some '\'') : ReadsQuoted false ('\'' :: rest) [] rest := by
  intro fuel hf
  obtain ⟨fuel,rfl⟩ := Nat.exists_eq_succ_of_ne_zero (Nat.ne_zero_of_lt hf)
  cases rest with
  | nil => simp [isBreak]
  | cons c r =>
    have hc : c ≠ '\'' := by simpa using h
    simp [isBreak,hc]

theorem ordinary {c : Char} (hc : isOrdinary double c = true) (h : ReadsQuoted double r text rest) :
    ReadsQuoted double (c :: r) (c :: text) rest := by
  simp only [isOrdinary,isSpace,Bool.and_eq_true,Bool.not_eq_true'] at hc
  refine of_piece [c] (fun fuel => ?_) (Nat.lt_succ_self _) h
  cases double <;> simp_all

theorem doubled (h : ReadsQuoted false r text rest) : ReadsQuoted false ('\'' :: '\'' :: r) ('\'' :: text) rest :=
  of_piece ['\''] (fun fuel => by simp [isBreak]) (by simp only [List.length_cons]; omega) h

theorem escape {piece s' : Chars} (hpiece : readEscape s = .ok (piece,s')) (hlength : s'.length ≤ s.length)
    (h : ReadsQuoted true s' text rest) : ReadsQuoted true ('\\' :: s) (piece ++ text) rest :=
  of_piece piece (fun fuel => by simp [isBreak,hpiece,bind,Except.bind]) (Nat.lt_succ_of_le hlength) h

theorem blanks {c : Char} {piece s' : Chars} (hc : (isSpace c || isBreak c) = true)
    (hpiece : quotedBlanks (c :: s) = .ok (piece,s')) (hlength : s'.length ≤ s.length)
    (h : ReadsQuoted double s' text rest) : ReadsQuoted double (c :: s) (piece ++ text) rest := by
  have hc' : (c == ' ' || c == '\t' || isBreak c) = true := hc
  exact of_piece piece (fun fuel => by simp [hc',hpiece,bind,Except.bind]) (Nat.lt_succ_of_le hlength) h

/-- A space is read as itself unless the line ends behind it. -/
theorem space (hgo : GoesOn s) (h : ReadsQuoted double s text rest) :
    ReadsQuoted double (' ' :: s) (' ' :: text) rest := by
  intro fuel hf
  obtain ⟨fuel,rfl⟩ := Nat.exists_eq_succ_of_ne_zero (Nat.ne_zero_of_lt hf)
  have hlength : s.length < fuel := by simpa using hf
  have hgo' : GoesOn (' ' :: s) := hgo
  have hrun : (' ' :: s).takeWhile isSpace = ' ' :: s.takeWhile isSpace := rfl
  have hdrop : (' ' :: s).dropWhile isSpace = s.dropWhile isSpace := rfl
  have hblanks := quotedBlanks_of_goesOn hgo'
  rw [hrun,hdrop] at hblanks
  simp only [quotedFrom,beq_self_eq_true,Bool.true_or,↓reduceIte,hblanks,bind,Except.bind]
  cases s with
  | nil => exact absurd hgo (by simp [GoesOn])
  | cons c r =>
    by_cases hc : isSpace c = true
    · -- The run of spaces goes on, and the text behind it is read with the same fuel.
      have hr := h (fuel + 1) (by omega)
      have hc' : (c == ' ' || c == '\t' || isBreak c) = true := by
        rw [show (c == ' ' || c == '\t') = true from hc,Bool.true_or]
      simp only [quotedFrom,hc',↓reduceIte,quotedBlanks_of_goesOn hgo,bind,Except.bind] at hr
      cases hmore : quotedFrom double fuel ((c :: r).dropWhile isSpace) with
      | error e =>
        rw [hmore] at hr
        cases hr
      | ok read =>
        rw [hmore] at hr
        simp only [Except.map,Except.ok.injEq,Prod.mk.injEq] at hr
        simp only [Except.map,Except.ok.injEq,Prod.mk.injEq,List.cons_append]
        exact ⟨congrArg (' ' :: ·) hr.1,hr.2⟩
    · have hstay : (c :: r).dropWhile isSpace = c :: r := List.dropWhile_cons_of_neg hc
      have hnone : (c :: r).takeWhile isSpace = [] := List.takeWhile_cons_of_neg hc
      rw [hstay,hnone,h fuel hlength]
      rfl

end ReadsQuoted

/-! ## Folds -/

/-- The text goes on at once, with a character that is neither blank nor the end of a line. -/
def StartsFirm (s : Chars) : Prop := ∃ c r, s = c :: r ∧ isSpace c = false ∧ isBreak c = false

theorem StartsFirm.goesOn {s : Chars} (h : StartsFirm s) : GoesOn s := by
  obtain ⟨c,r,rfl,hs,hb⟩ := h
  exact ⟨c,r,List.dropWhile_cons_of_neg (by simp [hs]),hb⟩

theorem startsFirm_of_isOrdinary {double : Bool} {c : Char} (h : isOrdinary double c = true) (r : Chars) :
    StartsFirm (c :: r) := by
  simp only [isOrdinary,Bool.and_eq_true,Bool.not_eq_true'] at h
  exact ⟨c,r,rfl,h.1.1,h.1.2⟩

theorem GoesOn.space {s : Chars} (h : GoesOn s) : GoesOn (' ' :: s) := h

theorem atDocumentMark_space (s : Chars) : atDocumentMark (' ' :: s) = false := by
  match s with
  | [] => rfl
  | [_] => rfl
  | _ :: _ :: _ => rfl

theorem atDocumentMark_break (s : Chars) : atDocumentMark ('\n' :: s) = false := by
  match s with
  | [] => rfl
  | [_] => rfl
  | _ :: _ :: _ => rfl

theorem length_quotedBreaks {start : Bool} {s breaks rest : Chars}
    (h : quotedBreaks start s = .ok (breaks,rest)) : rest.length ≤ s.length := by
  induction s generalizing start breaks with
  | nil => simp_all [quotedBreaks]
  | cons c r ih =>
    unfold quotedBreaks at h
    split_ifs at h with hmark hspace hbreak
    · exact Nat.le_succ_of_le (ih h)
    · cases hr : quotedBreaks true r with
      | error e =>
        rw [hr] at h
        cases h
      | ok read =>
        rw [hr] at h
        obtain ⟨breaks,rest'⟩ := read
        simp only [Except.map,Except.ok.injEq,Prod.mk.injEq] at h
        exact Nat.le_succ_of_le (ih (h.2 ▸ hr))
    · simp only [Except.ok.injEq,Prod.mk.injEq] at h
      exact h.2 ▸ Nat.le_refl _

theorem quotedBreaks_spaces {s : Chars} (h : StartsFirm s) (n : Nat) :
    quotedBreaks false (List.replicate n ' ' ++ s) = .ok ([],s) := by
  induction n with
  | zero =>
    obtain ⟨c,r,rfl,hs,hb⟩ := h
    have hs' : (c == ' ' || c == '\t') = false := hs
    simp [quotedBreaks,hs',hb]
  | succ n ih => simpa [List.replicate_succ,quotedBreaks] using ih

theorem quotedBreaks_indent {s : Chars} (h : StartsFirm s) {indent : Nat} (hi : 0 < indent) :
    quotedBreaks true (List.replicate indent ' ' ++ s) = .ok ([],s) := by
  obtain ⟨n,rfl⟩ := Nat.exists_eq_succ_of_ne_zero (Nat.ne_zero_of_lt hi)
  have hspaces := quotedBreaks_spaces h n
  simp [List.replicate_succ,quotedBreaks,atDocumentMark_space,hspaces]

/-- A single end of a line is a space, and of several the first one does not count. -/
theorem quotedBlanks_break {s breaks rest : Chars} (h : quotedBreaks true s = .ok (breaks,rest)) :
    quotedBlanks ('\n' :: s) = .ok (if breaks.isEmpty then [' '] else breaks,rest) := by
  have hrun : ('\n' :: s).takeWhile (fun c => c == ' ' || c == '\t') = [] := rfl
  unfold quotedBlanks
  simp only [hrun,List.length_nil,List.drop_zero]
  simp only [isBreak,beq_self_eq_true,Bool.true_or,↓reduceIte,h,Except.map]
  cases breaks <;> rfl

theorem readEscape_fold {s : Chars} (h : StartsFirm s) {indent : Nat} (hi : 0 < indent) :
    readEscape (Write.newLine indent ++ s) = .ok ([],s) := by
  have hescape : escapes.find? (fun e => e.1 == '\n') = none := by decide
  simp [Write.newLine,readEscape,hescape,escapeDigits?,isBreak,quotedBreaks_indent h hi]

/-! ## Escapes -/

theorem readHex?_upper {width n : Nat} (h : n < 16 ^ width) (hw : 0 < width) :
    readHex? ((hex width n).map Char.toUpper) = some n :=
  readHex?_map_hex (by decide) h hw

theorem readEscape_digits {letter : Char} {width : Nat} (hletter : escapes.find? (fun e => e.1 == letter) = none)
    (hwidth : escapeDigits? letter = some width) (hw : 0 < width) {c : Char} (hc : c.toNat < 16 ^ width)
    (r : Chars) : readEscape (letter :: (hex width c.toNat).map Char.toUpper ++ r) = .ok ([c],r) := by
  have hlength : ((hex width c.toNat).map Char.toUpper).length = width := by
    rw [List.length_map,length_hex]
  have htake : ((hex width c.toNat).map Char.toUpper ++ r).take width = (hex width c.toNat).map Char.toUpper :=
    List.take_left' hlength
  have hdrop : ((hex width c.toNat).map Char.toUpper ++ r).drop width = r := List.drop_left' hlength
  have hvalid := toNat_lt c
  simp only [List.cons_append,readEscape,hletter,hwidth,htake,hdrop,hlength,↓reduceIte,
    readHex?_upper hc hw,hvalid,Char.ofNat_toNat]

/-- An escape is read as its character. -/
theorem readEscape_escape (c : Char) :
    ∃ e, Write.escape c = '\\' :: e ∧ ∀ r, readEscape (e ++ r) = .ok ([c],r) := by
  have hshort : ∀ e ∈ Write.shortEscapes, escapes.find? (fun x => x.1 == e.2) = some (e.2,e.1) := by decide
  unfold Write.escape
  cases hfind : Write.shortEscapes.find? fun e => e.1 == c with
  | some e =>
    have hmem := List.mem_of_find?_eq_some hfind
    have hc : e.1 = c := by simpa using List.find?_some hfind
    refine ⟨[e.2],rfl,fun r => ?_⟩
    simp [readEscape,hshort e hmem,hc]
  | none =>
    dsimp only
    split_ifs with h8 h16
    · exact ⟨_,rfl,readEscape_digits (by decide) rfl (by decide) (by omega)⟩
    · exact ⟨_,rfl,readEscape_digits (by decide) rfl (by decide) (by omega)⟩
    · exact ⟨_,rfl,readEscape_digits (by decide) rfl (by decide) (by have := toNat_lt c; omega)⟩

/-! ## Double quotes -/

theorem isOrdinary_of_not_isEscaped {c : Char} (h : Write.isEscaped c = false) (hc : c ≠ ' ') :
    isOrdinary true c = true := by
  have hescaped : ∀ d ∈ ['"','\\','\t','\n','\u2028','\u2029'], Write.isEscaped d = true :=
    List.all_eq_true.mp (by decide)
  have hne : ∀ d ∈ ['"','\\','\t','\n','\u2028','\u2029'], c ≠ d := by
    rintro d hd rfl
    exact absurd (hescaped c hd) (by simp [h])
  simp only [List.forall_mem_cons] at hne
  simp [isOrdinary,isSpace,isBreak,hne,hc]

/-- The backslash before a space at the beginning of a line. -/
def foldMark (s : Chars) : Chars := if s.head? = some ' ' then ['\\'] else []

section
variable (split : Bool) (indent : Nat)

/-- The ways in which the next character is written. -/
theorem escapeLines_cons (first fresh : Bool) (column : Nat) (c : Char) (r : Chars) :
    let written := Write.escapeLines split indent first fresh column (c :: r)
    (Write.isEscaped c = true ∧ ((∃ k, written = Write.escape c ++ Write.escapeLines split indent false true k r) ∨
      written = Write.escape c ++ '\\' :: (Write.newLine indent ++ (foldMark r ++
        Write.escapeLines split indent false true (indent + (foldMark r).length) r)))) ∨
    (Write.isEscaped c = false ∧ ∃ k, written = c :: Write.escapeLines split indent false false k r ∨
      written = '\\' :: (Write.newLine indent ++ (foldMark (c :: r) ++
        c :: Write.escapeLines split indent false false k r))) := by
  intro written
  by_cases hescaped : Write.isEscaped c = true
  · refine .inl ⟨hescaped,?_⟩
    simp only [written,Write.escapeLines,hescaped,↓reduceIte]
    by_cases hfold : (split && !first && !r.isEmpty &&
        decide (Write.lineWidth < column + (Write.escape c).length - 1)) = true
    · refine .inr ?_
      rw [if_pos hfold]
      simp [foldMark]
    · exact .inl ⟨_,if_neg hfold⟩
  · refine .inr ⟨Bool.eq_false_iff.mpr hescaped,?_⟩
    simp only [written,Write.escapeLines,hescaped,Bool.false_eq_true,↓reduceIte]
    by_cases hfold : (split && !first && !r.isEmpty && (c == ' ' || fresh) &&
        decide (Write.lineWidth < column)) = true
    · refine ⟨indent + (foldMark (c :: r)).length + 1,.inr ?_⟩
      rw [if_pos hfold]
      simp [foldMark]
    · exact ⟨_,.inl (if_neg hfold)⟩

/-- A space at the beginning of a line is written as it is. -/
theorem escapeLines_space {column : Nat} (h : column ≤ Write.lineWidth) (first fresh : Bool) (r : Chars) :
    Write.escapeLines split indent first fresh column (' ' :: r) =
      ' ' :: Write.escapeLines split indent false false (column + 1) r := by
  have hescaped : Write.isEscaped ' ' = false := by decide
  simp [Write.escapeLines,hescaped,Nat.not_lt.mpr h]

/-- What is written of a text that does not begin with a space begins with none. -/
theorem startsFirm_escapeLines {s : Chars} (h : s.head? ≠ some ' ') (first fresh : Bool) (column : Nat)
    (tail : Chars) :
    StartsFirm (Write.escapeLines split indent first fresh column s ++ '"' :: tail) := by
  have hslash (t : Chars) : StartsFirm ('\\' :: t) := ⟨'\\',t,rfl,by decide,by decide⟩
  cases s with
  | nil => exact ⟨'"',tail,rfl,by decide,by decide⟩
  | cons c r =>
    obtain ⟨e,he,-⟩ := readEscape_escape c
    rcases escapeLines_cons split indent first fresh column c r with
      ⟨-,⟨k,hw⟩ | hw⟩ | ⟨hescaped,k,hw | hw⟩
    · rw [hw,he]
      exact hslash _
    · rw [hw,he]
      exact hslash _
    · rw [hw]
      exact startsFirm_of_isOrdinary (isOrdinary_of_not_isEscaped hescaped (by simpa using h)) _
    · rw [hw]
      exact hslash _

end

/-- A fold is read as nothing. -/
theorem ReadsQuoted.fold {s text rest : Chars} {indent : Nat} (hi : 0 < indent) (hs : StartsFirm s)
    (h : ReadsQuoted true s text rest) : ReadsQuoted true ('\\' :: (Write.newLine indent ++ s)) text rest :=
  .escape (readEscape_fold hs hi) (by simp) h

/-- A space behind a backslash is read as itself. -/
theorem ReadsQuoted.escaped_space {s text rest : Chars} (h : ReadsQuoted true s text rest) :
    ReadsQuoted true ('\\' :: ' ' :: s) (' ' :: text) rest :=
  @escape (' ' :: s) text rest [' '] s rfl (by simp) h

theorem startsFirm_slash (s : Chars) : StartsFirm ('\\' :: s) := ⟨'\\',s,rfl,by decide,by decide⟩

/-- A text that is written between double quotes is read as itself. -/
theorem readsQuoted_escapeLines (split : Bool) {indent : Nat} (hi : 0 < indent) (hi' : indent < Write.lineWidth)
    (tail : Chars) : ∀ s first fresh column,
    let written := Write.escapeLines split indent first fresh column s ++ '"' :: tail
    ReadsQuoted true written s tail ∧ GoesOn written
  | [], first, fresh, column =>
    ⟨.double_end,(startsFirm_escapeLines split indent (by simp) first fresh column tail).goesOn⟩
  | c :: r, first, fresh, column => by
    intro written
    have ih := readsQuoted_escapeLines split hi hi' tail r
    rcases escapeLines_cons split indent first fresh column c r with
      ⟨hescaped,hw⟩ | ⟨hescaped,k,hw⟩
    · obtain ⟨e,he,hread⟩ := readEscape_escape c
      have hc : c ≠ ' ' := by
        rintro rfl
        exact absurd hescaped (by decide)
      refine ⟨?_,(startsFirm_escapeLines split indent (by simpa using hc) first fresh column tail).goesOn⟩
      rcases hw with ⟨k,hw⟩ | hw
      · simp only [written,hw,he,List.cons_append,List.append_assoc]
        exact .escape (hread _) (by simp) (ih false true k).1
      · simp only [written,hw,he,List.cons_append,List.append_assoc]
        refine .escape (hread _) (by simp) ?_
        by_cases hspace : r.head? = some ' '
        · -- The next line begins with a space, which stands behind a backslash.
          obtain ⟨r,rfl⟩ := List.head?_eq_some_iff.mp hspace
          have hr := readsQuoted_escapeLines split hi hi' tail r false false (indent + 1 + 1)
          simp only [foldMark,hspace,↓reduceIte,List.length_singleton,List.cons_append,List.nil_append,
            escapeLines_space split indent hi']
          exact .fold hi (startsFirm_slash _) hr.1.escaped_space
        · simp only [foldMark,hspace,↓reduceIte,List.nil_append]
          exact .fold hi (startsFirm_escapeLines split indent hspace _ _ _ tail) (ih _ _ _).1
    · rcases hw with hw | hw
      · simp only [written,hw,List.cons_append]
        by_cases hc : c = ' '
        · subst hc
          exact ⟨.space (ih _ _ _).2 (ih _ _ _).1,(ih _ _ _).2.space⟩
        · have hordinary := isOrdinary_of_not_isEscaped hescaped hc
          exact ⟨.ordinary hordinary (ih _ _ _).1,(startsFirm_of_isOrdinary hordinary _).goesOn⟩
      · simp only [written,hw,List.cons_append,List.append_assoc]
        refine ⟨?_,(startsFirm_slash _).goesOn⟩
        by_cases hc : c = ' '
        · subst hc
          exact .fold hi (startsFirm_slash _) (ih _ _ _).1.escaped_space
        · have hordinary := isOrdinary_of_not_isEscaped hescaped hc
          have hmark : foldMark (c :: r) = [] := if_neg (by simpa using hc)
          rw [hmark]
          exact .fold hi (startsFirm_of_isOrdinary hordinary _) (.ordinary hordinary (ih _ _ _).1)

/-! ## Single quotes -/

/-- A text that may stand between single quotes. -/
structure IsSingle (s : Chars) : Prop where
  simple : ∀ c ∈ s, Write.isSimple c = true
  /-- No line begins with a space. -/
  starts : Write.hasPair Write.isLineEnd (· == ' ') s = false
  /-- No line ends with a space. -/
  ends : Write.hasPair (· == ' ') Write.isLineEnd s = false

theorem isSingle_of_allowsSingle {s : Chars} (h : Write.allowsSingle s = true) : IsSingle s := by
  simp only [Write.allowsSingle,Bool.and_eq_true,List.all_eq_true,Bool.not_eq_true'] at h
  exact ⟨h.1.1,h.1.2,h.2⟩

theorem hasPair_tail {p q : Char → Bool} {c : Char} {r : Chars} (h : Write.hasPair p q (c :: r) = false) :
    Write.hasPair p q r = false := by
  cases r with
  | nil => rfl
  | cons d r => exact (Bool.or_eq_false_iff.mp h).2

theorem hasPair_head {p q : Char → Bool} {c d : Char} {r : Chars} (h : Write.hasPair p q (c :: r) = false)
    (hc : p c = true) (hd : r.head? = some d) : q d = false := by
  obtain ⟨r,rfl⟩ := List.head?_eq_some_iff.mp hd
  simp only [Write.hasPair,Bool.or_eq_false_iff,Bool.and_eq_false_iff] at h
  exact h.1.resolve_left (by simp [hc])

namespace IsSingle
variable {c : Char} {r : Chars}

theorem tail (h : IsSingle (c :: r)) : IsSingle r :=
  ⟨fun d hd => h.simple d (List.mem_cons_of_mem c hd),hasPair_tail h.starts,hasPair_tail h.ends⟩

theorem head_of_space (h : IsSingle (' ' :: r)) : r.head? ≠ some '\n' := fun hr =>
  absurd (hasPair_head h.ends rfl hr) (by decide)

theorem head_of_break (h : IsSingle ('\n' :: r)) : r.head? ≠ some ' ' := fun hr =>
  absurd (hasPair_head h.starts (by decide) hr) (by decide)

theorem ordinary (h : IsSingle (c :: r)) (hspace : c ≠ ' ') (hbreak : c ≠ '\n') (hquote : c ≠ '\'') :
    isOrdinary false c = true := by
  have hsimple : ∀ d ∈ ['\t','\u2028','\u2029'], Write.isSimple d = false := by simp [Write.isSimple]
  have hne : ∀ d ∈ ['\t','\u2028','\u2029'], c ≠ d := by
    rintro d hd rfl
    exact absurd (h.simple c List.mem_cons_self) (by simp [hsimple c hd])
  simp only [List.forall_mem_cons] at hne
  simp [isOrdinary,isSpace,isBreak,hne,hspace,hbreak,hquote]

end IsSingle

section
variable (split : Bool) {indent : Nat} {tail : Chars}

/-- The ways in which a space is written. -/
theorem foldLines_space (indent : Nat) (quoted : Bool) (before : Option Char) (column : Nat) (r : Chars) :
    let written := Write.foldLines quoted split indent before column (' ' :: r)
    (∃ k, written = ' ' :: Write.foldLines quoted split indent (some ' ') k r) ∨
    (before ≠ some ' ' ∧ (∃ c, r.head? = some c ∧ c ≠ ' ') ∧
      written = Write.newLine indent ++ Write.foldLines quoted split indent (some ' ') indent r) := by
  intro written
  simp only [written,Write.foldLines,beq_self_eq_true,↓reduceIte]
  by_cases hfold : ((before.isSome && before != some ' ' && r.head?.any (· != ' ')) && split &&
      decide (Write.lineWidth < column)) = true
  · rw [if_pos hfold]
    simp only [Bool.and_eq_true,bne_iff_ne,Option.any_eq_true] at hfold
    exact .inr ⟨hfold.1.1.1.2,hfold.1.1.2,rfl⟩
  · exact .inl ⟨_,if_neg hfold⟩

/-- The beginning of a line and what is written on it. -/
def lineFrom (split : Bool) (indent : Nat) (s : Chars) : Chars :=
  let pad := if s.head? = some '\n' then [] else List.replicate indent ' '
  pad ++ Write.foldLines true split indent (some '\n') pad.length s

theorem foldLines_break (before : Option Char) (column : Nat) (r : Chars) :
    Write.foldLines true split indent before column ('\n' :: r) =
      (if before = some '\n' then ['\n'] else ['\n','\n']) ++ lineFrom split indent r := by
  simp [Write.foldLines,lineFrom]

theorem foldLines_quote (before : Option Char) (column : Nat) (r : Chars) :
    Write.foldLines true split indent before column ('\'' :: r) =
      '\'' :: '\'' :: Write.foldLines true split indent (some '\'') (column + 2) r := by
  simp [Write.foldLines]

theorem foldLines_other {quoted : Bool} {c : Char} (hspace : c ≠ ' ') (hbreak : c ≠ '\n')
    (hquote : quoted = true → c ≠ '\'') (before : Option Char) (column : Nat) (r : Chars) :
    Write.foldLines quoted split indent before column (c :: r) =
      c :: Write.foldLines quoted split indent (some c) (column + 1) r := by
  cases quoted <;> simp_all [Write.foldLines]

/-- A text that begins neither with a space nor with the end of a line is written so that it begins with
neither. -/
theorem startsFirm_foldLines {s : Chars} (h : IsSingle s) (hspace : s.head? ≠ some ' ')
    (hbreak : s.head? ≠ some '\n') (before : Option Char) (column : Nat) :
    StartsFirm (Write.foldLines true split indent before column s ++ '\'' :: tail) := by
  have hmark (r : Chars) : StartsFirm ('\'' :: r) := ⟨'\'',r,rfl,by decide,by decide⟩
  cases s with
  | nil => exact hmark _
  | cons c r =>
    have hc : c ≠ ' ' := by simpa using hspace
    have hc' : c ≠ '\n' := by simpa using hbreak
    by_cases hquote : c = '\''
    · subst hquote
      rw [foldLines_quote]
      exact hmark _
    · rw [foldLines_other split hc hc' fun _ => hquote]
      exact startsFirm_of_isOrdinary (h.ordinary hc hc' hquote) _

/-- The ends of lines that follow one another are read as they are. -/
theorem quotedBreaks_lineFrom (hi : 0 < indent) : ∀ r, IsSingle ('\n' :: r) →
    let rest := r.dropWhile (· == '\n')
    quotedBreaks true (lineFrom split indent r ++ '\'' :: tail) =
      .ok (r.takeWhile (· == '\n'),
        Write.foldLines true split indent (some '\n') indent rest ++ '\'' :: tail) ∧
    IsSingle rest ∧ rest.head? ≠ some '\n' := by
  intro r
  induction r with
  | nil =>
    intro h
    refine ⟨?_,h.tail,by simp⟩
    have hfirm : StartsFirm ('\'' :: tail) := ⟨'\'',tail,rfl,by decide,by decide⟩
    simpa [lineFrom,Write.foldLines] using quotedBreaks_indent hfirm hi
  | cons c r ih =>
    intro h
    by_cases hc : c = '\n'
    · subst hc
      obtain ⟨hread,hrest⟩ := ih h.tail
      refine ⟨?_,hrest⟩
      have hline : lineFrom split indent ('\n' :: r) = '\n' :: lineFrom split indent r := by
        conv => lhs; unfold lineFrom
        simp [foldLines_break]
      simp only [hline,List.cons_append,quotedBreaks,atDocumentMark_break,hread]
      rfl
    · have hspace := h.head_of_break
      have hbreak : (c :: r).head? ≠ some '\n' := by simpa using hc
      have hstay : (c :: r).dropWhile (· == '\n') = c :: r := List.dropWhile_cons_of_neg (by simpa using hc)
      have hnone : (c :: r).takeWhile (· == '\n') = [] := List.takeWhile_cons_of_neg (by simpa using hc)
      dsimp only
      rw [hstay,hnone]
      refine ⟨?_,h.tail,hbreak⟩
      simp only [lineFrom,hbreak,↓reduceIte,List.length_replicate,List.append_assoc]
      exact quotedBreaks_indent (startsFirm_foldLines split h.tail hspace hbreak _ _) hi

/-- A text that is written between single quotes is read as itself. -/
theorem readsQuoted_foldLines (hi : 0 < indent) (htail : tail.head? ≠ some '\'') :
    ∀ (s : Chars) (before : Option Char) (column : Nat), IsSingle s →
    (before = some ' ' → s.head? ≠ some '\n') → (before = some '\n' → s.head? ≠ some '\n') →
    let written := Write.foldLines true split indent before column s ++ '\'' :: tail
    ReadsQuoted false written s tail ∧ (before = some ' ' → GoesOn written)
  | [], before, column, hs, _, _ =>
    ⟨.single_end htail,fun _ => (startsFirm_foldLines split hs (by simp) (by simp) before column).goesOn⟩
  | c :: r, before, column, hs, hspace, hbreak => by
    intro written
    by_cases hcspace : c = ' '
    · subst hcspace
      have hr := hs.head_of_space
      rcases foldLines_space split indent true before column r with ⟨k,hw⟩ | ⟨hbefore,⟨d,hd,hne⟩,hw⟩
      · obtain ⟨hread,hgo⟩ := readsQuoted_foldLines hi htail r (some ' ') k hs.tail (fun _ => hr) (by simp)
        simp only [written,hw,List.cons_append]
        exact ⟨.space (hgo rfl) hread,fun _ => (hgo rfl).space⟩
      · obtain ⟨hread,-⟩ := readsQuoted_foldLines hi htail r (some ' ') indent hs.tail (fun _ => hr) (by simp)
        have hfirm : StartsFirm (Write.foldLines true split indent (some ' ') indent r ++ '\'' :: tail) :=
          startsFirm_foldLines split hs.tail (by simpa [hd] using hne) hr _ _
        refine ⟨?_,fun h => absurd h hbefore⟩
        simp only [written,hw,List.append_assoc]
        exact .blanks (by decide) (quotedBlanks_break (quotedBreaks_indent hfirm hi))
          (by simp) hread
    · by_cases hcbreak : c = '\n'
      · subst hcbreak
        have hbefore : before ≠ some '\n' := fun h => hbreak h rfl
        obtain ⟨hlines,hsingle,hhead⟩ := @quotedBreaks_lineFrom split indent tail hi r hs
        obtain ⟨hrest,-⟩ := readsQuoted_foldLines hi htail (r.dropWhile (· == '\n')) (some '\n') indent hsingle
          (by simp) (fun _ => hhead)
        refine ⟨?_,fun h => absurd rfl (hspace h)⟩
        have hbreaks : quotedBreaks true ('\n' :: (lineFrom split indent r ++ '\'' :: tail)) =
            .ok ('\n' :: r.takeWhile (· == '\n'),Write.foldLines true split indent (some '\n') indent
              (r.dropWhile (· == '\n')) ++ '\'' :: tail) := by
          simp only [quotedBreaks,atDocumentMark_break,hlines]
          rfl
        have htext : '\n' :: r = '\n' :: r.takeWhile (· == '\n') ++ r.dropWhile (· == '\n') := by
          rw [List.cons_append,List.takeWhile_append_dropWhile]
        rw [htext]
        simp only [written,foldLines_break,if_neg hbefore,List.cons_append,List.nil_append]
        exact .blanks (by decide) (quotedBlanks_break hbreaks) (length_quotedBreaks hbreaks) hrest
      · by_cases hcquote : c = '\''
        · subst hcquote
          obtain ⟨hread,-⟩ := readsQuoted_foldLines hi htail r (some '\'') (column + 2) hs.tail (by simp) (by simp)
          refine ⟨?_,fun _ => (startsFirm_foldLines split hs (by simp) (by simp) before column).goesOn⟩
          simp only [written,foldLines_quote,List.cons_append]
          exact .doubled hread
        · have hordinary := hs.ordinary hcspace hcbreak hcquote
          obtain ⟨hread,-⟩ := readsQuoted_foldLines hi htail r (some c) (column + 1) hs.tail
            (by simp [hcspace]) (by simp [hcbreak])
          simp only [written,foldLines_other split hcspace hcbreak fun _ => hcquote,List.cons_append]
          exact ⟨.ordinary hordinary hread,fun _ => (startsFirm_of_isOrdinary hordinary _).goesOn⟩
termination_by s => s.length
decreasing_by
  · simp
  · simp
  · exact Nat.lt_succ_of_le (List.dropWhile_sublist _).length_le
  · simp
  · simp

end

end TrackerHub.Yaml
