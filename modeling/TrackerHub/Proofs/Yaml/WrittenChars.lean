import TrackerHub.Proofs.Text.SplitText
import TrackerHub.Proofs.Yaml.ScannedText

/-! # Characters of written documents

Only line feeds, spaces and visible ASCII characters are written, so that nothing in a written document is
refused or replaced when it is read. A name that stands before its colon is written on one line.
-/
namespace TrackerHub.Yaml
open TrackerHub.Text

theorem isInk_hex (width n : Nat) : ∀ c ∈ (hex width n).map Char.toUpper, isInk c = true := by
  have hdigit : ∀ d < 16, isInk (hexDigit d).toUpper = true := by decide
  induction width generalizing n with
  | zero => simp [hex]
  | succ width ih =>
    simp only [hex,List.map_append,List.mem_append]
    rintro c (hc | hc)
    · exact ih _ c hc
    · obtain rfl : c = (hexDigit (n % 16)).toUpper := by simpa using hc
      exact hdigit _ (Nat.mod_lt _ (by decide))

theorem isInk_escape (c : Char) : ∀ d ∈ Write.escape c, isInk d = true := by
  have hletters : ∀ e ∈ Write.shortEscapes, isInk e.2 = true := by decide
  unfold Write.escape
  split
  next letter h =>
    have hletter := hletters _ (List.mem_of_find?_eq_some h)
    simpa using ⟨by decide,hletter⟩
  next =>
    split_ifs <;> exact List.forall_mem_cons.mpr ⟨by decide,List.forall_mem_cons.mpr ⟨by decide,isInk_hex _ _⟩⟩

theorem isInk_of_not_isEscaped {c : Char} (h : Write.isEscaped c = false) : c = ' ' ∨ isInk c = true := by
  simp only [Write.isEscaped,Bool.or_eq_false_iff,Bool.not_eq_false',Bool.and_eq_true,decide_eq_true_eq] at h
  exact space_or_isInk h.2.1 h.2.2

/-! ## Texts -/

section
variable {p : Char → Prop} {split : Bool}

theorem forall_mem_replicate (hspace : p ' ') (n : Nat) : ∀ c ∈ List.replicate n ' ', p c := by
  intro c hc
  rwa [List.eq_of_mem_replicate hc]

theorem forall_mem_newLine (hspace : p ' ') (hbreak : p '\n') (indent : Nat) : ∀ c ∈ Write.newLine indent, p c :=
  List.forall_mem_cons.mpr ⟨hbreak,forall_mem_replicate hspace indent⟩

theorem forall_mem_foldLines (hspace : p ' ') (hquote : p '\'') {s : Chars} (hs : ∀ c ∈ s, p c)
    (hbreak : split = true → p '\n') (quoted : Bool) (indent : Nat) (before : Option Char) (column : Nat) :
    ∀ c ∈ Write.foldLines quoted split indent before column s, p c := by
  induction s generalizing before column with
  | nil => simp [Write.foldLines]
  | cons c r ih =>
    obtain ⟨hc,hr⟩ := List.forall_mem_cons.mp hs
    have hrest (b : Option Char) (k : Nat) : ∀ d ∈ Write.foldLines quoted split indent b k r, p d := ih hr b k
    unfold Write.foldLines
    dsimp only
    split
    · split
      next h =>
        simp only [Bool.and_eq_true] at h
        exact List.forall_mem_append.mpr ⟨forall_mem_newLine hspace (hbreak h.1.2) indent,hrest _ _⟩
      next => exact List.forall_mem_cons.mpr ⟨hspace,hrest _ _⟩
    · split
      next h =>
        obtain rfl : c = '\n' := by simpa using h
        refine List.forall_mem_append.mpr ⟨List.forall_mem_append.mpr ⟨?_,?_⟩,hrest _ _⟩
        · split <;> simp [hc]
        · split
          · simp
          · exact forall_mem_replicate hspace indent
      next =>
        split
        · exact List.forall_mem_cons.mpr ⟨hquote,List.forall_mem_cons.mpr ⟨hquote,hrest _ _⟩⟩
        · exact List.forall_mem_cons.mpr ⟨hc,hrest _ _⟩

theorem forall_mem_escapeLines (hspace : p ' ') (hink : ∀ c, isInk c = true → p c) (hbreak : split = true → p '\n')
    (indent : Nat) (first fresh : Bool) (column : Nat) (s : Chars) :
    ∀ c ∈ Write.escapeLines split indent first fresh column s, p c := by
  induction s generalizing first fresh column with
  | nil => simp [Write.escapeLines]
  | cons c r ih =>
    have hslash : p '\\' := hink _ (by decide)
    have hfold (h : split = true) {mark : Chars} (hmark : mark = ['\\'] ∨ mark = []) :
        ∀ d ∈ '\\' :: Write.newLine indent ++ mark, p d := by
      refine List.forall_mem_append.mpr
        ⟨List.forall_mem_cons.mpr ⟨hslash,forall_mem_newLine hspace (hbreak h) indent⟩,?_⟩
      rcases hmark with rfl | rfl <;> simp [hslash]
    unfold Write.escapeLines
    dsimp only
    split
    · have hescape : ∀ d ∈ Write.escape c, p d := fun d hd => hink d (isInk_escape c d hd)
      split
      next h =>
        simp only [Bool.and_eq_true] at h
        rw [List.append_assoc,List.append_assoc]
        refine List.forall_mem_append.mpr ⟨hescape,?_⟩
        rw [← List.append_assoc]
        exact List.forall_mem_append.mpr ⟨hfold h.1.1.1 (by split <;> simp),ih _ _ _⟩
      next => exact List.forall_mem_append.mpr ⟨hescape,ih _ _ _⟩
    next hc =>
      have hc' : p c := by
        rcases isInk_of_not_isEscaped (by simpa using hc) with rfl | hc
        · exact hspace
        · exact hink c hc
      split
      next h =>
        simp only [Bool.and_eq_true] at h
        exact List.forall_mem_append.mpr ⟨hfold h.1.1.1.1 (by split <;> simp),List.forall_mem_cons.mpr ⟨hc',ih _ _ _⟩⟩
      next => exact List.forall_mem_cons.mpr ⟨hc',ih _ _ _⟩

theorem forall_mem_scalar (hspace : p ' ') (hink : ∀ c, isInk c = true → p c) {s : Chars}
    (hbreak : split = true ∨ '\n' ∈ s → p '\n') (indent column : Nat) :
    ∀ c ∈ Write.scalar split indent column s, p c := by
  have hsimple (h : s.all Write.isSimple = true) : ∀ c ∈ s, p c := by
    intro c hc
    by_cases hline : c = '\n'
    · subst hline
      exact hbreak (.inr hc)
    · have hbounds := List.all_eq_true.mp h c hc
      simp only [Write.isSimple,Bool.or_eq_true,beq_iff_eq,hline,false_or,Bool.and_eq_true,decide_eq_true_eq]
        at hbounds
      rcases space_or_isInk hbounds.1 hbounds.2 with rfl | hc'
      · exact hspace
      · exact hink c hc'
  have hfolded (quoted : Bool) (h : s.all Write.isSimple = true) := forall_mem_foldLines hspace
    (hink '\'' (by decide)) (hsimple h) (fun h => hbreak (.inl h)) quoted indent
  have hquotes (q : Char) (hq : isInk q = true) {t : Chars} (ht : ∀ c ∈ t, p c) : ∀ c ∈ q :: t ++ [q], p c :=
    List.forall_mem_append.mpr ⟨List.forall_mem_cons.mpr ⟨hink q hq,ht⟩,by simpa using hink q hq⟩
  unfold Write.scalar
  cases hstyle : Write.styleOf s with
  | plain =>
    have hallows := (styleOf_plain.mp hstyle)
    simp only [Write.allowsPlain,Bool.and_eq_true] at hallows
    exact hfolded false hallows.1.1.1.1.2 none column
  | single =>
    have hallows := allowsSingle_of_styleOf hstyle
    simp only [Write.allowsSingle,Bool.and_eq_true] at hallows
    exact hquotes '\'' (by decide) (hfolded true hallows.1.1 none (column + 1))
  | double =>
    exact hquotes '"' (by decide) (forall_mem_escapeLines hspace hink (fun h => hbreak (.inl h)) indent true false _ s)

theorem forall_mem_entry (hspace : p ' ') (hbreak : p '\n') (hink : ∀ c, isInk c = true → p c) {indent : Nat}
    {name : Chars} {value : Bool → Nat → Chars} (h : ∀ ownLine column, ∀ c ∈ value ownLine column, p c) :
    ∀ c ∈ Write.entry indent name value, p c := by
  have hname (split : Bool) (column : Nat) : ∀ c ∈ Write.scalar split (indent + 2) column name, p c :=
    forall_mem_scalar hspace hink (fun _ => hbreak) (indent + 2) column
  unfold Write.entry
  split
  · exact List.forall_mem_append.mpr
      ⟨List.forall_mem_append.mpr ⟨hname false _,by simpa using hink ':' (by decide)⟩,h _ _⟩
  · rw [List.cons_append,List.cons_append,List.cons_append,List.cons_append]
    refine List.forall_mem_cons.mpr ⟨hink '?' (by decide),List.forall_mem_cons.mpr ⟨hspace,?_⟩⟩
    exact List.forall_mem_append.mpr ⟨List.forall_mem_append.mpr ⟨hname true _,forall_mem_newLine hspace hbreak _⟩,
      List.forall_mem_cons.mpr ⟨hink ':' (by decide),h _ _⟩⟩

end

/-! ## Documents -/

theorem isSimple_of_isInk {c : Char} (h : isInk c = true) : Write.isSimple c = true := by
  simp only [isInk,Bool.and_eq_true,decide_eq_true_eq] at h
  simp only [Write.isSimple,Bool.or_eq_true,Bool.and_eq_true,decide_eq_true_eq]
  omega

theorem isSimple_document (sections : List (Chars × List (Chars × Chars))) :
    ∀ c ∈ Write.document sections, Write.isSimple c = true := by
  have hspace : Write.isSimple ' ' = true := by decide
  have hbreak : Write.isSimple '\n' = true := by decide
  have hink (c : Char) (h : isInk c = true) := isSimple_of_isInk h
  have htexts (texts : List (Chars × Chars)) : ∀ c ∈ Write.sectionText texts, Write.isSimple c = true := by
    refine forall_mem_join (forall_mem_newLine hspace hbreak 2) ?_
    simp only [List.forall_mem_map]
    exact fun e _ => forall_mem_entry hspace hbreak hink fun _ _ =>
      List.forall_mem_cons.mpr ⟨hspace,forall_mem_scalar hspace hink (fun _ => hbreak) _ _⟩
  unfold Write.document
  split
  · exact List.all_eq_true.mp (by decide)
  · refine List.forall_mem_append.mpr ⟨forall_mem_join (by simpa using hbreak) ?_,by simpa using hbreak⟩
    simp only [List.forall_mem_map]
    refine fun e _ => forall_mem_entry hspace hbreak hink fun ownLine _ => ?_
    split
    · exact List.all_eq_true.mp (by decide)
    · refine List.forall_mem_append.mpr ⟨?_,htexts _⟩
      split
      · exact List.all_eq_true.mp (by decide)
      · exact forall_mem_newLine hspace hbreak 2

theorem isAllowed_of_isSimple {c : Char} (h : Write.isSimple c = true) : isAllowed c = true := by
  simp only [Write.isSimple,Bool.or_eq_true,beq_iff_eq,Bool.and_eq_true,decide_eq_true_eq] at h
  rcases h with rfl | h
  · decide
  · simp [isAllowed,h]

theorem unifyBreaks_eq {s : Chars} (h : ∀ c ∈ s, Write.isSimple c = true) : unifyBreaks s = s := by
  induction s with
  | nil => rfl
  | cons c r ih =>
    obtain ⟨hc,hr⟩ := List.forall_mem_cons.mp h
    have hreturn : c ≠ '\r' := by
      rintro rfl
      exact absurd hc (by decide)
    have hnext : c ≠ '\x85' := by
      rintro rfl
      exact absurd hc (by decide)
    rw [unifyBreaks,ih hr]
    · simp [hreturn,hnext]
    · rintro _ rfl
      exact absurd rfl hreturn

/-- A name that stands before its colon is written on one line. -/
theorem oneLine_scalar {s : Chars} (h : Write.isSimpleName s = true) (indent column : Nat) :
    ∀ c ∈ Write.scalar false indent column s, isBreak c = false ∧ c ≠ '\uFEFF' := by
  refine forall_mem_scalar (p := fun c => isBreak c = false ∧ c ≠ '\uFEFF') (by decide) (fun c hc => ?_) ?_ indent column
  · refine ⟨(isInk_gap hc).2.1,?_⟩
    rintro rfl
    exact absurd hc (by decide)
  · rintro (h' | hmem)
    · cases h'
    · simp only [Write.isSimpleName,Bool.and_eq_true,Bool.not_eq_true',List.any_eq_false] at h
      exact absurd (by decide) (h.1.2 '\n' hmem)

end TrackerHub.Yaml
