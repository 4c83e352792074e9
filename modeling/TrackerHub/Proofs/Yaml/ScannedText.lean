import Mathlib.Logic.Relation
import TrackerHub.Proofs.Yaml.PlainText
import TrackerHub.Yaml.Token

/-! # Written texts as tokens

Cutting a document into tokens goes by steps, each of which arrives at the next token and adds it. A document is cut
by as many steps as it has tokens, each of which leaves less of the text. A written text is one token, whatever its
style and its folds, if what stands behind it cannot belong to it.
-/
namespace TrackerHub.Yaml
open TrackerHub.Text

/-! ## Places -/

/-- The line and the column behind a text. -/
def advance (place : Nat × Nat) (passed : Chars) : Nat × Nat :=
  passed.foldl (fun (line,column) c =>
    if isBreak c then (line + 1,0) else if c == '\uFEFF' then (line,column) else (line,column + 1)) place

theorem advance_append (place : Nat × Nat) (p q : Chars) :
    advance place (p ++ q) = advance (advance place p) q :=
  List.foldl_append

theorem advance_spaces (line column n : Nat) :
    advance (line,column) (List.replicate n ' ') = (line,column + n) := by
  induction n generalizing column with
  | zero => rfl
  | succ n ih =>
    rw [List.replicate_succ]
    exact (ih (column + 1)).trans (by rw [Nat.add_right_comm]; rfl)

theorem le_advance (place : Nat × Nat) (p : Chars) : place.1 ≤ (advance place p).1 := by
  induction p generalizing place with
  | nil => exact Nat.le_refl _
  | cons c p ih =>
    refine Nat.le_trans ?_ (ih _)
    dsimp only
    split_ifs <;> simp

/-- Behind the indentation of a new line. -/
theorem advance_newLine (place : Nat × Nat) (p : Chars) (n : Nat) :
    advance place (p ++ '\n' :: List.replicate n ' ') = ((advance place p).1 + 1,n) := by
  rw [advance_append]
  change advance ((advance place p).1 + 1,0) (List.replicate n ' ') = _
  rw [advance_spaces,Nat.zero_add]

/-- Text of one line moves the column on. -/
theorem advance_line {p : Chars} (h : ∀ c ∈ p, isBreak c = false ∧ c ≠ '\uFEFF') (line column : Nat) :
    advance (line,column) p = (line,column + p.length) := by
  induction p generalizing column with
  | nil => rfl
  | cons c p ih =>
    obtain ⟨hb,hf⟩ := h c List.mem_cons_self
    have hstep : advance (line,column) (c :: p) = advance (line,column + 1) p := by
      simp [advance,hb,hf]
    rw [hstep,ih (fun d hd => h d (List.mem_cons_of_mem c hd)),List.length_cons]
    simp only [Prod.mk.injEq,true_and]
    omega

namespace Scanner
variable {s a b : Scanner}

theorem moveTo_eq {p r : Chars} (h : s.rest = p ++ r) : s.moveTo r = {s with
    rest := r,index := s.index + p.length,line := (advance (s.line,s.column) p).1,
    column := (advance (s.line,s.column) p).2} := by
  have hpassed : s.rest.take (s.rest.length - r.length) = p := by
    rw [h,List.length_append,Nat.add_sub_cancel,List.take_left]
  unfold moveTo
  rw [hpassed]
  rfl

/-! ## Arrivals -/

/-- A text that begins with a token, or is at its end. -/
def Settled (r : Chars) : Prop := r = [] ∨ ∃ c t, r = c :: t ∧ isSpace c = false ∧ isBreak c = false ∧ c ≠ '#' ∧
  c ≠ '\uFEFF'

theorem nextTokenFrom_settled {r : Chars} (h : Settled r) (passed : Bool) :
    nextTokenFrom false passed r = (passed,r) := by
  rcases h with rfl | ⟨c,t,rfl,hs,hb,hsharp,-⟩
  · rfl
  · have hc : (c == ' ') = false := (Bool.or_eq_false_iff.mp hs).1
    simp [nextTokenFrom,hb,hc,hsharp]

theorem nextTokenFrom_spaces {r : Chars} (h : Settled r) (passed : Bool) (n : Nat) :
    nextTokenFrom false passed (List.replicate n ' ' ++ r) = (passed,r) := by
  induction n with
  | zero => exact nextTokenFrom_settled h passed
  | succ n ih => exact ih

theorem not_mark_of_settled {r : Chars} (h : Settled r) (n : Nat) :
    (List.replicate n ' ' ++ r).head? ≠ some '\uFEFF' := by
  cases n with
  | zero =>
    rcases h with rfl | ⟨c,t,rfl,-,-,-,hc⟩
    · simp
    · simpa using hc
  | succ n => simp [List.replicate_succ]

theorem toNextToken_spaces {r : Chars} {n : Nat} (hrest : s.rest = List.replicate n ' ' ++ r) (h : Settled r) :
    s.toNextToken = s.moveTo r := by
  have hmark : (s.index == 0 && s.rest.head? == some '\uFEFF') = false := by
    rw [hrest,beq_eq_false_iff_ne.mpr (not_mark_of_settled h n),Bool.and_false]
  unfold toNextToken
  simp only [hmark,Bool.false_eq_true,↓reduceIte]
  rw [hrest,nextTokenFrom_spaces h]
  simp

theorem toNextToken_newLine {r : Chars} {n : Nat} (hrest : s.rest = '\n' :: (List.replicate n ' ' ++ r))
    (h : Settled r) (hflow : s.around = []) : s.toNextToken = {s.moveTo r with keyAllowed := true} := by
  have hmark : (s.index == 0 && s.rest.head? == some '\uFEFF') = false := by
    simp [hrest]
  have hnext : nextTokenFrom false false s.rest = (true,r) := by
    rw [hrest]
    exact nextTokenFrom_spaces h true n
  unfold toNextToken
  simp only [hmark,Bool.false_eq_true,↓reduceIte,hnext,Bool.true_and]
  simp [inFlow,moveTo,hflow]

/-- The scanner at the next token: the possible keys that are too far behind are given up, and the blocks that
end here are closed. -/
def arrive (s : Scanner) : Except YamlError Scanner :=
  s.toNextToken.dropStaleKeys.map fun s => s.closeBlocks s.column

/-- Cuts the rest of a document from a token on. -/
def runFrom (fuel : Nat) (a : Scanner) : Except YamlError Scanner :=
  match a.rest with
  | [] => (a.closeBlocks (-1)).giveUpKey
  | c :: r => a.pushNext c r >>= run fuel

theorem run_succ (fuel : Nat) (s : Scanner) : run (fuel + 1) s = s.arrive >>= runFrom fuel := by
  unfold run arrive runFrom
  cases s.toNextToken.dropStaleKeys <;> rfl

/-- One token is added, and the scanner is at the next one. -/
def Next (a b : Scanner) : Prop := ∃ c r s, a.rest = c :: r ∧ a.pushNext c r = .ok s ∧ s.arrive = .ok b ∧
  b.rest.length < a.rest.length

theorem runFrom_of_next (h : Next a b) (fuel : Nat) : runFrom (fuel + 1) a = runFrom fuel b := by
  obtain ⟨c,r,s,hrest,hpush,harrive,-⟩ := h
  simp only [runFrom,hrest,hpush,bind,Except.bind]
  rw [run_succ,harrive]
  rfl

/-- Enough fuel lasts for all steps. -/
theorem runFrom_of_steps (h : Relation.ReflTransGen Next a b) {fuel : Nat} (hfuel : a.rest.length ≤ fuel) :
    ∃ fuel', b.rest.length ≤ fuel' ∧ runFrom fuel a = runFrom fuel' b := by
  induction h with
  | refl => exact ⟨fuel,hfuel,rfl⟩
  | tail _ hnext ih =>
    obtain ⟨fuel',hle,hrun⟩ := ih
    have hlt : _ < _ := hnext.choose_spec.choose_spec.choose_spec.2.2.2
    obtain ⟨n,rfl⟩ := Nat.exists_eq_succ_of_ne_zero (Nat.ne_zero_of_lt (Nat.lt_of_lt_of_le hlt hle))
    exact ⟨n,by omega,hrun.trans (runFrom_of_next hnext n)⟩

/-- The rest of the text is malformed. -/
def Fails (a : Scanner) : Prop := ∀ fuel, runFrom fuel a = .error .malformed

theorem Fails.of_next (hnext : Next a b) (h : Fails b) : Fails a := by
  intro fuel
  cases fuel with
  | zero =>
    obtain ⟨c,r,s,hrest,hpush,-⟩ := hnext
    simp only [runFrom,hrest,hpush]
    rfl
  | succ fuel => rw [runFrom_of_next hnext,h fuel]

theorem Fails.of_steps (hsteps : Relation.ReflTransGen Next a b) (h : Fails b) : Fails a := by
  induction hsteps with
  | refl => exact h
  | tail _ hnext ih => exact ih (h.of_next hnext)

end Scanner

/-! ## The beginning of a plain text -/

/-- The character that a written plain text begins with, if it is not blank, is that of the text. -/
theorem foldLines_uncons {split : Bool} {indent : Nat} {tail : Chars} {m : Char} (hspace : m ≠ ' ')
    (hbreak : m ≠ '\n') (htail : tail.head? ≠ some m) {s x : Chars} (h : ∀ c ∈ s, c ≠ '\n') {before : Option Char}
    {column : Nat} (hx : Write.foldLines false split indent before column s ++ tail = m :: x) :
    ∃ t b k, s = m :: t ∧ x = Write.foldLines false split indent b k t ++ tail := by
  cases s with
  | nil =>
    simp only [Write.foldLines,List.nil_append] at hx
    exact absurd (by rw [hx]; rfl) htail
  | cons c t =>
    by_cases hc : c = ' '
    · subst hc
      rcases foldLines_space split indent false before column t with ⟨k,hk⟩ | ⟨-,-,hk⟩
      · rw [hk] at hx
        exact absurd (List.cons.inj hx).1.symm hspace
      · rw [hk] at hx
        exact absurd (List.cons.inj hx).1.symm hbreak
    · have hc' := h c List.mem_cons_self
      rw [foldLines_other split hc hc' (absurd · Bool.false_ne_true)] at hx
      obtain ⟨rfl,rfl⟩ := List.cons.inj hx
      exact ⟨t,_,_,rfl,rfl⟩

/-- A plain text does not look like a mark between documents. -/
theorem not_atMark_foldLines {split : Bool} {indent : Nat} {tail : Chars} {m : Char} (hspace : m ≠ ' ')
    (hbreak : m ≠ '\n') (htail : tail.head? ≠ some m) {s : Chars} (h : ∀ c ∈ s, c ≠ '\n')
    (hmark : startsWith [m,m,m] s = false) (before : Option Char) (column : Nat) :
    atMark m (Write.foldLines false split indent before column s ++ tail) = false := by
  match hx : Write.foldLines false split indent before column s ++ tail with
  | [] => rfl
  | [_] => rfl
  | [_,_] => rfl
  | a :: b :: c :: x =>
    by_cases hall : a = m ∧ b = m ∧ c = m
    · obtain ⟨rfl,rfl,rfl⟩ := hall
      obtain ⟨t,_,_,rfl,hy⟩ := foldLines_uncons hspace hbreak htail h hx
      have ht : ∀ d ∈ t, d ≠ '\n' := fun d hd => h d (List.mem_cons_of_mem _ hd)
      obtain ⟨u,_,_,rfl,hz⟩ := foldLines_uncons hspace hbreak htail ht hy.symm
      have hu : ∀ d ∈ u, d ≠ '\n' := fun d hd => ht d (List.mem_cons_of_mem _ hd)
      obtain ⟨v,_,_,rfl,-⟩ := foldLines_uncons hspace hbreak htail hu hz.symm
      simp [startsWith,dropStart?] at hmark
    · simp only [atMark]
      grind

/-- What a plain text begins with. -/
structure PlainStart (s : Chars) : Prop where
  dashes : startsWith ['-','-','-'] s = false
  dots : startsWith ['.','.','.'] s = false
  /-- The marks that begin no plain text. -/
  mark : ∀ c ∈ s.head?, "#,[]\x7b\x7d&*!|>'\"%@`".toList.contains c = false
  /-- The marks that begin one if there is no gap behind them. -/
  gap : ∀ c r, s = c :: r → (c = '?' ∨ c = ':' ∨ c = '-') → Write.atGap r = false

theorem plainStart_of_hasMarks {s : Chars} (h : Write.hasMarks s = false) : PlainStart s := by
  cases s with
  | nil => exact ⟨rfl,rfl,by simp,by simp⟩
  | cons c r =>
    simp only [Write.hasMarks,Bool.or_eq_false_iff] at h
    obtain ⟨⟨⟨⟨hdashes,hdots⟩,hmark⟩,hgap⟩,-⟩ := h
    refine ⟨hdashes,hdots,fun d hd => ?_,?_⟩
    · obtain rfl : c = d := by simpa using hd
      exact hmark
    · rintro d t ht hd
      obtain ⟨rfl,rfl⟩ := List.cons.inj ht
      by_contra hne
      simp only [Bool.not_eq_false] at hne
      simp only [hne,Bool.and_true,Bool.or_eq_false_iff,beq_eq_false_iff_ne] at hgap
      grind

namespace Scanner
variable {a : Scanner} {c : Char} {r : Chars}

/-- No other token begins as a plain text does. -/
theorem pushNext_plain (hflow : a.around = []) (hmark : "#,[]\x7b\x7d&*!|>'\"%@`".toList.contains c = false)
    (hgap : (c = '?' ∨ c = ':' ∨ c = '-') → atGap r = false) (hink : atGap [c] = false)
    (hdashes : atMark '-' (c :: r) = false) (hdots : atMark '.' (c :: r) = false) :
    a.pushNext c r = a.pushPlain := by
  have hne : ∀ d ∈ ['#',',','[',']','\x7b','\x7d','&','*','!','|','>','\'','"','%','@','`'], c ≠ d := by
    have hmarks : ∀ d ∈ ['#',',','[',']','\x7b','\x7d','&','*','!','|','>','\'','"','%','@','`'],
        "#,[]\x7b\x7d&*!|>'\"%@`".toList.contains d = true := List.all_eq_true.mp (by decide)
    rintro d hd rfl
    exact absurd (hmarks c hd) (by rw [hmark]; decide)
  simp only [List.forall_mem_cons] at hne
  have hdash : (c == '-' && atGap r) = false := by
    by_cases h : c = '-' <;> simp_all
  have hquestion : (c == '?' && (a.inFlow || atGap r)) = false := by
    by_cases h : c = '?' <;> simp_all [inFlow]
  have hcolon : (c == ':' && (a.inFlow || atGap r)) = false := by
    by_cases h : c = ':' <;> simp_all [inFlow]
  have hbegins : plainBegins a.inFlow c r = true := by
    by_cases h : c = '?' ∨ c = ':' ∨ c = '-'
    · have hr := hgap h
      rcases h with rfl | rfl | rfl <;> simp [plainBegins,hr,inFlow,hflow]
    · simp only [not_or] at h
      simp [plainBegins,hink,h,hne]
  unfold pushNext
  simp only [hdash,hquestion,hcolon,hbegins,hdashes,hdots,beq_iff_eq,hne,Bool.and_false,Bool.false_eq_true,
    ↓reduceIte,Bool.and_eq_true,false_and]

theorem pushNext_single : a.pushNext '\'' r = a.pushQuoted false := by
  have hmark (m : Char) (hm : m ≠ '\'') : atMark m ('\'' :: r) = false := by
    match r with
    | [] => rfl
    | [_] => rfl
    | _ :: _ :: _ => simp [atMark,hm.symm]
  unfold pushNext
  simp [hmark]

theorem pushNext_double : a.pushNext '"' r = a.pushQuoted true := by
  have hmark (m : Char) (hm : m ≠ '"') : atMark m ('"' :: r) = false := by
    match r with
    | [] => rfl
    | [_] => rfl
    | _ :: _ :: _ => simp [atMark,hm.symm]
  unfold pushNext
  simp [hmark]

end Scanner

/-! ## Written texts -/

def scalarToken (s : Chars) : Token := .scalar (decide (Write.styleOf s = .plain)) s

/-- A text that cannot belong to a text before it that is indented by at least `least`. -/
structure Stops (least : Nat) (tail : Chars) : Prop where
  piece : plainPiece false tail = ([],tail)
  gap : (plainGap tail).joint = [] ∨ ((plainGap tail).newLine = true ∧ (plainGap tail).column < least)
  mark : ∀ c ∈ tail.head?, c = ':' ∨ c = '\n'

theorem Stops.head_ne {least : Nat} {tail : Chars} (h : Stops least tail) {c : Char} (hcolon : c ≠ ':')
    (hbreak : c ≠ '\n') : tail.head? ≠ some c := fun hc =>
  (h.mark c hc).elim hcolon hbreak

theorem styleOf_plain {s : Chars} : Write.styleOf s = .plain ↔ Write.allowsPlain s = true := by
  unfold Write.styleOf
  split_ifs <;> simp_all

theorem allowsSingle_of_styleOf {s : Chars} (h : Write.styleOf s = .single) : Write.allowsSingle s = true := by
  unfold Write.styleOf at h
  split_ifs at h
  assumption

theorem allowsPlain_facts {s : Chars} (h : Write.allowsPlain s = true) :
    kindOfPlain s = .text ∧ s ≠ [] ∧ PlainStart s ∧ ∀ c ∈ s, c ≠ '\n' := by
  have hplain := isPlain_of_allowsPlain h
  simp only [Write.allowsPlain,Bool.and_eq_true,decide_eq_true_eq,Bool.not_eq_true'] at h
  obtain ⟨⟨⟨⟨⟨hkind,-⟩,-⟩,hmarks⟩,-⟩,-⟩ := h
  refine ⟨hkind,?_,plainStart_of_hasMarks hmarks,?_⟩
  · rintro rfl
    exact absurd hkind (by decide)
  · rintro c hc rfl
    rcases hplain.chars '\n' hc with h | h
    · exact absurd h (by decide)
    · exact absurd h (by decide)

namespace Scanner

/-- A written text begins with a token. -/
theorem settled_scalar (split : Bool) (indent column : Nat) (s tail : Chars) : Settled (Write.scalar split indent column s ++ tail) := by
  unfold Write.scalar
  split
  next hstyle =>
    have hallows := styleOf_plain.mp hstyle
    have hplain := isPlain_of_allowsPlain hallows
    obtain ⟨c,r,hc,hcr,hr⟩ := hplain.written_head (allowsPlain_facts hallows).2.1 split indent none column
    obtain ⟨hs,hb,-,-⟩ := isInk_gap hc
    refine .inr ⟨c,r ++ tail,by rw [hr]; rfl,hs,hb,?_,?_⟩
    · rintro rfl
      exact hplain.head_ne hcr
    · rintro rfl
      exact absurd hc (by decide)
  next => exact .inr ⟨'\'',_,rfl,by decide,by decide,by decide,by decide⟩
  next => exact .inr ⟨'"',_,rfl,by decide,by decide,by decide,by decide⟩

/-- A plain text has no gap behind its first character if none is written there. -/
theorem not_atGap_written {split : Bool} {indent column : Nat} {before : Option Char} {c : Char} {s r tail : Chars}
    (h : IsPlain s) (hc : s.head? = some c) (hgap : ∀ t, s = c :: t → Write.atGap t = false)
    (hr : Write.foldLines false split indent before column s = c :: r) : atGap (r ++ tail) = false := by
  obtain ⟨t,rfl⟩ := List.head?_eq_some_iff.mp hc
  have ne_break {d : Char} (hd : d ∈ c :: t) : d ≠ '\n' := by
    rintro rfl
    rcases h.chars _ hd with hd | hd <;> exact absurd hd (by decide)
  have hfree := hgap t rfl
  cases t with
  | nil => cases hfree
  | cons d t =>
    have hd : d ≠ ' ' := by
      rintro rfl
      cases (hfree : true = false)
    have hink := (h.chars d (by simp)).resolve_left hd
    rw [foldLines_other split (by simpa using h.head) (ne_break List.mem_cons_self)
      (fun h : false = true => nomatch h),foldLines_other split hd (ne_break (by simp))
      (fun h : false = true => nomatch h)] at hr
    obtain ⟨-,rfl⟩ := List.cons.inj hr
    exact (isInk_gap hink).2.2.1

/-- A written text is cut off as one token. -/
theorem pushNext_scalar {a : Scanner} {split : Bool} {indent column : Nat} {s tail : Chars}
    (hrest : a.rest = Write.scalar split indent column s ++ tail) (hflow : a.around = []) (hi : 0 < indent)
    (hwidth : indent < Write.lineWidth) (hleast : (a.indent + 1).toNat ≤ indent)
    (hstops : Stops (a.indent + 1).toNat tail) : ∃ c r, a.rest = c :: r ∧ a.pushNext c r =
      if Write.styleOf s = .plain then
        (a.pushKeyable (scalarToken s) (plainGap tail).rest).map fun b => {b with keyAllowed := (plainGap tail).newLine}
      else a.pushKeyable (scalarToken s) tail := by
  -- There is one case for each style in which a text is written.
  unfold Write.scalar at hrest
  unfold scalarToken
  split at hrest
  next hstyle =>
    have hallows := styleOf_plain.mp hstyle
    obtain ⟨-,hne,hstart,hlines⟩ := allowsPlain_facts hallows
    have hplain := isPlain_of_allowsPlain hallows
    have hread := plainFrom_foldLines split hi hleast hstops.piece hstops.gap s none column
      _ [] false hplain hne (Nat.lt_succ_self _)
    obtain ⟨c,r,hc,hcr,hr⟩ := hplain.written_head hne split indent none column
    rw [hr,List.cons_append] at hrest
    refine ⟨c,r ++ tail,hrest,?_⟩
    have hatgap : (c = '?' ∨ c = ':' ∨ c = '-') → atGap (r ++ tail) = false := fun hmark =>
      not_atGap_written hplain hcr (fun t ht => hstart.gap c t ht hmark) hr
    have hmark (m : Char) (hspace : m ≠ ' ') (hbreak : m ≠ '\n') (hcolon : m ≠ ':')
        (hm : startsWith [m,m,m] s = false) : atMark m (c :: (r ++ tail)) = false := by
      have h : atMark m (Write.foldLines false split indent none column s ++ tail) = false :=
        not_atMark_foldLines hspace hbreak (hstops.head_ne hcolon hbreak) hlines hm none column
      rwa [hr,List.cons_append] at h
    rw [if_pos hstyle,pushNext_plain hflow (hstart.mark c hcr) hatgap (isInk_gap hc).2.2.1
      (hmark '-' (by decide) (by decide) (by decide) hstart.dashes)
      (hmark '.' (by decide) (by decide) (by decide) hstart.dots)]
    have hflow' : a.inFlow = false := by simp [inFlow,hflow]
    rw [hr,List.cons_append,← hrest] at hread
    unfold pushPlain readPlain
    rw [hflow',hread]
    simp only [hstyle,decide_true,List.nil_append]
    cases a.pushKeyable (.scalar true s) (plainGap tail).rest <;> rfl
  next hstyle =>
    have hs := isSingle_of_allowsSingle (allowsSingle_of_styleOf hstyle)
    have hread := (readsQuoted_foldLines split hi (hstops.head_ne (by decide) (by decide)) s none (column + 1) hs
      (by simp) (by simp)).1.readQuoted
    refine ⟨'\'',Write.foldLines true split indent none (column + 1) s ++ '\'' :: tail,?_,?_⟩
    · rw [hrest]
      simp
    · rw [if_neg (by simp [hstyle]),pushNext_single,pushQuoted,hrest]
      simp only [List.drop_succ_cons,List.drop_zero,List.append_assoc,List.cons_append,List.nil_append,hread,hstyle]
      rfl
  next hstyle =>
    have hread := (readsQuoted_escapeLines split hi hwidth tail s true false (column + 1)).1.readQuoted
    refine ⟨'"',Write.escapeLines split indent true false (column + 1) s ++ '"' :: tail,?_,?_⟩
    · rw [hrest]
      simp
    · rw [if_neg (by simp [hstyle]),pushNext_double,pushQuoted,hrest]
      simp only [List.drop_succ_cons,List.drop_zero,List.append_assoc,List.cons_append,List.nil_append,hread,hstyle]
      rfl

end Scanner

end TrackerHub.Yaml
