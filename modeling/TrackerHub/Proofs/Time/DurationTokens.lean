import TrackerHub.Proofs.Text.LowerCase
import TrackerHub.Time.Relative

/-! # Tokens of durations

No token holds a blank, so that a text is cut at each of its blanks, and the tokens are the same after its runs
of blanks have become single spaces. A run of digits and a run of letters are a token each.
-/
namespace TrackerHub.Time
open TrackerHub.Text

/-! ## Cutting at blanks -/

section
variable {c : Char} {w r : Chars}

theorem numeralAt_eq (s : Chars) : numeralAt s = match s.dropWhile isDecimalDigit with
    | '.' :: r => if (r.takeWhile isDecimalDigit).isEmpty then s.takeWhile isDecimalDigit
      else s.takeWhile isDecimalDigit ++ '.' :: r.takeWhile isDecimalDigit
    | _ => s.takeWhile isDecimalDigit := by
  rw [← drop_takeWhile_length]
  rfl

theorem exists_numeralAt (s : Chars) : ∃ r, s = numeralAt s ++ r := by
  have hsplit := List.takeWhile_append_dropWhile (p := isDecimalDigit) (l := s)
  rw [numeralAt_eq]
  split
  next r hr =>
    split
    · exact ⟨_,hsplit.symm⟩
    · refine ⟨r.dropWhile isDecimalDigit,?_⟩
      rw [List.append_assoc,List.cons_append,List.takeWhile_append_dropWhile,← hr,hsplit]
  · exact ⟨_,hsplit.symm⟩

theorem numeralAt_append_stop (hdigit : isDecimalDigit c = false) (hpoint : c ≠ '.') (w r : Chars) :
    numeralAt (w ++ c :: r) = numeralAt w := by
  rw [numeralAt_eq,numeralAt_eq,takeWhile_append_stop hdigit,dropWhile_append_stop hdigit]
  cases w.dropWhile isDecimalDigit with
  | nil => simp [hpoint]
  | cons d u =>
    rw [List.cons_append]
    split
    next heq =>
      obtain ⟨rfl,rfl⟩ := List.cons.inj heq
      simp [takeWhile_append_stop hdigit]
    next hne =>
      split
      next heq =>
        obtain ⟨rfl,rfl⟩ := List.cons.inj heq
        exact absurd rfl (hne _)
      · rfl

theorem tokensFrom_skip (k : Nat) (s : Chars) : tokensFrom k s = tokensFrom 0 (s.drop k) := by
  induction s generalizing k with
  | nil => cases k <;> rfl
  | cons c s ih =>
    cases k with
    | zero => rfl
    | succ k => exact ih k

theorem numeralAt_ne_nil (hc : isDecimalDigit c = true) : numeralAt (c :: r) ≠ [] := by
  rw [numeralAt_eq,List.takeWhile_cons_of_pos hc]
  split
  · split <;> simp
  · simp

section
variable {t rest : Chars} (hs : c :: r = t ++ rest)
include hs

/-- Behind the first character of a token as much is passed over as the token has left. -/
theorem tokensFrom_token (hne : t ≠ []) : tokensFrom (t.length - 1) r = tokensFrom 0 rest := by
  obtain ⟨d,u,rfl⟩ := List.exists_cons_of_ne_nil hne
  obtain ⟨-,rfl⟩ : c = d ∧ r = u ++ rest := List.cons.inj hs
  rw [tokensFrom_skip,List.length_cons,Nat.add_sub_cancel,List.drop_left]

theorem tokensFrom_number (hc : isDecimalDigit c = true) (ht : numeralAt (c :: r) = t) :
    tokensFrom 0 (c :: r) = .number t :: tokensFrom 0 rest := by
  rw [tokensFrom,if_pos hc,ht]
  exact congrArg _ (tokensFrom_token hs (ht ▸ numeralAt_ne_nil hc))

theorem tokensFrom_word (hd : isDecimalDigit c = false) (hc : isSmallLetter c = true)
    (ht : (c :: r).takeWhile isSmallLetter = t) : tokensFrom 0 (c :: r) = .word t :: tokensFrom 0 rest := by
  have hne : t ≠ [] := by
    rw [← ht,List.takeWhile_cons_of_pos hc]
    exact List.cons_ne_nil _ _
  rw [tokensFrom,if_neg (by simp [hd]),if_pos hc,ht]
  exact congrArg _ (tokensFrom_token hs hne)

end

theorem blank_spec (h : isBlank c = true) : isDecimalDigit c = false ∧ isSmallLetter c = false ∧ c ≠ '.' := by
  have hc := forall_blank (p := fun c => !isDecimalDigit c && !isSmallLetter c && c != '.') (by decide +kernel) h
  simpa [and_assoc] using hc

theorem tokensFrom_blank (h : isBlank c = true) (r : Chars) : tokensFrom 0 (c :: r) = tokensFrom 0 r := by
  obtain ⟨hdigit,hletter,-⟩ := blank_spec h
  rw [tokensFrom,if_neg (by simp [hdigit]),if_neg (by simp [hletter]),if_pos h]

theorem tokensFrom_sign (hd : isDecimalDigit c = false) (hl : isSmallLetter c = false) (hb : isBlank c = false)
    (r : Chars) : tokensFrom 0 (c :: r) = .sign c :: tokensFrom 0 r := by
  rw [tokensFrom,if_neg (by simp [hd]),if_neg (by simp [hl]),if_neg (by simp [hb])]

/-- The first token of a text does not hang on what stands behind a blank. -/
theorem exists_first_token (hc : isBlank c = true) (d : Char) (w r : Chars) : ∃ ts rest,
    rest.length < (d :: w).length ∧ tokensFrom 0 (d :: w) = ts ++ tokensFrom 0 rest ∧
      tokensFrom 0 (d :: (w ++ c :: r)) = ts ++ tokensFrom 0 (rest ++ c :: r) := by
  obtain ⟨hdigit,hletter,hpoint⟩ := blank_spec hc
  have hshort {t rest : Chars} (ht : t ≠ []) (hs : d :: w = t ++ rest) : rest.length < (d :: w).length := by
    rw [hs,List.length_append]
    have := List.length_pos_iff.mpr ht
    omega
  have hwhole {t rest : Chars} (hs : d :: w = t ++ rest) : d :: (w ++ c :: r) = t ++ (rest ++ c :: r) := by
    rw [← List.append_assoc,← hs,List.cons_append]
  cases hd : isDecimalDigit d with
  | true =>
    obtain ⟨rest,hs⟩ := exists_numeralAt (d :: w)
    exact ⟨[_],rest,hshort (numeralAt_ne_nil hd) hs,tokensFrom_number hs hd rfl,
      tokensFrom_number (hwhole hs) hd (numeralAt_append_stop hdigit hpoint (d :: w) r)⟩
  | false =>
    cases hl : isSmallLetter d with
    | true =>
      have hs := (List.takeWhile_append_dropWhile (p := isSmallLetter) (l := d :: w)).symm
      have hne : (d :: w).takeWhile isSmallLetter ≠ [] := by simp [List.takeWhile_cons_of_pos hl]
      exact ⟨[_],_,hshort hne hs,tokensFrom_word hs hd hl rfl,
        tokensFrom_word (hwhole hs) hd hl (takeWhile_append_stop hletter (d :: w) r)⟩
    | false =>
      cases hb : isBlank d with
      | true => exact ⟨[],w,by simp,tokensFrom_blank hb w,tokensFrom_blank hb _⟩
      | false => exact ⟨[_],w,by simp,tokensFrom_sign hd hl hb w,tokensFrom_sign hd hl hb _⟩

/-- A text is cut into tokens at each of its blanks. -/
theorem tokensFrom_append_blank (hc : isBlank c = true) (w r : Chars) :
    tokensFrom 0 (w ++ c :: r) = tokensFrom 0 w ++ tokensFrom 0 r := by
  induction hn : w.length using Nat.strong_induction_on generalizing w with
  | _ n ih =>
    cases w with
    | nil => exact tokensFrom_blank hc r
    | cons d w =>
      obtain ⟨ts,rest,hshort,hfirst,hwhole⟩ := exists_first_token hc d w r
      rw [List.cons_append,hwhole,ih _ (hn ▸ hshort) rest rfl,hfirst,List.append_assoc]

end

/-! ## Runs -/

section
variable {s r : Chars}

theorem tokensFrom_digits (hs : ∀ c ∈ s, isDecimalDigit c = true) (hne : s ≠ [])
    (hr : ∀ c ∈ r.head?, isDecimalDigit c = false ∧ c ≠ '.') : tokensFrom 0 (s ++ r) = .number s :: tokensFrom 0 r := by
  have hstop : ∀ c ∈ r.head?, isDecimalDigit c = false := fun c hc => (hr c hc).1
  have hnumeral : numeralAt (s ++ r) = s := by
    rw [numeralAt_eq,takeWhile_run hs hstop,dropWhile_run hs hstop]
    split
    · exact absurd rfl (hr '.' rfl).2
    · rfl
  obtain ⟨c,s,rfl⟩ := List.exists_cons_of_ne_nil hne
  exact tokensFrom_number rfl (hs c List.mem_cons_self) hnumeral

theorem tokensFrom_letters (hs : ∀ c ∈ s, isSmallLetter c = true) (hne : s ≠ [])
    (hr : ∀ c ∈ r.head?, isSmallLetter c = false) : tokensFrom 0 (s ++ r) = .word s :: tokensFrom 0 r := by
  have htake := takeWhile_run hs hr
  obtain ⟨c,s,rfl⟩ := List.exists_cons_of_ne_nil hne
  have hc := hs c List.mem_cons_self
  exact tokensFrom_word rfl (small_letter_spec (by simpa [isSmallLetter] using hc)).2.2.1 hc htake

theorem tokensFrom_blanks (hs : ∀ c ∈ s, isBlank c = true) : tokensFrom 0 (s ++ r) = tokensFrom 0 r := by
  induction s with
  | nil => rfl
  | cons c s ih =>
    obtain ⟨hc,hs⟩ := List.forall_mem_cons.mp hs
    rw [List.cons_append,tokensFrom_blank hc,ih hs]

end

/-! ## Single spaces -/

section
variable {β : Type*} {f : Chars → List β} (hnil : f [] = [])
  (hcut : ∀ w c r, isBlank c = true → f (w ++ c :: r) = f w ++ f r)
include hnil hcut

theorem flatMap_words (s : Chars) : (words s).flatMap f = f s := by
  have hgo (s acc : Chars) : (words.go s acc).flatMap f = f (acc.reverse ++ s) := by
    induction s generalizing acc with
    | nil => cases acc with
      | nil => exact hnil.symm
      | cons d acc => simp [words.go]
    | cons c s ih =>
      rw [words.go]
      split
      next hc =>
        rw [hcut _ c s hc]
        cases acc with
        | nil => simp [ih,hnil]
        | cons d acc => simp [ih]
      · rw [ih,List.reverse_cons,List.append_assoc,List.singleton_append]
  exact hgo s []

theorem flatMap_join (ws : List Chars) : f (join [' '] ws) = ws.flatMap f := by
  induction ws with
  | nil => exact hnil
  | cons w ws ih =>
    cases ws with
    | nil => simp [join]
    | cons v ws =>
      rw [join,List.append_assoc,List.singleton_append,hcut _ _ _ (by decide),ih]
      exact List.flatMap_cons.symm

/-- What is cut at each blank of a text is the same after the runs of blanks have become single spaces. -/
theorem apply_join_words (s : Chars) : f (join [' '] (words s)) = f s :=
  (flatMap_join hnil hcut _).trans (flatMap_words hnil hcut s)

end

theorem mem_of_mem_join_words {s : Chars} {c : Char} (h : c ∈ join [' '] (words s)) (hc : isBlank c = false) :
    c ∈ s := by
  have hsame := apply_join_words (f := List.filter fun c => !isBlank c) rfl
    (fun w c r hblank => by simp [List.filter_append,hblank]) s
  have hmem : c ∈ (join [' '] (words s)).filter fun c => !isBlank c := List.mem_filter.mpr ⟨h,by simp [hc]⟩
  exact (List.mem_filter.mp (hsame ▸ hmem)).1

/-- The tokens of a text that is put into lower case one character at a time. -/
theorem tokens_eq {s : Chars} (h : ∀ c ∈ s, HasLowerChar c) : tokens s = tokensFrom 0 (s.map lowerChar) := by
  have hlower : ∀ c ∈ join [' '] (words s), HasLowerChar c := fun c hc => by
    cases hblank : isBlank c with
    | true => exact (isCaseless_of_isBlank hblank).hasLowerChar
    | false => exact h c (mem_of_mem_join_words hc hblank)
  rw [tokens,lower_eq_map hlower]
  refine apply_join_words (f := fun w => tokensFrom 0 (w.map lowerChar)) rfl (fun w c r hblank => ?_) s
  rw [List.map_append,List.map_cons,(isCaseless_of_isBlank hblank).lowerChar_eq,tokensFrom_append_blank hblank]

end TrackerHub.Time
