import Mathlib.Data.List.TakeWhile
import TrackerHub.Text.Chars

/-! # Blanks

What is cut off a text at its ends is blank, and what is left has none there.
-/
namespace TrackerHub.Text

/-- What holds of the characters of each range of blanks holds of all blanks. -/
theorem forall_blank {p : Char → Bool}
    (h : ∀ r ∈ blankRanges, ∀ n ∈ List.range' r.1 (r.2 + 1 - r.1), p (Char.ofNat n) = true) {c : Char}
    (hc : isBlank c = true) : p c = true := by
  obtain ⟨r,hr,hin⟩ := List.any_eq_true.mp hc
  simp only [Bool.and_eq_true,decide_eq_true_eq] at hin
  have hcode := h r hr c.toNat (List.mem_range'_1.mpr (by omega))
  rwa [Char.ofNat_toNat] at hcode

/-- A text is a run of blanks and what begins without one. -/
theorem exists_blanks (s : Chars) : ∃ lead r, s = lead ++ r ∧ (∀ c ∈ lead, isBlank c = true) ∧
    ∀ c ∈ r.head?, isBlank c = false := by
  refine ⟨s.takeWhile isBlank,s.dropWhile isBlank,List.takeWhile_append_dropWhile.symm,
    fun c hc => List.mem_takeWhile_imp hc,fun c hc => ?_⟩
  have h := List.head?_dropWhile_not isBlank s
  rwa [Option.mem_def.mp hc] at h

section
variable {p : Char → Bool} {run r : Chars}

theorem takeWhile_run (hrun : ∀ c ∈ run, p c = true) (hr : ∀ c ∈ r.head?, p c = false) :
    (run ++ r).takeWhile p = run := by
  rw [List.takeWhile_append_of_pos hrun]
  cases r with
  | nil => exact List.append_nil run
  | cons c r => rw [List.takeWhile_cons_of_neg (by simp [hr c rfl]),List.append_nil]

theorem dropWhile_run (hrun : ∀ c ∈ run, p c = true) (hr : ∀ c ∈ r.head?, p c = false) :
    (run ++ r).dropWhile p = r := by
  rw [List.dropWhile_append_of_pos hrun]
  cases r with
  | nil => rfl
  | cons c r => rw [List.dropWhile_cons_of_neg (by simp [hr c rfl])]

theorem takeWhile_append_stop {c : Char} (hc : p c = false) (run r : Chars) :
    (run ++ c :: r).takeWhile p = run.takeWhile p := by
  induction run with
  | nil => exact List.takeWhile_cons_of_neg (by simp [hc])
  | cons d run ih => rw [List.cons_append,List.takeWhile_cons,List.takeWhile_cons,ih]

theorem dropWhile_append_stop {c : Char} (hc : p c = false) (run r : Chars) :
    (run ++ c :: r).dropWhile p = run.dropWhile p ++ c :: r := by
  induction run with
  | nil => exact List.dropWhile_cons_of_neg (by simp [hc])
  | cons d run ih =>
    rw [List.cons_append,List.dropWhile_cons,List.dropWhile_cons,ih]
    split <;> rfl

theorem drop_takeWhile_length (p : Char → Bool) (s : Chars) : s.drop (s.takeWhile p).length = s.dropWhile p :=
  (congrArg (List.drop _) List.takeWhile_append_dropWhile.symm).trans List.drop_left

end

/-- Of a text between blanks all is left if it begins and ends without one. -/
theorem trim_between {lead p trail : Chars} (hlead : ∀ c ∈ lead, isBlank c = true)
    (hfirst : ∀ c ∈ p.head?, isBlank c = false) (hlast : ∀ c ∈ p.getLast?, isBlank c = false)
    (htrail : ∀ c ∈ trail, isBlank c = true) : trim (lead ++ p ++ trail) = p := by
  rcases List.eq_nil_or_concat p with rfl | ⟨r,d,rfl⟩
  · have hall : ∀ c ∈ lead ++ trail, isBlank c = true := List.forall_mem_append.mpr ⟨hlead,htrail⟩
    rw [List.append_nil,trim,trimBy,List.dropWhile_eq_nil_iff.mpr hall]
    rfl
  · have hhead : ∀ c ∈ (r.concat d ++ trail).head?, isBlank c = false := by
      cases r with
      | nil => exact hfirst
      | cons => exact hfirst
    have hback : ∀ c ∈ (r.concat d).reverse.head?, isBlank c = false := by
      rw [List.head?_reverse]
      exact hlast
    rw [trim,trimBy,List.append_assoc,dropWhile_run hlead hhead,dropEndWhile,List.reverse_append,
      dropWhile_run (by simpa using htrail) hback,List.reverse_reverse]

theorem trim_blanks {lead p trail : Chars} (hlead : ∀ c ∈ lead, isBlank c = true) (hp : ∀ c ∈ p, isBlank c = false)
    (htrail : ∀ c ∈ trail, isBlank c = true) : trim (lead ++ p ++ trail) = p :=
  trim_between hlead (fun c hc => hp c (List.mem_of_mem_head? hc)) (fun c hc => hp c (List.mem_of_getLast? hc)) htrail

theorem exists_trim (r : Chars) : ∃ lead trail, r = lead ++ trim r ++ trail ∧ (∀ c ∈ lead, isBlank c = true) ∧
    ∀ c ∈ trail, isBlank c = true := by
  obtain ⟨lead,s,rfl,hlead,hs⟩ := exists_blanks r
  obtain ⟨trail,t,hst,htrail,ht⟩ := exists_blanks s.reverse
  refine ⟨lead,trail.reverse,?_,hlead,by simpa using htrail⟩
  rw [trim,trimBy,dropWhile_run hlead hs,dropEndWhile,hst,dropWhile_run htrail ht,List.append_assoc,
    ← List.reverse_append,← hst,List.reverse_reverse]

end TrackerHub.Text
