import Mathlib.Tactic.Push
import TrackerHub.Feed.Markup
import TrackerHub.Proofs.Number.Numeral

/-! # Which documents can be written

A document is written if its integers have no more digits than a numeral may have, and if no name in it begins
a name space that does not end.
-/
namespace TrackerHub.Feed
open Numeral (IsShort)

theorem isTooLong_iff {n : Int} : isTooLong n = true ↔ ¬IsShort n := by
  rw [isTooLong,decide_eq_true_eq,IsShort,Nat.not_lt,Nat.pow_eq]

/-- Whether a name begins with an opening brace and has no closing one. -/
def IsOpen (name : String) : Prop := ∃ r, name.toList = '\x7b' :: r ∧ '\x7d' ∉ r

theorem hasOpenSpace_iff {name : String} : hasOpenSpace name = true ↔ IsOpen name := by
  rw [hasOpenSpace,IsOpen]
  cases name.toList with
  | nil => simp
  | cons c r =>
    by_cases hc : c = '\x7b'
    · subst hc
      simp
    · simp [hc]

section
variable {numbers : List Int} {names : List String} {r : Rendered}

theorem checked_eq_longNumber (h : ¬∀ n ∈ numbers, IsShort n) :
    checked numbers names r = .error .longNumber := by
  have hlong : numbers.any isTooLong = true := by
    rw [List.any_eq_true]
    push Not at h
    obtain ⟨n,hn,hlong⟩ := h
    exact ⟨n,hn,isTooLong_iff.mpr hlong⟩
  rw [checked,if_pos hlong]

theorem not_any_isTooLong (h : ∀ n ∈ numbers, IsShort n) : ¬numbers.any isTooLong = true := by
  rw [List.any_eq_true]
  rintro ⟨n,hn,hlong⟩
  exact isTooLong_iff.mp hlong (h n hn)

theorem checked_eq_openSpace (h : ∀ n ∈ numbers, IsShort n) (hopen : ∃ name ∈ names, IsOpen name) :
    checked numbers names r = .error .openSpace := by
  obtain ⟨name,hmem,hname⟩ := hopen
  rw [checked,if_neg (not_any_isTooLong h),
    if_pos (List.any_eq_true.mpr ⟨name,hmem,hasOpenSpace_iff.mpr hname⟩)]

theorem checked_eq_ok (h : ∀ n ∈ numbers, IsShort n) (hnames : ∀ name ∈ names, ¬IsOpen name) :
    checked numbers names r = .ok r := by
  have hopen : ¬names.any hasOpenSpace = true := by
    rw [List.any_eq_true]
    rintro ⟨name,hmem,hname⟩
    exact hnames name hmem (hasOpenSpace_iff.mp hname)
  rw [checked,if_neg (not_any_isTooLong h),if_neg hopen]

/-- A document is given just when its integers are short and its names end the spaces they begin. -/
theorem checked_eq_ok_iff {doc : Rendered} : checked numbers names r = .ok doc ↔
    (∀ n ∈ numbers, IsShort n) ∧ (∀ name ∈ names, ¬IsOpen name) ∧ r = doc := by
  constructor
  · intro hok
    have hshort : ∀ n ∈ numbers, IsShort n := by
      by_contra hlong
      rw [checked_eq_longNumber hlong] at hok
      cases hok
    have hclosed : ∀ name ∈ names, ¬IsOpen name := by
      by_contra hopen
      push Not at hopen
      rw [checked_eq_openSpace hshort hopen] at hok
      cases hok
    exact ⟨hshort,hclosed,Except.ok.inj ((checked_eq_ok hshort hclosed).symm.trans hok)⟩
  · rintro ⟨hshort,hclosed,rfl⟩
    exact checked_eq_ok hshort hclosed

end

end TrackerHub.Feed
