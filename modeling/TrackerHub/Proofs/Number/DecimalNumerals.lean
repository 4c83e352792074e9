import Mathlib.Data.List.Forall2
import TrackerHub.Proofs.Number.NearestNumbers
import TrackerHub.Proofs.Text.LowerCase

/-! # Decimal numerals

Digits of any script with at most one point among them write a ratio, and a floating-point number is read from
them by rounding it.
-/
namespace TrackerHub.Numeral
open TrackerHub.Text

/-- Digits of any script, with their values. -/
abbrev AreDigits (s : Chars) (ds : List Nat) : Prop := List.Forall₂ (fun c d => digitValue? c = some d) s ds

/-- Whether a text writes a ratio as a decimal: with at least one digit and at most one point. -/
inductive WritesDecimal : Chars → ℚ → Prop where
  | whole {s : Chars} {ds : List Nat} (hs : AreDigits s ds) (hne : ds ≠ []) : WritesDecimal s (ofDigits ds)
  | pointed {s t : Chars} {ds es : List Nat} (hs : AreDigits s ds) (ht : AreDigits t es) (hne : ds ++ es ≠ []) :
    WritesDecimal (s ++ '.' :: t) (ofDigits (ds ++ es) / 10 ^ es.length)

/-! ## Digits -/

section
variable {s t : Chars} {ds es : List Nat}

theorem AreDigits.append (hs : AreDigits s ds) (ht : AreDigits t es) : AreDigits (s ++ t) (ds ++ es) :=
  List.rel_append hs ht

theorem AreDigits.isDecimalDigit (h : AreDigits s ds) : ∀ c ∈ s, isDecimalDigit c = true := by
  induction h with
  | nil => simp
  | cons hd _ ih => exact List.forall_mem_cons.mpr ⟨by simp [Text.isDecimalDigit,hd],ih⟩

theorem AreDigits.isDigit (h : AreDigits s ds) : ∀ c ∈ s.map plainChar, c.isDigit = true := by
  induction h with
  | nil => simp
  | cons hd _ ih =>
    rw [List.map_cons,List.forall_mem_cons]
    exact ⟨(isDigit_plainChar hd).1,ih⟩

theorem AreDigits.digitsValue (h : AreDigits s ds) : Numeral.digitsValue (s.map plainChar) = ofDigits ds := by
  rw [Numeral.digitsValue,ofDigits]
  generalize 0 = n
  induction h generalizing n with
  | nil => rfl
  | cons hd _ ih => simpa [isDigit_plainChar hd] using ih _

end

/-! ## Reading -/

section
variable {s body whole places : Chars}

theorem underscoresBetween_of_not_mem {p : Char → Bool} (h : '_' ∉ s) : underscoresBetween p s = true := by
  induction s with
  | nil => rfl
  | cons c s ih =>
    rw [List.mem_cons,not_or] at h
    obtain ⟨hc,hs⟩ := h
    cases s with
    | nil => simp [underscoresBetween,Ne.symm hc]
    | cons d s => exact (underscoresBetween_cons (Ne.symm hc) fun hd => hs (by simp [hd])).trans (ih hs)

theorem trimBy_of_none {p : Char → Bool} (h : ∀ c ∈ s, p c = false) : trimBy p s = s := by
  have hdrop {t : Chars} (ht : ∀ c ∈ t, p c = false) : t.dropWhile p = t :=
    dropWhile_run (List.forall_mem_nil _) fun c hc => ht c (List.mem_of_mem_head? hc)
  rw [trimBy,hdrop h,dropEndWhile,hdrop (by simpa using h),List.reverse_reverse]

/-- The characters of a decimal: digits and the point. -/
def IsDecimalChar (c : Char) : Prop := c.isDigit = true ∨ c = '.'

theorem toLower_of_isDecimalChar {c : Char} (h : IsDecimalChar c) : c.toLower = c := by
  rcases h with h | rfl
  · exact toLower_of_isDigit h
  · rfl

theorem isPlainBlank_of_isDecimalChar {c : Char} (h : IsDecimalChar c) : isPlainBlank c = false := by
  rcases h with h | rfl
  · exact isPlainBlank_of_isDigit h
  · rfl

theorem takeSign_of_isDecimalChar {c : Char} (h : IsDecimalChar c) (r : Chars) :
    takeSign (c :: r) = (false,c :: r) := by
  rcases h with h | rfl
  · exact takeSign_of_isDigit h
  · rfl

theorem map_toLower_of_decimal {c : Char} {r : Chars} (h : ∀ d ∈ c :: r, IsDecimalChar d) :
    (c :: r).map Char.toLower = c :: r ∧ c ≠ 'i' ∧ c ≠ 'n' := by
  refine ⟨?_,?_,?_⟩
  · rw [List.map_congr_left fun d hd => toLower_of_isDecimalChar (h d hd),List.map_id']
  · rintro rfl
    exact absurd (h 'i' List.mem_cons_self) (by unfold IsDecimalChar; decide)
  · rintro rfl
    exact absurd (h 'n' List.mem_cons_self) (by unfold IsDecimalChar; decide)

theorem readUnsigned?_of_decimal (hne : body ≠ []) (hbody : ∀ c ∈ body, IsDecimalChar c)
    (hwhole : body.takeWhile Char.isDigit = whole) (hplaces : ∀ c ∈ places, c.isDigit = true)
    (hrest : body.dropWhile Char.isDigit = [] ∧ places = [] ∨ body.dropWhile Char.isDigit = '.' :: places)
    (hdigits : whole ++ places ≠ []) :
    readUnsigned? false body = some (.ofDecimal false (digitsValue (whole ++ places)) (-places.length)) := by
  obtain ⟨c,r,rfl⟩ := List.exists_cons_of_ne_nil hne
  obtain ⟨hword,hi,hn⟩ := map_toLower_of_decimal hbody
  unfold readUnsigned?
  have hinf (t : Chars) : (c :: r == 'i' :: t) = false := by simp [hi]
  have hnan (t : Chars) : (c :: r == 'n' :: t) = false := by simp [hn]
  simp only [hword,hinf,hnan,hwhole,Bool.or_self,Bool.false_eq_true,↓reduceIte]
  have hsome : (whole.isEmpty && places.isEmpty) = false := by
    rw [← Bool.not_eq_true]
    simpa using hdigits
  rcases hrest with ⟨hrest,rfl⟩ | hrest
  · simp [hrest,takeExponent,show whole ≠ [] by simpa using hdigits]
  · have htake : places.takeWhile Char.isDigit = places := List.takeWhile_eq_self_iff.mpr hplaces
    have hdrop : places.dropWhile Char.isDigit = [] := List.dropWhile_eq_nil_iff.mpr hplaces
    simp [hrest,htake,hdrop,hsome,takeExponent]

theorem readFloat_of_plain (hplain : plain s = body) (hne : body ≠ []) (hbody : ∀ c ∈ body, IsDecimalChar c) :
    readFloat s = match readUnsigned? false body with
      | some x => .ok x
      | none => .error (.notANumber s) := by
  have hline : '_' ∉ body := fun h => absurd (hbody _ h) (by unfold IsDecimalChar; decide)
  have htrim : trimBy isPlainBlank body = body :=
    trimBy_of_none fun c hc => isPlainBlank_of_isDecimalChar (hbody c hc)
  have hsign : takeSign body = (false,body) := by
    obtain ⟨c,r,rfl⟩ := List.exists_cons_of_ne_nil hne
    exact takeSign_of_isDecimalChar (hbody c List.mem_cons_self) r
  cases hread : readUnsigned? false body <;>
    simp only [readFloat,hplain,htrim,List.contains_iff_mem,hline,if_false,hsign,underscoresBetween_of_not_mem hline,
      if_true,hread]

end

/-- What is read from a decimal: its digits as a number, and as many powers of ten less as there are digits
behind its point. -/
theorem exists_readFloat_decimal {s : Chars} {q : ℚ} (h : WritesDecimal s q) :
    ∃ (digits places : ℕ), q = digits * 10 ^ (-(places : ℤ)) ∧
      readFloat s = .ok (.ofDecimal false digits (-(places : ℤ))) := by
  cases h with
  | @whole s ds hs hne =>
    have hdigits := hs.isDigit
    have hbody : s.map plainChar ≠ [] := by
      rintro h
      obtain rfl := List.map_eq_nil_iff.mp h
      exact hne (List.forall₂_nil_left_iff.mp hs)
    refine ⟨ofDigits ds,0,by simp,?_⟩
    rw [readFloat_of_plain (show plain s = s.map plainChar from rfl) hbody fun c hc => .inl (hdigits c hc),
      readUnsigned?_of_decimal hbody (fun c hc => .inl (hdigits c hc))
        (List.takeWhile_eq_self_iff.mpr hdigits) (by simp) (.inl ⟨List.dropWhile_eq_nil_iff.mpr hdigits,rfl⟩)
        (by simpa using hbody)]
    simp [hs.digitsValue]
  | @pointed s t ds es hs ht hne =>
    have hdigits := hs.isDigit
    have hplaces := ht.isDigit
    have hmap : (s ++ '.' :: t).map plainChar = s.map plainChar ++ '.' :: t.map plainChar := by
      rw [List.map_append,List.map_cons]
      rfl
    have hbody : ∀ c ∈ s.map plainChar ++ '.' :: t.map plainChar, IsDecimalChar c := by
      intro c hc
      rcases List.mem_append.mp hc with hc | hc
      · exact .inl (hdigits c hc)
      · exact (List.mem_cons.mp hc).symm.imp (hplaces c) id
    have hpoint : ∀ c ∈ ('.' :: t.map plainChar).head?, c.isDigit = false := by
      rintro c ⟨⟩
      rfl
    have htake : (s.map plainChar ++ '.' :: t.map plainChar).takeWhile Char.isDigit = s.map plainChar :=
      takeWhile_run hdigits hpoint
    have hdrop : (s.map plainChar ++ '.' :: t.map plainChar).dropWhile Char.isDigit = '.' :: t.map plainChar :=
      dropWhile_run hdigits hpoint
    have hsome : s.map plainChar ++ t.map plainChar ≠ [] := by
      rintro h
      rw [List.append_eq_nil_iff,List.map_eq_nil_iff,List.map_eq_nil_iff] at h
      obtain ⟨rfl,rfl⟩ := h
      rw [List.forall₂_nil_left_iff.mp hs,List.forall₂_nil_left_iff.mp ht] at hne
      exact hne rfl
    refine ⟨ofDigits (ds ++ es),es.length,by simp [div_eq_mul_inv],?_⟩
    rw [readFloat_of_plain hmap (by simp) hbody,readUnsigned?_of_decimal (by simp) hbody htake hplaces (.inr hdrop)
      hsome,← List.map_append,(hs.append ht).digitsValue,List.length_map,ht.length_eq]

/-- A decimal is read as the number to which it is rounded. -/
theorem exists_rounds_of_decimal {s : Chars} {q : ℚ} (h : WritesDecimal s q) :
    ∃ x, readFloat s = .ok x ∧ Binary64.Rounds q x := by
  obtain ⟨digits,places,rfl,hread⟩ := exists_readFloat_decimal h
  exact ⟨_,hread,Binary64.rounds_ofDecimal digits _⟩

end TrackerHub.Numeral
