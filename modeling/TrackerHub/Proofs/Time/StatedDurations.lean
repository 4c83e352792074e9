import TrackerHub.Proofs.Number.DecimalNumerals
import TrackerHub.Proofs.Time.DurationTokens
import TrackerHub.Proofs.Time.Moments

/-! # Stated durations

A duration is stated by its parts, each a whole number and a unit, in any order and with blanks, commas or the
word for a sum between them. Its seconds are added up without loss as long as they may lead to a time of the
calendar, so that the time counted back is the one as many seconds before, and the order of the parts does not
matter.
-/
namespace TrackerHub.Time
open TrackerHub.Text TrackerHub.Numeral Binary64

/-! ## The form of a duration -/

/-- Whether a text is a unit of so many seconds in any case, in the singular or the plural. -/
inductive WritesUnit (unit : Chars) (seconds : ℕ) : Prop where
  | intro {name : String} {plural : Chars} (hname : (name,seconds) ∈ timeUnits) (hplural : plural = [] ∨ plural = ['s'])
    (hunit : unit.map lowerChar = name.toList ++ plural) : WritesUnit unit seconds

/-- Whether a text is a number of units: digits and the unit, with blanks between them or without. -/
inductive WritesPart : Chars → ℕ × ℕ → Prop where
  | intro {digits gap unit : Chars} {ds : List ℕ} {seconds : ℕ} (hdigits : AreDigits digits ds) (hne : ds ≠ [])
    (hgap : ∀ c ∈ gap, isBlank c = true) (hunit : WritesUnit unit seconds) :
    WritesPart (digits ++ (gap ++ unit)) (ofDigits ds,seconds)

/-- What may stand between two parts: blanks, commas, and the word for a sum with blanks around it. -/
inductive Between : Chars → Prop where
  | nil : Between []
  | blank {c : Char} {r : Chars} (hc : isBlank c = true) (hr : Between r) : Between (c :: r)
  | comma {r : Chars} (hr : Between r) : Between (',' :: r)
  | word {c d : Char} {w r : Chars} (hc : isBlank c = true) (hw : w.map lowerChar = ['a','n','d'])
    (hd : isBlank d = true) (hr : Between (d :: r)) : Between (c :: (w ++ d :: r))

/-- Whether a text consists of parts, one behind the other. -/
inductive WritesParts : Chars → List (ℕ × ℕ) → Prop where
  | last {s : Chars} {p : ℕ × ℕ} (hs : WritesPart s p) : WritesParts s [p]
  | cons {s between r : Chars} {p : ℕ × ℕ} {ps : List (ℕ × ℕ)} (hs : WritesPart s p) (hbetween : Between between)
    (hr : WritesParts r ps) : WritesParts (s ++ (between ++ r)) (p :: ps)

/-- What may stand behind the parts: blanks, and a word that says that the duration lies in the past. -/
inductive Ending : Chars → Prop where
  | blanks {s : Chars} (hs : ∀ c ∈ s, isBlank c = true) : Ending s
  | ago {gap w s : Chars} (hgap : ∀ c ∈ gap, isBlank c = true) (hne : gap ≠ [])
    (hw : w.map lowerChar = ['a','g','o']) (hs : ∀ c ∈ s, isBlank c = true) : Ending (gap ++ (w ++ s))

/-- Whether a text states a duration of these parts. -/
inductive WritesDuration : Chars → List (ℕ × ℕ) → Prop where
  | intro {lead body ending : Chars} {ps : List (ℕ × ℕ)} (hlead : ∀ c ∈ lead, isBlank c = true)
    (hbody : WritesParts body ps) (hending : Ending ending) : WritesDuration (lead ++ (body ++ ending)) ps

/-- The seconds of all parts. -/
def totalSeconds (ps : List (ℕ × ℕ)) : ℕ := (ps.map fun p => p.1 * p.2).sum

/-! ## Counted seconds -/

/-- A ratio stands for a count: it is the count, or neither is less than the first count too great to be exact. -/
def StandsFor (q : ℚ) (n : ℕ) : Prop := q = n ∨ 2 ^ 53 ≤ q ∧ (2 : ℚ) ^ 53 ≤ n

/-- A floating-point number stands for a count, infinity for the great ones only. -/
def Counts (n : ℕ) (x : Binary64) : Prop :=
  (∃ m e, x = finite false m e ∧ StandsFor x.toRat n) ∨ x = infinite false ∧ (2 : ℚ) ^ 53 ≤ n

section
variable {m n k : ℕ} {q r : ℚ} {x y : Binary64}

theorem StandsFor.nonneg (h : StandsFor q n) : 0 ≤ q := by
  rcases h with rfl | ⟨hq,-⟩
  · exact Nat.cast_nonneg n
  · exact le_trans (by positivity) hq

theorem StandsFor.mul (h : StandsFor q n) (hk : 0 < k) : StandsFor (q * k) (n * k : ℕ) := by
  have hone : (1 : ℚ) ≤ k := by exact_mod_cast hk
  rw [StandsFor,Nat.cast_mul]
  rcases h with rfl | ⟨hq,hn⟩
  · exact .inl rfl
  · exact .inr ⟨hq.trans (le_mul_of_one_le_right (le_trans (by positivity) hq) hone),
      hn.trans (le_mul_of_one_le_right (Nat.cast_nonneg n) hone)⟩

theorem StandsFor.add (hq : StandsFor q m) (hr : StandsFor r n) : StandsFor (q + r) (m + n : ℕ) := by
  have hm : (0 : ℚ) ≤ m := Nat.cast_nonneg m
  have hn : (0 : ℚ) ≤ n := Nat.cast_nonneg n
  rw [StandsFor,Nat.cast_add]
  rcases hq with rfl | ⟨hq,hm'⟩
  · rcases hr with rfl | ⟨hr,hn'⟩
    · exact .inl rfl
    · exact .inr ⟨by linarith,by linarith⟩
  · exact .inr ⟨by linarith [hr.nonneg],by linarith⟩

/-- What a count is rounded to stands for it. -/
theorem Counts.of_rounds (hx : Rounds q x) (h : StandsFor q n) : Counts n x := by
  have htop : IsNumber (2 ^ 53) := by exact_mod_cast isNumber_natCast (le_refl (2 ^ 53))
  rcases hx with ⟨-,hnear⟩ | ⟨hover,rfl⟩
  · obtain ⟨i,e,hx,-⟩ := id hnear
    refine .inl ⟨i,e,hx,?_⟩
    -- Rounding never crosses a number, and 2 ^ 53 is one.
    have hgreat (hq : 2 ^ 53 ≤ q) : 2 ^ 53 ≤ x.toRat := by
      exact_mod_cast hnear.natCast_le (le_refl (2 ^ 53)) (by exact_mod_cast hq)
    rcases h with rfl | ⟨hq,hn⟩
    · rcases le_total n (2 ^ 53) with hle | hle
      · exact .inl (hnear.toRat_eq (isNumber_natCast hle))
      · have hn : (2 : ℚ) ^ 53 ≤ n := by exact_mod_cast hle
        exact .inr ⟨hgreat hn,hn⟩
    · exact .inr ⟨hgreat hq,hn⟩
  · refine .inr ⟨rfl,?_⟩
    rcases h with rfl | ⟨-,hn⟩
    · exact (htop.lt_overflow.trans_le hover).le
    · exact hn

theorem Counts.mul_ofInt (h : Counts n x) (hpos : 0 < k) (hk : k ≤ 2 ^ 53) : Counts (n * k) (x.mul (.ofInt k)) := by
  rcases h with ⟨i,e,rfl,h⟩ | ⟨rfl,hn⟩
  · exact .of_rounds (rounds_mul_ofInt hk i e) (h.mul hpos)
  · rw [infinite_mul_ofInt hk hpos]
    refine .inr ⟨rfl,hn.trans ?_⟩
    exact_mod_cast Nat.le_mul_of_pos_right n hpos

theorem Counts.add (hx : Counts m x) (hy : Counts n y) : Counts (m + n) (x.add y) := by
  have hgreat (h : (2 : ℚ) ^ 53 ≤ m ∨ (2 : ℚ) ^ 53 ≤ n) : (2 : ℚ) ^ 53 ≤ (m + n : ℕ) := by
    rw [Nat.cast_add]
    rcases h with h | h
    · exact h.trans (le_add_of_nonneg_right (Nat.cast_nonneg n))
    · exact h.trans (le_add_of_nonneg_left (Nat.cast_nonneg m))
  rcases hx with ⟨i,e,rfl,hx⟩ | ⟨rfl,hm⟩
  · rcases hy with ⟨j,f,rfl,hy⟩ | ⟨rfl,hn⟩
    · exact .of_rounds (rounds_add i j e f) (hx.add hy)
    · exact .inr ⟨rfl,hgreat (.inr hn)⟩
  · refine .inr ⟨?_,hgreat (.inl hm)⟩
    rcases hy with ⟨j,f,rfl,-⟩ | ⟨rfl,-⟩ <;> rfl

/-! ## Microseconds -/

theorem divNearestEven_mul (n : ℕ) {den : ℕ} (hden : 0 < den) : divNearestEven (n * den) den = n := by
  simp [divNearestEven,Nat.mul_div_cancel n hden,hden]

theorem le_divNearestEven_add (n num : ℕ) {den : ℕ} (hden : 0 < den) : n ≤ divNearestEven (n * den + num) den := by
  have hle : n ≤ (n * den + num) / den := (Nat.le_div_iff_mul_le hden).mpr (Nat.le_add_right _ _)
  unfold divNearestEven
  dsimp only
  split_ifs <;> omega

/-- The whole seconds become a million times as many microseconds, to which those of the fraction are added. -/
theorem exists_microsOf (i : ℕ) (e : ℤ) : ∃ num den, 0 < den ∧ ((ratio i e).1 % (ratio i e).2 = 0 → num = 0) ∧
    microsOf (finite false i e) =
      .ok (divNearestEven ((ratio i e).1 / (ratio i e).2 * microsPerSecond * den + num) den : ℕ) := by
  generalize hproduct : (ofRatio false ((ratio i e).1 % (ratio i e).2) (ratio i e).2).mul (.ofInt microsPerSecond) = y
  cases y with
  | nan => exact ⟨0,1,Nat.one_pos,fun _ => rfl,by simp only [microsOf,hproduct]; rfl⟩
  | infinite _ => exact ⟨0,1,Nat.one_pos,fun _ => rfl,by simp only [microsOf,hproduct]; rfl⟩
  | finite _ j f =>
    refine ⟨_,_,ratio_pos j f,fun hzero => ?_,by simp only [microsOf,hproduct]; rfl⟩
    have hnone : (zero false).mul (.ofInt microsPerSecond) = zero false := by decide +kernel
    rw [hzero,ofRatio,if_pos rfl,hnone] at hproduct
    cases hproduct
    decide

theorem microsOf_exact {i : ℕ} {e : ℤ} (h : (finite false i e).toRat = n) :
    microsOf (finite false i e) = .ok (n * microsPerSecond : ℕ) := by
  have hpos := ratio_pos i e
  rw [← ratio_div,div_eq_iff (Nat.cast_pos.mpr hpos).ne'] at h
  have hwhole : (ratio i e).1 = n * (ratio i e).2 := by exact_mod_cast h
  obtain ⟨num,den,hden,hnum,hmicros⟩ := exists_microsOf i e
  rw [hwhole,Nat.mul_mod_left] at hnum
  rw [hmicros,hwhole,Nat.mul_div_cancel n hpos,hnum rfl,Nat.add_zero,divNearestEven_mul _ hden]

theorem microsOf_great {i : ℕ} {e : ℤ} (h : 2 ^ 53 ≤ (finite false i e).toRat) :
    ∃ micros : ℕ, microsOf (finite false i e) = .ok micros ∧ 2 ^ 53 * microsPerSecond ≤ micros := by
  have hpos := ratio_pos i e
  rw [← ratio_div,le_div_iff₀ (Nat.cast_pos.mpr hpos)] at h
  have hwhole : 2 ^ 53 ≤ (ratio i e).1 / (ratio i e).2 := (Nat.le_div_iff_mul_le hpos).mpr (by exact_mod_cast h)
  obtain ⟨num,den,hden,-,hmicros⟩ := exists_microsOf i e
  exact ⟨_,hmicros,(Nat.mul_le_mul_right _ hwhole).trans (le_divNearestEven_add _ num hden)⟩

/-! ## Counting back -/

/-- The time of the calendar that lies so many seconds before another one, in the same zone. -/
def IsBefore (t : DateTime) (seconds : ℕ) (now : DateTime) : Prop :=
  t.isValid = true ∧ t.offset = now.offset ∧ t.localMicros + seconds * microsPerSecond = now.localMicros

theorem addMicros?_eq_some_iff_isBefore {now t : DateTime} :
    now.addMicros? (-(n * microsPerSecond : ℕ)) = some t ↔ IsBefore t n now := by
  rw [addMicros?_eq_some_iff,IsBefore]
  exact and_congr_right fun _ => and_congr_right fun _ => by omega

theorem localMicros_lt {now : DateTime} (hnow : now.isValid = true) : now.localMicros < maxOrdinal * microsPerDay := by
  obtain ⟨rest,hrest,hlocal⟩ := localMicros_eq hnow
  have hrange := ordinal_range (isValid_date hnow)
  simp only [microsPerDay,microsPerSecond] at *
  omega

section
variable {source : Chars} {now t : DateTime} (hx : Counts n x) (hsource : statedSeconds source = .ok x)
include hx hsource

/-- A duration that stands for a count leads to the time that lies so many seconds before, if there is one. -/
theorem timeAgo_of_counts (hnow : now.isValid = true) : timeAgo source now = .ok t ↔ IsBefore t n now := by
  have hlocal := localMicros_lt hnow
  have hmax : maxOrdinal = 3652059 := by decide
  -- A count that is no longer exact is more than the seconds of the whole calendar.
  have hfar (hn : (2 : ℚ) ^ 53 ≤ n) : ¬IsBefore t n now := by
    have hn' : 2 ^ 53 ≤ n := by exact_mod_cast hn
    rintro ⟨-,-,heq⟩
    simp only [microsPerDay,microsPerSecond] at *
    omega
  rcases hx with ⟨i,e,rfl,hexact | ⟨hgreat,hn⟩⟩ | ⟨rfl,hn⟩
  · have hmicros := microsOf_exact hexact
    rcases checkDuration_cases (n * microsPerSecond : ℕ) with ⟨hdays,hcheck⟩ | ⟨-,hdays,hcheck⟩ | ⟨-,hcheck⟩
    · rw [timeAgo_of_unchecked hsource hmicros hcheck]
      refine iff_of_false (by simp) ?_
      rintro ⟨-,-,heq⟩
      simp only [microsPerDay,microsPerSecond] at *
      omega
    · rw [timeAgo_of_unchecked hsource hmicros hcheck]
      refine iff_of_false (by simp) ?_
      rintro ⟨-,-,heq⟩
      simp only [microsPerDay,microsPerSecond] at *
      omega
    · rw [timeAgo_of_checked hsource hmicros hcheck,← addMicros?_eq_some_iff_isBefore]
      cases now.addMicros? (-(n * microsPerSecond : ℕ)) <;> simp
  · obtain ⟨micros,hmicros,hle⟩ := microsOf_great hgreat
    have hcheck : checkDuration micros = .error .tooManyDays := by
      refine if_pos (.inl ?_)
      simp only [microsPerDay,microsPerSecond] at *
      omega
    rw [timeAgo_of_unchecked hsource hmicros hcheck]
    exact iff_of_false (by simp) (hfar hn)
  · rw [timeAgo_of_unbounded hsource rfl]
    exact iff_of_false (by simp) (hfar hn)

/-- As long as the seconds are counted exactly, all that comes of a duration hangs on them. -/
theorem timeAgo_eq_of_counts {source' : Chars} {y : Binary64} (hn : n < 2 ^ 53) (hy : Counts n y)
    (hsource' : statedSeconds source' = .ok y) : timeAgo source' now = timeAgo source now := by
  have hexact {z : Binary64} (hz : Counts n z) : microsOf z = .ok (n * microsPerSecond : ℕ) := by
    have hlt : (n : ℚ) < 2 ^ 53 := by exact_mod_cast hn
    rcases hz with ⟨i,e,rfl,hexact | ⟨-,hle⟩⟩ | ⟨-,hle⟩
    · exact microsOf_exact hexact
    · exact absurd hlt (not_lt.mpr hle)
    · exact absurd hlt (not_lt.mpr hle)
  rcases checkDuration_cases (n * microsPerSecond : ℕ) with ⟨-,hcheck⟩ | ⟨-,-,hcheck⟩ | ⟨-,hcheck⟩
  · rw [timeAgo_of_unchecked hsource (hexact hx) hcheck,timeAgo_of_unchecked hsource' (hexact hy) hcheck]
  · rw [timeAgo_of_unchecked hsource (hexact hx) hcheck,timeAgo_of_unchecked hsource' (hexact hy) hcheck]
  · rw [timeAgo_of_checked hsource (hexact hx) hcheck,timeAgo_of_checked hsource' (hexact hy) hcheck]

end

end

/-! ## Reading the parts -/

/-- A unit is not continued by this text. -/
def EndsUnit (r : Chars) : Prop := ∀ c ∈ r.head?, isSmallLetter (lowerChar c) = false

section
variable {s w r : Chars} {c : Char}

theorem hasLowerChar_of_small (h : isSmallLetter (lowerChar c) = true) : HasLowerChar c :=
  hasLowerChar_of_lt (small_letter_spec (by simpa [isSmallLetter] using h)).1

theorem isCaseless_of_areDigits {ds : List ℕ} (h : AreDigits s ds) : ∀ c ∈ s, IsCaseless c := fun c hc => by
  obtain ⟨d,hd⟩ := Option.isSome_iff_exists.mp (h.isDecimalDigit c hc)
  exact isCaseless_of_digitValue? hd

theorem endsUnit_of_caseless (hc : IsCaseless c) (hsmall : isSmallLetter c = false) : EndsUnit (c :: r) := by
  rintro _ ⟨⟩
  rw [hc.lowerChar_eq,hsmall]

theorem endsUnit_of_isBlank (hc : isBlank c = true) : EndsUnit (c :: r) :=
  endsUnit_of_caseless (isCaseless_of_isBlank hc) (blank_spec hc).2.1

theorem endsUnit_of_blanks (hs : ∀ c ∈ s, isBlank c = true) (hr : EndsUnit r) : EndsUnit (s ++ r) := by
  cases s with
  | nil => exact hr
  | cons c s => exact endsUnit_of_isBlank (hs c List.mem_cons_self)

theorem isCaseless_comma : IsCaseless ',' := ⟨⟨by decide,by decide⟩,by decide⟩

theorem tokensFrom_lower_blanks (hs : ∀ c ∈ s, isBlank c = true) :
    tokensFrom 0 ((s ++ r).map lowerChar) = tokensFrom 0 (r.map lowerChar) := by
  rw [List.map_append,map_lowerChar_of_caseless fun c hc => isCaseless_of_isBlank (hs c hc),tokensFrom_blanks hs]

/-- A word of letters in any case is one token. -/
theorem tokensFrom_lower_word (hw : ∀ c ∈ w, isSmallLetter (lowerChar c) = true) (hne : w ≠ []) (hr : EndsUnit r) :
    tokensFrom 0 ((w ++ r).map lowerChar) = .word (w.map lowerChar) :: tokensFrom 0 (r.map lowerChar) := by
  rw [List.map_append,tokensFrom_letters (List.forall_mem_map.mpr hw) (by simpa using hne)]
  rw [List.head?_map]
  intro c hc
  obtain ⟨d,hd,rfl⟩ := Option.mem_map.mp hc
  exact hr d hd

end

/-! ### Units -/

section
variable {unit : Chars} {seconds : ℕ}

theorem timeUnits_spec {name : String} {plural : Chars} (hname : (name,seconds) ∈ timeUnits)
    (hplural : plural = [] ∨ plural = ['s']) : unitSeconds (name.toList ++ plural) = .ok seconds ∧
      (∀ c ∈ name.toList ++ plural, isSmallLetter c = true) ∧ name.toList ++ plural ≠ [] ∧
      0 < seconds ∧ seconds ≤ 2 ^ 53 := by
  have htable : ∀ u ∈ timeUnits, ∀ plural ∈ [[],['s']], unitSeconds (u.1.toList ++ plural) = .ok u.2 ∧
      (u.1.toList ++ plural).all isSmallLetter = true ∧ u.1.toList ++ plural ≠ [] ∧ 0 < u.2 ∧ u.2 ≤ 2 ^ 53 := by
    decide +kernel
  obtain ⟨hseconds,hsmall,hrest⟩ := htable _ hname _ (by simpa using hplural)
  exact ⟨hseconds,List.all_eq_true.mp hsmall,hrest⟩

theorem WritesUnit.spec (h : WritesUnit unit seconds) : unitSeconds (unit.map lowerChar) = .ok seconds ∧
    (∀ c ∈ unit, isSmallLetter (lowerChar c) = true) ∧ unit ≠ [] ∧ 0 < seconds ∧ seconds ≤ 2 ^ 53 := by
  obtain ⟨hname,hplural,hunit⟩ := h
  obtain ⟨hseconds,hsmall,hne,hbounds⟩ := timeUnits_spec hname hplural
  rw [← hunit] at hseconds hsmall hne
  exact ⟨hseconds,List.forall_mem_map.mp hsmall,by simpa using hne,hbounds⟩

end

/-! ### Parts and what stands between them -/

section
variable {s g r source : Chars} {p : ℕ × ℕ} {ps : List (ℕ × ℕ)} {found : Bool} {total : Binary64} {n : ℕ}

theorem WritesPart.tokens (h : WritesPart s p) (hr : EndsUnit r) : ∃ digits unit,
    (∃ ds, AreDigits digits ds ∧ ds ≠ [] ∧ p.1 = ofDigits ds) ∧ WritesUnit unit p.2 ∧
      tokensFrom 0 ((s ++ r).map lowerChar) =
        .number digits :: .word (unit.map lowerChar) :: tokensFrom 0 (r.map lowerChar) := by
  obtain @⟨digits,gap,unit,ds,seconds,hdigits,hne,hgap,hunit⟩ := h
  obtain ⟨-,hsmall,hunitne,-⟩ := hunit.spec
  refine ⟨digits,unit,⟨ds,hdigits,hne,rfl⟩,hunit,?_⟩
  have hdigitsne : digits ≠ [] := by
    rintro rfl
    exact hne (List.forall₂_nil_left_iff.mp hdigits)
  -- The digits end at the gap or, without one, at the first letter of the unit.
  have hafter : ∀ c ∈ ((gap ++ (unit ++ r)).map lowerChar).head?, isDecimalDigit c = false ∧ c ≠ '.' := by
    cases gap with
    | nil =>
      obtain ⟨d,u,rfl⟩ := List.exists_cons_of_ne_nil hunitne
      rintro _ ⟨⟩
      exact (small_letter_spec (by simpa [isSmallLetter] using hsmall d List.mem_cons_self)).2.2
    | cons d gap =>
      have hd := hgap d List.mem_cons_self
      rintro _ ⟨⟩
      rw [(isCaseless_of_isBlank hd).lowerChar_eq]
      exact ⟨(blank_spec hd).1,(blank_spec hd).2.2⟩
  rw [List.append_assoc,List.append_assoc,List.map_append,
    map_lowerChar_of_caseless (isCaseless_of_areDigits hdigits),
    tokensFrom_digits hdigits.isDecimalDigit hdigitsne hafter,tokensFrom_lower_blanks hgap,
    tokensFrom_lower_word hsmall hunitne hr]

/-- A part adds its seconds. -/
theorem WritesPart.adds (h : WritesPart s p) (hr : EndsUnit r) (htotal : Counts n total) :
    ∃ x, Counts (n + p.1 * p.2) x ∧ sumTokens source found total (tokensFrom 0 ((s ++ r).map lowerChar)) =
      sumTokens source true x (tokensFrom 0 (r.map lowerChar)) := by
  obtain ⟨digits,unit,⟨ds,hdigits,hne,hcount⟩,hunit,htokens⟩ := h.tokens hr
  obtain ⟨hseconds,-,-,hpos,hle⟩ := hunit.spec
  obtain ⟨x,hread,hx⟩ := exists_rounds_of_decimal (WritesDecimal.whole hdigits hne)
  have hproduct : Counts (p.1 * p.2) (x.mul (.ofInt p.2)) :=
    hcount ▸ (Counts.of_rounds hx (.inl rfl)).mul_ofInt hpos hle
  refine ⟨_,htotal.add hproduct,?_⟩
  rw [htokens,sumTokens,if_neg (by simp [Token.isFiller])]
  simp only [Token.text,hseconds,hread]

theorem sumTokens_filler {t : Token} {ts : List Token} (ht : t.isFiller = true) :
    sumTokens source found total (t :: ts) = sumTokens source found total ts := by
  cases t <;> rw [sumTokens.eq_def] <;> exact if_pos ht

theorem Between.endsUnit (h : Between g) (hr : EndsUnit r) : EndsUnit (g ++ r) := by
  cases h with
  | nil => exact hr
  | blank hc => exact endsUnit_of_isBlank hc
  | comma => exact endsUnit_of_caseless isCaseless_comma (by decide)
  | word hc => exact endsUnit_of_isBlank hc

theorem small_of_map_eq {w v : Chars} (hw : w.map lowerChar = v) (hv : ∀ c ∈ v, isSmallLetter c = true) :
    ∀ c ∈ w, isSmallLetter (lowerChar c) = true := fun _ hc => hv _ (hw ▸ List.mem_map_of_mem hc)

theorem sumTokens_word {w v : Chars} (hw : w.map lowerChar = v) (hv : v = ['a','n','d'] ∨ v = ['a','g','o'])
    (hr : EndsUnit r) : sumTokens source found total (tokensFrom 0 ((w ++ r).map lowerChar)) =
      sumTokens source found total (tokensFrom 0 (r.map lowerChar)) := by
  have hsmall : ∀ c ∈ v, isSmallLetter c = true := by
    rcases hv with rfl | rfl <;> exact List.all_eq_true.mp rfl
  have hne : w ≠ [] := by
    rintro rfl
    rcases hv with rfl | rfl <;> cases hw
  rw [tokensFrom_lower_word (small_of_map_eq hw hsmall) hne hr,hw,sumTokens_filler]
  rcases hv with rfl | rfl <;> rfl

theorem Between.addsNothing (h : Between g) : sumTokens source found total (tokensFrom 0 ((g ++ r).map lowerChar)) =
    sumTokens source found total (tokensFrom 0 (r.map lowerChar)) := by
  induction h with
  | nil => rfl
  | @blank c g hc _ ih =>
    rw [List.cons_append,List.map_cons,(isCaseless_of_isBlank hc).lowerChar_eq,tokensFrom_blank hc,ih]
  | @comma g _ ih =>
    rw [List.cons_append,List.map_cons,isCaseless_comma.lowerChar_eq,
      tokensFrom_sign (by decide) (by decide) (by decide),sumTokens_filler rfl,ih]
  | @word c d w g hc hw hd _ ih =>
    rw [List.cons_append,List.map_cons,(isCaseless_of_isBlank hc).lowerChar_eq,tokensFrom_blank hc,
      List.append_assoc,List.cons_append,sumTokens_word hw (.inl rfl) (endsUnit_of_isBlank hd)]
    exact ih

theorem WritesPart.endsUnit (h : WritesPart s p) : EndsUnit (s ++ r) := by
  obtain @⟨digits,gap,unit,ds,seconds,hdigits,hne,-,-⟩ := h
  cases hdigits with
  | nil => exact absurd rfl hne
  | cons hd _ =>
    refine endsUnit_of_caseless (isCaseless_of_digitValue? hd) ?_
    rw [← Bool.not_eq_true]
    intro hsmall
    have hdigit := (small_letter_spec (by simpa [isSmallLetter] using hsmall)).2.2.1
    exact absurd hdigit (by simp [isDecimalDigit,hd])

theorem WritesParts.endsUnit (h : WritesParts s ps) : EndsUnit (s ++ r) := by
  cases h with
  | last hs => exact hs.endsUnit
  | cons hs _ _ =>
    rw [List.append_assoc]
    exact hs.endsUnit

/-- The parts of a duration add all their seconds. -/
theorem WritesParts.adds (h : WritesParts s ps) (hr : EndsUnit r) (htotal : Counts n total) :
    ∃ x, Counts (n + totalSeconds ps) x ∧ sumTokens source found total (tokensFrom 0 ((s ++ r).map lowerChar)) =
      sumTokens source true x (tokensFrom 0 (r.map lowerChar)) := by
  induction h generalizing found n total with
  | last hs =>
    obtain ⟨x,hx,hsum⟩ := hs.adds hr htotal
    exact ⟨x,by simpa [totalSeconds] using hx,hsum⟩
  | @cons s g rest p ps hs hg hrest ih =>
    obtain ⟨x,hx,hsum⟩ := hs.adds (hg.endsUnit (hrest.endsUnit (r := r))) htotal
    obtain ⟨y,hy,hsum'⟩ := ih hx
    refine ⟨y,?_,?_⟩
    · rwa [Nat.add_assoc] at hy
    · rw [List.append_assoc,List.append_assoc,hsum,hg.addsNothing,hsum']

theorem endsUnit_nil : EndsUnit [] := by
  rintro _ ⟨⟩

theorem Ending.endsUnit (h : Ending s) : EndsUnit s := by
  cases h with
  | blanks hs => exact List.append_nil s ▸ endsUnit_of_blanks hs endsUnit_nil
  | @ago gap w s hgap hne =>
    obtain ⟨c,gap,rfl⟩ := List.exists_cons_of_ne_nil hne
    exact endsUnit_of_isBlank (hgap c List.mem_cons_self)

theorem Ending.addsNothing (h : Ending s) :
    sumTokens source true total (tokensFrom 0 (s.map lowerChar)) = .ok total := by
  have hblanks {s : Chars} (hs : ∀ c ∈ s, isBlank c = true) :
      sumTokens source true total (tokensFrom 0 (s.map lowerChar)) = .ok total := by
    rw [← List.append_nil s,tokensFrom_lower_blanks hs]
    rfl
  cases h with
  | blanks hs => exact hblanks hs
  | @ago gap w s hgap hne hw hs =>
    have hend : EndsUnit s := List.append_nil s ▸ endsUnit_of_blanks hs endsUnit_nil
    rw [tokensFrom_lower_blanks hgap,sumTokens_word hw (.inr rfl) hend,hblanks hs]

/-! ### Lower case -/

theorem hasLowerChar_of_map_eq {w v : Chars} (hw : w.map lowerChar = v) (hv : ∀ c ∈ v, isSmallLetter c = true) :
    ∀ c ∈ w, HasLowerChar c := fun c hc => hasLowerChar_of_small (small_of_map_eq hw hv c hc)

theorem WritesPart.hasLowerChar (h : WritesPart s p) : ∀ c ∈ s, HasLowerChar c := by
  obtain ⟨hdigits,-,hgap,hunit⟩ := h
  obtain ⟨-,hsmall,-⟩ := hunit.spec
  exact List.forall_mem_append.mpr ⟨fun c hc => (isCaseless_of_areDigits hdigits c hc).hasLowerChar,
    List.forall_mem_append.mpr ⟨fun c hc => (isCaseless_of_isBlank (hgap c hc)).hasLowerChar,
      fun c hc => hasLowerChar_of_small (hsmall c hc)⟩⟩

theorem Between.hasLowerChar (h : Between g) : ∀ c ∈ g, HasLowerChar c := by
  induction h with
  | nil => exact List.forall_mem_nil _
  | blank hc _ ih => exact List.forall_mem_cons.mpr ⟨(isCaseless_of_isBlank hc).hasLowerChar,ih⟩
  | comma _ ih => exact List.forall_mem_cons.mpr ⟨isCaseless_comma.hasLowerChar,ih⟩
  | word hc hw _ _ ih =>
    exact List.forall_mem_cons.mpr ⟨(isCaseless_of_isBlank hc).hasLowerChar,
      List.forall_mem_append.mpr ⟨hasLowerChar_of_map_eq hw (List.all_eq_true.mp rfl),ih⟩⟩

theorem WritesParts.hasLowerChar (h : WritesParts s ps) : ∀ c ∈ s, HasLowerChar c := by
  induction h with
  | last hs => exact hs.hasLowerChar
  | cons hs hg _ ih =>
    exact List.forall_mem_append.mpr ⟨hs.hasLowerChar,List.forall_mem_append.mpr ⟨hg.hasLowerChar,ih⟩⟩

theorem Ending.hasLowerChar (h : Ending s) : ∀ c ∈ s, HasLowerChar c := by
  cases h with
  | blanks hs => exact fun c hc => (isCaseless_of_isBlank (hs c hc)).hasLowerChar
  | ago hgap _ hw hs =>
    exact List.forall_mem_append.mpr ⟨fun c hc => (isCaseless_of_isBlank (hgap c hc)).hasLowerChar,
      List.forall_mem_append.mpr ⟨hasLowerChar_of_map_eq hw (List.all_eq_true.mp rfl),
        fun c hc => (isCaseless_of_isBlank (hs c hc)).hasLowerChar⟩⟩

/-- The seconds of a duration are those of its parts. -/
theorem WritesDuration.statedSeconds (h : WritesDuration source ps) :
    ∃ x, Counts (totalSeconds ps) x ∧ statedSeconds source = .ok x := by
  obtain @⟨lead,body,ending,ps,hlead,hbody,hending⟩ := h
  have hlower : ∀ c ∈ lead ++ (body ++ ending), HasLowerChar c :=
    List.forall_mem_append.mpr ⟨fun c hc => (isCaseless_of_isBlank (hlead c hc)).hasLowerChar,
      List.forall_mem_append.mpr ⟨hbody.hasLowerChar,hending.hasLowerChar⟩⟩
  have hzero : Counts 0 (zero false) := .inl ⟨0,minExponent,rfl,.inl (by simp [zero])⟩
  obtain ⟨x,hx,hsum⟩ := hbody.adds hending.endsUnit hzero
  rw [Nat.zero_add] at hx
  refine ⟨x,hx,?_⟩
  rw [Time.statedSeconds,tokens_eq hlower,tokensFrom_lower_blanks hlead,hsum,hending.addsNothing]

end

/-- A stated duration leads to the time that lies as many seconds before as its parts have together, just when
the calendar has it. So the order of the parts does not matter, and not even to how a duration fails as long as
its seconds are counted exactly. -/
theorem timeAgo_of_parts {source : Chars} {ps : List (ℕ × ℕ)} {now : DateTime} (h : WritesDuration source ps)
    (hnow : now.isValid = true) :
    (∀ t, timeAgo source now = .ok t ↔ IsBefore t (totalSeconds ps) now) ∧
    ∀ source' ps', WritesDuration source' ps' → ps'.Perm ps →
      (∀ t, timeAgo source' now = .ok t ↔ timeAgo source now = .ok t) ∧
      (totalSeconds ps < 2 ^ 53 → timeAgo source' now = timeAgo source now) := by
  obtain ⟨x,hx,hsource⟩ := h.statedSeconds
  refine ⟨fun t => timeAgo_of_counts hx hsource hnow,fun source' ps' h' hperm => ?_⟩
  obtain ⟨y,hy,hsource'⟩ := h'.statedSeconds
  have htotal : totalSeconds ps' = totalSeconds ps := (hperm.map fun p : ℕ × ℕ => p.1 * p.2).sum_eq
  rw [htotal] at hy
  exact ⟨fun t => (timeAgo_of_counts hy hsource' hnow).trans (timeAgo_of_counts hx hsource hnow).symm,
    fun hn => timeAgo_eq_of_counts hx hsource hn hy hsource'⟩

theorem timeAgo_of_three_parts :
    WritesDuration " 2 Weeks, 1DAY and 57 mins ago ".toList [(2,604800),(1,86400),(57,60)] ∧
    (⟨⟨2024,3,1⟩,12,0,0,0,some 0⟩ : DateTime).isValid = true ∧
    timeAgo " 2 Weeks, 1DAY and 57 mins ago ".toList ⟨⟨2024,3,1⟩,12,0,0,0,some 0⟩ =
      .ok ⟨⟨2024,2,15⟩,11,3,0,0,some 0⟩ := by
  have hweeks : WritesPart "2 Weeks".toList (2,604800) :=
    @WritesPart.intro ['2'] [' '] "Weeks".toList [2] 604800 (by decide) (by decide) (List.all_eq_true.mp rfl)
      ⟨(by decide : ("week",604800) ∈ timeUnits),.inr rfl,by decide⟩
  have hday : WritesPart "1DAY".toList (1,86400) :=
    @WritesPart.intro ['1'] [] "DAY".toList [1] 86400 (by decide) (by decide) (List.all_eq_true.mp rfl)
      ⟨(by decide : ("day",86400) ∈ timeUnits),.inl rfl,by decide⟩
  have hminutes : WritesPart "57 mins".toList (57,60) :=
    @WritesPart.intro ['5','7'] [' '] "mins".toList [5,7] 60 (by decide) (by decide) (List.all_eq_true.mp rfl)
      ⟨(by decide : ("min",60) ∈ timeUnits),.inr rfl,by decide⟩
  have hand : Between " and ".toList :=
    @Between.word ' ' ' ' "and".toList [] (by decide) (by decide) (by decide) (.blank (by decide) .nil)
  have hago : Ending " ago ".toList :=
    @Ending.ago [' '] "ago".toList [' '] (List.all_eq_true.mp rfl) (by decide) (by decide) (List.all_eq_true.mp rfl)
  have hduration : WritesDuration " 2 Weeks, 1DAY and 57 mins ago ".toList [(2,604800),(1,86400),(57,60)] :=
    @WritesDuration.intro [' '] _ _ _ (List.all_eq_true.mp rfl)
      (.cons hweeks (.comma (.blank (by decide) .nil)) (.cons hday hand (.last hminutes))) hago
  have hnow : (⟨⟨2024,3,1⟩,12,0,0,0,some 0⟩ : DateTime).isValid = true := by decide
  exact ⟨hduration,hnow,((timeAgo_of_parts hduration hnow).1 _).mpr ⟨by decide,rfl,by decide +kernel⟩⟩

end TrackerHub.Time
