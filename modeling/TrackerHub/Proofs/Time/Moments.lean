import TrackerHub.Proofs.Time.Faults

/-! # Moments

A time of the calendar is told by its microseconds since the beginning of the calendar and its zone. So the
time that lies some microseconds later is the one of the same zone with so many microseconds more.
-/
namespace TrackerHub.Time

/-! ## Day numbers -/

theorem daysBeforeMonth_le_day {year day : Nat} (h : day < yearLength year) :
    daysBeforeMonth year (monthOfDay year day) ≤ day := by
  have hleap : ∀ day < 366, daysBeforeMonth 2000 (monthOfDay 2000 day) ≤ day := by decide +kernel
  have hcommon : ∀ day < 365, daysBeforeMonth 2001 (monthOfDay 2001 day) ≤ day := by decide +kernel
  rcases same_year year with ⟨hsame,hlength⟩ | ⟨hsame,hlength⟩
  · simpa only [monthOfDay_congr hsame,daysBeforeMonth_congr hsame] using hleap day (hlength ▸ h)
  · simpa only [monthOfDay_congr hsame,daysBeforeMonth_congr hsame] using hcommon day (hlength ▸ h)

theorem daysBeforeMonth_add_le_next (year : Nat) {month next : Nat} (hmonth : 1 ≤ month) (hlt : month < next)
    (hnext : next ≤ 12) : daysBeforeMonth year month + daysInMonth year month ≤ daysBeforeMonth year next := by
  have hleap : ∀ next < 13, ∀ month < next, 1 ≤ month →
      daysBeforeMonth 2000 month + daysInMonth 2000 month ≤ daysBeforeMonth 2000 next := by decide
  have hcommon : ∀ next < 13, ∀ month < next, 1 ≤ month →
      daysBeforeMonth 2001 month + daysInMonth 2001 month ≤ daysBeforeMonth 2001 next := by decide
  rcases same_year year with ⟨hsame,-⟩ | ⟨hsame,-⟩
  · simpa only [daysBeforeMonth_congr hsame,daysInMonth_congr hsame] using
      hleap next (by omega) month hlt hmonth
  · simpa only [daysBeforeMonth_congr hsame,daysInMonth_congr hsame] using
      hcommon next (by omega) month hlt hmonth

theorem ordinal_ofOrdinal {n : Nat} (h : n < maxOrdinal) : (Date.ofOrdinal (n + 1)).ordinal = n + 1 := by
  have hmonth := daysBeforeMonth_le_day (yearDay_range h).2
  have hmax : maxOrdinal = 3652059 := by decide
  simp only [Date.ofOrdinal,Date.ordinal,Nat.add_sub_cancel]
  set r400 := n % 146097
  set n100 := min 3 (r400 / 36524)
  set r100 := r400 - n100 * 36524
  set n1 := min 3 (r100 % 1461 / 365)
  set before := daysBeforeMonth _ _
  have hyear : daysBeforeYear (400 * (n / 146097) + 100 * n100 + 4 * (r100 / 1461) + n1 + 1) =
      146097 * (n / 146097) + 36524 * n100 + 1461 * (r100 / 1461) + 365 * n1 := by
    have hcycle : r100 / 1461 ≤ 24 := by omega
    have h1 : n1 ≤ 3 := Nat.min_le_left ..
    have h100 : n100 ≤ 3 := Nat.min_le_left ..
    simp only [daysBeforeYear,Nat.add_sub_cancel]
    omega
  rw [hyear]
  omega

section
variable {d d' : Date} (h : d.isValid = true) (h' : d'.isValid = true)
include h h'

/-- The days of a year come before those of the next one, and so do the days of a month. -/
theorem ordinal_lt (hlt : d.year < d'.year ∨ d.year = d'.year ∧ d.month < d'.month) : d.ordinal < d'.ordinal := by
  simp only [Date.isValid,Bool.and_eq_true,decide_eq_true_eq] at h h'
  obtain ⟨⟨⟨⟨⟨hyear,-⟩,hmonth⟩,hmonth'⟩,-⟩,hday⟩ := h
  obtain ⟨⟨⟨⟨-,hnext⟩,hnext'⟩,hfirst⟩,-⟩ := h'
  unfold Date.ordinal
  rcases hlt with hlt | ⟨heq,hlt⟩
  · have hend := daysBeforeMonth_add_le hmonth hmonth' hday
    have hstart := daysBeforeYear_succ (d.year - 1)
    have hmono := daysBeforeYear_mono (show d.year + 1 ≤ d'.year from hlt)
    rw [show d.year - 1 + 2 = d.year + 1 by omega,show d.year - 1 + 1 = d.year by omega] at hstart
    omega
  · have hend := daysBeforeMonth_add_le_next d.year hmonth hlt hnext'
    rw [← heq]
    omega

theorem eq_of_ordinal_eq (heq : d.ordinal = d'.ordinal) : d = d' := by
  have hle := mt (ordinal_lt h h') heq.not_lt
  have hge := mt (ordinal_lt h' h) heq.not_gt
  have hyear : d.year = d'.year := by omega
  have hmonth : d.month = d'.month := by omega
  have hday : d.day = d'.day := by
    unfold Date.ordinal at heq
    rw [hyear,hmonth] at heq
    omega
  cases d
  cases d'
  simp_all

end

/-! ## Times -/

theorem eq_of_localMicros_eq {t u : DateTime} (ht : t.isValid = true) (hu : u.isValid = true)
    (heq : t.localMicros = u.localMicros) (hoffset : t.offset = u.offset) : t = u := by
  have hdate := eq_of_ordinal_eq (isValid_date ht) (isValid_date hu)
  have htdate := ordinal_range (isValid_date ht)
  have hudate := ordinal_range (isValid_date hu)
  simp only [DateTime.isValid,Bool.and_eq_true,decide_eq_true_eq] at ht hu
  obtain ⟨⟨⟨⟨-,hth⟩,htm⟩,hts⟩,htmicro⟩ := ht
  obtain ⟨⟨⟨⟨-,huh⟩,hum⟩,hus⟩,humicro⟩ := hu
  simp only [DateTime.localMicros,microsPerDay,microsPerSecond] at *
  have hday := hdate (by omega)
  cases t
  cases u
  simp_all
  omega

theorem localMicros_ofLocalMicros? {micros : Int} {offset : Option Int} {t : DateTime}
    (h : DateTime.ofLocalMicros? micros offset = some t) : (t.localMicros : Int) = micros ∧ t.offset = offset := by
  unfold DateTime.ofLocalMicros? at h
  dsimp only at h
  split_ifs at h with hneg hmax
  obtain rfl := Option.some.inj h
  have hordinal := ordinal_ofOrdinal (Nat.lt_of_not_le hmax)
  refine ⟨?_,rfl⟩
  simp only [DateTime.localMicros,hordinal]
  simp only [microsPerDay,microsPerSecond]
  omega

/-- The time some microseconds later is the one of the same zone with so many microseconds more. -/
theorem addMicros?_eq_some_iff {now t : DateTime} {micros : Int} : now.addMicros? micros = some t ↔
    t.isValid = true ∧ t.offset = now.offset ∧ (t.localMicros : Int) = now.localMicros + micros := by
  constructor
  · intro h
    obtain ⟨hmicros,hoffset⟩ := localMicros_ofLocalMicros? h
    exact ⟨isValid_ofLocalMicros? h,hoffset,hmicros⟩
  · rintro ⟨ht,hoffset,hmicros⟩
    cases h : now.addMicros? micros with
    | none =>
      obtain ⟨rest,hrest,hlocal⟩ := localMicros_eq ht
      have hrange := ordinal_range (isValid_date ht)
      rw [addMicros?_eq_none_iff,← hmicros] at h
      simp only [microsPerDay,microsPerSecond] at *
      omega
    | some u =>
      obtain ⟨hmicros',hoffset'⟩ := localMicros_ofLocalMicros? h
      rw [eq_of_localMicros_eq (isValid_ofLocalMicros? h) ht (by omega) (hoffset'.trans hoffset.symm)]

end TrackerHub.Time
