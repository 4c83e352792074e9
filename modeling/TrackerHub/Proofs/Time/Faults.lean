import Mathlib.Order.Monotone.Basic
import Mathlib.Tactic.IntervalCases
import TrackerHub.Proofs.Time.ValidDates

/-! # Times out of range

Reading a time fails in two ways. A text may be unreadable, or it may be read and stand for a time that
the calendar does not have: a duration that is too long, or the day after the last one.
-/
namespace TrackerHub.Time
open TrackerHub.Text

/-! ## The ends of the calendar -/

theorem daysBeforeYear_succ (y : Nat) :
    daysBeforeYear (y + 2) = daysBeforeYear (y + 1) + yearLength (y + 1) := by
  have hstep (k : Nat) : (y + 1) / k = y / k + if k ∣ y + 1 then 1 else 0 := Nat.succ_div
  have hhundred : 100 ∣ y + 1 → 4 ∣ y + 1 := (by decide : 4 ∣ 100).trans
  have hfour : 400 ∣ y + 1 → 100 ∣ y + 1 := (by decide : 100 ∣ 400).trans
  have hleap : isLeap (y + 1) = true ↔ 4 ∣ y + 1 ∧ (¬100 ∣ y + 1 ∨ 400 ∣ y + 1) := by
    simp [isLeap,Nat.dvd_iff_mod_eq_zero]
  have hle := Nat.div_le_self y 100
  simp only [daysBeforeYear,yearLength,hleap,Nat.add_sub_cancel,show y + 2 - 1 = y + 1 by omega,hstep]
  generalize y / 4 = a at *
  generalize y / 100 = b at *
  generalize y / 400 = c at *
  by_cases h4 : 4 ∣ y + 1 <;> by_cases h100 : 100 ∣ y + 1 <;> by_cases h400 : 400 ∣ y + 1 <;>
    simp_all <;> omega

theorem daysBeforeYear_mono : Monotone daysBeforeYear := by
  refine monotone_nat_of_le_succ fun n => ?_
  cases n with
  | zero => decide
  | succ y =>
    rw [daysBeforeYear_succ]
    exact Nat.le_add_right _ _

theorem daysBeforeMonth_add_le {year month day : Nat} (hl : 1 ≤ month) (hu : month ≤ 12)
    (hday : day ≤ daysInMonth year month) : daysBeforeMonth year month + day ≤ yearLength year := by
  have hstart : daysBeforeMonth year month + daysInMonth year month ≤ yearLength year := by
    simp only [daysBeforeMonth,daysInMonth,yearLength]
    cases isLeap year <;> interval_cases month <;> decide
  omega

theorem ordinal_range {d : Date} (h : d.isValid = true) : 1 ≤ d.ordinal ∧ d.ordinal ≤ maxOrdinal := by
  simp only [Date.isValid,Bool.and_eq_true,decide_eq_true_eq] at h
  obtain ⟨⟨⟨⟨⟨hyear,hyear'⟩,hmonth⟩,hmonth'⟩,hday⟩,hday'⟩ := h
  obtain ⟨y,hy⟩ : ∃ y, d.year = y + 1 := ⟨d.year - 1,by omega⟩
  have hnext := daysBeforeYear_succ y
  have hend := daysBeforeYear_mono (show y + 2 ≤ maxYear + 1 by omega)
  have hmonths := daysBeforeMonth_add_le hmonth hmonth' hday'
  rw [hy] at hmonths
  simp only [Date.ordinal,maxOrdinal,hy]
  omega

section
variable {t : DateTime}

theorem isValid_date (h : t.isValid = true) : t.date.isValid = true := by
  simp only [DateTime.isValid,Bool.and_eq_true] at h
  exact h.1.1.1.1

theorem localMicros_eq (h : t.isValid = true) :
    ∃ rest < microsPerDay, t.localMicros = (t.date.ordinal - 1) * microsPerDay + rest := by
  simp only [DateTime.isValid,Bool.and_eq_true,decide_eq_true_eq] at h
  obtain ⟨⟨⟨⟨-,hhour⟩,hminute⟩,hsecond⟩,hmicro⟩ := h
  refine ⟨_,?_,Nat.add_assoc ..⟩
  simp only [microsPerDay,microsPerSecond] at *
  omega

theorem addMicros?_eq_none_iff {micros : Int} : t.addMicros? micros = none ↔
    t.localMicros + micros < 0 ∨ ((maxOrdinal * microsPerDay : Nat) : Int) ≤ t.localMicros + micros := by
  have hday : maxOrdinal ≤ (t.localMicros + micros).toNat / microsPerDay ↔
      maxOrdinal * microsPerDay ≤ (t.localMicros + micros).toNat := Nat.le_div_iff_mul_le (by decide)
  unfold DateTime.addMicros? DateTime.ofLocalMicros?
  dsimp only
  split_ifs with hneg hlast
  · exact iff_of_true rfl (.inl hneg)
  · exact iff_of_true rfl (.inr (by omega))
  · exact iff_of_false (by simp) (by omega)

/-- Whole days lead out of the calendar just when they do so from the date. -/
theorem addDays_eq_none_iff (h : t.isValid = true) (days : Int) : t.addMicros? (days * microsPerDay) = none ↔
    t.date.ordinal + days < 1 ∨ maxOrdinal < t.date.ordinal + days := by
  obtain ⟨rest,hrest,hlocal⟩ := localMicros_eq h
  have hrange := ordinal_range (isValid_date h)
  rw [addMicros?_eq_none_iff,hlocal]
  simp only [microsPerDay,microsPerSecond] at *
  push_cast
  omega

theorem nextDay_eq_none_iff (h : t.isValid = true) :
    t.addMicros? (1 * microsPerDay) = none ↔ t.date.ordinal = maxOrdinal := by
  have hrange := ordinal_range (isValid_date h)
  rw [addDays_eq_none_iff h]
  omega

theorem dayBefore_eq_none_iff (h : t.isValid = true) :
    t.addMicros? (-1 * microsPerDay) = none ↔ t.date.ordinal = 1 := by
  have hrange := ordinal_range (isValid_date h)
  rw [addDays_eq_none_iff h]
  omega

theorem sameDay_ne_none (h : t.isValid = true) : t.addMicros? (0 * microsPerDay) ≠ none := by
  have hrange := ordinal_range (isValid_date h)
  rw [Ne,addDays_eq_none_iff h]
  omega

end

/-! ## Durations -/

def statedSeconds (source : Chars) : Except TimeError Binary64 :=
  sumTokens source false (.zero false) (tokens source)

/-- The times that a duration before `now` cannot be: the duration is no finite one, it has more days than
durations may have, or the calendar does not have the time. -/
inductive DurationFault (now : DateTime) (seconds : Binary64) : TimeError → Prop where
  | unbounded (h : ∀ negative m k, seconds ≠ .finite negative m k) : DurationFault now seconds .unbounded
  | tooManyDays {micros : Int} (hmicros : microsOf seconds = .ok micros)
      (h : 2147483647 < micros / microsPerDay ∨ micros / microsPerDay < -2147483648) :
      DurationFault now seconds .tooManyDays
  | daysOutOfRange {micros : Int} (hmicros : microsOf seconds = .ok micros)
      (hint : -2147483648 ≤ micros / microsPerDay ∧ micros / microsPerDay ≤ 2147483647)
      (h : 999999999 < micros / microsPerDay ∨ micros / microsPerDay < -999999999) :
      DurationFault now seconds (.daysOutOfRange (micros / microsPerDay))
  | outOfCalendar {micros : Int} (hmicros : microsOf seconds = .ok micros)
      (hdays : -999999999 ≤ micros / microsPerDay ∧ micros / microsPerDay ≤ 999999999)
      (h : now.localMicros + -micros < 0 ∨
        ((maxOrdinal * microsPerDay : Nat) : Int) ≤ now.localMicros + -micros) :
      DurationFault now seconds .outOfCalendar

theorem unreadable_of_unitSeconds {unit : Chars} {e : TimeError} (h : unitSeconds unit = .error e) :
    e.isUnreadable = true := by
  unfold unitSeconds at h
  split at h
  · cases h
  · cases h
    rfl

/-- A text that states no duration is unreadable as one. -/
theorem unreadable_of_sumTokens {source : Chars} {found : Bool} {total : Binary64} {ts : List Token}
    {e : TimeError} (h : sumTokens source found total ts = .error e) : e.isUnreadable = true := by
  fun_induction sumTokens source found total ts with
  | case1 => cases h
  | case2 => cases h; rfl
  | case3 _ _ _ _ _ ih => exact ih h
  | case4 => cases h; rfl
  | case5 _ _ _ _ _ _ hunit => cases h; exact unreadable_of_unitSeconds hunit
  | case6 => cases h; rfl
  | case7 _ _ _ _ _ _ _ _ _ _ ih => exact ih h
  | case8 => cases h; rfl

theorem microsOf_fault_iff {seconds : Binary64} {e : TimeError} :
    microsOf seconds = .error e ↔ e = .unbounded ∧ ∀ negative m k, seconds ≠ .finite negative m k := by
  unfold microsOf
  split <;> simp_all [eq_comm]

theorem checkDuration_cases (micros : Int) :
    ((2147483647 < micros / microsPerDay ∨ micros / microsPerDay < -2147483648) ∧
        checkDuration micros = .error .tooManyDays) ∨
      ((-2147483648 ≤ micros / microsPerDay ∧ micros / microsPerDay ≤ 2147483647) ∧
        (999999999 < micros / microsPerDay ∨ micros / microsPerDay < -999999999) ∧
        checkDuration micros = .error (.daysOutOfRange (micros / microsPerDay))) ∨
      ((-999999999 ≤ micros / microsPerDay ∧ micros / microsPerDay ≤ 999999999) ∧
        checkDuration micros = .ok micros) := by
  dsimp only [checkDuration]
  split_ifs with hint hdays
  · exact .inl ⟨hint,rfl⟩
  · exact .inr (.inl ⟨by omega,hdays,rfl⟩)
  · exact .inr (.inr ⟨by omega,rfl⟩)

section
variable {source : Chars} {now : DateTime} {seconds : Binary64} (h : statedSeconds source = .ok seconds)
include h

theorem timeAgo_of_unbounded (hmicros : microsOf seconds = .error .unbounded) :
    timeAgo source now = .error .unbounded := by
  rw [timeAgo,← statedSeconds,h]
  simp only [bind,Except.bind,hmicros]

theorem timeAgo_of_unchecked {micros : Int} {e : TimeError} (hmicros : microsOf seconds = .ok micros)
    (hcheck : checkDuration micros = .error e) : timeAgo source now = .error e := by
  rw [timeAgo,← statedSeconds,h]
  simp only [bind,Except.bind,hmicros,hcheck]

theorem timeAgo_of_checked {micros : Int} (hmicros : microsOf seconds = .ok micros)
    (hcheck : checkDuration micros = .ok micros) :
    timeAgo source now = (now.addMicros? (-micros)).elim (.error .outOfCalendar) .ok := by
  rw [timeAgo,← statedSeconds,h]
  simp only [bind,Except.bind,hmicros,hcheck]
  cases now.addMicros? (-micros) <;> rfl

/-- A text that states a duration fails to be a time just when the calendar has no time so long ago. -/
theorem timeAgo_fault_iff {e : TimeError} : timeAgo source now = .error e ↔ DurationFault now seconds e := by
  constructor
  · intro hfault
    cases hmicros : microsOf seconds with
    | error e' =>
      obtain ⟨rfl,hinfinite⟩ := microsOf_fault_iff.mp hmicros
      rw [timeAgo_of_unbounded h hmicros] at hfault
      cases hfault
      exact .unbounded hinfinite
    | ok micros =>
      rcases checkDuration_cases micros with ⟨hint,hcheck⟩ | ⟨hint,hdays,hcheck⟩ | ⟨hdays,hcheck⟩
      · rw [timeAgo_of_unchecked h hmicros hcheck] at hfault
        cases hfault
        exact .tooManyDays hmicros hint
      · rw [timeAgo_of_unchecked h hmicros hcheck] at hfault
        cases hfault
        exact .daysOutOfRange hmicros hint hdays
      · rw [timeAgo_of_checked h hmicros hcheck] at hfault
        cases hadd : now.addMicros? (-micros) with
        | some t =>
          rw [hadd] at hfault
          cases hfault
        | none =>
          rw [hadd] at hfault
          cases hfault
          exact .outOfCalendar hmicros hdays (addMicros?_eq_none_iff.mp hadd)
  · rintro (hinfinite | ⟨hmicros,hint⟩ | ⟨hmicros,hint,hdays⟩ | ⟨hmicros,hdays,hout⟩)
    · exact timeAgo_of_unbounded h (microsOf_fault_iff.mpr ⟨rfl,hinfinite⟩)
    · exact timeAgo_of_unchecked h hmicros (if_pos hint)
    · exact timeAgo_of_unchecked h hmicros ((if_neg (by omega)).trans (if_pos hdays))
    · rw [timeAgo_of_checked h hmicros ((if_neg (by omega)).trans (if_neg (by omega))),
        addMicros?_eq_none_iff.mpr hout]
      rfl

end

/-! ## Named days -/

/-- A text with single blanks between its words, and the date of `now` in place of its name. -/
def withToday (source : Chars) (now : DateTime) : Except TimeError Chars :=
  replaceDay "today" 0 now (join [' '] (words source))

/-- The same text with the date of the next day in place of its name. -/
def withTomorrow (source : Chars) (now : DateTime) : Except TimeError Chars := do
  replaceDay "tomorrow" 1 now (← withToday source now)

theorem replaceDay_fault_iff {w : String} {days : Int} {now : DateTime} {s : Chars} {e : TimeError} :
    replaceDay w days now s = .error e ↔
      e = .outOfCalendar ∧ hasDay w.toList false s = true ∧ now.addMicros? (days * microsPerDay) = none := by
  unfold replaceDay
  split_ifs with hday
  · cases now.addMicros? (days * microsPerDay) <;> simp [hday,eq_comm]
  · simp [hday]

theorem exists_withToday (source : Chars) {now : DateTime} (h : now.isValid = true) :
    ∃ s, withToday source now = .ok s := by
  cases hs : withToday source now with
  | ok s => exact ⟨s,rfl⟩
  | error e => exact absurd (replaceDay_fault_iff.mp hs).2.2 (sameDay_ne_none h)

theorem withTomorrow_fault_iff {source : Chars} {now : DateTime} (h : now.isValid = true) {e : TimeError} :
    withTomorrow source now = .error e ↔ e = .outOfCalendar ∧ now.date.ordinal = maxOrdinal ∧
      ∃ s, withToday source now = .ok s ∧ hasDay "tomorrow".toList false s = true := by
  obtain ⟨s,hs⟩ := exists_withToday source h
  have hnext : withTomorrow source now = replaceDay "tomorrow" 1 now s := by
    rw [withTomorrow,hs]
    rfl
  rw [hnext,replaceDay_fault_iff,nextDay_eq_none_iff h,hs]
  simp [and_comm]

theorem readNamed_of_fault {source : Chars} {now : DateTime} {e : TimeError}
    (h : withTomorrow source now = .error e) : readNamed source now = .error e := by
  simp only [withTomorrow,withToday,bind,Except.bind] at h
  simp only [readNamed,bind,Except.bind]
  cases htoday : replaceDay "today" 0 now (join [' '] (words source)) with
  | error e' =>
    rw [htoday] at h
    cases h
    rfl
  | ok s =>
    rw [htoday] at h
    simp only [h]

theorem readNamed_of_named {source s : Chars} {now : DateTime} (h : withTomorrow source now = .ok s) :
    readNamed source now = (replaceDay "yesterday" (-1) now s).bind fun s =>
      (readAbsolute? (trim (addMissingYear now.date.year s))).elim (.error (.noFormat source)) .ok := by
  obtain ⟨today,htoday,htomorrow⟩ := bind_eq_ok.mp h
  rw [withToday] at htoday
  simp only [readNamed,htoday,htomorrow,bind,Except.bind]
  cases replaceDay "yesterday" (-1) now s with
  | error e => rfl
  | ok s =>
    dsimp only
    cases readAbsolute? (trim (addMissingYear now.date.year s)) <;> rfl

/-- A date that a text names by itself is none of the calendar just when it is the day after the last or
before the first. -/
theorem readNamed_fault_iff {source : Chars} {now : DateTime} (h : now.isValid = true) {e : TimeError} :
    (readNamed source now = .error e ∧ e.isUnreadable = false) ↔ withTomorrow source now = .error e ∨
      e = .outOfCalendar ∧ now.date.ordinal = 1 ∧
        ∃ s, withTomorrow source now = .ok s ∧ hasDay "yesterday".toList false s = true := by
  cases htomorrow : withTomorrow source now with
  | error e' =>
    obtain ⟨rfl,-⟩ := (withTomorrow_fault_iff h).mp htomorrow
    rw [readNamed_of_fault htomorrow]
    constructor
    · rintro ⟨⟨⟩,-⟩
      exact .inl rfl
    · rintro (⟨⟨⟩⟩ | ⟨-,-,_,⟨⟩,-⟩)
      exact ⟨rfl,rfl⟩
  | ok s =>
    rw [readNamed_of_named htomorrow]
    -- Only the day before can still be missing once the other names are replaced.
    cases hyesterday : replaceDay "yesterday" (-1) now s with
    | error e' =>
      obtain ⟨rfl,hday,hnone⟩ := replaceDay_fault_iff.mp hyesterday
      have hfirst := (dayBefore_eq_none_iff h).mp hnone
      constructor
      · rintro ⟨⟨⟩,-⟩
        exact .inr ⟨rfl,hfirst,s,rfl,hday⟩
      · rintro (⟨⟨⟩⟩ | ⟨rfl,-⟩)
        exact ⟨rfl,rfl⟩
    | ok t =>
      refine iff_of_false ?_ ?_
      · rintro ⟨herror,hreadable⟩
        simp only [Except.bind] at herror
        cases hread : readAbsolute? (trim (addMissingYear now.date.year t)) with
        | some found =>
          rw [hread] at herror
          cases herror
        | none =>
          rw [hread] at herror
          cases herror
          cases hreadable
      · rintro (⟨⟨⟩⟩ | ⟨rfl,hfirst,_,⟨⟩,hday⟩)
        have hfault := replaceDay_fault_iff.mpr ⟨rfl,hday,(dayBefore_eq_none_iff h).mpr hfirst⟩
        rw [hyesterday] at hfault
        cases hfault

/-! ## Times in any form -/

/-- A text is taken for a duration: it says `ago`, or it begins like one and states one. -/
def StatesDuration (source : Chars) (seconds : Binary64) : Prop :=
  (hasWord ['a','g','o'] false source = true ∨ looksLikeDuration source = true) ∧
    statedSeconds source = .ok seconds

/-- A text is taken for a date: it neither says `ago` nor states a duration at its beginning. -/
def NamesDate (source : Chars) : Prop :=
  hasWord ['a','g','o'] false source = false ∧
    (looksLikeDuration source = true → ∀ seconds, statedSeconds source ≠ .ok seconds)

/-- The times that are read but are not in the calendar: a duration too long ago, the day after the last
one and the day before the first. -/
inductive TimeFault (source : Chars) (now : DateTime) : TimeError → Prop where
  | duration {seconds : Binary64} {e : TimeError} (hstates : StatesDuration source seconds)
      (h : DurationFault now seconds e) : TimeFault source now e
  | tomorrow {s : Chars} (hdate : NamesDate source) (hs : withToday source now = .ok s)
      (hday : hasDay "tomorrow".toList false s = true) (hlast : now.date.ordinal = maxOrdinal) :
      TimeFault source now .outOfCalendar
  | yesterday {s : Chars} (hdate : NamesDate source) (hs : withTomorrow source now = .ok s)
      (hday : hasDay "yesterday".toList false s = true) (hfirst : now.date.ordinal = 1) :
      TimeFault source now .outOfCalendar

section
variable {source : Chars} {now : DateTime} {seconds : Binary64} {e : TimeError}

theorem isUnreadable_of_durationFault (h : DurationFault now seconds e) : e.isUnreadable = false := by
  cases h <;> rfl

/-- A text that states no duration is unreadable as one. -/
theorem timeAgo_of_unstated (h : statedSeconds source = .error e) :
    timeAgo source now = .error e ∧ e.isUnreadable = true := by
  refine ⟨?_,unreadable_of_sumTokens h⟩
  rw [timeAgo,← statedSeconds,h]
  rfl

theorem readFuzzy_of_duration (h : StatesDuration source seconds) :
    readFuzzy source now = timeAgo source now := by
  rw [readFuzzy_eq]
  obtain ⟨hlooks,hstated⟩ := h
  split_ifs with hago hduration
  · rfl
  · cases htime : timeAgo source now with
    | ok t => rfl
    | error e => simp [isUnreadable_of_durationFault ((timeAgo_fault_iff hstated).mp htime)]
  · exact absurd hlooks (by simp [hago,hduration])

theorem readFuzzy_of_date (h : NamesDate source) : readFuzzy source now = readNamed source now := by
  rw [readFuzzy_eq,if_neg (by simp [h.1])]
  split_ifs with hduration
  · cases hstated : statedSeconds source with
    | ok seconds => exact absurd hstated (h.2 hduration seconds)
    | error e =>
      obtain ⟨htime,hunreadable⟩ := timeAgo_of_unstated hstated
      rw [htime]
      exact if_pos hunreadable
  · rfl

/-- A text is taken for a duration or for a date, or is unreadable. -/
theorem reading_cases (source : Chars) (now : DateTime) :
    (∃ seconds, StatesDuration source seconds) ∨ NamesDate source ∨
      ∃ e, readFuzzy source now = .error e ∧ e.isUnreadable = true := by
  by_cases hago : hasWord ['a','g','o'] false source = true
  · cases hstated : statedSeconds source with
    | ok seconds => exact .inl ⟨seconds,.inl hago,hstated⟩
    | error e =>
      have hunstated : timeAgo source now = .error e ∧ e.isUnreadable = true := timeAgo_of_unstated hstated
      refine .inr (.inr ⟨e,?_,hunstated.2⟩)
      rw [readFuzzy_eq,if_pos hago]
      exact hunstated.1
  · by_cases hduration : looksLikeDuration source = true
    · cases hstated : statedSeconds source with
      | ok seconds => exact .inl ⟨seconds,.inr hduration,hstated⟩
      | error e => exact .inr (.inl ⟨by simpa using hago,fun _ seconds h => by simp [hstated] at h⟩)
    · exact .inr (.inl ⟨by simpa using hago,fun h => absurd h hduration⟩)

/-- Reading a time fails with anything but an unreadable text just when the time is not in the calendar. -/
theorem readFuzzy_fault_iff (h : now.isValid = true) :
    (readFuzzy source now = .error e ∧ e.isUnreadable = false) ↔ TimeFault source now e := by
  constructor
  · rintro ⟨hfault,hreadable⟩
    rcases reading_cases source now with ⟨seconds,hstates⟩ | hdate | ⟨e',he',hunreadable⟩
    · rw [readFuzzy_of_duration hstates] at hfault
      exact .duration hstates ((timeAgo_fault_iff hstates.2).mp hfault)
    · rw [readFuzzy_of_date hdate] at hfault
      rcases (readNamed_fault_iff h).mp ⟨hfault,hreadable⟩ with hnext | ⟨rfl,hfirst,s,hs,hday⟩
      · obtain ⟨rfl,hlast,s,hs,hday⟩ := (withTomorrow_fault_iff h).mp hnext
        exact .tomorrow hdate hs hday hlast
      · exact .yesterday hdate hs hday hfirst
    · rw [hfault] at he'
      cases he'
      simp [hreadable] at hunreadable
  · rintro (⟨hstates,hfault⟩ | ⟨hdate,hs,hday,hlast⟩ | ⟨hdate,hs,hday,hfirst⟩)
    · rw [readFuzzy_of_duration hstates]
      exact ⟨(timeAgo_fault_iff hstates.2).mpr hfault,isUnreadable_of_durationFault hfault⟩
    · rw [readFuzzy_of_date hdate]
      exact (readNamed_fault_iff h).mpr (.inl ((withTomorrow_fault_iff h).mpr ⟨rfl,hlast,_,hs,hday⟩))
    · rw [readFuzzy_of_date hdate]
      exact (readNamed_fault_iff h).mpr (.inr ⟨rfl,hfirst,_,hs,hday⟩)

end

end TrackerHub.Time
