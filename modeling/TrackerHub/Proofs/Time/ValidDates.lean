import Mathlib.Tactic.SplitIfs
import TrackerHub.Proofs.ReadLists
import TrackerHub.Time.Fuzzy

/-! # Times that are read are times of the calendar

Whatever text a time is read from, and from whatever moment it is counted back, its fields are in
range.
-/
namespace TrackerHub.Time
open TrackerHub.Text

/-! ## Days -/

section
variable {y z : Nat} (h : isLeap y = isLeap z)
include h

theorem daysBeforeMonth_congr (month : Nat) : daysBeforeMonth y month = daysBeforeMonth z month := by
  simp only [daysBeforeMonth,h]

theorem daysInMonth_congr (month : Nat) : daysInMonth y month = daysInMonth z month := by
  simp only [daysInMonth,h]

theorem monthOfDay_congr (day : Nat) : monthOfDay y day = monthOfDay z day := by
  simp only [monthOfDay,daysBeforeMonth_congr h]

end

def yearLength (year : Nat) : Nat := if isLeap year then 366 else 365

/-- A year divides its days as the year 2000 or 2001 does. -/
theorem same_year (year : Nat) : isLeap year = isLeap 2000 ∧ yearLength year = 366 ∨
    isLeap year = isLeap 2001 ∧ yearLength year = 365 := by
  unfold yearLength
  cases hyear : isLeap year with
  | false => exact .inr ⟨by decide,rfl⟩
  | true => exact .inl ⟨by decide,rfl⟩

theorem monthOfDay_range {year day : Nat} (h : day < yearLength year) :
    let month := monthOfDay year day
    1 ≤ month ∧ month ≤ 12 ∧ day - daysBeforeMonth year month + 1 ≤ daysInMonth year month := by
  have hleap : ∀ day < 366, let month := monthOfDay 2000 day
      1 ≤ month ∧ month ≤ 12 ∧ day - daysBeforeMonth 2000 month + 1 ≤ daysInMonth 2000 month := by
    decide +kernel
  have hcommon : ∀ day < 365, let month := monthOfDay 2001 day
      1 ≤ month ∧ month ≤ 12 ∧ day - daysBeforeMonth 2001 month + 1 ≤ daysInMonth 2001 month := by
    decide +kernel
  rcases same_year year with ⟨hsame,hlength⟩ | ⟨hsame,hlength⟩
  · simpa only [monthOfDay_congr hsame,daysBeforeMonth_congr hsame,daysInMonth_congr hsame] using
      hleap day (hlength ▸ h)
  · simpa only [monthOfDay_congr hsame,daysBeforeMonth_congr hsame,daysInMonth_congr hsame] using
      hcommon day (hlength ▸ h)

/-- The year of a day of the calendar, and the place of the day in it. -/
theorem yearDay_range {n : Nat} (h : n < maxOrdinal) :
    let r400 := n % 146097
    let n100 := min 3 (r400 / 36524)
    let r100 := r400 - n100 * 36524
    let r4 := r100 % 1461
    let n1 := min 3 (r4 / 365)
    let year := 400 * (n / 146097) + 100 * n100 + 4 * (r100 / 1461) + n1 + 1
    year ≤ maxYear ∧ r4 - n1 * 365 < yearLength year := by
  have hmax : maxOrdinal = 3652059 := by decide
  intro r400 n100 r100 r4 n1 year
  have h400 : r400 < 146097 := Nat.mod_lt _ (by decide)
  have h100 : r100 ≤ 36524 ∧ (n100 < 3 → r100 < 36524) := by omega
  have h4 : r4 < 1461 := Nat.mod_lt _ (by decide)
  refine ⟨by unfold maxYear; omega,?_⟩
  by_cases hday : r4 - n1 * 365 < 365
  · unfold yearLength
    split <;> omega
  · -- Only the last of four years has another day, and every hundredth only at the end of the cycle.
    have hleap : isLeap year = true := by
      simp only [isLeap,Bool.and_eq_true,Bool.or_eq_true,beq_iff_eq,bne_iff_ne]
      omega
    rw [yearLength,if_pos hleap]
    omega

/-- The days of the calendar have dates of the calendar. -/
theorem isValid_ofOrdinal {n : Nat} (h : n < maxOrdinal) : (Date.ofOrdinal (n + 1)).isValid = true := by
  obtain ⟨hyear,hday⟩ := yearDay_range h
  obtain ⟨hl,hu,hd⟩ := monthOfDay_range hday
  simp only [Date.ofOrdinal,Date.isValid,Nat.add_sub_cancel,Bool.and_eq_true,decide_eq_true_eq]
  exact ⟨⟨⟨⟨⟨by omega,hyear⟩,hl⟩,hu⟩,by omega⟩,hd⟩

/-! ## Times -/

theorem isValid_ofLocalMicros? {micros : Int} {offset : Option Int} {t : DateTime}
    (h : DateTime.ofLocalMicros? micros offset = some t) : t.isValid = true := by
  unfold DateTime.ofLocalMicros? at h
  dsimp only at h
  split_ifs at h with hneg hmax
  obtain rfl := Option.some.inj h
  have hday := isValid_ofOrdinal (Nat.lt_of_not_le hmax)
  have hrest : micros.toNat % microsPerDay < 86400 * microsPerSecond := Nat.mod_lt _ (by decide)
  have hseconds := Nat.div_lt_of_lt_mul (Nat.mul_comm .. ▸ hrest)
  simp only [DateTime.isValid,hday,Bool.true_and,Bool.and_eq_true,decide_eq_true_eq]
  exact ⟨⟨⟨by omega,by omega⟩,by omega⟩,Nat.mod_lt _ (by decide)⟩

theorem isValid_timeAgo {s : Chars} {now t : DateTime} (h : timeAgo s now = .ok t) : t.isValid = true := by
  obtain ⟨seconds,-,h⟩ := bind_eq_ok.mp h
  obtain ⟨micros,-,h⟩ := bind_eq_ok.mp h
  obtain ⟨checked,-,h⟩ := bind_eq_ok.mp h
  split at h
  next hadd =>
    obtain rfl := Except.ok.inj h
    exact isValid_ofLocalMicros? hadd
  next => cases h

theorem isValid_dateTime? {r : Reading} {t : DateTime} (h : r.dateTime? = some t) : t.isValid = true := by
  unfold Reading.dateTime? at h
  obtain ⟨date,-,h⟩ := Option.bind_eq_some_iff.mp h
  dsimp only at h
  split_ifs at h with hvalid
  obtain rfl := Option.some.inj h
  exact (Bool.and_eq_true_iff.mp hvalid).1

theorem isValid_readDateTime? {pieces : List Piece} {s : Chars} {t : DateTime}
    (h : readDateTime? pieces s = some t) : t.isValid = true := by
  unfold readDateTime? at h
  split at h
  · obtain ⟨r,-,hr⟩ := Option.bind_eq_some_iff.mp h
    exact isValid_dateTime? hr
  · cases h

theorem isValid_assumeUniversal (t : DateTime) : t.assumeUniversal.isValid = t.isValid := by
  unfold DateTime.assumeUniversal
  split <;> rfl

theorem isValid_readAbsolute? {s : Chars} {t : DateTime} (h : readAbsolute? s = some t) : t.isValid = true := by
  obtain ⟨f,-,hf⟩ := List.exists_of_findSome?_eq_some h
  split at hf
  · obtain ⟨u,hu,rfl⟩ := Option.map_eq_some_iff.mp hf
    exact (isValid_assumeUniversal u).trans (isValid_readDateTime? hu)
  · cases hf

/-- The date that a text names by itself: by a day near `now`, or in one of the formats. -/
def readNamed (source : Chars) (now : DateTime) : Except TimeError DateTime := do
  let s := join [' '] (words source)
  let s ← replaceDay "today" 0 now s
  let s ← replaceDay "tomorrow" 1 now s
  let s ← replaceDay "yesterday" (-1) now s
  match readAbsolute? (trim (addMissingYear now.date.year s)) with
  | some t => pure t
  | none => throw (.noFormat source)

theorem readFuzzy_eq (source : Chars) (now : DateTime) : readFuzzy source now =
    if hasWord ['a','g','o'] false source then timeAgo source now
    else if looksLikeDuration source then
      match timeAgo source now with
      | .ok t => .ok t
      | .error e => if e.isUnreadable then readNamed source now else .error e
    else readNamed source now := rfl

theorem readAbsolute?_of_readNamed {source : Chars} {now t : DateTime} (h : readNamed source now = .ok t) :
    ∃ s, readAbsolute? s = some t := by
  obtain ⟨today,-,h⟩ := bind_eq_ok.mp h
  obtain ⟨tomorrow,-,h⟩ := bind_eq_ok.mp h
  obtain ⟨yesterday,-,h⟩ := bind_eq_ok.mp h
  split at h
  next hread => exact ⟨_,hread.trans (congrArg some (Except.ok.inj h))⟩
  next => cases h

theorem readFuzzy_cases {source : Chars} {now t : DateTime} (h : readFuzzy source now = .ok t) :
    timeAgo source now = .ok t ∨ ∃ s, readAbsolute? s = some t := by
  rw [readFuzzy_eq] at h
  split_ifs at h with hago hduration
  · exact .inl h
  · split at h
    next hread => exact .inl (hread.trans h)
    next =>
      split_ifs at h
      · exact .inr (readAbsolute?_of_readNamed h)
  · exact .inr (readAbsolute?_of_readNamed h)

/-- A time that is read has its fields in range. -/
theorem isValid_readFuzzy {s : Chars} {now t : DateTime} (h : readFuzzy s now = .ok t) : t.isValid = true := by
  rcases readFuzzy_cases h with h | ⟨s,h⟩
  · exact isValid_timeAgo h
  · exact isValid_readAbsolute? h

end TrackerHub.Time
