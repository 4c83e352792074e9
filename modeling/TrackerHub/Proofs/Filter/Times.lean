import TrackerHub.Agent.Row
import TrackerHub.Proofs.Time.MailDate
import TrackerHub.Proofs.Time.ValidDates

/-! # Filters that write times

A filter that writes a time computes one first. The row that takes the text over as its date, and any
other filter that reads times, find the computed time again, down to the second.
-/
namespace TrackerHub
open TrackerHub.Text

namespace Filter

/-- The names of the filters that write times. -/
def timeNames : List String := ["dateparse","timeparse","timeago","fuzzytime","reltime"]

/-- The names of the filters that read times in any of their forms. -/
def fuzzyNames : List String := ["timeago","fuzzytime","reltime"]

/-- The date in the first of some patterns that fits. -/
def dateIn (value : Chars) : List Chars → Except FilterError Time.DateTime
  | [] => .error (.noDatePattern value)
  | pattern :: rest =>
    match Time.parseFormat (Time.formatOf pattern) with
    | .error .badDirective => dateIn value rest
    | .error (.repeatedPart _) => .error .repeatedDatePart
    | .ok pieces =>
      match Time.readDateTime? pieces value with
      | some t => .ok t.assumeUniversal
      | none => dateIn value rest

/-- The time in a text, in any of its forms. -/
def timeIn (value : Chars) (now : Time.DateTime) : Except FilterError Time.DateTime :=
  (Time.readFuzzy value now).mapError fun e =>
    if e.isUnreadable then .badTime value e else .timeOutOfRange e

/-- The time that a filter computes and writes. -/
def timeOf (name : String) (args : Value) (value : Chars) (now : Time.DateTime) :
    Except FilterError Time.DateTime :=
  if name ∈ fuzzyNames then timeIn value now else datePatterns name args >>= dateIn value

theorem readDate_eq (value : Chars) (patterns : List Chars) :
    readDate value patterns = (dateIn value patterns).map Time.DateTime.mailText := by
  induction patterns with
  | nil => rfl
  | cons pattern rest ih =>
    unfold readDate dateIn
    cases Time.parseFormat (Time.formatOf pattern) with
    | error e =>
      cases e
      · exact ih
      · rfl
    | ok pieces =>
      cases hread : Time.readDateTime? pieces value <;> simp only [hread]
      · exact ih
      · rfl

theorem normalTime_eq (value : Chars) (now : Time.DateTime) :
    normalTime value now = (timeIn value now).map Time.DateTime.mailText := by
  unfold normalTime timeIn
  cases Time.readFuzzy value now with
  | ok t => rfl
  | error e =>
    simp only [Except.mapError]
    split <;> rfl

theorem run_fuzzy {name : String} (h : name ∈ fuzzyNames) (args : Value) (value : Chars) (now : Time.DateTime) :
    run name args value now = normalTime value now := by
  simp only [fuzzyNames,List.mem_cons,List.not_mem_nil,or_false] at h
  rcases h with rfl | rfl | rfl <;> rfl

/-- A filter that writes times writes the time that it computes. -/
theorem run_eq_timeOf {name : String} (h : name ∈ timeNames) (args : Value) (value : Chars)
    (now : Time.DateTime) :
    run name args value now = (timeOf name args value now).map Time.DateTime.mailText := by
  have hdate (name : String) : (do readDate value (← datePatterns name args)) =
      (datePatterns name args >>= dateIn value).map Time.DateTime.mailText := by
    cases datePatterns name args with
    | error e => rfl
    | ok patterns => exact readDate_eq value patterns
  simp only [timeNames,List.mem_cons,List.not_mem_nil,or_false] at h
  rcases h with rfl | rfl | rfl | rfl | rfl
  · exact hdate _
  · exact hdate _
  · exact normalTime_eq value now
  · exact normalTime_eq value now
  · exact normalTime_eq value now

theorem isValid_dateIn {value : Chars} {patterns : List Chars} {t : Time.DateTime}
    (h : dateIn value patterns = .ok t) : t.isValid = true := by
  induction patterns with
  | nil => cases h
  | cons pattern rest ih =>
    unfold dateIn at h
    split at h
    · exact ih h
    · cases h
    · split at h
      next hread =>
        obtain rfl := Except.ok.inj h
        exact (Time.isValid_assumeUniversal _).trans (Time.isValid_readDateTime? hread)
      next => exact ih h

theorem isValid_timeOf {name : String} {args : Value} {value : Chars} {now t : Time.DateTime}
    (h : timeOf name args value now = .ok t) : t.isValid = true := by
  unfold timeOf timeIn at h
  split at h
  · cases hread : Time.readFuzzy value now with
    | ok u =>
      rw [hread] at h
      obtain rfl := Except.ok.inj h
      exact Time.isValid_readFuzzy hread
    | error e =>
      rw [hread] at h
      cases h
  · obtain ⟨patterns,-,hdate⟩ := bind_eq_ok.mp h
    exact isValid_dateIn hdate

end Filter

def Time.DateTime.toSecond (t : Time.DateTime) : Time.DateTime := {t with micro := 0}

/-- The time that a mail date stands for is the one it was written for, to the second. -/
theorem Time.readFuzzy_mailText_toSecond {t : Time.DateTime} (ht : t.isValid = true) (h : t.InMailRange)
    (now : Time.DateTime) : Time.readFuzzy t.mailText now = .ok t.toSecond := by
  have hvalid : t.toSecond.isValid = true := by
    simp only [Time.DateTime.isValid,Bool.and_eq_true,decide_eq_true_eq] at ht
    simp [Time.DateTime.isValid,Time.DateTime.toSecond,ht,Time.microsPerSecond]
  exact Time.readFuzzy_mailText hvalid ⟨h.year,h.zone⟩ rfl now

/-- Written times are read back. A time with four digits to its year and whole minutes to its zone is
read as itself, at any moment. So a row takes over, and a filter of any time writes again, the time that
a filter has computed. -/
theorem written_times_kept :
    (∀ (t now : Time.DateTime), t.isValid = true → t.InMailRange → t.micro = 0 →
      Time.readFuzzy t.mailText now = .ok t) ∧
    ∀ name ∈ Filter.timeNames, ∀ (args : Value) (value : Chars) (now : Time.DateTime),
      Filter.run name args value now =
        (Filter.timeOf name args value now).map Time.DateTime.mailText ∧
      ∀ t, Filter.timeOf name args value now = .ok t → t.InMailRange → ∀ later : Time.DateTime,
        (∀ (base : Chars) (row : Row), row.takeField base later (.date,String.ofList t.mailText) =
          .ok {row with release := {row.release with publishDate := some t.toSecond}}) ∧
        ∀ again ∈ Filter.fuzzyNames, ∀ args', Filter.run again args' t.mailText later = .ok t.mailText := by
  refine ⟨fun t now ht h hmicro => Time.readFuzzy_mailText ht h hmicro now,
    fun name hname args value now => ⟨Filter.run_eq_timeOf hname args value now,?_⟩⟩
  intro t ht hrange later
  have hread := Time.readFuzzy_mailText_toSecond (Filter.isValid_timeOf ht) hrange later
  refine ⟨fun base row => ?_,fun again hagain args' => ?_⟩
  · have hfield : Row.readDateField (String.ofList t.mailText) later = .ok t.toSecond := by
      rw [Row.readDateField,String.toList_ofList,hread]
      rfl
    simp only [Row.takeField,Row.isUrlField,Row.assign,hfield]
    rfl
  · rw [Filter.run_fuzzy hagain,Filter.normalTime,hread]
    rfl

/-- A time in a zone with half an hour, and a day that a filter has read. -/
theorem half_hour_zone_kept :
    Time.readFuzzy "Sat, 20 Aug 2016 13:45:00 -0330".toList {date := ⟨1,1,1⟩} =
      .ok {date := ⟨2016,8,20⟩,hour := 13,minute := 45,offset := some (-12600000000)} ∧
    Filter.run "reltime" .null "Sat, 20 Aug 2016 00:00:00 +0000".toList {date := ⟨1,1,1⟩} =
      .ok "Sat, 20 Aug 2016 00:00:00 +0000".toList := by
  constructor
  · exact written_times_kept.1
      {date := ⟨2016,8,20⟩,hour := 13,minute := 45,offset := some (-12600000000)} {date := ⟨1,1,1⟩}
      (by decide +kernel) ⟨by decide,_,rfl,by decide +kernel,by decide +kernel⟩ rfl
  · exact ((written_times_kept.2 "dateparse" (by decide) (.text "2006-01-02") "2016-08-20".toList
      {date := ⟨1,1,1⟩}).2 {date := ⟨2016,8,20⟩,offset := some 0} (by rfl)
      ⟨by decide,_,rfl,by decide +kernel,by decide +kernel⟩ {date := ⟨1,1,1⟩}).2 "reltime" (by decide) .null

end TrackerHub
