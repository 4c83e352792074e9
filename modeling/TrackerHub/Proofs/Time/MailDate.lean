import Mathlib.Data.List.Chain
import Mathlib.Tactic.IntervalCases
import TrackerHub.Proofs.Number.Numeral
import TrackerHub.Time.Fuzzy

/-! # Reading back mail dates

The form in which the hub writes a time is read as that time, whatever the moment of reading. The
text has six words; none of the readings of loose times takes any of them for its own, and the
first format fits it in one way.
-/
namespace TrackerHub.Time
open TrackerHub.Text

/-! ## Words -/

theorem go_nonblank {w : Chars} (h : ∀ c ∈ w, isBlank c = false) (r acc : Chars) :
    words.go (w ++ r) acc = words.go r (w.reverse ++ acc) := by
  induction w generalizing acc with
  | nil => rfl
  | cons c w ih =>
    rw [List.cons_append,words.go,if_neg (Bool.eq_false_iff.mp (h c List.mem_cons_self)),
      ih fun d hd => h d (List.mem_cons_of_mem c hd)]
    simp

/-- A word of a text: it is not empty, and no character of it is blank. -/
def IsWord (w : Chars) : Prop := w ≠ [] ∧ ∀ c ∈ w, isBlank c = false

-- Decided for the characters of the word, not for all characters.
instance (w : Chars) : Decidable (IsWord w) :=
  haveI := List.decidableBAll (fun c => isBlank c = false) w
  inferInstanceAs (Decidable (_ ∧ _))

theorem words_join {ws : List Chars} (h : ∀ w ∈ ws, IsWord w) : words (join [' '] ws) = ws := by
  induction ws with
  | nil => rfl
  | cons w ws ih =>
    obtain ⟨hne,hw⟩ := h w List.mem_cons_self
    have hempty : w.reverse.isEmpty = false := by simpa using hne
    have hws := ih fun v hv => h v (List.mem_cons_of_mem w hv)
    cases ws with
    | nil =>
      have hgo := go_nonblank hw [] []
      simp only [List.append_nil] at hgo
      simp [join,words,hgo,words.go,hempty]
    | cons v ws =>
      have hblank : isBlank ' ' = true := by decide
      simp only [join,words,List.append_assoc]
      rw [go_nonblank hw,List.append_nil,List.singleton_append,words.go,if_pos hblank,
        if_neg (by simp [hne]),List.reverse_reverse]
      exact congrArg (w :: ·) hws

theorem trim_of_ends {s : Chars} (hfirst : ∀ c ∈ s.head?, isBlank c = false)
    (hlast : ∀ c ∈ s.getLast?, isBlank c = false) : trim s = s := by
  have hdrop {s : Chars} (h : ∀ c ∈ s.head?, isBlank c = false) : s.dropWhile isBlank = s := by
    cases s with
    | nil => rfl
    | cons c r => exact List.dropWhile_cons_of_neg (by simp [h c rfl])
  rw [trim,trimBy,hdrop hfirst,dropEndWhile,hdrop (by simpa using hlast),List.reverse_reverse]

/-! ## Numerals -/

theorem padded_two {n : Nat} (h : n < 100) :
    padded 2 n = [Nat.digitChar (n / 10),Nat.digitChar (n % 10)] := by
  interval_cases n <;> rfl

theorem numberOf_padded : ∀ n < 100, numberOf (padded 2 n) = n := by
  decide

theorem digitValue?_of_isDigit {c : Char} (h : c.isDigit = true) :
    digitValue? c = some (c.toNat - '0'.toNat) := by
  have hb := Numeral.isDigit_bounds h
  rw [digitValue?,if_pos (by omega),if_pos h]

theorem numberOf_decimal (n : Nat) : numberOf (decimal n) = n := by
  have hfold : numberOf (decimal n) = Nat.ofDigitChars 10 (decimal n) 0 := by
    rw [Nat.ofDigitChars_eq_foldl]
    refine List.foldl_ext _ _ _ fun m c hc => ?_
    simp only [digitValue?_of_isDigit (Numeral.isDigit_of_mem_decimal hc)]
  rw [hfold]
  exact Nat.ofDigitChars_ten_toDigits

theorem length_decimal_year {y : Nat} (hl : 1000 ≤ y) (hu : y ≤ maxYear) : (decimal y).length = 4 := by
  have hle := (Nat.length_toDigits_le_iff (b := 10) (n := y) (k := 4) (by decide) (by decide)).mpr
    (show y < 10 ^ 4 by unfold maxYear at hu; omega)
  have hge := mt (Nat.length_toDigits_le_iff (b := 10) (n := y) (k := 3) (by decide) (by decide)).mp
    (show ¬y < 10 ^ 3 by omega)
  unfold decimal
  omega

/-! ## Reading through a format -/

/-- A part takes the text `x` in its first form, before the rest `r`. -/
def Directive.Takes (d : Directive) (x r : Chars) : Prop := (d.forms (x ++ r)).head? = some (x,r)

section
variable {ps : List Piece} {d : Directive} {x r rest : Chars} {parts : List (Directive × Chars)}

theorem readPieces_part (h : d.Takes x r) (hr : readPieces ps r = some (parts,rest)) :
    readPieces (.part d :: ps) (x ++ r) = some ((d,x) :: parts,rest) := by
  obtain ⟨more,hforms⟩ := List.head?_eq_some_iff.mp h
  simp [readPieces,hforms,hr]

theorem readPieces_char {c : Char} (h : sameLetter c c = true) :
    readPieces (.char c :: ps) (c :: r) = readPieces ps r := by
  simp [readPieces,h]

theorem readPieces_blanks (h : ∀ c ∈ r.head?, isBlank c = false) :
    readPieces (.blanks :: ps) (' ' :: r) = readPieces ps r := by
  have hblank : isBlank ' ' = true := by decide
  have hrun : (' ' :: r).takeWhile isBlank = [' '] := by
    rw [List.takeWhile_cons_of_pos hblank]
    cases r with
    | nil => rfl
    | cons c r => rw [List.takeWhile_cons_of_neg (by simp [h c rfl])]
  have hmany : many isBlank 1 (' ' :: r).length (' ' :: r) = [([' '],r)] := by
    simp [many,hrun]
  rw [readPieces,hmany]
  cases h : readPieces ps r <;> simp [h]

end

/-- Words of one length are told apart by their own letters. -/
theorem word_append {names : List Chars} {n : Nat} {x : Chars} (hlength : ∀ w ∈ names, w.length = n)
    (hx : names.filter (fun w => (dropStartFold? w x).isSome) = [x]) (r : Chars) :
    word names (x ++ r) = [(x,r)] := by
  have hmem : x ∈ names := (List.mem_filter.mp (hx ▸ List.mem_singleton_self x)).1
  have hsorted : names.mergeSort (fun a b => decide (b.length ≤ a.length)) = names := by
    refine List.mergeSort_of_pairwise (List.pairwise_of_forall_mem_list fun a ha b hb => ?_)
    simp [hlength a ha,hlength b hb]
  -- Among texts of one length what follows makes no difference.
  have hfold : ∀ {w x : Chars}, w.length = x.length →
      dropStartFold? w (x ++ r) = if (dropStartFold? w x).isSome then some r else none := by
    intro w
    induction w with
    | nil => intro x h; cases x <;> simp_all [dropStartFold?]
    | cons a w ih =>
      intro x h
      cases x with
      | nil => simp at h
      | cons b x =>
        simp only [List.cons_append,dropStartFold?]
        split
        · exact ih (by simpa using h)
        · rfl
  have hform : ∀ w ∈ names, (dropStartFold? w (x ++ r)).map (fun rest => ((x ++ r).take w.length,rest)) =
      if (dropStartFold? w x).isSome then some (x,r) else none := by
    intro w hw
    have hlen : w.length = x.length := (hlength w hw).trans (hlength x hmem).symm
    rw [hfold hlen,hlen,List.take_left]
    split <;> rfl
  have hguard : (fun w => if (dropStartFold? w x).isSome then some (x,r) else none) =
      fun w => (Option.guard (fun w => (dropStartFold? w x).isSome) w).map fun _ => (x,r) := by
    funext w
    simp only [Option.guard]
    split <;> rfl
  rw [word,hsorted,List.filterMap_congr hform,hguard,← List.map_filterMap,List.filterMap_eq_filter,hx]
  rfl

/-! ## The parts of a mail date -/

theorem takes_dayName : ∀ w < 7, ∀ r,
    Directive.shortDayName.Takes (shortName (dayNames.getD w "")) r := by
  have hnames : ∀ x ∈ dayNames.map shortName,
      (dayNames.map shortName).filter (fun w => (dropStartFold? w x).isSome) = [x] := by decide
  have hmem : ∀ w < 7, shortName (dayNames.getD w "") ∈ dayNames.map shortName := by decide
  intro w hw r
  rw [Directive.Takes,Directive.forms,word_append (n := 3) (by decide) (hnames _ (hmem w hw))]
  rfl

theorem takes_monthName : ∀ m < 12, ∀ r,
    Directive.shortMonthName.Takes (shortName (monthNames.getD m "")) r := by
  have hnames : ∀ x ∈ monthNames.map shortName,
      (monthNames.map shortName).filter (fun w => (dropStartFold? w x).isSome) = [x] := by decide
  have hmem : ∀ m < 12, shortName (monthNames.getD m "") ∈ monthNames.map shortName := by decide
  intro m hm r
  rw [Directive.Takes,Directive.forms,word_append (n := 3) (by decide) (hnames _ (hmem m hm))]
  rfl

theorem isDecimalDigit_of_isDigit {c : Char} (h : c.isDigit = true) : isDecimalDigit c = true := by
  simp [isDecimalDigit,digitValue?_of_isDigit h]

theorem takes_year {y : Nat} (hl : 1000 ≤ y) (hu : y ≤ maxYear) (r : Chars) :
    Directive.year.Takes (decimal y) r := by
  obtain ⟨a,b,c,d,h⟩ := List.length_eq_four.mp (length_decimal_year hl hu)
  have hdigit : ∀ e ∈ [a,b,c,d], isDecimalDigit e = true := fun e he =>
    isDecimalDigit_of_isDigit (Numeral.isDigit_of_mem_decimal (n := y) (h ▸ he))
  simp only [List.forall_mem_cons] at hdigit
  simp [Directive.Takes,Directive.forms,h,digit,one,Forms.then,hdigit]

theorem takes_day : ∀ n, 1 ≤ n → n ≤ 31 → ∀ r, Directive.day.Takes (padded 2 n) r := by
  intro n hl hu r
  interval_cases n <;> rfl

theorem takes_hour : ∀ n < 24, ∀ r, Directive.hour24.Takes (padded 2 n) r := by
  intro n hn r
  interval_cases n <;> rfl

theorem takes_minute : ∀ n < 60, ∀ r, Directive.minute.Takes (padded 2 n) r := by
  intro n hn r
  interval_cases n <;> rfl

theorem takes_second : ∀ n < 60, ∀ r, Directive.second.Takes (padded 2 n) r := by
  intro n hn r
  interval_cases n <;> rfl

theorem digitChar_facts : ∀ n < 10, isDecimalDigit (Nat.digitChar n) = true ∧ Nat.digitChar n ≠ ':' := by
  decide

theorem digitChar_le : ∀ n < 6, '0' ≤ Nat.digitChar n ∧ Nat.digitChar n ≤ '5' := by
  decide

/-- The sign, the hours and the minutes of a zone. -/
def zoneText (negative : Bool) (hours minutes : Nat) : Chars :=
  (if negative then '-' else '+') :: (padded 2 hours ++ padded 2 minutes)

def zoneOffset (negative : Bool) (hours minutes : Nat) : Int :=
  let total : Int := ((hours * 60 + minutes) * 60 * microsPerSecond : Nat)
  if negative then -total else total

theorem natAbs_zoneOffset (negative : Bool) (h m : Nat) :
    (zoneOffset negative h m).natAbs = (h * 60 + m) * 60 * microsPerSecond := by
  cases negative <;> simp only [zoneOffset,Bool.false_eq_true,↓reduceIte,Int.natAbs_neg,Int.natAbs_natCast]

section
variable {h m : Nat} (hh : h < 24) (hm : m < 60) (negative : Bool)
include hh hm

theorem takes_zone : Directive.zone.Takes (zoneText negative h m) [] := by
  obtain ⟨ha,-⟩ := digitChar_facts (h / 10) (by omega)
  obtain ⟨hb,-⟩ := digitChar_facts (h % 10) (by omega)
  obtain ⟨-,hc⟩ := digitChar_facts (m / 10) (by omega)
  obtain ⟨hd,-⟩ := digitChar_facts (m % 10) (by omega)
  obtain ⟨hl,hu⟩ := digitChar_le (m / 10) (by omega)
  unfold zoneText
  rw [padded_two (by omega),padded_two (by omega)]
  simp [Directive.Takes,Directive.forms,Forms.or,Forms.then,Forms.maybe,digit,oneOf,exactly,one,
    ha,hb,hc,hd,hl,hu]

theorem readOffset?_zoneText : readOffset? (zoneText negative h m) = some (zoneOffset negative h m) := by
  obtain ⟨-,hc⟩ := digitChar_facts (m / 10) (by omega)
  have hhours := numberOf_padded h (by omega)
  have hminutes := numberOf_padded m (by omega)
  have hseconds : numberOf [] = 0 := rfl
  have hmicros : numberOf (List.replicate 6 '0') = 0 := by decide
  rw [padded_two (by omega)] at hhours hminutes
  unfold zoneText
  rw [padded_two (by omega),padded_two (by omega)]
  cases negative <;>
    simp [readOffset?,zoneOffset,hc,hhours,hminutes,hseconds,hmicros,-List.reduceReplicate]

theorem offsetText_zoneOffset (hsign : h = 0 → m = 0 → negative = false) :
    offsetText [] (zoneOffset negative h m) = zoneText negative h m := by
  have hneg : zoneOffset negative h m < 0 ↔ negative = true := by
    cases negative <;> simp [zoneOffset,microsPerSecond] at hsign ⊢ <;> omega
  have hpos : 0 < microsPerSecond := by decide
  unfold offsetText
  simp only [natAbs_zoneOffset,Nat.mul_div_cancel _ hpos,Nat.mul_mod_left,hneg]
  rw [show (h * 60 + m) * 60 / 3600 = h by omega,show (h * 60 + m) * 60 / 60 % 60 = m by omega]
  simp [zoneText]

end

theorem placeOf?_dayName : ∀ w < 7,
    placeOf? (dayNames.map shortName) (shortName (dayNames.getD w "")) = some w := by
  decide

theorem placeOf?_monthName : ∀ m < 12,
    placeOf? (monthNames.map shortName) (shortName (monthNames.getD m "")) = some m := by
  decide

/-! ## The words of a mail date -/

theorem nonblank_of_isDigit {c : Char} (h : c.isDigit = true) : isBlank c = false := by
  have hb := Numeral.isDigit_bounds h
  simp [isBlank,inRanges,blankRanges]
  omega

theorem IsWord.head {w : Chars} (h : IsWord w) : ∀ c ∈ w.head?, isBlank c = false :=
  fun c hc => h.2 c (List.mem_of_head? hc)

theorem IsWord.head_append {w : Chars} (h : IsWord w) (r : Chars) :
    ∀ c ∈ (w ++ r).head?, isBlank c = false := by
  obtain ⟨c,v,rfl⟩ := List.exists_cons_of_ne_nil h.1
  simpa using h.2 c List.mem_cons_self

theorem isWord_decimal (n : Nat) : IsWord (decimal n) :=
  ⟨Numeral.decimal_ne_nil n,fun _ hc => nonblank_of_isDigit (Numeral.isDigit_of_mem_decimal hc)⟩

theorem isDigit_of_mem_padded {k n : Nat} {c : Char} (h : c ∈ padded k n) : c.isDigit = true := by
  rcases List.mem_append.mp h with h | h
  · rw [List.eq_of_mem_replicate h]
    rfl
  · exact Numeral.isDigit_of_mem_decimal h

theorem padded_ne_nil (k n : Nat) : padded k n ≠ [] := by
  simp [padded,padLeft,Numeral.decimal_ne_nil]

theorem isWord_padded (k n : Nat) : IsWord (padded k n) :=
  ⟨padded_ne_nil k n,fun _ hc => nonblank_of_isDigit (isDigit_of_mem_padded hc)⟩

theorem isWord_dayName : ∀ w < 7, IsWord (shortName (dayNames.getD w "") ++ [',']) := by
  decide

theorem isWord_monthName : ∀ m < 12, IsWord (shortName (monthNames.getD m "")) := by
  decide

/-- A clock or a zone is made of digits, colons and a sign. -/
theorem isWord_of_marks {w : Chars} (hne : w ≠ []) (h : ∀ c ∈ w, c.isDigit = true ∨ c ∈ [':','+','-']) :
    IsWord w := by
  refine ⟨hne,fun c hc => ?_⟩
  rcases h c hc with hd | hmark
  · exact nonblank_of_isDigit hd
  · exact (by decide : IsWord [':','+','-']).2 c hmark

theorem marks_zoneText {negative : Bool} {h m : Nat} :
    ∀ c ∈ zoneText negative h m, c.isDigit = true ∨ c ∈ [':','+','-'] := by
  intro c hc
  simp only [zoneText,List.mem_cons,List.mem_append] at hc
  rcases hc with rfl | hc | hc
  · cases negative <;> simp
  · exact .inl (isDigit_of_mem_padded hc)
  · exact .inl (isDigit_of_mem_padded hc)

theorem marks_clock {h m s : Nat} :
    ∀ c ∈ padded 2 h ++ ':' :: padded 2 m ++ ':' :: padded 2 s, c.isDigit = true ∨ c ∈ [':','+','-'] := by
  intro c hc
  simp only [List.mem_cons,List.mem_append] at hc
  rcases hc with (hc | rfl | hc) | rfl | hc
  · exact .inl (isDigit_of_mem_padded hc)
  · simp
  · exact .inl (isDigit_of_mem_padded hc)
  · simp
  · exact .inl (isDigit_of_mem_padded hc)

theorem isWord_zoneText (negative : Bool) (h m : Nat) : IsWord (zoneText negative h m) :=
  isWord_of_marks (List.cons_ne_nil _ _) marks_zoneText

theorem isWord_clock {h m s : Nat} : IsWord (padded 2 h ++ ':' :: padded 2 m ++ ':' :: padded 2 s) :=
  isWord_of_marks (by simp) marks_clock

/-! ## The whole date -/

/-- The pieces of the format in which the hub writes times. -/
def mailPieces : List Piece := [
  .part .shortDayName,.char ',',.blanks,.part .day,.blanks,.part .shortMonthName,.blanks,.part .year,
  .blanks,.part .hour24,.char ':',.part .minute,.char ':',.part .second,.blanks,.part .zone]

theorem parseFormat_mail : parseFormat "%a, %d %b %Y %H:%M:%S %z".toList = .ok mailPieces := by
  decide

def mailWords (t : DateTime) (zone : Chars) : List Chars := [
  shortName (dayNames.getD t.date.weekday "") ++ [','],padded 2 t.date.day,
  shortName (monthNames.getD (t.date.month - 1) ""),decimal t.date.year,
  padded 2 t.hour ++ ':' :: padded 2 t.minute ++ ':' :: padded 2 t.second,zone]

def mailParts (t : DateTime) (zone : Chars) : List (Directive × Chars) := [
  (.shortDayName,shortName (dayNames.getD t.date.weekday "")),(.day,padded 2 t.date.day),
  (.shortMonthName,shortName (monthNames.getD (t.date.month - 1) "")),(.year,decimal t.date.year),
  (.hour24,padded 2 t.hour),(.minute,padded 2 t.minute),(.second,padded 2 t.second),(.zone,zone)]

theorem mailText_eq {t : DateTime} {o : Int} (h : t.offset = some o) :
    t.mailText = join [' '] (mailWords t (offsetText [] o)) := by
  simp [DateTime.mailText,Date.mailText,join,mailWords,h]

/-- Times that the hub can write and read back: the year has four digits, and the zone is less than a day
and a whole number of minutes away from universal time. -/
structure DateTime.InMailRange (t : DateTime) : Prop where
  year : 1000 ≤ t.date.year
  zone : ∃ o, t.offset = some o ∧ o.natAbs < microsPerDay ∧ ((60 * microsPerSecond : Nat) : Int) ∣ o

theorem exists_zoneOffset {o : Int} (h : o.natAbs < microsPerDay)
    (hdvd : ((60 * microsPerSecond : Nat) : Int) ∣ o) :
    ∃ negative, ∃ h < 24, ∃ m < 60, (h = 0 → m = 0 → negative = false) ∧ o = zoneOffset negative h m := by
  have hmicros : ((60 * microsPerSecond : Nat) : Int) = 60000000 := rfl
  have hday : microsPerDay = 86400000000 := rfl
  obtain ⟨k,rfl⟩ := hdvd
  rw [hmicros,hday] at *
  refine ⟨decide (k < 0),k.natAbs / 60,by omega,k.natAbs % 60,by omega,?_,?_⟩
  · simp only [decide_eq_false_iff_not]
    omega
  · simp only [zoneOffset,microsPerSecond,decide_eq_true_eq]
    split <;> omega

theorem isValid_fields {t : DateTime} (ht : t.isValid = true) : t.date.year ≤ maxYear ∧ 1 ≤ t.date.month ∧
    t.date.month ≤ 12 ∧ 1 ≤ t.date.day ∧ t.date.day ≤ 31 ∧ t.hour < 24 ∧ t.minute < 60 ∧ t.second < 60 := by
  simp only [DateTime.isValid,Date.isValid,Bool.and_eq_true,decide_eq_true_eq] at ht
  have hdays : daysInMonth t.date.year t.date.month ≤ 31 := by
    unfold daysInMonth
    split_ifs <;> omega
  omega

section
variable {t : DateTime} {h m : Nat} (hh : h < 24) (hm : m < 60) (negative : Bool)
include hh hm

theorem readPieces_mail (ht : t.isValid = true) (hy : 1000 ≤ t.date.year) :
    readPieces mailPieces (join [' '] (mailWords t (zoneText negative h m))) =
      some (mailParts t (zoneText negative h m),[]) := by
  obtain ⟨hyear,hmonth,hmonth',hday,hday',hhour,hminute,hsecond⟩ := isValid_fields ht
  have hcolon : sameLetter ':' ':' = true := by decide
  have hcomma : sameLetter ',' ',' = true := by decide
  have hzone := readPieces_part (takes_zone hh hm negative) (rfl : readPieces [] [] = some ([],[]))
  rw [List.append_nil] at hzone
  simp only [join,mailWords,List.append_assoc,List.cons_append,List.nil_append]
  refine readPieces_part (takes_dayName _ (Nat.mod_lt _ (by decide)) _) ?_
  rw [readPieces_char hcomma,readPieces_blanks ((isWord_padded _ _).head_append _)]
  refine readPieces_part (takes_day _ hday hday' _) ?_
  rw [readPieces_blanks ((isWord_monthName _ (by omega)).head_append _)]
  refine readPieces_part (takes_monthName _ (by omega) _) ?_
  rw [readPieces_blanks ((isWord_decimal _).head_append _)]
  refine readPieces_part (takes_year hy hyear _) ?_
  rw [readPieces_blanks ((isWord_padded _ _).head_append _)]
  refine readPieces_part (takes_hour _ hhour _) ?_
  rw [readPieces_char hcolon]
  refine readPieces_part (takes_minute _ hminute _) ?_
  rw [readPieces_char hcolon]
  refine readPieces_part (takes_second _ hsecond _) ?_
  rw [readPieces_blanks (isWord_zoneText _ _ _).head]
  exact hzone

/-- What the parts of a mail date say. -/
def mailReading (t : DateTime) (o : Int) : Reading :=
  {year := some t.date.year,month := t.date.month,day := t.date.day,hour := t.hour,minute := t.minute,
    second := t.second,weekday := some t.date.weekday,offset := some o}

omit hh hm in
theorem dateTime?_mail (ht : t.isValid = true) (hmicro : t.micro = 0) {o : Int}
    (ho : t.offset = some o) (hrange : o.natAbs < microsPerDay) :
    (mailReading t o).dateTime? = some t := by
  have hdate : t.date.isValid = true := by
    simp only [DateTime.isValid,Bool.and_eq_true] at ht
    exact ht.1.1.1.1
  have hfound : (mailReading t o).date? = some t.date := by
    simp [mailReading,Reading.date?,Reading.weeksAgree,Reading.yearDay?,hdate]
  have ht' : ({date := t.date,hour := t.hour,minute := t.minute,second := t.second,offset := some o} :
      DateTime) = t := by
    cases t
    simp_all
  simp only [Reading.dateTime?,hfound]
  simp [mailReading,ht',ht,hrange]

theorem foldlM_mailParts (ht : t.isValid = true) :
    (mailParts t (zoneText negative h m)).foldlM (Reading.take none) {} =
      some (mailReading t (zoneOffset negative h m)) := by
  obtain ⟨hyear,hmonth,hmonth',hday,hday',hhour,hminute,hsecond⟩ := isValid_fields ht
  have hdayName := placeOf?_dayName t.date.weekday (Nat.mod_lt _ (by decide))
  have hmonthName := placeOf?_monthName (t.date.month - 1) (by omega)
  simp only [mailParts,List.foldlM_cons,List.foldlM_nil,Reading.take,hdayName,hmonthName,Option.map_some,
    Option.bind_eq_bind,Option.bind_some,Option.pure_def,readOffset?_zoneText hh hm negative,
    numberOf_decimal,numberOf_padded _ (show t.date.day < 100 by omega),
    numberOf_padded _ (show t.hour < 100 by omega),numberOf_padded _ (show t.minute < 100 by omega),
    numberOf_padded _ (show t.second < 100 by omega),mailReading,Nat.sub_add_cancel hmonth]

theorem readDateTime?_mail (ht : t.isValid = true) (hy : 1000 ≤ t.date.year) (hmicro : t.micro = 0)
    (ho : t.offset = some (zoneOffset negative h m)) :
    readDateTime? mailPieces (join [' '] (mailWords t (zoneText negative h m))) = some t := by
  have hrange : (zoneOffset negative h m).natAbs < microsPerDay := by
    rw [natAbs_zoneOffset]
    exact Nat.mul_lt_mul_of_pos_right (by omega) (by decide)
  have hhalf : (mailParts t (zoneText negative h m)).find? (fun p => p.1 == .halfDay) = none :=
    List.find?_eq_none.mpr (by simp [mailParts])
  unfold readDateTime?
  simp only [readPieces_mail hh hm negative ht hy,hhalf,Option.map_none,
    foldlM_mailParts hh hm negative ht,Option.bind_some]
  exact dateTime?_mail ht hmicro ho hrange

end

/-! ## Other readings -/

/-- Nowhere in a text does the letter `q` follow the letter `p`, in any case. -/
def Apart (p q : Char) (s : Chars) : Prop :=
  s.IsChain fun c d => sameLetter p c = true → sameLetter q d = false

section
variable {p q : Char} {s w : Chars}

theorem dropStartFold?_of_apart (h : Apart p q s) : dropStartFold? (p :: q :: w) s = none := by
  match s, h with
  | [], _ => rfl
  | [c], _ => simp [dropStartFold?]
  | c :: d :: r, h =>
    have hcd := (List.isChain_cons_cons.mp h).1
    by_cases hc : sameLetter p c = true
    · simp [dropStartFold?,hcd hc]
    · simp [dropStartFold?,hc]

theorem hasWord_of_apart (h : Apart p q s) (inWord : Bool) : hasWord (p :: q :: w) inWord s = false := by
  induction s generalizing inWord with
  | nil => rfl
  | cons c r ih => simp [hasWord,dropStartFold?_of_apart h,ih (List.IsChain.tail h)]

theorem hasDay_of_apart (h : Apart p q s) (inWord : Bool) : hasDay (p :: q :: w) inWord s = false := by
  induction s generalizing inWord with
  | nil => rfl
  | cons c r ih => simp [hasDay,dayNameLength?,dropStartFold?_of_apart h,ih (List.IsChain.tail h)]

theorem apart_join (hp : sameLetter p ' ' = false) (hq : sameLetter q ' ' = false) {ws : List Chars}
    (h : ∀ w ∈ ws, Apart p q w) : Apart p q (join [' '] ws) := by
  induction ws with
  | nil => exact .nil
  | cons w ws ih =>
    have hws := ih fun v hv => h v (List.mem_cons_of_mem w hv)
    cases ws with
    | nil => exact h w List.mem_cons_self
    | cons v ws =>
      have hblank : Apart p q (' ' :: join [' '] (v :: ws)) :=
        List.isChain_cons.mpr ⟨fun c _ hc => absurd hc (by simp [hp]),hws⟩
      rw [join,List.append_assoc]
      refine List.isChain_append.mpr ⟨h w List.mem_cons_self,hblank,fun c _ d hd _ => ?_⟩
      obtain rfl : ' ' = d := by simpa using hd
      exact hq

theorem apart_of_others (h : ∀ c ∈ s, sameLetter p c = false) : Apart p q s := by
  induction s with
  | nil => exact .nil
  | cons c r ih =>
    have hc := h c List.mem_cons_self
    exact List.isChain_cons.mpr ⟨fun d _ hp => absurd hp (by simp [hc]),
      ih fun d hd => h d (List.mem_cons_of_mem c hd)⟩

end

theorem exists_digitChar {c : Char} (h : c.isDigit = true) : ∃ n < 10, c = Nat.digitChar n := by
  have hb := Numeral.isDigit_bounds h
  refine ⟨c.toNat - 48,by omega,Char.toNat_inj.mp ?_⟩
  rw [Nat.toNat_digitChar_of_lt_ten (by omega)]
  omega

/-- The beginnings of the words that the other readings look for. -/
def looseStarts : List (Char × Char) := [('a','g'),('t','o'),('y','e')]

theorem apart_of_marks {s : Chars} (h : ∀ c ∈ s, c.isDigit = true ∨ c ∈ [':','+','-']) :
    ∀ start ∈ looseStarts, Apart start.1 start.2 s := by
  have hmarks : ∀ start ∈ looseStarts, ([':','+','-'].all fun c => !sameLetter start.1 c) = true := by
    decide
  have hdigits : ∀ start ∈ looseStarts, ∀ n < 10, sameLetter start.1 (Nat.digitChar n) = false := by
    decide
  refine fun start hstart => apart_of_others fun c hc => ?_
  rcases h c hc with hd | hmark
  · obtain ⟨n,hn,rfl⟩ := exists_digitChar hd
    exact hdigits start hstart n hn
  · simpa using List.all_eq_true.mp (hmarks start hstart) c hmark

theorem apart_dayName : ∀ w < 7, ∀ start ∈ looseStarts,
    Apart start.1 start.2 (shortName (dayNames.getD w "") ++ [',']) := by
  unfold Apart
  decide

theorem apart_monthName : ∀ m < 12, ∀ start ∈ looseStarts,
    Apart start.1 start.2 (shortName (monthNames.getD m "")) := by
  unfold Apart
  decide

section
variable {t : DateTime} (negative : Bool) (h m : Nat)

theorem apart_mail (ht : t.isValid = true) : ∀ start ∈ looseStarts,
    Apart start.1 start.2 (join [' '] (mailWords t (zoneText negative h m))) := by
  obtain ⟨-,hmonth,hmonth',-⟩ := isValid_fields ht
  have hblank : ∀ start ∈ looseStarts, sameLetter start.1 ' ' = false ∧ sameLetter start.2 ' ' = false := by
    decide
  intro start hstart
  refine apart_join (hblank start hstart).1 (hblank start hstart).2 ?_
  simp only [mailWords,List.forall_mem_cons]
  exact ⟨apart_dayName _ (Nat.mod_lt _ (by decide)) start hstart,
    apart_of_marks (fun c hc => .inl (isDigit_of_mem_padded hc)) start hstart,
    apart_monthName _ (by omega) start hstart,
    apart_of_marks (fun c hc => .inl (Numeral.isDigit_of_mem_decimal hc)) start hstart,
    apart_of_marks marks_clock start hstart,apart_of_marks marks_zoneText start hstart,nofun⟩

theorem isWord_mail (ht : t.isValid = true) : ∀ w ∈ mailWords t (zoneText negative h m), IsWord w := by
  obtain ⟨-,hmonth,hmonth',-⟩ := isValid_fields ht
  simp only [mailWords,List.forall_mem_cons]
  exact ⟨isWord_dayName _ (Nat.mod_lt _ (by decide)),isWord_padded _ _,isWord_monthName _ (by omega),
    isWord_decimal _,isWord_clock,isWord_zoneText _ _ _,nofun⟩

end

/-- A mail date begins with a letter. -/
theorem exists_first_letter (t : DateTime) (zone : Chars) : ∃ c r, join [' '] (mailWords t zone) = c :: r ∧
    isBlank c = false ∧ isDecimalDigit c = false ∧ c ≠ '.' ∧ c ≠ '-' := by
  have hname : ∀ w < 7, ∃ c r, shortName (dayNames.getD w "") = c :: r ∧
      isBlank c = false ∧ isDecimalDigit c = false ∧ c ≠ '.' ∧ c ≠ '-' := by
    intro w hw
    interval_cases w <;> exact ⟨_,_,rfl,by decide⟩
  obtain ⟨c,r,hcr,hc⟩ := hname t.date.weekday (Nat.mod_lt _ (by decide))
  exact ⟨c,_,by simp only [mailWords,join,hcr,List.cons_append,List.append_assoc]; rfl,hc⟩

section
variable {c : Char} {r : Chars}

theorem numeralAt_of_letter (hd : isDecimalDigit c = false) (hp : c ≠ '.') : numeralAt (c :: r) = [] := by
  have hrun : (c :: r).takeWhile isDecimalDigit = [] := List.takeWhile_cons_of_neg (by simp [hd])
  simp [numeralAt,hrun,hp]

theorem looksLikeDuration_of_letter (hb : isBlank c = false) (hd : isDecimalDigit c = false) (hp : c ≠ '.') :
    looksLikeDuration (c :: r) = false := by
  have hdrop : (c :: r).dropWhile isBlank = c :: r := List.dropWhile_cons_of_neg (by simp [hb])
  simp [looksLikeDuration,hdrop,numeralAt_of_letter hd hp]

theorem addMissingYear_of_letter (hd : isDecimalDigit c = false) (hh : c ≠ '-') (year : Nat) :
    addMissingYear year (c :: r) = c :: r := by
  have hrun : (c :: r).takeWhile isDecimalDigit = [] := List.takeWhile_cons_of_neg (by simp [hd])
  simp [addMissingYear,hrun,hh]

end

theorem replaceDay_of_not_hasDay {w : String} {s : Chars} (h : hasDay w.toList false s = false) (days : Int)
    (now : DateTime) : replaceDay w days now s = .ok s := by
  simp [replaceDay,h]

/-- A text that has the form of a mail date is read in the first format. -/
theorem readAbsolute?_of_mail {s : Chars} {t : DateTime} (h : readDateTime? mailPieces s = some t) :
    readAbsolute? s = some t.assumeUniversal := by
  unfold readAbsolute? dateFormats
  rw [List.findSome?_cons]
  simp only [parseFormat_mail,h,Option.map_some]

/-- A mail date ends as its zone does. -/
theorem nonblank_last (t : DateTime) {zone : Chars} (h : IsWord zone) :
    ∀ c ∈ (join [' '] (mailWords t zone)).getLast?, isBlank c = false := by
  have hlast := List.getLast?_eq_some_getLast h.1
  intro c hc
  simp only [mailWords,join,List.getLast?_append,hlast,Option.some_or,Option.mem_def,Option.some.injEq] at hc
  exact h.2 c (hc ▸ List.getLast_mem h.1)

/-- A mail date is read as the time that it was written for, at any moment. -/
theorem readFuzzy_mailText {t : DateTime} (ht : t.isValid = true) (h : t.InMailRange) (hmicro : t.micro = 0)
    (now : DateTime) : readFuzzy t.mailText now = .ok t := by
  obtain ⟨hy,o,ho,hrange,hdvd⟩ := h
  obtain ⟨negative,h,hh,m,hm,hsign,rfl⟩ := exists_zoneOffset hrange hdvd
  rw [mailText_eq ho,offsetText_zoneOffset hh hm negative hsign]
  have hapart := apart_mail negative h m ht
  have hread := readDateTime?_mail hh hm negative ht hy hmicro ho
  have hwords := congrArg (join [' ']) (words_join (isWord_mail negative h m ht))
  have hlast := nonblank_last t (isWord_zoneText negative h m)
  obtain ⟨c,r,hcr,hb,hd,hp,hm⟩ := exists_first_letter t (zoneText negative h m)
  generalize join [' '] (mailWords t (zoneText negative h m)) = s at *
  have hago : hasWord ['a','g','o'] false s = false := hasWord_of_apart (hapart ('a','g') (by decide)) false
  have htoday : hasDay "today".toList false s = false := hasDay_of_apart (hapart ('t','o') (by decide)) false
  have htomorrow : hasDay "tomorrow".toList false s = false :=
    hasDay_of_apart (hapart ('t','o') (by decide)) false
  have hyesterday : hasDay "yesterday".toList false s = false :=
    hasDay_of_apart (hapart ('y','e') (by decide)) false
  have hduration : looksLikeDuration s = false := hcr ▸ looksLikeDuration_of_letter hb hd hp
  have hyear : addMissingYear now.date.year s = s := hcr ▸ addMissingYear_of_letter hd hm _
  have htrim : trim s = s := trim_of_ends (by simpa [hcr] using hb) hlast
  have habsolute : readAbsolute? s = some t := by
    rw [readAbsolute?_of_mail hread,DateTime.assumeUniversal,ho]
  unfold readFuzzy
  simp only [hago,hduration,hwords,replaceDay_of_not_hasDay htoday,bind,Except.bind,
    replaceDay_of_not_hasDay htomorrow,replaceDay_of_not_hasDay hyesterday,hyear,htrim,habsolute]
  rfl

end TrackerHub.Time
