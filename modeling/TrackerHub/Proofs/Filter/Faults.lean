import TrackerHub.Proofs.Filter.Times
import TrackerHub.Proofs.Regex.Faults
import TrackerHub.Proofs.Time.Faults
import TrackerHub.Proofs.Yaml.TokenFaults

/-! # Faults of filters

A filter answers with a text or with an error that says what is wrong with its argument or its input.
Some calls end otherwise, with a fault that no filter reports. Which ones they are can be told from the
call, and a chain of filters ends so just when one of them does.
-/
namespace TrackerHub.Filter
open TrackerHub.Text

/-! ## Dates -/

/-- A date pattern names a part of a date twice. -/
def Repeats (pattern : Chars) : Prop :=
  ∃ ps, Time.pieces? (Time.formatOf pattern) = some ps ∧ ∃ d, 2 ≤ ps.count (.part d)

/-- A date pattern is passed over: it is no format, or it names each part at most once and the text does
not have its form. -/
def PassedOver (value pattern : Chars) : Prop :=
  Time.pieces? (Time.formatOf pattern) = none ∨
    ∃ ps, Time.pieces? (Time.formatOf pattern) = some ps ∧ (∀ d, ps.count (.part d) ≤ 1) ∧
      Time.readDateTime? ps value = none

theorem isSome_repeatedPart?_iff {ps : List Time.Piece} :
    (Time.repeatedPart? ps).isSome ↔ ∃ d, 2 ≤ ps.count (.part d) := by
  induction ps with
  | nil => simp [Time.repeatedPart?]
  | cons p ps ih =>
    cases p with
    | part d =>
      rw [Time.repeatedPart?]
      by_cases hd : Time.Piece.part d ∈ ps
      · have hpos := List.count_pos_iff.mpr hd
        rw [if_pos (List.contains_iff_mem.mpr hd)]
        exact iff_of_true rfl ⟨d,by rw [List.count_cons_self]; omega⟩
      · rw [if_neg (by simpa using hd),ih]
        refine exists_congr fun d' => ?_
        by_cases heq : d = d'
        · subst heq
          rw [List.count_cons_self,List.count_eq_zero_of_not_mem hd]
          omega
        · rw [List.count_cons_of_ne (by simpa using heq)]
    | char c => simpa [Time.repeatedPart?,List.count_cons] using ih
    | blanks => simpa [Time.repeatedPart?,List.count_cons] using ih

theorem parseFormat_cases (pattern : Chars) :
    (Time.pieces? (Time.formatOf pattern) = none ∧
        Time.parseFormat (Time.formatOf pattern) = .error .badDirective) ∨
      (Repeats pattern ∧ ∃ d, Time.parseFormat (Time.formatOf pattern) = .error (.repeatedPart d)) ∨
      ∃ ps, Time.pieces? (Time.formatOf pattern) = some ps ∧ (∀ d, ps.count (.part d) ≤ 1) ∧
        Time.parseFormat (Time.formatOf pattern) = .ok ps := by
  unfold Time.parseFormat
  cases hps : Time.pieces? (Time.formatOf pattern) with
  | none => exact .inl ⟨rfl,rfl⟩
  | some ps =>
    cases hd : Time.repeatedPart? ps with
    | some d =>
      have hrepeats := isSome_repeatedPart?_iff.mp (Option.isSome_iff_exists.mpr ⟨d,hd⟩)
      exact .inr (.inl ⟨⟨ps,hps,hrepeats⟩,d,by simp [hd]⟩)
    | none =>
      refine .inr (.inr ⟨ps,rfl,fun d => ?_,by simp [hd]⟩)
      by_contra hcount
      have hsome : (Time.repeatedPart? ps).isSome = true := isSome_repeatedPart?_iff.mpr ⟨d,by omega⟩
      simp [hd] at hsome

theorem not_passedOver {value pattern : Chars} (h : Repeats pattern) : ¬PassedOver value pattern := by
  obtain ⟨ps,hps,d,hd⟩ := h
  rintro (hnone | ⟨ps',hps',hcount,-⟩)
  · simp [hps] at hnone
  · obtain rfl := Option.some.inj (hps.symm.trans hps')
    have := hcount d
    omega

/-- What a date filter does with a pattern: it passes it over, fails because of it, or reads a date. -/
theorem readDate_cons_cases (value pattern : Chars) (rest : List Chars) :
    (PassedOver value pattern ∧ readDate value (pattern :: rest) = readDate value rest) ∨
      (Repeats pattern ∧ readDate value (pattern :: rest) = .error .repeatedDatePart) ∨
      (¬PassedOver value pattern ∧ ¬Repeats pattern ∧ ∃ text, readDate value (pattern :: rest) = .ok text) := by
  rw [readDate]
  rcases parseFormat_cases pattern with ⟨hnone,hformat⟩ | ⟨hrepeats,d,hformat⟩ | ⟨ps,hps,hcount,hformat⟩
  · exact .inl ⟨.inl hnone,by simp [hformat]⟩
  · exact .inr (.inl ⟨hrepeats,by simp [hformat]⟩)
  · cases hread : Time.readDateTime? ps value with
    | none => exact .inl ⟨.inr ⟨ps,hps,hcount,hread⟩,by simp [hformat,hread]⟩
    | some t =>
      refine .inr (.inr ⟨?_,?_,_,by simp [hformat,hread]; rfl⟩)
      · rintro (hnone | ⟨ps',hps',-,hnone⟩)
        · simp [hps] at hnone
        · obtain rfl := Option.some.inj (hps.symm.trans hps')
          simp [hread] at hnone
      · rintro ⟨ps',hps',d,hd⟩
        obtain rfl := Option.some.inj (hps.symm.trans hps')
        have := hcount d
        omega

/-- A date filter fails without a report just when it comes to a pattern that names a part twice. -/
theorem readDate_fault_iff {value : Chars} {patterns : List Chars} {e : FilterError} :
    (readDate value patterns = .error e ∧ e.isReported = false) ↔ e = .repeatedDatePart ∧
      ∃ before pattern after, patterns = before ++ pattern :: after ∧ (∀ q ∈ before, PassedOver value q) ∧
        Repeats pattern := by
  induction patterns with
  | nil =>
    refine iff_of_false ?_ (by simp)
    rintro ⟨⟨⟩,⟨⟩⟩
  | cons pattern rest ih =>
    -- The pattern that fails is the first one, or one of the rest.
    have hfirst {before after : List Chars} {p : Chars} (h : pattern :: rest = before ++ p :: after) :
        (before = [] ∧ p = pattern) ∨ ∃ more, before = pattern :: more ∧ rest = more ++ p :: after := by
      cases before with
      | nil => exact .inl ⟨rfl,(List.cons.inj h).1.symm⟩
      | cons q more =>
        rw [List.cons_append,List.cons.injEq] at h
        exact .inr ⟨more,by rw [h.1],h.2⟩
    rcases readDate_cons_cases value pattern rest with
      ⟨hpassed,hread⟩ | ⟨hrepeats,hread⟩ | ⟨hnot,hno,text,hread⟩
    · rw [hread,ih]
      refine and_congr_right fun _ => ⟨?_,?_⟩
      · rintro ⟨before,p,after,rfl,hbefore,hp⟩
        exact ⟨pattern :: before,p,after,rfl,List.forall_mem_cons.mpr ⟨hpassed,hbefore⟩,hp⟩
      · rintro ⟨before,p,after,heq,hbefore,hp⟩
        rcases hfirst heq with ⟨rfl,rfl⟩ | ⟨more,rfl,hrest⟩
        · exact absurd hpassed (not_passedOver hp)
        · exact ⟨more,p,after,hrest,(List.forall_mem_cons.mp hbefore).2,hp⟩
    · rw [hread]
      constructor
      · rintro ⟨⟨⟩,-⟩
        exact ⟨rfl,[],pattern,rest,rfl,by simp,hrepeats⟩
      · rintro ⟨rfl,-⟩
        exact ⟨rfl,rfl⟩
    · rw [hread]
      refine iff_of_false (by simp) ?_
      rintro ⟨-,before,p,after,heq,hbefore,hp⟩
      rcases hfirst heq with ⟨rfl,rfl⟩ | ⟨more,rfl,-⟩
      · exact hno hp
      · exact hnot (hbefore pattern List.mem_cons_self)

/-! ## Pieces -/

theorem pieceAt_fault_iff {pieces : List Chars} {position : Int} {e : FilterError} :
    (pieceAt pieces position = .error e ∧ e.isReported = false) ↔ e = .longPosition ∧
      (position < -(pieces.length : Int) ∨ (pieces.length : Int) ≤ position) ∧
        Nat.pow 10 Numeral.maxDigits ≤ position.natAbs := by
  have hnone : (if (if position < 0 then position + pieces.length else position) < 0 then none
      else pieces[(if position < 0 then position + pieces.length else position).toNat]?) = none ↔
      position < -(pieces.length : Int) ∨ (pieces.length : Int) ≤ position := by
    split_ifs <;> simp <;> omega
  unfold pieceAt
  dsimp only
  split
  next piece hpiece =>
    refine iff_of_false (by simp) ?_
    rintro ⟨-,hout,-⟩
    rw [hnone.mpr hout] at hpiece
    cases hpiece
  next hpiece =>
    have hout := hnone.mp hpiece
    split
    next hlong =>
      constructor
      · rintro ⟨⟨⟩,-⟩
        exact ⟨rfl,hout,hlong⟩
      · rintro ⟨rfl,-⟩
        exact ⟨rfl,rfl⟩
    next hshort =>
      refine iff_of_false ?_ fun h => hshort h.2.2
      rintro ⟨⟨⟩,⟨⟩⟩

/-! ## Arguments -/

/-- An argument of two items. -/
def IsPair (args a b : Value) : Prop := args = .list [a,b] ∨ args = .tuple [a,b]

/-- An argument of one date pattern, or of a list of them. -/
def IsPatterns (args : Value) (patterns : List String) : Prop :=
  (∃ pattern, args = .text pattern ∧ patterns = [pattern]) ∨
    args = .list (patterns.map .text) ∨ args = .tuple (patterns.map .text)

/-- An error that a known filter reports about its argument or its input. -/
def IsComplaint (e : FilterError) : Prop := e.isReported = true ∧ ∀ n, e ≠ .unknown n

section
variable {name : String} {args : Value}

theorem textArg_eq_ok {s : Chars} : textArg name args = .ok s ↔ ∃ t, args = .text t ∧ s = t.toList := by
  unfold textArg
  split <;> simp_all [eq_comm]

theorem failsIn_textArg : FailsIn IsComplaint (textArg name args) := by
  unfold textArg
  split
  · exact .ok
  · exact .error ⟨rfl,nofun⟩

theorem pairArgs_eq_ok {a b : Value} : pairArgs name args = .ok (a,b) ↔ IsPair args a b := by
  unfold pairArgs IsPair
  split <;> simp_all

theorem failsIn_pairArgs : FailsIn IsComplaint (pairArgs name args) := by
  unfold pairArgs
  split
  · exact .ok
  · exact .ok
  · exact .error ⟨rfl,nofun⟩

/-- The text of an item of a list of date patterns. -/
def patternText (name : String) (args : Value) : Value → Except FilterError Chars
  | .text s => .ok s.toList
  | _ => .error (.badArgument name args.kindName)

theorem patternText_eq_ok {v : Value} {s : Chars} :
    patternText name args v = .ok s ↔ ∃ t, v = .text t ∧ s = t.toList := by
  cases v <;> simp [patternText,eq_comm]

theorem mapM_patternText_eq_ok {items : List Value} {ps : List Chars} :
    items.mapM (patternText name args) = .ok ps ↔
      ∃ patterns : List String, items = patterns.map .text ∧ ps = patterns.map String.toList := by
  constructor
  · intro h
    induction items generalizing ps with
    | nil =>
      cases h
      exact ⟨[],rfl,rfl⟩
    | cons v items ih =>
      obtain ⟨s,rest,hs,hrest,rfl⟩ := mapM_cons_eq_ok.mp h
      obtain ⟨t,rfl,rfl⟩ := patternText_eq_ok.mp hs
      obtain ⟨patterns,rfl,rfl⟩ := ih hrest
      exact ⟨t :: patterns,rfl,rfl⟩
  · rintro ⟨patterns,rfl,rfl⟩
    rw [List.mapM_map]
    exact mapM_eq_map fun t _ => rfl

theorem datePatterns_list (items : List Value) :
    datePatterns name (.list items) = items.mapM (patternText name (.list items)) := by
  refine congrArg items.mapM (funext fun v => ?_)
  cases v <;> rfl

theorem datePatterns_tuple (items : List Value) :
    datePatterns name (.tuple items) = items.mapM (patternText name (.tuple items)) := by
  refine congrArg items.mapM (funext fun v => ?_)
  cases v <;> rfl

theorem datePatterns_eq_ok {ps : List Chars} : datePatterns name args = .ok ps ↔
    ∃ patterns, IsPatterns args patterns ∧ ps = patterns.map String.toList := by
  cases args with
  | text s => simp [datePatterns,IsPatterns,eq_comm]
  | list items => 
    rw [datePatterns_list,mapM_patternText_eq_ok]
    simp [IsPatterns]
  | tuple items =>
    rw [datePatterns_tuple,mapM_patternText_eq_ok]
    simp [IsPatterns]
  | _ => simp [datePatterns,IsPatterns]

theorem failsIn_patternText (v : Value) : FailsIn IsComplaint (patternText name args v) := by
  unfold patternText
  split
  · exact .ok
  · exact .error ⟨rfl,nofun⟩

theorem failsIn_datePatterns : FailsIn IsComplaint (datePatterns name args) := by
  cases args with
  | text s => exact .ok
  | list items =>
    rw [datePatterns_list]
    exact .mapM fun v _ => failsIn_patternText v
  | tuple items =>
    rw [datePatterns_tuple]
    exact .mapM fun v _ => failsIn_patternText v
  | _ => exact .error ⟨rfl,nofun⟩

end

/-! ## Faults -/

/-- The calls of filters that end with a fault, and the fault. -/
inductive Fault (value : Chars) (now : Time.DateTime) : String → Value → FilterError → Prop where
  /-- A text is split at nothing. -/
  | emptySeparator {args : Value} {position : Int} (hargs : IsPair args (.text "") (.int position)) :
      Fault value now "split" args .emptySeparator
  /-- There is no piece at a position that is too long to be written in a report. -/
  | longPosition {args : Value} {sep : String} {position : Int}
      (hargs : IsPair args (.text sep) (.int position)) (hsep : sep ≠ "")
      (hout : position < -((splitOnText sep.toList value).length : Int) ∨
        ((splitOnText sep.toList value).length : Int) ≤ position)
      (hlong : Nat.pow 10 Numeral.maxDigits ≤ position.natAbs) : Fault value now "split" args .longPosition
  /-- No date pattern fits before one that names a part of a date twice. -/
  | repeatedDatePart {name : String} {args : Value} {before after : List String} {pattern : String}
      (hname : name ∈ ["dateparse","timeparse"]) (hargs : IsPatterns args (before ++ pattern :: after))
      (hbefore : ∀ q ∈ before, PassedOver value q.toList) (hrepeats : Repeats pattern.toList) :
      Fault value now name args .repeatedDatePart
  /-- A pattern has a repetition count beyond the limit. -/
  | patternCount {pattern : String} (hparse : Regex.parse pattern.toList = .error .countTooLarge) :
      Fault value now "regexp" (.text pattern) .patternCount
  /-- A pattern has a repetition count with too many digits. -/
  | patternDigits {pattern : String} {count : Nat}
      (hparse : Regex.parse pattern.toList = .error (.countTooLong count)) :
      Fault value now "regexp" (.text pattern) (.patternDigits count)
  /-- A pattern chooses two alphabets. -/
  | patternAlphabet {pattern : String} (hparse : Regex.parse pattern.toList = .error .alphabetClash) :
      Fault value now "regexp" (.text pattern) .patternAlphabet
  /-- A time is read that is not in the calendar. -/
  | time {name : String} {args : Value} {cause : Time.TimeError} (hname : name ∈ fuzzyNames)
      (h : Time.TimeFault value now cause) : Fault value now name args (.timeOutOfRange cause)

section
variable {name : String} {args : Value} {value : Chars} {now : Time.DateTime} {e : FilterError}

theorem not_isReported_of_fault (h : Fault value now name args e) : e.isReported = false := by
  cases h <;> rfl

theorem run_split {sep : String} {position : Int} (h : IsPair args (.text sep) (.int position)) :
    run "split" args value now = splitPiece sep.toList position value := by
  rcases h with rfl | rfl <;> rfl

theorem run_dates (hname : name ∈ ["dateparse","timeparse"]) :
    run name args value now = datePatterns name args >>= readDate value := by
  simp only [List.mem_cons,List.not_mem_nil,or_false] at hname
  rcases hname with rfl | rfl <;> rfl

/-- A filter ends with a fault if its call is one of those. -/
theorem run_of_fault (hnow : now.isValid = true) (h : Fault value now name args e) :
    run name args value now = .error e := by
  cases h with
  | emptySeparator hargs =>
    rw [run_split hargs]
    rfl
  | @longPosition _ sep _ hargs hsep hout hlong =>
    have hne : sep.toList.isEmpty = false := by simpa using hsep
    rw [run_split hargs,splitPiece,hne]
    exact (pieceAt_fault_iff.mpr ⟨rfl,hout,hlong⟩).1
  | repeatedDatePart hname hargs hbefore hrepeats =>
    rw [run_dates hname,datePatterns_eq_ok.mpr ⟨_,hargs,rfl⟩]
    refine (readDate_fault_iff.mpr ⟨rfl,_,_,_,List.map_append ..,?_,hrepeats⟩).1
    simpa using hbefore
  | patternCount hparse =>
    show matchPattern _ value = _
    rw [matchPattern,hparse]
  | patternDigits hparse =>
    show matchPattern _ value = _
    rw [matchPattern,hparse]
  | patternAlphabet hparse =>
    show matchPattern _ value = _
    rw [matchPattern,hparse]
  | time hname h =>
    obtain ⟨hread,hreadable⟩ := (Time.readFuzzy_fault_iff hnow).mpr h
    rw [run_fuzzy hname,normalTime,hread]
    exact if_neg (by simp [hreadable])

/-! ## Nothing else -/

/-- An error is a complaint about the call, or a fault of it. -/
def Accounted (value : Chars) (now : Time.DateTime) (name : String) (args : Value) (e : FilterError) : Prop :=
  IsComplaint e ∨ Fault value now name args e

theorem failsIn_queryParameter (param value : Chars) :
    FailsIn IsComplaint (queryParameter param value) := by
  unfold queryParameter
  split
  · exact .error ⟨rfl,nofun⟩
  · dsimp only
    split <;> exact .ok

theorem failsIn_matchPattern (pattern : String) :
    FailsIn (Accounted value now "regexp" (.text pattern)) (matchPattern pattern.toList value) := by
  unfold matchPattern
  split
  next => exact .error (.inl ⟨rfl,nofun⟩)
  next h => exact .error (.inr (.patternCount h))
  next h => exact .error (.inr (.patternDigits h))
  next h => exact .error (.inr (.patternAlphabet h))
  next =>
    dsimp only
    split
    next => exact .error (.inl ⟨rfl,nofun⟩)
    next => exact .ok

theorem failsIn_readDate (value : Chars) (patterns : List Chars) :
    FailsIn (fun e => e.isReported = true → IsComplaint e) (readDate value patterns) := by
  induction patterns with
  | nil => exact .error fun h => ⟨h,nofun⟩
  | cons pattern rest ih =>
    rcases readDate_cons_cases value pattern rest with ⟨-,hread⟩ | ⟨-,hread⟩ | ⟨-,-,text,hread⟩
    · exact hread ▸ ih
    · exact hread ▸ .error nofun
    · exact hread ▸ .ok

theorem failsIn_pieceAt (pieces : List Chars) (position : Int) :
    FailsIn (fun e => e.isReported = true → IsComplaint e) (pieceAt pieces position) := by
  unfold pieceAt
  dsimp only
  split
  next => exact .ok
  next =>
    split
    next => exact .error nofun
    next => exact .error fun h => ⟨h,nofun⟩

theorem failsIn_dates (hname : name ∈ ["dateparse","timeparse"]) :
    FailsIn (Accounted value now name args) (datePatterns name args >>= readDate value) := by
  refine (failsIn_datePatterns.mono fun _ => .inl).bind fun ps hps e he => ?_
  cases hreported : e.isReported with
  | true => exact .inl (failsIn_readDate value ps e he hreported)
  | false =>
    obtain ⟨rfl,before,pattern,after,rfl,hbefore,hrepeats⟩ := readDate_fault_iff.mp ⟨he,hreported⟩
    obtain ⟨patterns,hargs,hpatterns⟩ := datePatterns_eq_ok.mp hps
    obtain ⟨before,rest,rfl,rfl,hrest⟩ := List.append_eq_map_iff.mp hpatterns
    obtain ⟨pattern,after,rfl,rfl,rfl⟩ := List.map_eq_cons_iff.mp hrest
    exact .inr (.repeatedDatePart hname hargs (by simpa using hbefore) hrepeats)

theorem failsIn_splitPiece {sep : String} {position : Int} (hargs : IsPair args (.text sep) (.int position)) :
    FailsIn (Accounted value now "split" args) (splitPiece sep.toList position value) := by
  unfold splitPiece
  split
  next hempty =>
    obtain rfl : sep = "" := by simpa using hempty
    exact .error (.inr (.emptySeparator hargs))
  next hsep =>
    intro e he
    cases hreported : e.isReported with
    | true => exact .inl (failsIn_pieceAt _ _ e he hreported)
    | false =>
      obtain ⟨rfl,hout,hlong⟩ := pieceAt_fault_iff.mp ⟨he,hreported⟩
      exact .inr (.longPosition hargs (by simpa using hsep) hout hlong)

theorem failsIn_normalTime (hnow : now.isValid = true) (hname : name ∈ fuzzyNames) :
    FailsIn (Accounted value now name args) (normalTime value now) := by
  unfold normalTime
  split
  next => exact .ok
  next e he =>
    split
    next => exact .error (.inl ⟨rfl,nofun⟩)
    next hreadable =>
      exact .error (.inr (.time hname ((Time.readFuzzy_fault_iff hnow).mp ⟨he,by simpa using hreadable⟩)))

/-- A known filter that fails complains about its call, or ends with a fault. -/
theorem failsIn_run (hnow : now.isValid = true) (hname : name ∈ names) (args : Value) (value : Chars) :
    FailsIn (Accounted value now name args) (run name args value now) := by
  have htext {name : String} : FailsIn (Accounted value now name args) (textArg name args) :=
    failsIn_textArg.mono fun _ => .inl
  have hpair {name : String} : FailsIn (Accounted value now name args) (pairArgs name args) :=
    failsIn_pairArgs.mono fun _ => .inl
  unfold run
  split
  next => exact htext.bind fun param _ => (failsIn_queryParameter param value).mono fun _ => .inl
  next => exact failsIn_dates (by simp)
  next => exact failsIn_dates (by simp)
  next =>
    refine htext.bind fun pattern hpattern => ?_
    obtain ⟨text,rfl,rfl⟩ := textArg_eq_ok.mp hpattern
    exact failsIn_matchPattern text
  next =>
    refine hpair.bind fun pair hargs => ?_
    obtain ⟨sep,position⟩ := pair
    dsimp only
    split
    next => exact failsIn_splitPiece (pairArgs_eq_ok.mp hargs)
    next => exact .error (.inl ⟨rfl,nofun⟩)
    next => exact .error (.inl ⟨rfl,nofun⟩)
  next =>
    refine hpair.bind fun pair _ => ?_
    obtain ⟨old,new⟩ := pair
    dsimp only
    split
    next => exact .pure
    next => exact .error (.inl ⟨rfl,nofun⟩)
  next =>
    split
    next => exact .ok
    next => exact htext.bind fun _ _ => .pure
  next => exact htext.bind fun _ _ => .pure
  next => exact htext.bind fun _ _ => .pure
  next => exact failsIn_normalTime hnow (by decide)
  next => exact failsIn_normalTime hnow (by decide)
  next => exact failsIn_normalTime hnow (by decide)
  next =>
    simp_all [names]

theorem run_of_not_mem (hname : name ∉ names) : run name args value now = .error (.unknown name) := by
  unfold run
  split
  all_goals first | rfl | exact absurd (by decide) hname

end

/-! ## Calls and chains of calls -/

section
variable {now : Time.DateTime} {name : String} {args : Value} {value : Chars}

theorem run_unreported_iff (hnow : now.isValid = true) {e : FilterError} :
    (run name args value now = .error e ∧ e.isReported = false) ↔ Fault value now name args e := by
  constructor
  · rintro ⟨he,hunreported⟩
    by_cases hname : name ∈ names
    · exact (failsIn_run hnow hname args value e he).resolve_left fun h => by simp [h.1] at hunreported
    · rw [run_of_not_mem hname] at he
      cases he
      cases hunreported
  · intro h
    exact ⟨run_of_fault hnow h,not_isReported_of_fault h⟩

theorem run_unknown_iff (hnow : now.isValid = true) {n : String} :
    run name args value now = .error (.unknown n) ↔ n = name ∧ name ∉ names := by
  constructor
  · intro h
    by_cases hname : name ∈ names
    · rcases failsIn_run hnow hname args value _ h with hcomplaint | hfault
      · exact absurd rfl (hcomplaint.2 n)
      · cases not_isReported_of_fault hfault
    · rw [run_of_not_mem hname] at h
      cases h
      exact ⟨rfl,hname⟩
  · rintro ⟨rfl,hname⟩
    exact run_of_not_mem hname

end

/-- A chain of calls ends with an error just when one of its calls does, which those before it lead to. -/
theorem runAll_eq_error_iff {now : Time.DateTime} {calls : List FilterCall} {value : Chars} {e : FilterError} :
    runAll calls value now = .error e ↔ ∃ before c after v, calls = before ++ c :: after ∧
      runAll before value now = .ok v ∧ run c.name c.args v now = .error e := by
  induction calls generalizing value with
  | nil => simp [runAll,pure,Except.pure]
  | cons c calls ih =>
    have hcons (cs : List FilterCall) :
        runAll (c :: cs) value now = run c.name c.args value now >>= fun v => runAll cs v now :=
      List.foldlM_cons
    rw [hcons]
    constructor
    · intro h
      cases hrun : run c.name c.args value now with
      | error e' =>
        rw [hrun] at h
        cases h
        exact ⟨[],c,calls,value,rfl,rfl,hrun⟩
      | ok v =>
        rw [hrun] at h
        obtain ⟨before,d,after,w,rfl,hbefore,hd⟩ := ih.mp h
        refine ⟨c :: before,d,after,w,rfl,?_,hd⟩
        rw [hcons,hrun]
        exact hbefore
    · rintro ⟨before,d,after,v,hcalls,hbefore,hd⟩
      cases before with
      | nil =>
        obtain ⟨rfl,-⟩ := List.cons.inj hcalls
        cases hbefore
        rw [hd]
        rfl
      | cons c' before =>
        rw [List.cons_append,List.cons.injEq] at hcalls
        obtain ⟨rfl,rfl⟩ := hcalls
        obtain ⟨w,hw,hbefore⟩ := bind_eq_ok.mp ((hcons before).symm.trans hbefore)
        rw [hw]
        exact ih.mpr ⟨before,d,after,v,rfl,hbefore,hd⟩

/-- A call of a filter, or a chain of calls, ends with an error that is not reported just when it comes to one
of the faults. A name that is not known is reported as such, and no other one is. A refused pattern shows
why: by the digits of a count, or by its switches. -/
theorem unreported_iff_fault {now : Time.DateTime} (hnow : now.isValid = true) :
    (∀ name args value e,
      (run name args value now = .error e ∧ e.isReported = false) ↔ Fault value now name args e) ∧
    (∀ calls value e,
      (runAll calls value now = .error e ∧ e.isReported = false) ↔
        ∃ before c after v, calls = before ++ c :: after ∧ runAll before value now = .ok v ∧
          Fault v now c.name c.args e) ∧
    (∀ name args value n, run name args value now = .error (.unknown n) ↔ n = name ∧ name ∉ names) ∧
    ∀ pattern e, Regex.parse pattern = .error e → Regex.TextShows pattern e := by
  refine ⟨fun _ _ _ _ => run_unreported_iff hnow,fun calls value e => ?_,fun _ _ _ _ => run_unknown_iff hnow,
    fun _ _ => Regex.textShows_of_parse⟩
  rw [runAll_eq_error_iff]
  constructor
  · rintro ⟨⟨before,c,after,v,hcalls,hbefore,hc⟩,hunreported⟩
    exact ⟨before,c,after,v,hcalls,hbefore,(run_unreported_iff hnow).mp ⟨hc,hunreported⟩⟩
  · rintro ⟨before,c,after,v,hcalls,hbefore,hfault⟩
    obtain ⟨hc,hunreported⟩ := (run_unreported_iff hnow).mpr hfault
    exact ⟨⟨before,c,after,v,hcalls,hbefore,hc⟩,hunreported⟩

/-- A chain that trims a text and then splits it at nothing. -/
theorem split_at_nothing_unreported :
    let now : Time.DateTime := {date := ⟨2009,11,10⟩,hour := 23}
    now.isValid = true ∧
      runAll [⟨"trim",.null⟩,⟨"split",.list [.text "",.int 0]⟩] " a/b".toList now = .error .emptySeparator := by
  intro now
  have hnow : now.isValid = true := by decide
  have hfault : Fault "a/b".toList now "split" (.list [.text "",.int 0]) .emptySeparator :=
    .emptySeparator (.inl rfl)
  exact ⟨hnow,(((unreported_iff_fault hnow).2.1 _ _ _).mpr
    ⟨[⟨"trim",.null⟩],_,[],"a/b".toList,rfl,by rfl,hfault⟩).1⟩

end TrackerHub.Filter
