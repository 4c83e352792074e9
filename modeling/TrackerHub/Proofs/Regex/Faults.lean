import Mathlib.Data.List.Infix
import TrackerHub.Regex.Parse

/-! # Patterns that ask for too much

A text may break the grammar of patterns, or ask for what no pattern may have: a repetition count beyond
the limit, or two alphabets. The text shows which: it holds the digits of the count, or the switches.
-/
namespace TrackerHub.Regex
open TrackerHub.Text

/-- Marks hold digits in a row. -/
def HoldsDigits (digits : Chars) (marks : List Mark) : Prop :=
  (∀ c ∈ digits, c.isDigit = true) ∧ digits.map Mark.plain <:+: marks

/-- Marks hold a group of switches, and the letter of one. -/
def HoldsSwitch (c : Char) (marks : List Mark) : Prop :=
  [.plain '(',.plain '?'] <:+: marks ∧ .plain c ∈ marks

/-- What the marks of a pattern show of an error. -/
inductive Shows (marks : List Mark) : PatternError → Prop where
  | malformed : Shows marks .malformed
  | countTooLarge {digits : Chars} (h : HoldsDigits digits marks)
      (hlarge : countLimit ≤ Numeral.digitsValue digits) : Shows marks .countTooLarge
  | countTooLong {digits : Chars} (h : HoldsDigits digits marks)
      (hlong : Numeral.maxDigits < digits.length) : Shows marks (.countTooLong digits.length)

/-- The letters of the alphabets that switches choose. -/
def alphabets (f : Flags) : Chars :=
  (if f.ascii then ['a'] else []) ++ if f.unicode then ['u'] else []

/-- A state that reading the marks of a pattern may come to: some marks are left, and the alphabets chosen
are among the switches of the pattern. -/
structure Within (marks : List Mark) (s : ReadState) : Prop where
  input : s.input <:+ marks
  alphabets : ∀ c ∈ alphabets s.flags, HoldsSwitch c marks

/-- Reading has come to a state with the property `Q`, or has failed as the marks show. -/
def Outcome {α : Type} (marks : List Mark) (Q : α → ReadState → Prop) :
    Except PatternError (α × ReadState) → Prop
  | .ok (a,s) => Within marks s ∧ Q a s
  | .error e => Shows marks e

/-- A reader comes from `s` to a state with the property `Q`, or fails as the marks show. -/
def Reads {α : Type} (marks : List Mark) (m : Reader α) (s : ReadState) (Q : α → ReadState → Prop) : Prop :=
  Outcome marks Q (m.run s)

/-- A reader goes on from any state, or fails as the marks show. -/
def Sound {α : Type} (marks : List Mark) (m : Reader α) : Prop :=
  ∀ s, Within marks s → Reads marks m s fun _ _ => True

section
variable {α β : Type} {marks : List Mark} {m : Reader α} {f : α → Reader β} {s : ReadState}
  {Q : α → ReadState → Prop} {R : β → ReadState → Prop}

/-! ## Readers one after another -/

theorem reads_pure {a : α} (hs : Within marks s) (h : Q a s) : Reads marks (pure a) s Q := ⟨hs,h⟩

theorem reads_fail : Reads marks (fail : Reader α) s Q := Shows.malformed

theorem Reads.bind (h : Reads marks m s Q) (hf : ∀ a t, Within marks t → Q a t → Reads marks (f a) t R) :
    Reads marks (m >>= f) s R := by
  rw [Reads,StateT.run_bind]
  rw [Reads] at h
  cases hm : m.run s with
  | error e =>
    rw [hm] at h
    exact h
  | ok r =>
    obtain ⟨a,t⟩ := r
    rw [hm] at h
    exact hf a t h.1 h.2

theorem Sound.bind (h : Sound marks m) (hf : ∀ a, Sound marks (f a)) : Sound marks (m >>= f) :=
  fun s hs => (h s hs).bind fun a t ht _ => hf a t ht

theorem sound_pure (a : α) : Sound marks (pure a) := fun _ hs => reads_pure hs trivial

theorem sound_fail : Sound marks (fail : Reader α) := fun _ _ => reads_fail

theorem Sound.map {g : α → β} (h : Sound marks m) : Sound marks (g <$> m) := by
  rw [map_eq_pure_bind]
  exact h.bind fun a => sound_pure (g a)

theorem reads_get {f : ReadState → Reader β} (h : Reads marks (f s) s R) : Reads marks (get >>= f) s R := h

theorem reads_set {t : ReadState} {m : Reader β} (h : Reads marks m t R) :
    Reads marks (set t >>= fun _ => m) s R := h

theorem Reads.forget (h : Reads marks m s Q) : Reads marks m s fun _ _ => True := by
  rw [Reads] at h ⊢
  cases hm : m.run s with
  | error e =>
    rw [hm] at h
    exact h
  | ok r =>
    rw [hm] at h
    exact ⟨h.1,trivial⟩

/-! ## Marks -/

/-- The state with other marks left. -/
theorem Within.rest (hs : Within marks s) {r : List Mark} (h : r <:+ s.input) :
    Within marks {s with input := r} :=
  ⟨h.trans hs.input,hs.alphabets⟩

theorem sound_peek : Sound marks peek := fun _ hs => reads_get (reads_pure hs trivial)

theorem reads_next (hs : Within marks s) :
    Reads marks next s fun m t => m = s.input.head? ∧ t.input = s.input.tail := by
  refine reads_get ?_
  split
  next hinput => exact reads_pure hs (by simp [hinput])
  next c r hinput => exact reads_set (reads_pure (hs.rest (hinput ▸ List.suffix_cons c r)) (by simp [hinput]))

theorem input_eq_cons {t : ReadState} {c : Mark} (hc : some c = s.input.head?) (ht : t.input = s.input.tail) :
    s.input = c :: t.input := by
  rw [ht]
  exact List.eq_cons_of_mem_head? hc.symm

theorem sound_next : Sound marks next := fun _ hs => (reads_next hs).forget

theorem reads_accept (c : Char) (hs : Within marks s) :
    Reads marks (accept c) s fun found t => found = true → s.input = .plain c :: t.input := by
  refine reads_get ?_
  split
  next d r hinput =>
    split
    next hcd =>
      refine reads_set (reads_pure (hs.rest (hinput ▸ List.suffix_cons _ r)) fun _ => ?_)
      rw [hinput,beq_iff_eq.mp hcd]
    next => exact reads_pure hs nofun
  next => exact reads_pure hs nofun

theorem sound_accept (c : Char) : Sound marks (accept c) := fun _ hs => (reads_accept c hs).forget

theorem sound_expect (c : Char) : Sound marks (expect c) := by
  refine (sound_accept c).bind fun found => ?_
  cases found
  · exact sound_fail
  · exact sound_pure _

theorem takeChars_go_spec (p : Char → Bool) (limit : Nat) (input : List Mark) :
    let r := takeChars.go p limit input
    input = r.1.map .plain ++ r.2 ∧ ∀ c ∈ r.1, p c = true := by
  induction limit generalizing input with
  | zero => simp [takeChars.go]
  | succ limit ih =>
    cases input with
    | nil => simp [takeChars.go]
    | cons m r =>
      cases m with
      | escaped c => simp [takeChars.go]
      | plain c =>
        obtain ⟨hinput,hall⟩ := ih r
        by_cases hc : p c = true
        · simp [takeChars.go,hc,← hinput]
          exact hall
        · simp [takeChars.go,hc]

theorem reads_takeChars (p : Char → Bool) (limit : Nat) (hs : Within marks s) :
    Reads marks (takeChars p limit) s fun cs t =>
      s.input = cs.map .plain ++ t.input ∧ ∀ c ∈ cs, p c = true := by
  refine reads_get ?_
  obtain ⟨hinput,hall⟩ := takeChars_go_spec p limit s.input
  exact reads_set (reads_pure (hs.rest ⟨_,hinput.symm⟩) ⟨hinput,hall⟩)

theorem sound_takeChars (p : Char → Bool) (limit : Nat) : Sound marks (takeChars p limit) :=
  fun _ hs => (reads_takeChars p limit hs).forget

theorem sound_takeUntil (closing : Char) : Sound marks (takeUntil closing) := by
  intro s hs
  refine reads_get ?_
  dsimp only
  split
  next => exact reads_fail
  next c r hdrop =>
    split
    next => exact reads_fail
    next =>
      have hr : r <:+ s.input := (List.suffix_cons c r).trans (hdrop ▸ List.drop_suffix _ _)
      exact reads_set (reads_pure (hs.rest hr) trivial)

/-! ## Characters and sets -/

theorem sound_readHexChar (count : Nat) : Sound marks (readHexChar count) := by
  refine (sound_takeChars _ _).bind fun digits => ?_
  split
  next => split <;> first | exact sound_pure _ | exact sound_fail
  next => exact sound_fail

theorem sound_readNamedChar : Sound marks readNamedChar := by
  refine (sound_expect _).bind fun _ => (sound_takeUntil _).bind fun name => ?_
  split
  next => exact sound_pure _
  next => exact sound_fail

theorem sound_readCodedChar? (c : Char) : Sound marks (readCodedChar? c) := by
  unfold readCodedChar?
  split
  next => exact (sound_readHexChar 2).map
  next => exact (sound_readHexChar 4).map
  next => exact (sound_readHexChar 8).map
  next => exact sound_readNamedChar.map
  next => exact sound_pure _

theorem sound_readSetEscape (c : Char) : Sound marks (readSetEscape c) := by
  unfold readSetEscape
  split
  next => exact sound_pure _
  next => exact sound_pure _
  next =>
    refine (sound_readCodedChar? c).bind fun coded => ?_
    split
    next => exact sound_pure _
    next =>
      split
      next =>
        refine (sound_takeChars _ _).bind fun more => ?_
        dsimp only
        split
        next => exact sound_pure _
        next => exact sound_fail
      next =>
        split
        next => exact sound_fail
        next => exact sound_pure _

theorem sound_checkReference (group : Nat) : Sound marks (checkReference group) := by
  intro s hs
  refine reads_get ?_
  split
  next => exact reads_fail
  next =>
    split
    next =>
      split
      next => exact reads_fail
      next => exact reads_pure hs trivial
    next => exact reads_pure hs trivial

theorem sound_readNumberEscape (c : Char) : Sound marks (readNumberEscape c) := by
  refine (sound_takeChars _ _).bind fun second => ?_
  extract_lets group rest
  have hrest (third : Chars) : Sound marks (rest third) := by
    simp only [rest]
    split
    next =>
      split
      next => exact sound_pure _
      next => exact sound_fail
    next => exact (sound_checkReference _).bind fun _ => sound_pure _
  split
  next => exact (sound_takeChars _ _).bind hrest
  next => exact hrest []

theorem sound_readEscape (c : Char) : Sound marks (readEscape c) := by
  unfold readEscape
  split
  next => exact sound_pure _
  next => exact sound_pure _
  next => exact sound_pure _
  next => exact sound_pure _
  next => exact (sound_takeChars _ _).bind fun _ => sound_pure _
  next =>
    split
    next => exact sound_pure _
    next => exact sound_pure _
    next =>
      refine (sound_readCodedChar? c).bind fun coded => ?_
      split
      next => exact sound_pure _
      next =>
        split
        next => exact sound_readNumberEscape c
        next =>
          split
          next => exact sound_fail
          next => exact sound_pure _

theorem sound_readSetMember (m : Mark) : Sound marks (readSetMember m) := by
  cases m with
  | plain c => exact sound_pure _
  | escaped c => exact sound_readSetEscape c

theorem sound_readSetItems (fuel : Nat) (items : List SetItem) : Sound marks (readSetItems fuel items) := by
  induction fuel generalizing items with
  | zero => exact sound_fail
  | succ fuel ih =>
    refine sound_next.bind fun m => ?_
    split
    next => exact sound_fail
    next m =>
      split
      next => exact sound_pure _
      next =>
        refine (sound_readSetMember m).bind fun first => (sound_accept _).bind fun found => ?_
        split
        next =>
          refine sound_next.bind fun last => ?_
          split
          next => exact sound_fail
          next => exact sound_pure _
          next last _ =>
            refine (sound_readSetMember last).bind fun second => ?_
            split
            next =>
              split
              next => exact sound_fail
              next => exact ih _
            next => exact sound_fail
        next => exact ih _

/-! ## Counts -/

theorem Within.holdsDigits {digits : Chars} {r : List Mark} (hs : Within marks s)
    (hinput : s.input = digits.map .plain ++ r) (h : ∀ c ∈ digits, c.isDigit = true) :
    HoldsDigits digits marks :=
  ⟨h,(hinput ▸ List.infix_append' [] _ r).trans hs.input.isInfix⟩

theorem sound_readCount {digits : Chars} (h : HoldsDigits digits marks) : Sound marks (readCount digits) := by
  intro s hs
  unfold readCount
  split
  next hlong => exact Shows.countTooLong h hlong
  next =>
    split
    next hlarge => exact Shows.countTooLarge h hlarge
    next => exact reads_pure hs trivial

theorem sound_readBounds? : Sound marks readBounds? := by
  intro s hs
  refine reads_get ((sound_peek s hs).bind fun m t ht _ => ?_)
  split
  next => exact reads_pure ht trivial
  next =>
    refine (reads_takeChars _ _ ht).bind fun low u hu hlow => ?_
    have hlow : HoldsDigits low marks := ht.holdsDigits hlow.1 hlow.2
    -- The upper bound is written out or is the lower one; what follows is the same.
    have hrest (high : Chars) (hhigh : HoldsDigits high marks) : Sound marks (do
        if !(← accept '\x7d') then
          set s
          pure none
        else
          let least ← readCount low
          if high.isEmpty then pure (some (least,none))
          else
            let most ← readCount high
            if most < least then fail else pure (some (least,some most))) := by
      refine (sound_accept _).bind fun closed => ?_
      split
      next => exact fun _ _ => reads_set (reads_pure hs trivial)
      next =>
        refine (sound_readCount hlow).bind fun least => ?_
        split
        next => exact sound_pure _
        next =>
          refine (sound_readCount hhigh).bind fun most => ?_
          split
          next => exact sound_fail
          next => exact sound_pure _
    refine (sound_accept _ u hu).bind fun comma v hv _ => ?_
    dsimp only
    split
    next =>
      exact (reads_takeChars _ _ hv).bind fun high w hw hhigh =>
        hrest high (hv.holdsDigits hhigh.1 hhigh.2) w hw
    next => exact hrest low hlow v hv

/-! ## Switches -/

theorem mem_alphabets_iff {f : Flags} {c : Char} :
    c ∈ alphabets f ↔ (f.ascii = true ∧ c = 'a') ∨ (f.unicode = true ∧ c = 'u') := by
  simp only [alphabets,List.mem_append,List.mem_ite_nil_right,List.mem_singleton]

theorem mem_alphabets_union {f g : Flags} {c : Char} :
    c ∈ alphabets (f.union g) ↔ c ∈ alphabets f ∨ c ∈ alphabets g := by
  simp only [mem_alphabets_iff,Flags.union,Bool.or_eq_true]
  tauto

theorem alphabets_flagOf? {c : Char} {f : Flags} (h : flagOf? c = some f) : ∀ x ∈ alphabets f, x = c := by
  unfold flagOf? at h
  split at h <;> cases h <;> simp [alphabets]

theorem plain_mem {c : Char} (hs : Within marks s) {r : List Mark} (h : s.input = .plain c :: r) :
    .plain c ∈ marks :=
  hs.input.subset (h ▸ List.mem_cons_self)

/-- The alphabets that are chosen by letters of the pattern. -/
def FromLetters (marks : List Mark) (f : Flags) : Prop := ∀ x ∈ alphabets f, .plain x ∈ marks

theorem fromLetters_union {f g : Flags} (hf : FromLetters marks f) (hg : FromLetters marks g) :
    FromLetters marks (f.union g) :=
  fun x hx => (mem_alphabets_union.mp hx).elim (hf x) (hg x)

theorem reads_readFlagsOn (fuel : Nat) {on : Flags} {c : Char} (hs : Within marks s)
    (hon : FromLetters marks on) (hc : .plain c ∈ marks) :
    Reads marks (readFlagsOn fuel on c) s fun r _ => FromLetters marks r.1 := by
  induction fuel generalizing on c s with
  | zero => exact reads_fail
  | succ fuel ih =>
    unfold readFlagsOn
    split
    next => exact reads_fail
    next f hf =>
      have hunion : FromLetters marks (on.union f) :=
        fromLetters_union hon fun x hx => alphabets_flagOf? hf x hx ▸ hc
      dsimp only
      split
      next => exact reads_fail
      next =>
        refine (reads_next hs).bind fun m t ht hnext => ?_
        split
        next d =>
          split
          next => exact reads_pure ht hunion
          next => exact ih ht hunion (plain_mem hs (input_eq_cons hnext.1 hnext.2))
        next => exact reads_fail

theorem sound_readFlagsOff (fuel : Nat) (off : Flags) (c : Char) : Sound marks (readFlagsOff fuel off c) := by
  induction fuel generalizing off c with
  | zero => exact sound_fail
  | succ fuel ih =>
    unfold readFlagsOff
    split
    next => exact sound_fail
    next =>
      split
      next => exact sound_fail
      next =>
        refine sound_next.bind fun m => ?_
        split
        next => exact sound_pure _
        next => exact ih _ _
        next => exact sound_fail

/-- What introduces a group sets alphabets by letters of the pattern only. -/
def HeadFromLetters (marks : List Mark) (head : GroupHead) : Prop :=
  ∀ on, head = .flags on → FromLetters marks on

theorem reads_readFlagGroup {c : Char} (hs : Within marks s) (hc : .plain c ∈ marks) :
    Reads marks (readFlagGroup c) s fun head _ => HeadFromLetters marks head := by
  refine reads_get ?_
  extract_lets fuel rest
  have hrest (r : Flags × Char) (hr : FromLetters marks r.1) (t : ReadState) (ht : Within marks t) :
      Reads marks (rest r) t fun head _ => HeadFromLetters marks head := by
    simp only [rest]
    split
    next => exact reads_pure ht fun on hon => GroupHead.flags.inj hon ▸ hr
    next =>
      split
      next => exact reads_fail
      next =>
        split
        next => exact reads_pure ht nofun
        next =>
          refine (sound_next t ht).bind fun m u hu _ => ?_
          split
          next =>
            refine (sound_readFlagsOff _ _ _ u hu).bind fun off v hv _ => ?_
            split
            next => exact reads_pure hv nofun
            next => exact reads_fail
          next => exact reads_fail
  split
  next => exact hrest ({},'-') (by simp [FromLetters,alphabets]) s hs
  next =>
    exact (reads_readFlagsOn fuel hs (by simp [FromLetters,alphabets]) hc).bind fun r t ht hr =>
      hrest r hr t ht

/-! ## Groups -/

theorem reads_skipComment (hs : Within marks s) :
    Reads marks skipComment s fun head _ => ∀ on, head ≠ .flags on := by
  refine reads_get ?_
  split
  next => exact reads_fail
  next c r hdrop =>
    have hr : r <:+ s.input := (List.suffix_cons c r).trans (hdrop ▸ List.dropWhile_suffix _)
    exact reads_set (reads_pure (hs.rest hr) nofun)

theorem reads_readCondition (hs : Within marks s) :
    Reads marks readCondition s fun head _ => ∀ on, head ≠ .flags on := by
  refine (sound_takeUntil _ s hs).bind fun name t ht _ => reads_get ?_
  extract_lets rest
  have hrest (group : Nat) (u : ReadState) (hu : Within marks u) :
      Reads marks (rest group) u fun head _ => ∀ on, head ≠ .flags on := by
    simp only [rest]
    split
    next => exact (sound_checkReference group u hu).bind fun _ v hv _ => reads_pure hv nofun
    next => exact reads_pure hu nofun
  split
  next =>
    split
    next group _ => exact hrest group t ht
    next => exact reads_fail
  next =>
    split
    next n _ =>
      split
      next => exact reads_fail
      next => exact hrest n.toNat _ ⟨ht.input,ht.alphabets⟩
    next => exact reads_fail

theorem Reads.mono {R : α → ReadState → Prop} (h : Reads marks m s Q) (hQ : ∀ a t, Q a t → R a t) :
    Reads marks m s R := by
  rw [Reads] at h ⊢
  cases hm : m.run s with
  | error e =>
    rw [hm] at h
    exact h
  | ok r =>
    rw [hm] at h
    exact ⟨h.1,hQ _ _ h.2⟩

theorem reads_readGroupHead (hs : Within marks s) :
    Reads marks readGroupHead s fun head _ => HeadFromLetters marks head := by
  -- Only a group of switches has letters to account for.
  have hnone {m : Reader GroupHead} {t : ReadState} (h : Reads marks m t fun head _ => ∀ on, head ≠ .flags on) :
      Reads marks m t fun head _ => HeadFromLetters marks head :=
    h.mono fun head _ hhead on hon => absurd hon (hhead on)
  refine (reads_next hs).bind fun m t ht hnext => ?_
  split
  next =>
    refine hnone ((sound_accept _ t ht).bind fun opened u hu _ => ?_)
    split
    next =>
      refine (sound_takeUntil _ u hu).bind fun name v hv _ => ?_
      split
      next => exact reads_pure hv nofun
      next => exact reads_fail
    next =>
      refine (sound_accept _ u hu).bind fun same v hv _ => ?_
      split
      next =>
        refine (sound_takeUntil _ v hv).bind fun name w hw _ => reads_get ?_
        split
        next => exact (sound_checkReference _ w hw).bind fun _ x hx _ => reads_pure hx nofun
        next => exact reads_fail
      next => exact reads_fail
  next => exact reads_pure ht nofun
  next => exact hnone (reads_skipComment ht)
  next => exact reads_pure ht nofun
  next => exact reads_pure ht nofun
  next =>
    refine hnone ((sound_accept _ t ht).bind fun ahead u hu _ => ?_)
    split
    next => exact reads_pure hu nofun
    next =>
      refine (sound_accept _ u hu).bind fun negated v hv _ => ?_
      split
      next => exact reads_pure hv nofun
      next => exact reads_fail
  next => exact hnone (reads_readCondition ht)
  next => exact reads_pure ht nofun
  next => exact reads_readFlagGroup ht (plain_mem hs (input_eq_cons hnext.1 hnext.2))
  next => exact reads_fail

theorem sound_openGroup (name : Option Chars) : Sound marks (openGroup name) := by
  intro s hs
  refine reads_get ?_
  extract_lets rest
  split
  next => exact reads_pure ⟨hs.input,hs.alphabets⟩ trivial
  next =>
    dsimp only
    split
    next => exact reads_fail
    next => exact reads_pure ⟨hs.input,hs.alphabets⟩ trivial

theorem sound_closeGroup (group : Nat) (body : Pattern) : Sound marks (closeGroup group body) :=
  fun _ hs => ⟨⟨hs.input,hs.alphabets⟩,trivial⟩

theorem sound_readGreed : Sound marks readGreed := by
  refine (sound_accept _).bind fun lazy => ?_
  split
  next => exact sound_pure _
  next =>
    refine (sound_accept _).bind fun possessive => ?_
    split
    next => exact sound_pure _
    next => exact sound_pure _

theorem sound_addLoop (parts : List Pattern) (least : Nat) (most : Option Nat) :
    Sound marks (addLoop parts least most) := by
  unfold addLoop
  split
  next => exact sound_fail
  next =>
    split
    next => exact sound_fail
    next => exact sound_readGreed.bind fun _ => sound_pure _

/-! ## Alternatives, sequences and groups -/

/-- The readers that call one another, with some fuel. -/
structure SoundReaders (marks : List Mark) (fuel : Nat) : Prop where
  alt : ∀ verbose nested, Sound marks (readAlt fuel verbose nested)
  more : ∀ verbose nested choices, Sound marks (readMore fuel verbose nested choices)
  seq : ∀ verbose first parts, Sound marks (readSeq fuel verbose first parts)
  group : ∀ verbose head, Sound marks (readGroup fuel verbose head)

theorem reads_peek (hs : Within marks s) : Reads marks peek s fun m t => m = s.input.head? ∧ t = s :=
  reads_get (reads_pure hs ⟨rfl,rfl⟩)

section
variable {fuel : Nat} (h : SoundReaders marks fuel)
include h

theorem sound_readAlt_succ (verbose nested : Bool) : Sound marks (readAlt (fuel + 1) verbose nested) := by
  unfold readAlt
  exact (h.seq _ _ _).bind fun _ => h.more _ _ _

theorem sound_readMore_succ (verbose nested : Bool) (choices : List Pattern) :
    Sound marks (readMore (fuel + 1) verbose nested choices) := by
  unfold readMore
  refine (sound_accept _).bind fun found => ?_
  split
  next => exact fun s hs => reads_get (((h.seq _ _ _).bind fun _ => h.more _ _ _) s hs)
  next =>
    split
    next => exact sound_pure _
    next => exact sound_pure _

theorem sound_readGroup_succ (verbose : Bool) (head : GroupHead) :
    Sound marks (readGroup (fuel + 1) verbose head) := by
  unfold readGroup
  split
  next name =>
    exact (sound_openGroup name).bind fun group => (h.alt _ _).bind fun body => (sound_expect _).bind fun _ =>
      (sound_closeGroup group body).bind fun _ => sound_pure _
  next => exact (h.alt _ _).bind fun _ => (sound_expect _).bind fun _ => sound_pure _
  next => exact (h.alt _ _).bind fun _ => (sound_expect _).bind fun _ => sound_pure _
  next behind negated =>
    intro s hs
    refine reads_get ?_
    extract_lets outer rest
    have hrest : Sound marks (rest ()) := by
      refine (h.alt _ _).bind fun body => ?_
      extract_lets last
      have hlast : Sound marks (last ()) := (sound_expect _).bind fun _ => sound_pure _
      split
      next => exact fun t ht => hlast _ ⟨ht.input,ht.alphabets⟩
      next => exact hlast
    split
    next => exact hrest _ ⟨hs.input,hs.alphabets⟩
    next => exact hrest s hs
  next group =>
    refine (h.seq _ _ _).bind fun yes => (sound_accept _).bind fun found => ?_
    extract_lets rest
    have hrest (no : Option Pattern) : Sound marks (rest no) := (sound_expect _).bind fun _ => sound_pure _
    split
    next => exact (h.seq _ _ _).map.bind hrest
    next => exact hrest none
  next => exact sound_fail

theorem sound_readSeq_succ (verbose first : Bool) (parts : List Pattern) :
    Sound marks (readSeq (fuel + 1) verbose first parts) := by
  intro s hs
  unfold readSeq
  refine (reads_peek hs).bind fun m t ht hpeek => ?_
  obtain ⟨hm,rfl⟩ := hpeek
  split
  next => exact reads_pure ht trivial
  next => exact reads_pure ht trivial
  next => exact reads_pure ht trivial
  next m _ _ =>
    refine (reads_next ht).bind fun m' u hu hnext => ?_
    split
    next => exact (sound_readEscape _ u hu).bind fun _ v hv _ => h.seq _ _ _ v hv
    next =>
      split
      next => exact h.seq _ _ _ u hu
      next =>
        split
        next =>
          have hcomment := hu.rest ((List.drop_suffix 1 _).trans
            (List.dropWhile_suffix fun m => decide (m ≠ .plain '\n')))
          exact reads_get (reads_set (h.seq _ _ _ _ hcomment))
        next =>
          split
          next =>
            exact ((sound_accept _).bind fun _ => (sound_readSetItems _ _).bind fun _ => h.seq _ _ _) u hu
          next => exact ((sound_addLoop _ _ _).bind fun _ => h.seq _ _ _) u hu
          next => exact ((sound_addLoop _ _ _).bind fun _ => h.seq _ _ _) u hu
          next => exact ((sound_addLoop _ _ _).bind fun _ => h.seq _ _ _) u hu
          next =>
            refine (sound_readBounds? u hu).bind fun bounds v hv _ => ?_
            split
            next => exact h.seq _ _ _ v hv
            next => exact ((sound_addLoop _ _ _).bind fun _ => h.seq _ _ _) v hv
          next => exact h.seq _ _ _ u hu
          next => exact h.seq _ _ _ u hu
          next => exact h.seq _ _ _ u hu
          next =>
            refine (reads_accept _ hu).bind fun found v hv hfound => ?_
            extract_lets rest
            -- What follows the head of a group is read in the same way, whether the head is written
            -- out or not.
            have hrest (head : GroupHead)
                (hhead : ∀ on, head = .flags on → ∀ x ∈ alphabets on, HoldsSwitch x marks) :
                Sound marks (rest head) := by
              intro w hw
              simp only [rest]
              split
              next on =>
                split
                next => exact reads_fail
                next =>
                  refine h.seq _ _ _ _ ⟨hw.input,fun x hx => ?_⟩
                  exact (mem_alphabets_union.mp hx).elim (hw.alphabets x) (hhead on rfl x)
              next => exact h.seq _ _ _ w hw
              next => exact h.seq _ _ _ w hw
              next => exact ((h.group _ _).bind fun _ => h.seq _ _ _) w hw
            split
            next hquestion =>
              -- The parenthesis and the question mark stand side by side, so that the switches are
              -- those of a group.
              have hopen : [Mark.plain '(',.plain '?'] <:+: marks := by
                have hinput := input_eq_cons hm hnext.2
                rw [hfound hquestion] at hinput
                have hprefix : [Mark.plain '(',.plain '?'] <+: t.input := ⟨v.input,hinput.symm⟩
                exact hprefix.isInfix.trans ht.input.isInfix
              exact (reads_readGroupHead hv).bind fun head w hw hletters =>
                hrest head (fun on hon x hx => ⟨hopen,hletters on hon x hx⟩) w hw
            next => exact hrest (.capture none) nofun v hv
          next => exact h.seq _ _ _ u hu

end

/-- Whatever the fuel, the readers go on or fail as the marks show. -/
theorem soundReaders (marks : List Mark) (fuel : Nat) : SoundReaders marks fuel := by
  induction fuel with
  | zero => exact ⟨fun _ _ => sound_fail,fun _ _ _ => sound_fail,fun _ _ _ => sound_fail,fun _ _ => sound_fail⟩
  | succ fuel ih =>
    exact ⟨sound_readAlt_succ ih,sound_readMore_succ ih,sound_readSeq_succ ih,sound_readGroup_succ ih⟩

/-! ## The text of a pattern -/

def Mark.spelled : Mark → Chars
  | .plain c => [c]
  | .escaped c => ['\\',c]

theorem spelled_marks {text : Chars} (h : marks? text = some marks) : marks.flatMap Mark.spelled = text := by
  fun_induction marks? text generalizing marks with
  | case1 => cases h; rfl
  | case2 => cases h
  | case3 c r ih =>
    obtain ⟨more,hmore,rfl⟩ := Option.map_eq_some_iff.mp h
    simp [Mark.spelled,ih hmore]
  | case4 c r _ _ ih =>
    obtain ⟨more,hmore,rfl⟩ := Option.map_eq_some_iff.mp h
    simp [Mark.spelled,ih hmore]

/-- What the text of a pattern shows of an error: nothing, the digits of a count, or a group of switches with
the letters of both alphabets. -/
inductive TextShows (text : Chars) : PatternError → Prop where
  | malformed : TextShows text .malformed
  | countTooLarge {digits : Chars} (hdigits : ∀ c ∈ digits, c.isDigit = true) (hrun : digits <:+: text)
      (hlarge : countLimit ≤ Numeral.digitsValue digits) : TextShows text .countTooLarge
  | countTooLong {digits : Chars} (hdigits : ∀ c ∈ digits, c.isDigit = true) (hrun : digits <:+: text)
      (hlong : Numeral.maxDigits < digits.length) : TextShows text (.countTooLong digits.length)
  | alphabetClash (hopen : ['(','?'] <:+: text) (hascii : 'a' ∈ text) (hunicode : 'u' ∈ text) :
      TextShows text .alphabetClash

theorem spelled_plain (run : Chars) : (run.map Mark.plain).flatMap Mark.spelled = run := by
  induction run with
  | nil => rfl
  | cons c run ih => simpa [Mark.spelled] using ih

theorem infix_of_marks {text run : Chars} (h : marks? text = some marks)
    (hrun : run.map Mark.plain <:+: marks) : run <:+: text := by
  obtain ⟨before,after,rfl⟩ := hrun
  refine ⟨before.flatMap Mark.spelled,after.flatMap Mark.spelled,?_⟩
  rw [← spelled_marks h,List.flatMap_append,List.flatMap_append,spelled_plain]

theorem mem_of_marks {text : Chars} {c : Char} (h : marks? text = some marks) (hc : .plain c ∈ marks) :
    c ∈ text := by
  rw [← spelled_marks h]
  exact List.mem_flatMap.mpr ⟨_,hc,List.mem_singleton.mpr rfl⟩

theorem textShows_of_shows {text : Chars} {e : PatternError} (h : marks? text = some marks)
    (he : Shows marks e) : TextShows text e := by
  cases he with
  | malformed => exact .malformed
  | countTooLarge hdigits hlarge => exact .countTooLarge hdigits.1 (infix_of_marks h hdigits.2) hlarge
  | countTooLong hdigits hlong => exact .countTooLong hdigits.1 (infix_of_marks h hdigits.2) hlong

/-- A pattern that cannot be read shows why. -/
theorem textShows_of_parse {text : Chars} {e : PatternError} (h : parse text = .error e) : TextShows text e := by
  unfold parse at h
  cases hmarks : marks? text with
  | none =>
    rw [hmarks] at h
    cases h
    exact .malformed
  | some marks =>
    rw [hmarks] at h
    have hstart : Within marks {input := marks} := ⟨List.suffix_rfl,by simp [alphabets]⟩
    have hread := (soundReaders marks (4 * marks.length + 8)).alt false false _ hstart
    rw [Reads] at hread
    dsimp only at h
    cases hrun : (readAlt (4 * marks.length + 8) false false).run {input := marks} with
    | error e' =>
      rw [hrun] at h hread
      cases h
      exact textShows_of_shows hmarks hread
    | ok r =>
      rw [hrun] at h hread
      obtain ⟨hs,-⟩ := hread
      dsimp only at h
      split at h
      -- Of all that is checked at the end, only the clash of alphabets shows in the pattern.
      next hboth =>
        cases h
        obtain ⟨hascii,hunicode⟩ := Bool.and_eq_true_iff.mp hboth
        obtain ⟨hopen,ha⟩ := hs.alphabets 'a' (mem_alphabets_iff.mpr (.inl ⟨hascii,rfl⟩))
        obtain ⟨-,hu⟩ := hs.alphabets 'u' (mem_alphabets_iff.mpr (.inr ⟨hunicode,rfl⟩))
        exact .alphabetClash (infix_of_marks hmarks hopen) (mem_of_marks hmarks ha) (mem_of_marks hmarks hu)
      next =>
        split at h
        next => cases h; exact .malformed
        next =>
          split at h
          next => cases h; exact .malformed
          next =>
            split at h
            next => cases h
            next => cases h; exact .malformed

end
end TrackerHub.Regex
