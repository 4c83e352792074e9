import TrackerHub.Proofs.Number.Numeral

/-! # Texts of integers

Which texts write which integers: a sign, if any, and digits of any script with single underscores
between them, among blanks. A text is read as an integer just when it writes it with no more digits than
a numeral may have.
-/
namespace TrackerHub.Numeral
open TrackerHub.Text

/-- The blanks that may stand around a numeral. The four separators of ASCII are none of them. -/
def IsPadding (c : Char) : Prop := isBlank c = true ∧ ¬(0x1C ≤ c.toNat ∧ c.toNat ≤ 0x1F)

/-- Digits of any script, with their values, and single underscores between them. -/
inductive Digits : Chars → List Nat → Prop where
  | last {c d} (hd : digitValue? c = some d) : Digits [c] [d]
  | cons {c d s ds} (hd : digitValue? c = some d) (hs : Digits s ds) : Digits (c :: s) (d :: ds)
  | underscore {c d s ds} (hd : digitValue? c = some d) (hs : Digits s ds) :
    Digits (c :: '_' :: s) (d :: ds)

/-- What a sign makes of a number. -/
inductive Signed (n : Nat) : Chars → Int → Prop where
  | bare : Signed n [] n
  | plus : Signed n ['+'] n
  | minus : Signed n ['-'] (-n)

/-- The number that has the given decimal digits. -/
def ofDigits (ds : List Nat) : Nat := ds.foldl (fun n d => 10 * n + d) 0

/-- Whether a text writes an integer. -/
inductive Writes : Chars → Int → Prop where
  | intro {before sign digits after ds n} (hbefore : ∀ c ∈ before, IsPadding c)
    (hsign : Signed (ofDigits ds) sign n) (hdigits : Digits digits ds) (hcount : ds.length ≤ maxDigits)
    (hafter : ∀ c ∈ after, IsPadding c) : Writes (before ++ (sign ++ (digits ++ after))) n

/-! ## Characters -/

section
variable {c : Char} {d : Nat}

theorem isBlank_iff : isBlank c = true ↔ ∃ r ∈ blankRanges, r.1 ≤ c.toNat ∧ c.toNat ≤ r.2 := by
  simp [isBlank,inRanges]

theorem toNat_hexDigit (h : d < 10) : (hexDigit d).toNat = 48 + d := by
  have hdigits : ∀ n < 10, (hexDigit n).toNat = 48 + n := by decide
  exact hdigits d h

theorem isDigit_hexDigit (h : d < 10) : (hexDigit d).isDigit = true := by
  have hdigits : ∀ n < 10, (hexDigit n).isDigit = true := by decide
  exact hdigits d h

theorem exists_zero_of_digitValue? (h : digitValue? c = some d) :
    d < 10 ∧ ∃ z ∈ digitZeros, c.toNat = z + d := by
  unfold digitValue? at h
  split at h
  · split at h
    next hd =>
      have hb := isDigit_bounds hd
      obtain rfl : c.toNat - 48 = d := Option.some.inj h
      exact ⟨by omega,48,by decide,by omega⟩
    · cases h
  · obtain ⟨z,hz,rfl⟩ := Option.map_eq_some_iff.mp h
    have hrange := List.find?_some hz
    simp only [Bool.and_eq_true,decide_eq_true_eq] at hrange
    exact ⟨by omega,z,List.mem_of_find?_eq_some hz,by omega⟩

theorem isBlank_of_digitValue? (h : digitValue? c = some d) : isBlank c = false := by
  have hdisjoint : ∀ z ∈ digitZeros, ∀ r ∈ blankRanges, z + 10 ≤ r.1 ∨ r.2 < z := by decide
  obtain ⟨hd,z,hz,hc⟩ := exists_zero_of_digitValue? h
  rw [← Bool.not_eq_true,isBlank_iff]
  rintro ⟨r,hr,hlow,hhigh⟩
  have := hdisjoint z hz r hr
  omega

theorem plainChar_of_digitValue? (h : digitValue? c = some d) : plainChar c = hexDigit d := by
  unfold plainChar
  split
  next hascii =>
    rw [digitValue?,if_pos hascii] at h
    split at h
    next hd =>
      have hb := isDigit_bounds hd
      obtain rfl : c.toNat - 48 = d := Option.some.inj h
      apply Char.toNat_inj.mp
      rw [toNat_hexDigit (by omega)]
      omega
    · cases h
  · rw [if_neg (by simp [isBlank_of_digitValue? h]),h]

theorem exists_digitValue? (h : (plainChar c).isDigit = true) : ∃ d, digitValue? c = some d := by
  unfold plainChar at h
  split at h
  next hascii => exact ⟨_,by rw [digitValue?,if_pos hascii,if_pos h]⟩
  next hascii =>
    split at h
    · exact absurd h (by decide)
    · split at h
      next d hd => exact ⟨d,hd⟩
      · exact absurd (isDigit_bounds h) (by omega)

/-- The signs and the underscore are written as themselves only. -/
theorem plainChar_eq_iff {x : Char} (hx : x.toNat < 128) (hs : x ≠ ' ') (hd : x.isDigit = false) :
    plainChar c = x ↔ c = x := by
  unfold plainChar
  split
  · rfl
  next hascii =>
    have hne : c ≠ x := by
      rintro rfl
      exact hascii hx
    split
    · simp [hs.symm,hne]
    · split
      next d hv =>
        have hdigit := isDigit_hexDigit (exists_zero_of_digitValue? hv).1
        have : hexDigit d ≠ x := by
          rintro rfl
          rw [hdigit] at hd
          cases hd
        simp [this,hne]
      · rfl

theorem isPlainBlank_iff : isPlainBlank c = true ↔ c.toNat = 32 ∨ 9 ≤ c.toNat ∧ c.toNat ≤ 13 := by
  simp [isPlainBlank,← Char.toNat_inj]

/-- Just the padding is skipped. -/
theorem isPlainBlank_plainChar : isPlainBlank (plainChar c) = true ↔ IsPadding c := by
  unfold plainChar IsPadding
  split
  next hascii =>
    rw [isPlainBlank_iff,isBlank_iff]
    simp only [blankRanges,List.mem_cons,List.not_mem_nil,or_false,exists_eq_or_imp,exists_eq_left]
    omega
  next hascii =>
    split
    next hb =>
      simp only [hb,true_and,show isPlainBlank ' ' = true from rfl,true_iff]
      omega
    next hb =>
      simp only [hb,Bool.false_eq_true,false_and,iff_false]
      split
      next d hv =>
        have hd := (exists_zero_of_digitValue? hv).1
        rw [isPlainBlank_iff,toNat_hexDigit hd]
        omega
      · rw [isPlainBlank_iff]
        omega

end
/-! ## Digits -/

theorem plainChar_underscore : plainChar '_' = '_' := rfl

theorem ne_underscore_of_isDigit {c : Char} (h : c.isDigit = true) : c ≠ '_' := by
  rintro rfl
  exact absurd h (by decide)

theorem isDigit_plainChar {c : Char} {d : Nat} (h : digitValue? c = some d) :
    (plainChar c).isDigit = true ∧ (plainChar c).toNat = 48 + d := by
  have hd := (exists_zero_of_digitValue? h).1
  rw [plainChar_of_digitValue? h]
  exact ⟨isDigit_hexDigit hd,toNat_hexDigit hd⟩

section
variable {p : Char → Bool} {a b : Char} {r : Chars}

theorem underscoresBetween_cons (ha : a ≠ '_') (hb : b ≠ '_') :
    underscoresBetween p (a :: b :: r) = underscoresBetween p (b :: r) := by
  simp [underscoresBetween,hb]

theorem underscoresBetween_underscore (ha : a ≠ '_') :
    underscoresBetween p (a :: '_' :: b :: r) = (p a && p b && underscoresBetween p (b :: r)) := by
  simp [underscoresBetween]

/-- An underscore does not come first. -/
theorem isDigit_of_underscoresBetween (h : (a.isDigit || a == '_') = true)
    (hb : underscoresBetween p (a :: r) = true) : a.isDigit = true := by
  rw [Bool.or_eq_true,beq_iff_eq] at h
  rcases h with h | rfl
  · exact h
  · simp [underscoresBetween] at hb

end

namespace Digits
variable {s : Chars} {ds : List Nat}

theorem head (h : Digits s ds) : ∃ c r, s = c :: r ∧ (plainChar c).isDigit = true := by
  cases h with
  | last hd => exact ⟨_,_,rfl,(isDigit_plainChar hd).1⟩
  | cons hd => exact ⟨_,_,rfl,(isDigit_plainChar hd).1⟩
  | underscore hd => exact ⟨_,_,rfl,(isDigit_plainChar hd).1⟩

theorem isNumeral (h : Digits s ds) : ∀ c ∈ s.map plainChar, (c.isDigit || c == '_') = true := by
  induction h with
  | last hd => simp [(isDigit_plainChar hd).1]
  | cons hd _ ih =>
    rw [List.map_cons,List.forall_mem_cons]
    exact ⟨by simp [(isDigit_plainChar hd).1],ih⟩
  | underscore hd _ ih =>
    rw [List.map_cons,List.map_cons,List.forall_mem_cons,List.forall_mem_cons]
    exact ⟨by simp [(isDigit_plainChar hd).1],rfl,ih⟩

theorem underscoresBetween (h : Digits s ds) :
    Numeral.underscoresBetween Char.isDigit (s.map plainChar) = true := by
  induction h with
  | last hd =>
    have hne := ne_underscore_of_isDigit (isDigit_plainChar hd).1
    simp [Numeral.underscoresBetween]
  | cons hd hs ih =>
    obtain ⟨e,r,rfl,he⟩ := hs.head
    have hne := ne_underscore_of_isDigit (isDigit_plainChar hd).1
    exact (underscoresBetween_cons hne (ne_underscore_of_isDigit he)).trans ih
  | underscore hd hs ih =>
    obtain ⟨e,r,rfl,he⟩ := hs.head
    have hdigit := (isDigit_plainChar hd).1
    refine (underscoresBetween_underscore (ne_underscore_of_isDigit hdigit)).trans ?_
    rw [hdigit,he]
    exact ih

theorem countP_isDigit (h : Digits s ds) : (s.map plainChar).countP Char.isDigit = ds.length := by
  induction h with
  | last hd => simp [(isDigit_plainChar hd).1]
  | cons hd _ ih => simp [(isDigit_plainChar hd).1,ih]
  | underscore hd _ ih => simp [(isDigit_plainChar hd).1,plainChar_underscore,ih]

theorem digitsValue (h : Digits s ds) :
    Numeral.digitsValue (s.map plainChar) = ofDigits ds := by
  rw [Numeral.digitsValue,ofDigits]
  generalize 0 = n
  induction h generalizing n with
  | last hd => simp [isDigit_plainChar hd]
  | cons hd _ ih => simpa [isDigit_plainChar hd] using ih _
  | underscore hd _ ih => simpa [isDigit_plainChar hd,plainChar_underscore] using ih _

/-- Digits are what is written with single underscores between digits. -/
theorem exists_of : ∀ {s : Chars}, s ≠ [] →
    (∀ c ∈ s.map plainChar, (c.isDigit || c == '_') = true) →
    Numeral.underscoresBetween Char.isDigit (s.map plainChar) = true → ∃ ds, Digits s ds
  | [],hne,_,_ => absurd rfl hne
  | [c],_,hall,hb => by
    obtain ⟨d,hd⟩ := exists_digitValue? (isDigit_of_underscoresBetween (hall _ List.mem_cons_self) hb)
    exact ⟨[d],.last hd⟩
  | c :: e :: r,_,hall,hb => by
    have hc := isDigit_of_underscoresBetween (hall _ List.mem_cons_self) hb
    have hne := ne_underscore_of_isDigit hc
    obtain ⟨d,hd⟩ := exists_digitValue? hc
    by_cases he : plainChar e = '_'
    · obtain rfl : e = '_' := (plainChar_eq_iff (by decide) (by decide) (by decide)).mp he
      cases r with
      | nil => simp [Numeral.underscoresBetween,he] at hb
      | cons e r =>
        rw [List.map_cons,List.map_cons,List.map_cons,he,underscoresBetween_underscore hne,
          Bool.and_eq_true] at hb
        have hrest := fun x hx => hall x (List.mem_cons_of_mem _ (List.mem_cons_of_mem _ hx))
        obtain ⟨ds,hs⟩ := exists_of (List.cons_ne_nil e r) hrest hb.2
        exact ⟨d :: ds,.underscore hd hs⟩
    · rw [List.map_cons,List.map_cons,underscoresBetween_cons hne he] at hb
      have hrest := fun x hx => hall x (List.mem_cons_of_mem _ hx)
      obtain ⟨ds,hs⟩ := exists_of (List.cons_ne_nil e r) hrest hb
      exact ⟨d :: ds,.cons hd hs⟩

end Digits

/-! ## Integers -/

section
variable {s body blanks : Chars} {negative : Bool} {n : Int}

/-- The longest run of digits and underscores ends before blanks. -/
theorem takeDigits_append (hbody : ∀ c ∈ body, (c.isDigit || c == '_') = true)
    (hblanks : ∀ c ∈ blanks, isPlainBlank c = true) : takeDigits (body ++ blanks) = (body,blanks) := by
  have hstop : ∀ c ∈ blanks, ¬(c.isDigit || c == '_') = true := by
    intro c hc hn
    have hb := isPlainBlank_iff.mp (hblanks c hc)
    rw [Bool.or_eq_true,beq_iff_eq] at hn
    rcases hn with hn | rfl
    · have := isDigit_bounds hn
      omega
    · exact absurd hb (by decide)
  rw [takeDigits,List.takeWhile_append_of_pos hbody,List.dropWhile_append_of_pos hbody]
  cases blanks with
  | nil => simp
  | cons c r => simp [hstop c List.mem_cons_self]

/-- The value of a numeral with its sign. -/
def withSign (negative : Bool) (m : Nat) : Int := if negative then -(m : Int) else m

theorem takeDigits_spec (rest : Chars) : (takeDigits rest).1 ++ (takeDigits rest).2 = rest ∧
    ∀ c ∈ (takeDigits rest).1, (c.isDigit || c == '_') = true :=
  ⟨List.takeWhile_append_dropWhile,
    fun _ hc => List.mem_takeWhile_imp (p := fun c => c.isDigit || c == '_') hc⟩

/-- What is read as an integer is a sign and digits with single underscores between them, among
blanks. -/
theorem readInt_eq_ok_iff_parts : readInt s = .ok n ↔ ∃ negative body blanks,
    takeSign ((plain s).dropWhile isPlainBlank) = (negative,body ++ blanks) ∧
    (∀ c ∈ body, (c.isDigit || c == '_') = true) ∧ (∀ c ∈ blanks, isPlainBlank c = true) ∧
    body ≠ [] ∧ underscoresBetween Char.isDigit body = true ∧
    body.countP Char.isDigit ≤ maxDigits ∧ withSign negative (digitsValue body) = n := by
  unfold readInt
  rcases takeSign ((plain s).dropWhile isPlainBlank) with ⟨negative,rest⟩
  dsimp only
  constructor
  · intro h
    obtain ⟨hsplit,hbody⟩ := takeDigits_spec rest
    split at h
    · cases h
    next hdigits =>
      split at h
      · cases h
      next hcount =>
        split at h
        · cases h
        next hend =>
          simp only [Bool.or_eq_true,Bool.not_eq_true',not_or,Bool.not_eq_false,List.isEmpty_iff]
            at hdigits hend
          exact ⟨negative,_,_,congrArg _ hsplit.symm,hbody,List.dropWhile_eq_nil_iff.mp hend,
            hdigits.1,hdigits.2,Nat.le_of_not_lt hcount,Except.ok.inj h⟩
  · rintro ⟨negative',body,blanks,heq,hbody,hblanks,hne,hb,hcount,rfl⟩
    obtain ⟨rfl,rfl⟩ := Prod.mk.inj heq
    rw [takeDigits_append hbody hblanks]
    dsimp only
    rw [if_neg (by simp [hne,hb]),if_neg (Nat.not_lt.mpr hcount),
      if_neg (by simp [List.dropWhile_eq_nil_iff.mpr hblanks])]
    rfl

end

/-! ## The sign -/

theorem takeSign_of_isDigit {c : Char} {r : Chars} (h : c.isDigit = true) :
    takeSign (c :: r) = (false,c :: r) := by
  unfold takeSign
  split
  next heq =>
    rw [(List.cons.inj heq).1] at h
    cases h
  next heq =>
    rw [(List.cons.inj heq).1] at h
    cases h
  · rfl

/-- A sign and what stands behind it are all of a text. -/
theorem takeSign_eq_iff {s rest : Chars} {negative : Bool} (h : takeSign s = (negative,rest)) :
    ∃ sign, s = sign ++ rest ∧ ∀ n, Signed n sign (withSign negative n) := by
  unfold takeSign at h
  split at h
  · obtain ⟨rfl,rfl⟩ := Prod.mk.inj h
    exact ⟨['-'],rfl,fun _ => .minus⟩
  · obtain ⟨rfl,rfl⟩ := Prod.mk.inj h
    exact ⟨['+'],rfl,fun _ => .plus⟩
  · obtain ⟨rfl,rfl⟩ := Prod.mk.inj h
    exact ⟨[],rfl,fun _ => .bare⟩

/-- A sign in front of a digit is taken off. -/
theorem takeSign_of_signed {m : Nat} {sign r : Chars} {c : Char} {n : Int} (h : Signed m sign n)
    (hc : c.isDigit = true) :
    ∃ negative, takeSign (sign.map plainChar ++ c :: r) = (negative,c :: r) ∧ withSign negative m = n := by
  cases h with
  | bare => exact ⟨false,takeSign_of_isDigit hc,rfl⟩
  | plus => exact ⟨false,rfl,rfl⟩
  | minus => exact ⟨true,rfl,rfl⟩

/-- The characters of a sign stand for themselves. -/
theorem Signed.of_map {m : Nat} {sign : Chars} {n : Int} (h : Signed m (sign.map plainChar) n) :
    Signed m sign n := by
  generalize hs : sign.map plainChar = s at h
  have hchar {c x : Char} (hx : x = '+' ∨ x = '-') (hc : plainChar c = x) : c = x := by
    rcases hx with rfl | rfl <;>
      exact (plainChar_eq_iff (by decide) (by decide) (by decide)).mp hc
  cases h with
  | bare =>
    obtain rfl : sign = [] := List.map_eq_nil_iff.mp hs
    exact .bare
  | plus =>
    obtain ⟨c,rfl,hc⟩ := List.map_eq_singleton_iff.mp hs
    exact hchar (.inl rfl) hc ▸ .plus
  | minus =>
    obtain ⟨c,rfl,hc⟩ := List.map_eq_singleton_iff.mp hs
    exact hchar (.inr rfl) hc ▸ .minus

theorem isPadding_of_map {s : Chars} (h : ∀ c ∈ s.map plainChar, isPlainBlank c = true) :
    ∀ c ∈ s, IsPadding c :=
  fun _ hc => isPlainBlank_plainChar.mp (h _ (List.mem_map_of_mem hc))

theorem isPlainBlank_map {s : Chars} (h : ∀ c ∈ s, IsPadding c) :
    ∀ c ∈ s.map plainChar, isPlainBlank c = true :=
  List.forall_mem_map.mpr fun c hc => isPlainBlank_plainChar.mpr (h c hc)

/-- Neither a sign nor a digit is skipped with the blanks before them. -/
theorem dropWhile_signed {m : Nat} {sign r : Chars} {c : Char} {n : Int} (h : Signed m sign n)
    (hc : c.isDigit = true) :
    (sign.map plainChar ++ c :: r).dropWhile isPlainBlank = sign.map plainChar ++ c :: r := by
  cases h with
  | bare => exact List.dropWhile_cons_of_neg (by simp [isPlainBlank_of_isDigit hc])
  | plus => rfl
  | minus => rfl

/-- A text is read as an integer just when it writes it. -/
theorem readInt_eq_ok_iff {s : Chars} {n : Int} : readInt s = .ok n ↔ Writes s n := by
  rw [readInt_eq_ok_iff_parts]
  constructor
  · rintro ⟨negative,body,blanks,hsign,hbody,hblanks,hne,hb,hcount,rfl⟩
    obtain ⟨signed,hsigned,hvalue⟩ := takeSign_eq_iff hsign
    have hall : s.map plainChar =
        (plain s).takeWhile isPlainBlank ++ (signed ++ (body ++ blanks)) := by
      rw [← hsigned,List.takeWhile_append_dropWhile,plain]
    obtain ⟨before,behind,rfl,hbefore,hbehind⟩ := List.map_eq_append_iff.mp hall
    obtain ⟨sign,numeral,rfl,rfl,hnumeral⟩ := List.map_eq_append_iff.mp hbehind
    obtain ⟨digits,after,rfl,rfl,rfl⟩ := List.map_eq_append_iff.mp hnumeral
    have hpadding : ∀ c ∈ before.map plainChar, isPlainBlank c = true := by
      rw [hbefore]
      exact fun c hc => List.mem_takeWhile_imp hc
    obtain ⟨ds,hdigits⟩ := Digits.exists_of (by simpa using hne) hbody hb
    rw [hdigits.countP_isDigit] at hcount
    rw [hdigits.digitsValue]
    exact .intro (isPadding_of_map hpadding) (hvalue _).of_map hdigits hcount (isPadding_of_map hblanks)
  · rintro @⟨before,sign,digits,after,ds,_,hbefore,hsign,hdigits,hcount,hafter⟩
    obtain ⟨c,r,rfl,hc⟩ := hdigits.head
    obtain ⟨negative,htake,hvalue⟩ := takeSign_of_signed
      (r := r.map plainChar ++ after.map plainChar) hsign hc
    refine ⟨negative,(c :: r).map plainChar,after.map plainChar,?_,hdigits.isNumeral,
      isPlainBlank_map hafter,List.cons_ne_nil _ _,hdigits.underscoresBetween,
      hdigits.countP_isDigit ▸ hcount,hdigits.digitsValue ▸ hvalue⟩
    rw [plain,List.map_append,List.map_append,List.map_append,
      List.dropWhile_append_of_pos (isPlainBlank_map hbefore)]
    exact (congrArg takeSign (dropWhile_signed hsign hc)).trans htake

end TrackerHub.Numeral
