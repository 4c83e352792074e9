import Mathlib.Data.List.TakeWhile
import TrackerHub.Proofs.Number.DecimalNumerals
import TrackerHub.Size

/-! # Sizes

A size is a decimal without a sign, and a unit. It is read by rounding twice: the decimal to the nearest
floating-point number, and its product with the unit again; of the result the whole bytes are taken. No step brings
a sign in, so that no size is negative. A size is exact where both roundings are, and a greater decimal of the same
unit is no smaller size.
-/
namespace TrackerHub
open Text (Chars)

/-! ## Signs -/

namespace Binary64

@[simp] theorem isNegative_zero (s : Bool) : (zero s).isNegative = s := rfl

@[simp] theorem isNegative_ofRatio (s : Bool) (num den : Nat) : (ofRatio s num den).isNegative = s := by
  unfold ofRatio
  split
  · rfl
  · dsimp only
    split <;> split <;> rfl

@[simp] theorem isNegative_ofScaled (s : Bool) (m : Nat) (e : Int) : (ofScaled s m e).isNegative = s :=
  isNegative_ofRatio s _ _

@[simp] theorem isNegative_ofDecimal (s : Bool) (digits : Nat) (e : Int) :
    (ofDecimal s digits e).isNegative = s := by
  unfold ofDecimal
  split
  · rfl
  dsimp only
  split
  · rfl
  split
  · rfl
  split <;> exact isNegative_ofRatio s _ _

theorem isNegative_ofInt {n : Int} (h : 0 ≤ n) : (ofInt n).isNegative = false := by
  rw [ofInt,isNegative_ofRatio]
  simpa using h

theorem isNegative_mul {x y : Binary64} (hx : x.isNegative = false) (hy : y.isNegative = false) :
    (x.mul y).isNegative = false := by
  cases x with
  | nan => rfl
  | infinite s =>
    obtain rfl : s = false := hx
    cases y with
    | nan => rfl
    | infinite t =>
      obtain rfl : t = false := hy
      rfl
    | finite t n f =>
      obtain rfl : t = false := hy
      rw [mul]
      split <;> rfl
  | finite s m e =>
    obtain rfl : s = false := hx
    cases y with
    | nan => rfl
    | infinite t =>
      obtain rfl : t = false := hy
      rw [mul]
      split <;> rfl
    | finite t n f =>
      obtain rfl : t = false := hy
      exact isNegative_ofScaled _ _ _

theorem truncate?_nonneg {x : Binary64} {n : Int} (hx : x.isNegative = false)
    (h : x.truncate? = some n) : 0 ≤ n := by
  cases x with
  | nan => cases h
  | infinite s => cases h
  | finite s m e =>
    obtain rfl : s = false := hx
    cases h
    exact Int.natCast_nonneg _

end Binary64

namespace Numeral

theorem hexDigit_ne_minus (n : Nat) : Text.hexDigit n ≠ '-' := by
  unfold Text.hexDigit
  split
  next h =>
    have hdigits : ∀ m < 10, Char.ofNat (48 + m) ≠ '-' := by decide
    exact hdigits n h
  · intro heq
    by_cases hv : (87 + n).isValidChar
    · have haux : Char.ofNatAux (87 + n) hv = '-' := (dif_pos hv).symm.trans heq
      have hcode : 87 + n = 45 := congrArg Char.toNat haux
      omega
    · exact absurd ((dif_neg hv).symm.trans heq) (by decide)

/-- Digits of other scripts and blanks are written in ASCII, which brings no minus in. -/
theorem minus_mem_plain {s : Chars} (h : '-' ∈ plain s) : '-' ∈ s := by
  obtain ⟨c,hc,heq⟩ := List.mem_map.mp h
  unfold plainChar at heq
  split at heq
  · exact heq ▸ hc
  · split at heq
    · exact absurd heq (by decide)
    · split at heq
      next d _ => exact absurd heq (hexDigit_ne_minus d)
      · exact heq ▸ hc

theorem mem_of_mem_trimBy {p : Char → Bool} {s : Chars} {c : Char} (h : c ∈ Text.trimBy p s) :
    c ∈ s := by
  unfold Text.trimBy Text.dropEndWhile at h
  have h₁ := (List.dropWhile_sublist p).subset (List.mem_reverse.mp h)
  exact (List.dropWhile_sublist p).subset (List.mem_reverse.mp h₁)

theorem takeSign_of_not_mem {s : Chars} (h : '-' ∉ s) : (takeSign s).1 = false := by
  unfold takeSign
  split
  · simp at h
  · rfl
  · rfl

theorem isNegative_readUnsigned? {negative : Bool} {s : Chars} {x : Binary64}
    (h : readUnsigned? negative s = some x) (hn : negative = false) : x.isNegative = false := by
  unfold readUnsigned? at h
  dsimp only at h
  split at h
  · cases h
    exact hn
  split at h
  · cases h
    rfl
  -- There are decimal places or none, and in both cases the digits are read without a sign.
  split at h
  all_goals
    split at h
    · cases h
    split at h
    · cases h
      rw [Binary64.isNegative_ofDecimal,hn]
    · cases h

/-- A numeral without a minus writes no negative number. -/
theorem isNegative_readFloat {s : Chars} {x : Binary64} (hs : '-' ∉ s) (h : readFloat s = .ok x) :
    x.isNegative = false := by
  unfold readFloat at h
  dsimp only at h
  split at h
  next y hy =>
    cases h
    split at hy
    · refine isNegative_readUnsigned? hy (takeSign_of_not_mem fun hm => hs ?_)
      apply minus_mem_plain
      split at hm
      · exact mem_of_mem_trimBy (List.mem_filter.mp hm).1
      · exact mem_of_mem_trimBy hm
    · cases hy
  · cases h

end Numeral

theorem minus_not_mem_splitSize {s numeral unit : Chars} (h : splitSize? s = some (numeral,unit)) :
    '-' ∉ numeral := by
  unfold splitSize? at h
  dsimp only at h
  split at h
  · cases h
    intro hm
    exact absurd (List.mem_takeWhile_imp hm) (by decide)
  · cases h

/-- No size is negative. -/
theorem readSize_nonneg {s : Chars} {n : Int} (h : readSize s = .ok n) : 0 ≤ n := by
  unfold readSize at h
  split at h
  · cases h
  next numeral unit hsplit =>
    split at h
    · cases h
    next bytes _ =>
      split at h
      · cases h
      next x hx =>
        split at h
        next m hm =>
          cases h
          refine Binary64.truncate?_nonneg (Binary64.isNegative_mul ?_ ?_) hm
          · exact Numeral.isNegative_readFloat (minus_not_mem_splitSize hsplit) hx
          · exact Binary64.isNegative_ofInt (Int.natCast_nonneg _)
        · cases h

/-! ## Decimals and units -/

open Text Numeral Binary64

/-- Whether a text, its commas passed over, writes a decimal of a unit of so many bytes: the two stand one behind
the other with blanks around them, and the unit in any case. -/
inductive WritesSize (s : Chars) (q : ℚ) (bytes : ℕ) : Prop where
  | intro {lead numeral gap unit trail : Chars} {name : String}
    (hs : s.filter (· != ',') = lead ++ (numeral ++ gap ++ unit) ++ trail) (hnumeral : WritesDecimal numeral q)
    (hname : (name,bytes) ∈ sizeUnits) (hunit : unit.map lowerChar = name.toList)
    (hlead : ∀ c ∈ lead, isBlank c = true) (hgap : ∀ c ∈ gap, isBlank c = true)
    (htrail : ∀ c ∈ trail, isBlank c = true) : WritesSize s q bytes

section
variable {s lead numeral gap unit trail : Chars} {name : String} {bytes : ℕ} {q : ℚ}

/-- The characters of a decimal in any script: digits and the point. -/
def isNumeralChar (c : Char) : Bool := isDecimalDigit c || c == '.'

theorem isCaseless_of_isNumeralChar {c : Char} (h : isNumeralChar c = true) : IsCaseless c ∧ isBlank c = false := by
  rcases Bool.or_eq_true_iff.mp h with h | h
  · obtain ⟨d,hd⟩ := Option.isSome_iff_exists.mp h
    exact ⟨isCaseless_of_digitValue? hd,isBlank_of_digitValue? hd⟩
  · obtain rfl := beq_iff_eq.mp h
    exact ⟨⟨⟨by decide,by decide⟩,by decide⟩,by decide⟩

theorem isNumeralChar_of_isBlank {c : Char} (h : isBlank c = true) : isNumeralChar c = false := by
  rw [← Bool.not_eq_true]
  intro hc
  exact absurd ((isCaseless_of_isNumeralChar hc).2.symm.trans h) (by decide)

theorem isNumeralChar_of_decimal (h : WritesDecimal numeral q) :
    numeral ≠ [] ∧ ∀ c ∈ numeral, isNumeralChar c = true := by
  have hdigits {t : Chars} {ds : List ℕ} (h : AreDigits t ds) : ∀ c ∈ t, isNumeralChar c = true :=
    fun c hc => Bool.or_eq_true_iff.mpr (.inl (h.isDecimalDigit c hc))
  cases h with
  | whole hs hne =>
    refine ⟨?_,hdigits hs⟩
    rintro rfl
    exact hne (List.forall₂_nil_left_iff.mp hs)
  | pointed hs ht _ =>
    exact ⟨by simp,List.forall_mem_append.mpr ⟨hdigits hs,List.forall_mem_cons.mpr ⟨by decide,hdigits ht⟩⟩⟩

/-- No two units have one name, and a name is written in small letters. -/
theorem sizeUnits_spec (h : (name,bytes) ∈ sizeUnits) :
    sizeUnits.find? (fun u => u.1.toList == name.toList) = some (name,bytes) ∧
    (∀ c ∈ name.toList, 'a' ≤ c ∧ c ≤ 'z') ∧ 0 < bytes ∧ bytes ≤ 2 ^ 53 := by
  have htable : ∀ u ∈ sizeUnits, sizeUnits.find? (fun v => v.1.toList == u.1.toList) = some u ∧
      u.1.toList.all (fun c => decide ('a' ≤ c ∧ c ≤ 'z')) = true ∧ 0 < u.2 ∧ u.2 ≤ 2 ^ 53 := by decide +kernel
  obtain ⟨hfind,hsmall,hbytes⟩ := htable _ h
  exact ⟨hfind,fun c hc => of_decide_eq_true (List.all_eq_true.mp hsmall c hc),hbytes⟩

theorem splitSize?_append (hne : numeral ≠ []) (hnumeral : ∀ c ∈ numeral, isNumeralChar c = true)
    (hgap : ∀ c ∈ gap, isBlank c = true) (hunit : ∀ c ∈ unit, 'a' ≤ c ∧ c ≤ 'z') :
    splitSize? (numeral ++ (gap ++ unit)) = some (numeral,unit) := by
  have hletter : ∀ c ∈ unit, isNumeralChar c = false ∧ isBlank c = false := fun c hc => by
    obtain ⟨-,hblank,hdigit,hpoint⟩ := small_letter_spec (hunit c hc)
    exact ⟨by simp [isNumeralChar,hdigit,hpoint],hblank⟩
  have hrest : ∀ c ∈ gap ++ unit, isNumeralChar c = false :=
    List.forall_mem_append.mpr ⟨fun c hc => isNumeralChar_of_isBlank (hgap c hc),fun c hc => (hletter c hc).1⟩
  have htake : (numeral ++ (gap ++ unit)).takeWhile isNumeralChar = numeral :=
    takeWhile_run hnumeral fun c hc => hrest c (List.mem_of_mem_head? hc)
  have hdrop : ((numeral ++ (gap ++ unit)).dropWhile isNumeralChar).dropWhile isBlank = unit := by
    rw [dropWhile_run hnumeral fun c hc => hrest c (List.mem_of_mem_head? hc),
      dropWhile_run hgap fun c hc => (hletter c (List.mem_of_mem_head? hc)).2]
  have hclass : (fun c => isDecimalDigit c || c == '.') = isNumeralChar := rfl
  simp only [splitSize?,hclass,htake,hdrop]
  refine if_pos ?_
  rw [Bool.and_eq_true,List.all_eq_true]
  exact ⟨by simpa using hne,fun c hc => by simpa using hunit c hc⟩

/-- Without a unit the blanks behind the decimal are cut off with those at the end. -/
theorem trim_size (hne : numeral ≠ []) (hnumeral : ∀ c ∈ numeral, isNumeralChar c = true)
    (hlead : ∀ c ∈ lead, isBlank c = true) (hgap : ∀ c ∈ gap, isBlank c = true)
    (hunit : ∀ c ∈ unit, isBlank c = false) (htrail : ∀ c ∈ trail, isBlank c = true) :
    ∃ inner, (∀ c ∈ inner, isBlank c = true) ∧
      trim (lead ++ (numeral ++ gap ++ unit) ++ trail) = numeral ++ (inner ++ unit) := by
  have hblank : ∀ c ∈ numeral, isBlank c = false := fun c hc => (isCaseless_of_isNumeralChar (hnumeral c hc)).2
  rcases List.eq_nil_or_concat unit with rfl | ⟨r,d,rfl⟩
  · refine ⟨[],List.forall_mem_nil _,?_⟩
    have htext : lead ++ (numeral ++ gap ++ []) ++ trail = lead ++ numeral ++ (gap ++ trail) := by simp
    rw [htext,trim_blanks hlead hblank (List.forall_mem_append.mpr ⟨hgap,htrail⟩)]
    simp
  · refine ⟨gap,hgap,?_⟩
    rw [trim_between hlead _ _ htrail,List.append_assoc]
    · obtain ⟨c,t,rfl⟩ := List.exists_cons_of_ne_nil hne
      rintro _ ⟨⟩
      exact hblank c List.mem_cons_self
    · have hlast : (numeral ++ gap ++ r.concat d).getLast? = some d := by simp
      rw [hlast]
      rintro _ ⟨⟩
      exact hunit d (by simp)

/-- Of the text of a size are left its decimal and the name of its unit. -/
theorem WritesSize.split (h : WritesSize s q bytes) : ∃ numeral name, WritesDecimal numeral q ∧
    (name,bytes) ∈ sizeUnits ∧ splitSize? (lower (trim (s.filter (· != ',')))) = some (numeral,name.toList) := by
  obtain @⟨lead,numeral,gap,unit,trail,name,hs,hdecimal,hname,hunit,hlead,hgap,htrail⟩ := h
  obtain ⟨hne,hnumeral⟩ := isNumeralChar_of_decimal hdecimal
  have hletter : ∀ c ∈ unit, (lowerChar c).toNat < 128 ∧ isBlank c = false := fun c hc => by
    obtain ⟨hascii,hblank,-⟩ :=
      small_letter_spec ((sizeUnits_spec hname).2.1 _ (hunit ▸ List.mem_map_of_mem (f := lowerChar) hc))
    refine ⟨hascii,?_⟩
    -- A blank is its own lower-case form, so that it cannot have become a letter.
    rw [← Bool.not_eq_true] at hblank ⊢
    exact fun h => hblank ((isCaseless_of_isBlank h).lowerChar_eq.symm ▸ h)
  obtain ⟨inner,hinner,htrim⟩ := trim_size hne hnumeral hlead hgap (fun c hc => (hletter c hc).2) htrail
  have hcaseless : ∀ c ∈ numeral ++ inner, IsCaseless c := List.forall_mem_append.mpr
    ⟨fun c hc => (isCaseless_of_isNumeralChar (hnumeral c hc)).1,fun c hc => isCaseless_of_isBlank (hinner c hc)⟩
  have hlower : ∀ c ∈ numeral ++ inner ++ unit, HasLowerChar c := List.forall_mem_append.mpr
    ⟨fun c hc => (hcaseless c hc).hasLowerChar,fun c hc => hasLowerChar_of_lt (hletter c hc).1⟩
  refine ⟨numeral,name,hdecimal,hname,?_⟩
  rw [hs,htrim,← List.append_assoc,lower_eq_map hlower,List.map_append,map_lowerChar_of_caseless hcaseless,hunit,
    List.append_assoc,splitSize?_append hne hnumeral hinner (sizeUnits_spec hname).2.1]

/-! ## Reading -/

/-- The product with a unit is rounded, but there is none with what is beyond the numbers. -/
theorem rounds_product {x : Binary64} (hx : Rounds q x) (hbytes : 0 < bytes) (hle : bytes ≤ 2 ^ 53) :
    (IsNearest q x ∧ Rounds (x.toRat * bytes) (x.mul (.ofInt bytes))) ∨
      overflow ≤ q ∧ x.mul (.ofInt bytes) = .infinite false := by
  rcases hx with ⟨-,hnear⟩ | ⟨hq,rfl⟩
  · obtain ⟨m,e,rfl,-⟩ := id hnear
    exact .inl ⟨hnear,rounds_mul_ofInt hle m e⟩
  · exact .inr ⟨hq,infinite_mul_ofInt hle hbytes⟩

/-- A size is the whole part of the product of its rounded decimal and its unit. -/
theorem WritesSize.read (h : WritesSize s q bytes) : 0 < bytes ∧ bytes ≤ 2 ^ 53 ∧ ∃ x, Rounds q x ∧
    readSize s = match (x.mul (.ofInt bytes)).truncate? with
      | some n => .ok n
      | none => .error .unbounded := by
  obtain ⟨numeral,name,hdecimal,hname,hsplit⟩ := h.split
  obtain ⟨hfind,-,hpos,hle⟩ := sizeUnits_spec hname
  obtain ⟨x,hread,hx⟩ := exists_rounds_of_decimal hdecimal
  refine ⟨hpos,hle,x,hx,?_⟩
  cases hbytes : (x.mul (.ofInt bytes)).truncate? <;> simp only [readSize,hsplit,hfind,hread,hbytes]

/-- As long as both roundings stay among the numbers, a size is read. -/
theorem WritesSize.exists_nearest (h : WritesSize s q bytes) (hq : q < overflow) : ∃ x, IsNearest q x ∧
    (x.toRat * bytes < overflow → ∃ y, IsNearest (x.toRat * bytes) y ∧ readSize s = .ok ⌊y.toRat⌋) := by
  obtain ⟨hpos,hle,x,hx,hread⟩ := h.read
  refine ⟨x,hx.isNearest hq,fun hprod => ?_⟩
  rcases rounds_product hx hpos hle with ⟨-,hround⟩ | ⟨hover,-⟩
  · have hy := hround.isNearest hprod
    refine ⟨_,hy,?_⟩
    obtain ⟨m,e,hm,-⟩ := hy
    rw [hread,hm,truncate?_finite]
  · exact absurd hq (not_lt.mpr hover)

/-- Whenever a size is read it is the whole part of the second of two roundings. -/
theorem WritesSize.nearest_of_ok (h : WritesSize s q bytes) {n : ℤ} (hn : readSize s = .ok n) :
    ∃ x y, IsNearest q x ∧ IsNearest (x.toRat * bytes) y ∧ n = ⌊y.toRat⌋ := by
  obtain ⟨hpos,hle,x,hx,hread⟩ := h.read
  rw [hread] at hn
  rcases rounds_product hx hpos hle with ⟨hnear,⟨-,hy⟩ | ⟨-,hinf⟩⟩ | ⟨-,hinf⟩
  · refine ⟨x,_,hnear,hy,?_⟩
    obtain ⟨m,e,hm,-⟩ := hy
    rw [hm,truncate?_finite] at hn
    cases hn
    rw [hm]
  · rw [hinf] at hn
    cases hn
  · rw [hinf] at hn
    cases hn

theorem WritesSize.exact (h : WritesSize s q bytes) (hq : IsNumber q) (hprod : IsNumber (q * bytes)) :
    readSize s = .ok ⌊q * bytes⌋ := by
  obtain ⟨x,hx,hread⟩ := h.exists_nearest hq.lt_overflow
  rw [hx.toRat_eq hq] at hread
  obtain ⟨y,hy,hread⟩ := hread hprod.lt_overflow
  rw [hread,hy.toRat_eq hprod]

theorem WritesSize.whole {n : ℕ} (h : WritesSize s n bytes) (hle : n * bytes ≤ 2 ^ 53) :
    readSize s = .ok (n * bytes : ℕ) := by
  have hprod : IsNumber ((n : ℚ) * bytes) := by exact_mod_cast isNumber_natCast hle
  rw [h.exact (isNumber_natCast ((Nat.le_mul_of_pos_right n h.read.1).trans hle)) hprod]
  exact congrArg Except.ok (by exact_mod_cast Int.floor_natCast (n * bytes))

theorem WritesSize.mono {t : Chars} {r : ℚ} {m n : ℤ} (hs : WritesSize s q bytes) (ht : WritesSize t r bytes)
    (hle : q ≤ r) (hm : readSize s = .ok m) (hn : readSize t = .ok n) : m ≤ n := by
  obtain ⟨x,y,hx,hy,rfl⟩ := hs.nearest_of_ok hm
  obtain ⟨x',y',hx',hy',rfl⟩ := ht.nearest_of_ok hn
  have hprod : x.toRat * bytes ≤ x'.toRat * bytes := mul_le_mul_of_nonneg_right (hx.mono hx' hle) (Nat.cast_nonneg _)
  exact Int.floor_le_floor (hy.mono hy' hprod)

end

/-- A size is the whole part of its decimal rounded, times its unit and rounded again, as long as both are in
range; it is exact where the decimal and the product are numbers, so that whole sizes of up to 53 binary digits
are as they are written; and for one unit a greater decimal is no smaller size. -/
theorem readSize_rounded {s : Chars} {q : ℚ} {bytes : ℕ} (h : WritesSize s q bytes) :
    (q < overflow → ∃ x, IsNearest q x ∧
      (x.toRat * bytes < overflow → ∃ y, IsNearest (x.toRat * bytes) y ∧ readSize s = .ok ⌊y.toRat⌋)) ∧
    (IsNumber q → IsNumber (q * bytes) → readSize s = .ok ⌊q * bytes⌋) ∧
    (∀ n : ℕ, q = n → n * bytes ≤ 2 ^ 53 → readSize s = .ok (n * bytes : ℕ)) ∧
    (∀ t r m n, WritesSize t r bytes → q ≤ r → readSize s = .ok m → readSize t = .ok n → m ≤ n) := by
  refine ⟨h.exists_nearest,h.exact,?_,fun t r m n ht => h.mono ht⟩
  rintro n rfl hle
  exact h.whole hle

theorem readSize_rounded_tebibytes : WritesSize " 2,000.5 TiB".toList (4001 / 2) (1024 ^ 4) ∧
    readSize " 2,000.5 TiB".toList = .ok ⌊(4001 / 2 : ℚ) * (1024 ^ 4 : ℕ)⌋ := by
  have hdecimal : WritesDecimal "2000.5".toList (4001 / 2) := by
    have hdigits : AreDigits "2000".toList [2,0,0,0] := by decide
    have hplaces : AreDigits "5".toList [5] := by decide
    have h := WritesDecimal.pointed hdigits hplaces (by decide)
    norm_num [ofDigits] at h
    exact h
  have hsize : WritesSize " 2,000.5 TiB".toList (4001 / 2) (1024 ^ 4) :=
    @WritesSize.intro _ _ _ [' '] "2000.5".toList [' '] "TiB".toList [] "tib" (by decide) hdecimal (by decide)
      (by decide) (List.all_eq_true.mp rfl) (List.all_eq_true.mp rfl) (List.all_eq_true.mp rfl)
  have hnumber : IsNumber (4001 / 2) := ⟨4001,-1,by norm_num,by decide,by decide,by norm_num⟩
  have hprod : IsNumber (4001 / 2 * (1024 ^ 4 : ℕ)) := ⟨4001,39,by norm_num,by decide,by decide,by norm_num⟩
  exact ⟨hsize,(readSize_rounded hsize).2.1 hnumber hprod⟩

/-- Neither a decimal that is no binary fraction nor a great whole number is read exactly. -/
theorem readSize_inexact :
    (WritesSize "1.001 KB".toList (1001 / 1000) 1000 ∧ ⌊(1001 / 1000 : ℚ) * 1000⌋ = 1001 ∧
      readSize "1.001 KB".toList = .ok 1000) ∧
    WritesSize "9007199254740993".toList 9007199254740993 1 ∧
      readSize "9007199254740993".toList = .ok 9007199254740992 := by
  have hdecimal : WritesDecimal "1.001".toList (1001 / 1000) := by
    have hdigits : AreDigits "1".toList [1] := by decide
    have hplaces : AreDigits "001".toList [0,0,1] := by decide
    have h := WritesDecimal.pointed hdigits hplaces (by decide)
    norm_num [ofDigits] at h
    exact h
  have hwhole : WritesDecimal "9007199254740993".toList 9007199254740993 := by
    have hdigits : AreDigits "9007199254740993".toList [9,0,0,7,1,9,9,2,5,4,7,4,0,9,9,3] := by decide
    have h := WritesDecimal.whole hdigits (by decide)
    norm_num [ofDigits] at h
    exact h
  refine ⟨⟨?_,by norm_num,by decide +kernel⟩,?_,by decide +kernel⟩
  · exact @WritesSize.intro _ _ _ [] "1.001".toList [' '] "KB".toList [] "kb" (by decide) hdecimal (by decide)
      (by decide) (List.all_eq_true.mp rfl) (List.all_eq_true.mp rfl) (List.all_eq_true.mp rfl)
  · exact @WritesSize.intro _ _ _ [] "9007199254740993".toList [] [] [] "" (by decide) hwhole (by decide)
      (by decide) (List.all_eq_true.mp rfl) (List.all_eq_true.mp rfl) (List.all_eq_true.mp rfl)

end TrackerHub
