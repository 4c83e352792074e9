import TrackerHub.Number.DecimalText
import TrackerHub.Proofs.Feed.JsonGrammar
import TrackerHub.Proofs.Number.Numeral

/-! # Numbers in JSON

The decimal numeral of an integer is a number of the grammar, and so is the shortest text of a finite
floating-point number: it begins with no zero that could be left out, because the digits of the shortest decimal
begin with none.
-/
namespace TrackerHub

/-! ## Digits -/

namespace Binary64
open TrackerHub.Text TrackerHub.Numeral

def IsFinite (x : Binary64) : Prop := ∃ s m e, x = .finite s m e

section
variable {n : Nat}

theorem lt_digitCount (n : Nat) : n < 10 ^ digitCount n :=
  (Nat.length_toDigits_le_iff (by decide) Nat.length_toDigits_pos).mp (Nat.le_refl _)

theorem digitCount_le (h : 0 < n) : 10 ^ (digitCount n - 1) ≤ n := by
  rcases Nat.eq_zero_or_pos (digitCount n - 1) with hk | hk
  · rw [hk]
    exact h
  · have hlength := mt (Nat.length_toDigits_le_iff (by decide) hk).mpr
      (show ¬digitCount n ≤ digitCount n - 1 by omega)
    exact Nat.le_of_not_lt hlength

theorem dropZeros_ne_zero (fuel : Nat) (h : n ≠ 0) : dropZeros fuel n ≠ 0 := by
  induction fuel generalizing n with
  | zero => exact h
  | succ fuel ih =>
    rw [dropZeros]
    split
    next hz => exact ih (by omega)
    · exact h

theorem le_divNearestEven (num den : Nat) : num / den ≤ divNearestEven num den := by
  unfold divNearestEven
  dsimp only
  split_ifs <;> omega

end

/-! ## The shortest decimal -/

section
variable {num den : Nat} {p : Int}

/-- A number reaches the power of its first digit. -/
theorem leadingPower_cases (hnum : 0 < num) (hden : 0 < den) :
    (∃ k : Nat, leadingPower num den = k ∧ den * 10 ^ k ≤ num) ∨
    ∃ k : Nat, leadingPower num den = -k ∧ den ≤ num * 10 ^ k := by
  unfold leadingPower
  split
  next h =>
    have hpos := Nat.div_pos h hden
    have hcount : 0 < digitCount (num / den) := Nat.length_toDigits_pos
    refine .inl ⟨digitCount (num / den) - 1,by omega,?_⟩
    calc den * 10 ^ (digitCount (num / den) - 1) ≤ den * (num / den) := Nat.mul_le_mul_left den (digitCount_le hpos)
      _ ≤ num := Nat.mul_div_le num den
  · have hcount : 0 < digitCount (den / num) := Nat.length_toDigits_pos
    dsimp only
    split
    next h => exact .inr ⟨digitCount (den / num) - 1,by omega,h⟩
    · refine .inr ⟨digitCount (den / num),rfl,Nat.le_of_lt ?_⟩
      rw [Nat.mul_comm]
      exact (Nat.div_lt_iff_lt_mul hnum).mp (lt_digitCount (den / num))

/-- At least one unit fits into a number, if the unit is no greater than the power of its first digit. -/
theorem inTens_le (hnum : 0 < num) (hden : 0 < den) (hp : p ≤ leadingPower num den) :
    (inTens num den p).2 ≤ (inTens num den p).1 := by
  unfold inTens
  rcases leadingPower_cases hnum hden with ⟨k,hk,hle⟩ | ⟨k,hk,hle⟩ <;> rw [hk] at hp <;> split
  · calc den * 10 ^ p.toNat ≤ den * 10 ^ k :=
          Nat.mul_le_mul_left den (Nat.pow_le_pow_right (by decide) (by omega))
      _ ≤ num := hle
  · calc den ≤ den * 10 ^ k := Nat.le_mul_of_pos_right den (Nat.pow_pos (by decide))
      _ ≤ num := hle
      _ ≤ num * 10 ^ (-p).toNat := Nat.le_mul_of_pos_right num (Nat.pow_pos (by decide))
  next h =>
    obtain rfl : k = 0 := by omega
    obtain rfl : p = 0 := by omega
    simpa using hle
  · calc den ≤ num * 10 ^ k := hle
      _ ≤ num * 10 ^ (-p).toNat := Nat.mul_le_mul_left num (Nat.pow_le_pow_right (by decide) (by omega))

theorem inTens_pos (hden : 0 < den) : 0 < (inTens num den p).2 := by
  unfold inTens
  split
  · exact Nat.mul_pos hden (Nat.pow_pos (by decide))
  · exact hden

theorem scientificOf_ne_zero {units : Nat} (h : units ≠ 0) : (scientificOf units p).digits ≠ 0 :=
  dropZeros_ne_zero _ h

/-- On each grid the number has a first digit. -/
theorem shortestFrom_ne_zero (near : Neighbourhood) (hnum : 0 < num) (hden : 0 < den) (fuel count : Nat)
    (hcount : 0 < count) : (shortestFrom near num den (leadingPower num den) fuel count).digits ≠ 0 := by
  have hfloor {count : Nat} (hcount : 0 < count) (p : Int) (hp : p = leadingPower num den - count + 1) :
      0 < (inTens num den p).1 / (inTens num den p).2 :=
    Nat.div_pos (inTens_le hnum hden (by omega)) (inTens_pos hden)
  have hrounded {count : Nat} (hcount : 0 < count) (p : Int) (hp : p = leadingPower num den - count + 1) :
      divNearestEven (inTens num den p).1 (inTens num den p).2 ≠ 0 := by
    have := le_divNearestEven (inTens num den p).1 (inTens num den p).2
    have := hfloor hcount p hp
    omega
  induction fuel generalizing count with
  | zero => exact scientificOf_ne_zero (hrounded hcount _ rfl)
  | succ fuel ih =>
    rw [shortestFrom]
    dsimp only
    split_ifs
    · exact scientificOf_ne_zero (hrounded hcount _ rfl)
    · exact scientificOf_ne_zero (Nat.ne_zero_of_lt (hfloor hcount _ rfl))
    · exact scientificOf_ne_zero (Nat.succ_ne_zero _)
    · exact ih (count + 1) (Nat.succ_pos count)

theorem shortest_ne_zero {m : Nat} (hm : m ≠ 0) (e : Int) : (shortest m e).digits ≠ 0 := by
  have hpos : 0 < (ratio m e).1 ∧ 0 < (ratio m e).2 := by
    have hm := Nat.pos_of_ne_zero hm
    unfold ratio inUnits
    split
    · exact ⟨hm,Nat.mul_pos Nat.one_pos (Nat.pow_pos (by decide))⟩
    · exact ⟨Nat.mul_pos hm (Nat.pow_pos (by decide)),Nat.one_pos⟩
  exact shortestFrom_ne_zero _ hpos.1 hpos.2 17 1 Nat.one_pos

end

end Binary64

namespace Json
open TrackerHub.Text TrackerHub.Numeral

/-! ## Integers -/

section
variable {n : Nat} {ds : Chars} {e : Int}

/-- Only the numeral of zero begins with a zero. -/
theorem head_decimal (h : (decimal n).head? = some '0') : n = 0 := by
  induction n using Nat.strongRecOn with
  | ind n ih =>
    unfold decimal at h
    by_cases hn : n < 10
    · rw [Nat.toDigits_of_lt_base hn] at h
      have hdigit : ∀ d < 10, [Nat.digitChar d].head? = some '0' → d = 0 := by decide
      exact hdigit n hn h
    · obtain ⟨c,r,hr⟩ := List.exists_cons_of_ne_nil (decimal_ne_nil (n / 10))
      have hzero := ih (n / 10) (by omega)
      rw [hr] at hzero
      rw [Nat.toDigits_of_base_le (by decide) (by omega),show Nat.toDigits 10 (n / 10) = c :: r from hr] at h
      have := hzero h
      omega

theorem isDigits_decimal (n : Nat) : IsDigits (decimal n) :=
  ⟨decimal_ne_nil n,fun _ => isDigit_of_mem_decimal⟩

theorem isWhole_decimal (n : Nat) : IsWhole (decimal n) :=
  ⟨isDigits_decimal n,fun h => by rw [head_decimal h]; rfl⟩

theorem isNumber_decimalInt (n : Int) : IsNumber (decimalInt n) := by
  have hdecimal (n : Nat) : IsUnsigned (decimal n) := by
    simpa using IsUnsigned.intro (isWhole_decimal n) .none .none
  cases n with
  | ofNat n => exact .plain (hdecimal n)
  | negSucc n => exact .minus (hdecimal (n + 1))

/-! ## Floating-point numbers -/

theorem isDigits_zero : IsDigits ['0'] := by decide

theorem isDigits_padded (pad n : Nat) : IsDigits (List.replicate pad '0' ++ decimal n) := by
  refine ⟨List.append_ne_nil_of_right_ne_nil _ (decimal_ne_nil n),List.forall_mem_append.mpr ⟨fun c hc => ?_,?_⟩⟩
  · rw [List.eq_of_mem_replicate hc]
    decide
  · exact fun _ => isDigit_of_mem_decimal

theorem isExponent_exponentText (e : Int) : IsExponent ('e' :: Binary64.exponentText e) := by
  unfold Binary64.exponentText
  split
  · exact @IsExponent.some 'e' ['-'] _ (.inl rfl) (by decide) (isDigits_padded _ _)
  · exact @IsExponent.some 'e' ['+'] _ (.inl rfl) (by decide) (isDigits_padded _ _)

/-- Digits that begin with no zero are a whole part, whatever digits follow them. -/
theorem isWhole_append {t : Chars} (hd : IsDigits ds) (hz : ds.head? ≠ some '0')
    (ht : ∀ c ∈ t, c.isDigit = true) : IsWhole (ds ++ t) := by
  obtain ⟨d,ds,rfl⟩ := List.exists_cons_of_ne_nil hd.1
  exact ⟨⟨List.cons_ne_nil _ _,List.forall_mem_append.mpr ⟨hd.2,ht⟩⟩,fun h => absurd h hz⟩

theorem isUnsigned_exponential (hd : IsDigits ds) (hz : ds.head? ≠ some '0') (e : Int) :
    IsUnsigned (Binary64.exponential ds e) := by
  obtain ⟨d,ds,rfl⟩ := List.exists_cons_of_ne_nil hd.1
  obtain ⟨hdigit,hdigits⟩ := List.forall_mem_cons.mp hd.2
  have hwhole : IsWhole [d] := ⟨⟨List.cons_ne_nil _ _,by simpa using hdigit⟩,fun h => absurd h hz⟩
  cases ds with
  | nil => exact .intro hwhole .none (isExponent_exponentText e)
  | cons c ds => exact .intro hwhole (.some ⟨List.cons_ne_nil c ds,hdigits⟩) (isExponent_exponentText e)

theorem isUnsigned_positional (hd : IsDigits ds) (hz : ds.head? ≠ some '0') (e : Int) :
    IsUnsigned (if (Binary64.positional ds e).contains '.' then Binary64.positional ds e
      else Binary64.positional ds e ++ ['.','0']) := by
  have hpoint {s : Chars} (h : ∀ c ∈ s, c.isDigit = true) : s.contains '.' = false := by
    rw [← Bool.not_eq_true,List.contains_iff_mem]
    exact fun hmem => absurd (h '.' hmem) (by decide)
  have hzeros (k : Nat) : ∀ c ∈ List.replicate k '0', c.isDigit = true := fun c hc => by
    rw [List.eq_of_mem_replicate hc]
    decide
  unfold Binary64.positional
  split
  · -- A number below one.
    have hfraction : IsDigits (List.replicate ((-e).toNat - 1) '0' ++ ds) :=
      ⟨List.append_ne_nil_of_right_ne_nil _ hd.1,List.forall_mem_append.mpr ⟨hzeros _,hd.2⟩⟩
    rw [if_pos (by simp)]
    simpa [Nat.toDigits_zero,decimal] using IsUnsigned.intro (isWhole_decimal 0) (.some hfraction) .none
  · dsimp only
    split
    · -- All digits stand before the point.
      have hwhole := isWhole_append hd hz (hzeros (e.toNat + 1 - ds.length))
      rw [hpoint hwhole.1.2]
      exact .intro hwhole (.some isDigits_zero) .none
    next hlong =>
      have hsplit := List.take_append_drop (e.toNat + 1) ds
      have hdigits := hd.2
      rw [← hsplit,List.forall_mem_append] at hdigits
      have htake : IsDigits (ds.take (e.toNat + 1)) := ⟨by simp [hd.1],hdigits.1⟩
      have hdrop : IsDigits (ds.drop (e.toNat + 1)) :=
        ⟨mt List.drop_eq_nil_iff.mp hlong,hdigits.2⟩
      have hhead : (ds.take (e.toNat + 1)).head? ≠ some '0' := by simpa [List.head?_take] using hz
      rw [if_pos (by simp)]
      simpa using IsUnsigned.intro (isWhole_append htake hhead (t := []) nofun) (.some hdrop) .none

/-- The text of a finite number is a number of the grammar. -/
theorem isNumber_toText (s : Bool) (m : Nat) (e : Int) : IsNumber (Binary64.finite s m e).toText := by
  have hbody : ∀ body, IsUnsigned body → IsNumber ((if s then ['-'] else []) ++ body) := by
    intro body h
    cases s
    · exact .plain h
    · exact .minus h
  refine hbody _ ?_
  dsimp only
  split
  · exact .intro (isWhole_decimal 0) (.some isDigits_zero) .none
  next hm =>
    have hd := isDigits_decimal (Binary64.shortest m e).digits
    have hz := mt head_decimal (Binary64.shortest_ne_zero hm e)
    split
    · exact isUnsigned_positional hd hz _
    · exact isUnsigned_exponential hd hz _

end

end Json

end TrackerHub
