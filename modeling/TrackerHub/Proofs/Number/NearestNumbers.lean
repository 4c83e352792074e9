import Mathlib.Algebra.Order.Field.Power
import Mathlib.Data.Nat.Cast.Order.Field
import Mathlib.Data.Rat.Floor
import Mathlib.Tactic.FieldSimp
import Mathlib.Tactic.Linarith
import Mathlib.Tactic.Positivity
import TrackerHub.Number.Binary64

/-! # Nearest numbers

A ratio is rounded to the nearest of the floating-point numbers, a tie to the even mantissa, as long as it is
not beyond all of them; there is one such number, a number is nearest to itself, and of two ratios the greater
one is not rounded to the lesser number. The operations round the exact result.
-/
namespace TrackerHub.Binary64

/-- The exact value of a finite number. -/
def toRat : Binary64 → ℚ
  | .finite s m e => (if s then -1 else 1) * (m * 2 ^ e)
  | _ => 0

/-- A mantissa and an exponent of a number: the mantissa has 53 bits but at the least exponent. -/
structure IsNormal (m : ℕ) (e : ℤ) : Prop where
  lt : m < 2 ^ 53
  minExponent_le : minExponent ≤ e
  le_maxExponent : e ≤ maxExponent
  le : 2 ^ 52 ≤ m ∨ e = minExponent

/-- The ratios that are floating-point numbers, of either sign. -/
def IsNumber (q : ℚ) : Prop :=
  ∃ (m : ℕ) (e : ℤ), m < 2 ^ 53 ∧ minExponent ≤ e ∧ e ≤ maxExponent ∧ |q| = m * 2 ^ e

/-- The number without a sign that is nearest to a ratio: no other one is nearer, and if another one is as near
then the mantissa is even. -/
def IsNearest (q : ℚ) (x : Binary64) : Prop :=
  ∃ m e, x = .finite false m e ∧ IsNormal m e ∧
    ∀ y, IsNumber y → |q - x.toRat| < |q - y| ∨ |q - x.toRat| = |q - y| ∧ (y = x.toRat ∨ Even m)

/-- From here on a ratio is at least as near to the next power of two as to any number. -/
def overflow : ℚ := (2 ^ 53 - 1 / 2) * 2 ^ maxExponent

/-- A ratio without a sign is rounded to a number: to the nearest one, or to infinity if it is out of range. -/
def Rounds (q : ℚ) (x : Binary64) : Prop := (q < overflow ∧ IsNearest q x) ∨ (overflow ≤ q ∧ x = .infinite false)

@[simp] theorem toRat_finite (m : ℕ) (e : ℤ) : (finite false m e).toRat = m * 2 ^ e := by
  simp [toRat]

/-! ## Rounding a ratio -/

section
variable {num den : ℕ} {e : ℤ}

theorem inUnits_pos (num : ℕ) (hden : 0 < den) (e : ℤ) : 0 < (inUnits num den e).2 := by
  unfold inUnits
  split
  · exact Nat.mul_pos hden (Nat.pow_pos Nat.two_pos)
  · exact hden

theorem inUnits_ratio (num den : ℕ) (e : ℤ) :
    ((inUnits num den e).1 : ℚ) / (inUnits num den e).2 = num / den / 2 ^ e := by
  unfold inUnits
  split
  next he =>
    obtain ⟨k,rfl⟩ := Int.eq_ofNat_of_zero_le he
    simp [div_div]
  next he =>
    obtain ⟨k,hk⟩ := Int.eq_ofNat_of_zero_le (show 0 ≤ -e by omega)
    obtain rfl : e = -k := by omega
    simp [mul_div_right_comm]

/-- Rounding to a natural number goes at most half a unit, and half a unit only to an even number. -/
theorem divNearestEven_bounds (num : ℕ) {den : ℕ} (hden : 0 < den) :
    2 * num ≤ 2 * (divNearestEven num den * den) + den ∧ 2 * (divNearestEven num den * den) ≤ 2 * num + den ∧
    (2 * num = 2 * (divNearestEven num den * den) + den ∨ 2 * (divNearestEven num den * den) = 2 * num + den →
      Even (divNearestEven num den)) := by
  have hsplit : num / den * den + num % den = num := Nat.div_add_mod' num den
  have hnext : (num / den + 1) * den = num / den * den + den := Nat.succ_mul _ _
  have hmod := Nat.mod_lt num hden
  unfold divNearestEven
  dsimp only
  split_ifs with hlow hhigh heven
  · exact ⟨by omega,by omega,fun h => absurd h (by omega)⟩
  · rw [hnext]
    exact ⟨by omega,by omega,fun h => absurd h (by omega)⟩
  · exact ⟨by omega,by omega,fun _ => Nat.even_iff.mpr heven⟩
  · rw [hnext]
    exact ⟨by omega,by omega,fun _ => by rw [Nat.even_iff]; omega⟩

theorem abs_sub_divNearestEven (num : ℕ) {den : ℕ} (hden : 0 < den) :
    |(num : ℚ) / den - divNearestEven num den| ≤ 1 / 2 ∧
    (|(num : ℚ) / den - divNearestEven num den| = 1 / 2 → Even (divNearestEven num den)) := by
  obtain ⟨hup,hdown,heven⟩ := divNearestEven_bounds num hden
  have hpos : (0 : ℚ) < den := Nat.cast_pos.mpr hden
  generalize divNearestEven num den = m at *
  have hscale : (num : ℚ) / den - m = (num - m * den) / den := by field_simp
  have hupq : 2 * (num : ℚ) ≤ 2 * (m * den) + den := by exact_mod_cast hup
  have hdownq : 2 * ((m : ℚ) * den) ≤ 2 * num + den := by exact_mod_cast hdown
  rw [hscale,abs_div,abs_of_pos hpos,div_le_iff₀ hpos,div_eq_iff hpos.ne']
  refine ⟨abs_le.mpr ⟨by linarith,by linarith⟩,fun htie => heven ?_⟩
  rcases abs_eq (by positivity) |>.mp htie with h | h
  · left
    have : 2 * (num : ℚ) = 2 * (m * den) + den := by linarith
    exact_mod_cast this
  · right
    have : 2 * ((m : ℚ) * den) = 2 * num + den := by linarith
    exact_mod_cast this

theorem two_zpow_pos (e : ℤ) : (0 : ℚ) < 2 ^ e := zpow_pos two_pos e

/-- In units of the chosen exponent the ratio has 53 binary digits before the point, but at the least exponent. -/
theorem exponentFor_spec (hnum : 0 < num) (hden : 0 < den) :
    minExponent ≤ exponentFor num den ∧ (num : ℚ) / den / 2 ^ exponentFor num den < 2 ^ 53 ∧
    (2 ^ 52 ≤ (num : ℚ) / den / 2 ^ exponentFor num den ∨ exponentFor num den = minExponent) := by
  have hd : (0 : ℚ) < den := Nat.cast_pos.mpr hden
  set guess : ℤ := (num.log2 : ℤ) - den.log2 - 52 with hguess
  have hlow : (2 : ℚ) ^ 51 < (num : ℚ) / den / 2 ^ guess := by
    have hn : (2 : ℚ) ^ (num.log2 : ℤ) ≤ num := by exact_mod_cast Nat.log2_self_le hnum.ne'
    have hl : (den : ℚ) < 2 ^ ((den.log2 : ℤ) + 1) := by exact_mod_cast Nat.lt_log2_self
    rw [lt_div_iff₀ (two_zpow_pos _),lt_div_iff₀ hd]
    calc (2 : ℚ) ^ 51 * 2 ^ guess * den < 2 ^ 51 * 2 ^ guess * 2 ^ ((den.log2 : ℤ) + 1) := by gcongr
      _ = 2 ^ (num.log2 : ℤ) := by
        rw [← zpow_natCast,← zpow_add₀ two_ne_zero,← zpow_add₀ two_ne_zero]
        congr 1
        push_cast
        omega
      _ ≤ num := hn
  have hhigh : (num : ℚ) / den / 2 ^ guess < 2 ^ 53 := by
    have hn : (num : ℚ) < 2 ^ ((num.log2 : ℤ) + 1) := by exact_mod_cast Nat.lt_log2_self
    have hl : (2 : ℚ) ^ (den.log2 : ℤ) ≤ den := by exact_mod_cast Nat.log2_self_le hden.ne'
    rw [div_lt_iff₀ (two_zpow_pos _),div_lt_iff₀ hd]
    calc (num : ℚ) < 2 ^ ((num.log2 : ℤ) + 1) := hn
      _ = 2 ^ 53 * 2 ^ guess * 2 ^ (den.log2 : ℤ) := by
        rw [← zpow_natCast,← zpow_add₀ two_ne_zero,← zpow_add₀ two_ne_zero]
        congr 1
        push_cast
        omega
      _ ≤ 2 ^ 53 * 2 ^ guess * den := by gcongr
  -- The guess is one too high just when there are only 52 digits.
  obtain ⟨e,hexp,hlt,hle⟩ : ∃ e, exponentFor num den = max e minExponent ∧
      (num : ℚ) / den / 2 ^ e < 2 ^ 53 ∧ 2 ^ 52 ≤ (num : ℚ) / den / 2 ^ e := by
    have hunits := inUnits_ratio num den guess
    have hb : (0 : ℚ) < (inUnits num den guess).2 := Nat.cast_pos.mpr (inUnits_pos num hden guess)
    rw [div_eq_iff hb.ne'] at hunits
    refine ⟨_,rfl,?_⟩
    dsimp only
    rw [← hguess]
    split_ifs with hsmall
    · have hsmall' : (num : ℚ) / den / 2 ^ guess < 2 ^ 52 := by
        have h : ((inUnits num den guess).1 : ℚ) < 2 ^ 52 * (inUnits num den guess).2 := by exact_mod_cast hsmall
        rw [hunits] at h
        exact lt_of_mul_lt_mul_right h hb.le
      rw [zpow_sub_one₀ two_ne_zero,← div_div,div_inv_eq_mul]
      constructor <;> linarith
    · have hlarge : (2 : ℚ) ^ 52 * (inUnits num den guess).2 ≤ (inUnits num den guess).1 := by
        exact_mod_cast Nat.le_of_not_lt hsmall
      rw [hunits] at hlarge
      exact ⟨hhigh,le_of_mul_le_mul_right hlarge hb⟩
  rw [hexp]
  rcases le_total minExponent e with h | h
  · rw [max_eq_left h]
    exact ⟨h,hlt,.inl hle⟩
  · rw [max_eq_right h]
    refine ⟨le_rfl,lt_of_le_of_lt ?_ hlt,.inr rfl⟩
    exact div_le_div_of_nonneg_left (by positivity) (two_zpow_pos e) (zpow_le_zpow_right₀ one_le_two h)

end

/-! ## The nearest number -/

section
variable {q : ℚ} {m : ℕ} {e : ℤ}

/-- A ratio is rounded to a number of units of a power of two. In these units it has 53 binary digits before the
point, but at the least exponent. -/
structure InUnits (q : ℚ) (m : ℕ) (e : ℤ) : Prop where
  minExponent_le : minExponent ≤ e
  lt : q / 2 ^ e < 2 ^ 53
  le : 2 ^ 52 ≤ q / 2 ^ e ∨ e = minExponent
  close : |q / 2 ^ e - m| ≤ 1 / 2
  even : |q / 2 ^ e - m| = 1 / 2 → Even m

theorem nearest_integer (hclose : |q - m| ≤ 1 / 2) (heven : |q - m| = 1 / 2 → Even m) (k : ℤ) :
    |q - m| < |q - k| ∨ |q - m| = |q - k| ∧ (k = m ∨ Even m) := by
  by_cases hk : k = m
  · exact .inr ⟨by rw [hk,Int.cast_natCast],.inl hk⟩
  · have hapart : (1 : ℚ) ≤ |(m : ℚ) - k| := by
      exact_mod_cast Int.one_le_abs (sub_ne_zero.mpr (Ne.symm hk))
    have htriangle : |(m : ℚ) - k| ≤ |q - m| + |q - k| := by
      rw [abs_sub_comm q m]
      exact abs_sub_le _ _ _
    rcases eq_or_lt_of_le hclose with htie | hlt
    · rcases eq_or_lt_of_le (show |q - m| ≤ |q - k| by linarith) with h | h
      · exact .inr ⟨h,.inr (heven htie)⟩
      · exact .inl h
    · exact .inl (by linarith)

namespace InUnits

theorem value_eq (q : ℚ) (e : ℤ) : q / 2 ^ e * 2 ^ e = q := div_mul_cancel₀ q (two_zpow_pos e).ne'

/-- What is nearest among the multiples of a unit is nearest among all numbers: those that are no multiples are
less than the ratio by more than a unit. -/
theorem nearest (h : InUnits q m e) {y : ℚ} (hy : IsNumber y) :
    |q - m * 2 ^ e| < |q - y| ∨ |q - m * 2 ^ e| = |q - y| ∧ (y = m * 2 ^ e ∨ Even m) := by
  have hu := two_zpow_pos e
  have hscale (z : ℚ) : |q - z * 2 ^ e| = |q / 2 ^ e - z| * 2 ^ e := by
    rw [← abs_of_pos hu,← abs_mul,abs_of_pos hu,sub_mul,value_eq]
  obtain ⟨n,f,hn,hf,-,habs⟩ := hy
  rcases le_or_gt e f with hef | hfe
  · -- The number is a multiple of the unit.
    obtain ⟨k,hk⟩ : ∃ k : ℤ, y = k * 2 ^ e := by
      obtain ⟨d,rfl⟩ := Int.le.dest hef
      rw [zpow_add₀ two_ne_zero,zpow_natCast] at habs
      rcases abs_eq (by positivity) |>.mp habs with h | h
      · exact ⟨n * 2 ^ d,by rw [h]; push_cast; ring⟩
      · exact ⟨-(n * 2 ^ d),by rw [h]; push_cast; ring⟩
    rw [hk,hscale,hscale]
    rcases nearest_integer h.close h.even k with hlt | ⟨htie,rfl | hm⟩
    · exact .inl (mul_lt_mul_of_pos_right hlt hu)
    · exact .inr ⟨by rw [htie],.inl (by rw [Int.cast_natCast])⟩
    · exact .inr ⟨by rw [htie],.inr hm⟩
  · have hlarge : 2 ^ 52 ≤ q / 2 ^ e := h.le.resolve_right (by omega)
    have hless : y < 2 ^ 52 * 2 ^ e := by
      calc y ≤ |y| := le_abs_self y
        _ = n * 2 ^ f := habs
        _ < 2 ^ 53 * 2 ^ f := by
          have hn' : (n : ℚ) < 2 ^ 53 := by exact_mod_cast hn
          exact mul_lt_mul_of_pos_right hn' (two_zpow_pos f)
        _ = 2 ^ 52 * 2 ^ (f + 1) := by rw [zpow_add_one₀ two_ne_zero]; ring
        _ ≤ 2 ^ 52 * 2 ^ e := by
          have := zpow_le_zpow_right₀ (one_le_two (α := ℚ)) (show f + 1 ≤ e by omega)
          gcongr
    have hleast : |q / 2 ^ e - m| ≤ q / 2 ^ e - 2 ^ 52 := by
      have hleast := nearest_integer h.close h.even (2 ^ 52)
      rw [Int.cast_pow,Int.cast_ofNat,abs_of_nonneg (show (0 : ℚ) ≤ q / 2 ^ e - 2 ^ 52 by linarith)] at hleast
      exact hleast.elim le_of_lt fun h => h.1.le
    left
    calc |q - m * 2 ^ e| = |q / 2 ^ e - m| * 2 ^ e := hscale m
      _ ≤ (q / 2 ^ e - 2 ^ 52) * 2 ^ e := by gcongr
      _ = q - 2 ^ 52 * 2 ^ e := by rw [sub_mul,value_eq]
      _ < q - y := by linarith
      _ ≤ |q - y| := le_abs_self _

theorem mantissa_le (h : InUnits q m e) : m ≤ 2 ^ 53 := by
  have hlt : (m : ℚ) < 2 ^ 53 + 1 := by linarith [h.lt,(abs_le.mp h.close).1]
  have hnat : m < 2 ^ 53 + 1 := by exact_mod_cast hlt
  omega

theorem le_mantissa (h : InUnits q m e) : 2 ^ 52 ≤ m ∨ e = minExponent := h.le.imp_left fun hle => by
  have hlt : (2 : ℚ) ^ 52 < m + 1 := by linarith [(abs_le.mp h.close).2]
  have hnat : 2 ^ 52 < m + 1 := by exact_mod_cast hlt
  omega

/-- The ratio is out of range just when the exponent is, once a mantissa that has grown to the next power of two
is written with the next exponent. -/
theorem overflow_le_iff (h : InUnits q m e) :
    overflow ≤ q ↔ maxExponent < if m = 2 ^ 53 then e + 1 else e := by
  have hu := two_zpow_pos e
  have hpow {f g : ℤ} (hfg : f ≤ g) := zpow_le_zpow_right₀ (one_le_two (α := ℚ)) hfg
  have hdist := abs_le.mp h.close
  have hvalue := value_eq q e
  have htop := two_zpow_pos maxExponent
  split_ifs with hm
  · rw [hm] at hdist
    push_cast at hdist
    rw [Int.lt_add_one_iff]
    rcases le_or_gt maxExponent e with he | he
    · refine iff_of_true ?_ he
      calc overflow ≤ (2 ^ 53 - 1 / 2) * 2 ^ e := mul_le_mul_of_nonneg_left (hpow he) (by norm_num)
        _ ≤ q / 2 ^ e * 2 ^ e := mul_le_mul_of_nonneg_right (by linarith) hu.le
        _ = q := hvalue
    · refine iff_of_false (not_le.mpr ?_) (not_le.mpr he)
      calc q = q / 2 ^ e * 2 ^ e := hvalue.symm
        _ < 2 ^ 53 * 2 ^ e := mul_lt_mul_of_pos_right h.lt hu
        _ = 2 ^ 52 * 2 ^ (e + 1) := by rw [zpow_add_one₀ two_ne_zero]; ring
        _ ≤ 2 ^ 52 * 2 ^ maxExponent := mul_le_mul_of_nonneg_left (hpow he) (by norm_num)
        _ ≤ overflow := mul_le_mul_of_nonneg_right (by norm_num) htop.le
  · rcases lt_or_ge maxExponent e with he | he
    · have hlarge : 2 ^ 52 ≤ q / 2 ^ e := h.le.resolve_right fun hmin => by
        rw [hmin] at he
        exact absurd he (by decide)
      refine iff_of_true ?_ he
      calc overflow ≤ 2 ^ 53 * 2 ^ maxExponent := mul_le_mul_of_nonneg_right (by norm_num) htop.le
        _ = 2 ^ 52 * 2 ^ (maxExponent + 1) := by rw [zpow_add_one₀ two_ne_zero]; ring
        _ ≤ 2 ^ 52 * 2 ^ e := mul_le_mul_of_nonneg_left (hpow he) (by norm_num)
        _ ≤ q / 2 ^ e * 2 ^ e := mul_le_mul_of_nonneg_right hlarge hu.le
        _ = q := hvalue
    · -- The ratio halfway to the next power of two would have been rounded to it, the even one.
      have hless : q / 2 ^ e < 2 ^ 53 - 1 / 2 := by
        have hnat : m + 1 ≤ 2 ^ 53 := by have := h.mantissa_le; omega
        have hrat : (m : ℚ) + 1 ≤ 2 ^ 53 := by exact_mod_cast hnat
        refine lt_of_le_of_ne (by linarith) fun htie => ?_
        have hone : (m : ℚ) + 1 = 2 ^ 53 := by linarith
        have hodd : m + 1 = 2 ^ 53 := by exact_mod_cast hone
        obtain ⟨k,rfl⟩ := h.even (by rw [htie,abs_of_nonneg (by linarith)]; linarith)
        omega
      refine iff_of_false (not_le.mpr ?_) (not_lt.mpr he)
      calc q = q / 2 ^ e * 2 ^ e := hvalue.symm
        _ < (2 ^ 53 - 1 / 2) * 2 ^ e := mul_lt_mul_of_pos_right hless hu
        _ ≤ overflow := mul_le_mul_of_nonneg_left (hpow he) (by norm_num)

end InUnits

end

theorem isNormal_zero : IsNormal 0 minExponent := ⟨by decide,le_rfl,by decide,.inr rfl⟩

theorem isNearest_zero : IsNearest 0 (zero false) := by
  refine ⟨0,minExponent,rfl,isNormal_zero,fun y _ => ?_⟩
  simp only [zero,toRat_finite,Nat.cast_zero,zero_mul,sub_self,abs_zero,zero_sub,abs_neg]
  rcases eq_or_ne y 0 with rfl | hy
  · exact .inr ⟨abs_zero.symm,.inl rfl⟩
  · exact .inl (abs_pos.mpr hy)

theorem overflow_pos : 0 < overflow := mul_pos (by norm_num) (two_zpow_pos _)

theorem rounds_zero : Rounds 0 (zero false) := .inl ⟨overflow_pos,isNearest_zero⟩

theorem inUnits_divNearestEven {num den : ℕ} (hnum : 0 < num) (hden : 0 < den) :
    InUnits (num / den) (divNearestEven (inUnits num den (exponentFor num den)).1
      (inUnits num den (exponentFor num den)).2) (exponentFor num den) := by
  obtain ⟨hmin,hlt,hle⟩ := exponentFor_spec hnum hden
  obtain ⟨hclose,heven⟩ := abs_sub_divNearestEven (inUnits num den (exponentFor num den)).1
    (inUnits_pos num hden (exponentFor num den))
  rw [inUnits_ratio] at hclose heven
  exact ⟨hmin,hlt,hle,hclose,heven⟩

/-- A ratio is rounded to the nearest number as long as it is in range. -/
theorem rounds_ofRatio (num : ℕ) {den : ℕ} (hden : 0 < den) : Rounds (num / den) (ofRatio false num den) := by
  unfold ofRatio
  split_ifs with hzero
  · simpa [hzero] using rounds_zero
  have h := inUnits_divNearestEven (Nat.pos_of_ne_zero hzero) hden
  dsimp only
  generalize divNearestEven _ _ = m at *
  generalize exponentFor num den = e at *
  have hout : overflow ≤ (num : ℚ) / den ↔ maxExponent < if m = Nat.pow 2 53 then e + 1 else e := h.overflow_le_iff
  have hin := not_congr hout
  rw [not_le,not_lt] at hin
  split_ifs with htop hgt hgt
  · exact .inr ⟨hout.mpr (by rw [if_pos htop]; exact hgt),rfl⟩
  · rw [if_pos htop] at hin
    have hsame : ((Nat.pow 2 52 : ℕ) : ℚ) * 2 ^ (e + 1) = m * 2 ^ e := by
      rw [htop,zpow_add_one₀ two_ne_zero]
      norm_num
      ring
    refine .inl ⟨hin.mpr (not_lt.mp hgt),Nat.pow 2 52,e + 1,rfl,?_,fun y hy => ?_⟩
    · exact ⟨by decide,h.minExponent_le.trans (by omega),not_lt.mp hgt,.inl (by decide)⟩
    · rw [toRat_finite,hsame]
      exact (h.nearest hy).imp_right fun h => ⟨h.1,h.2.imp_right fun _ => by decide⟩
  · exact .inr ⟨hout.mpr (by rw [if_neg htop]; exact hgt),rfl⟩
  · rw [if_neg htop] at hin
    refine .inl ⟨hin.mpr (not_lt.mp hgt),m,e,rfl,?_,fun y hy => ?_⟩
    · exact ⟨lt_of_le_of_ne h.mantissa_le htop,h.minExponent_le,not_lt.mp hgt,h.le_mantissa⟩
    · rw [toRat_finite]
      exact h.nearest hy

/-! ## Operations -/

theorem rounds_ofInt (n : ℕ) : Rounds n (ofInt n) := by
  have hsign : decide ((n : ℤ) < 0) = false := by simp
  have hone := rounds_ofRatio n Nat.one_pos
  rw [ofInt,hsign,Int.natAbs_natCast]
  simpa using hone

theorem ratio_pos (m : ℕ) (e : ℤ) : 0 < (ratio m e).2 := inUnits_pos m Nat.one_pos (-e)

theorem ratio_div (m : ℕ) (e : ℤ) : ((ratio m e).1 : ℚ) / (ratio m e).2 = (finite false m e).toRat := by
  rw [ratio,inUnits_ratio,toRat_finite,Nat.cast_one,div_one,zpow_neg,div_inv_eq_mul]

theorem truncate?_finite (m : ℕ) (e : ℤ) : (finite false m e).truncate? = some ⌊(finite false m e).toRat⌋ := by
  rw [← ratio_div,Rat.floor_natCast_div_natCast]
  rfl

theorem rounds_ofScaled (m : ℕ) (e : ℤ) : Rounds (m * 2 ^ e) (ofScaled false m e) := by
  rw [← toRat_finite,← ratio_div]
  exact rounds_ofRatio _ (ratio_pos m e)

section
variable (m n : ℕ) (e f : ℤ)

theorem rounds_mul :
    Rounds ((finite false m e).toRat * (finite false n f).toRat) ((finite false m e).mul (finite false n f)) := by
  have hprod : (finite false m e).toRat * (finite false n f).toRat = (m * n : ℕ) * 2 ^ (e + f) := by
    rw [toRat_finite,toRat_finite,zpow_add₀ two_ne_zero]
    push_cast
    ring
  rw [hprod]
  exact rounds_ofScaled _ _

theorem rounds_add :
    Rounds ((finite false m e).toRat + (finite false n f).toRat) ((finite false m e).add (finite false n f)) := by
  set low := min e f with hlow
  obtain ⟨i,hi⟩ := Int.le.dest (min_le_left e f)
  obtain ⟨j,hj⟩ := Int.le.dest (min_le_right e f)
  rw [← hlow] at hi hj
  have hsum : (finite false m e).toRat + (finite false n f).toRat = (m * 2 ^ i + n * 2 ^ j : ℕ) * 2 ^ low := by
    rw [toRat_finite,toRat_finite,← hi,← hj,zpow_add₀ two_ne_zero,zpow_add₀ two_ne_zero]
    push_cast [zpow_natCast]
    ring
  have htotal : signedUnits false m e low + signedUnits false n f low = (m * 2 ^ i + n * 2 ^ j : ℕ) := by
    have hi' : (e - low).toNat = i := by omega
    have hj' : (f - low).toNat = j := by omega
    simp [signedUnits,hi',hj']
  rw [hsum]
  simp only [add,← hlow,htotal]
  split_ifs with hzero
  · rw [Int.natCast_eq_zero.mp hzero]
    simpa using rounds_zero
  · have hsign : decide (((m * 2 ^ i + n * 2 ^ j : ℕ) : ℤ) < 0) = false :=
      decide_eq_false (not_lt.mpr (Int.natCast_nonneg _))
    rw [hsign,Int.natAbs_natCast]
    exact rounds_ofScaled _ _

end

/-! ## Exact results, uniqueness and order -/

section
variable {q r : ℚ} {x y : Binary64}

theorem IsNearest.isNumber (h : IsNearest q x) : IsNumber x.toRat := by
  obtain ⟨m,e,rfl,hnormal,-⟩ := h
  exact ⟨m,e,hnormal.lt,hnormal.minExponent_le,hnormal.le_maxExponent,by
    rw [toRat_finite,abs_of_nonneg (by positivity)]⟩

theorem IsNearest.abs_le (h : IsNearest q x) (hr : IsNumber r) : |q - x.toRat| ≤ |q - r| := by
  obtain ⟨m,e,rfl,-,hleast⟩ := h
  exact (hleast r hr).elim le_of_lt fun h => h.1.le

/-- A number is rounded to itself. -/
theorem IsNearest.toRat_eq (h : IsNearest q x) (hq : IsNumber q) : x.toRat = q := by
  have hzero := h.abs_le hq
  rw [sub_self,abs_zero] at hzero
  exact (sub_eq_zero.mp (abs_nonpos_iff.mp hzero)).symm

theorem IsNumber.lt_overflow (hq : IsNumber q) : q < overflow := by
  obtain ⟨m,e,hm,-,he,habs⟩ := hq
  have hm' : (m : ℚ) + 1 ≤ 2 ^ 53 := by exact_mod_cast hm
  have htop := two_zpow_pos maxExponent
  calc q ≤ m * 2 ^ e := habs ▸ le_abs_self q
    _ ≤ m * 2 ^ maxExponent := mul_le_mul_of_nonneg_left (zpow_le_zpow_right₀ one_le_two he) (Nat.cast_nonneg m)
    _ < overflow := mul_lt_mul_of_pos_right (by linarith) htop

theorem Rounds.isNearest (h : Rounds q x) (hq : q < overflow) : IsNearest q x :=
  h.elim And.right fun h => absurd hq (not_lt.mpr h.1)

/-- A number is the result of its rounding, exactly. -/
theorem Rounds.exact (h : Rounds q x) (hq : IsNumber q) : (∃ m e, x = finite false m e) ∧ x.toRat = q := by
  have hnear := h.isNearest hq.lt_overflow
  obtain ⟨m,e,hx,-⟩ := id hnear
  exact ⟨⟨m,e,hx⟩,hnear.toRat_eq hq⟩

/-- Natural numbers of up to 53 binary digits, and the next one, are numbers. -/
theorem isNumber_natCast {n : ℕ} (h : n ≤ 2 ^ 53) : IsNumber n := by
  rcases lt_or_eq_of_le h with hlt | rfl
  · exact ⟨n,0,hlt,by decide,by decide,by simp⟩
  · exact ⟨2 ^ 52,1,by norm_num,by decide,by decide,by norm_num⟩

section
variable {k : ℕ} (hk : k ≤ 2 ^ 53)
include hk

theorem rounds_mul_ofInt (m : ℕ) (e : ℤ) :
    Rounds ((finite false m e).toRat * k) ((finite false m e).mul (.ofInt k)) := by
  obtain ⟨⟨n,f,hn⟩,hvalue⟩ := (rounds_ofInt k).exact (isNumber_natCast hk)
  rw [← hvalue,hn]
  exact rounds_mul m n e f

theorem infinite_mul_ofInt (hpos : 0 < k) : (infinite false).mul (.ofInt k) = infinite false := by
  obtain ⟨⟨n,f,hn⟩,hvalue⟩ := (rounds_ofInt k).exact (isNumber_natCast hk)
  have hne : n ≠ 0 := by
    rintro rfl
    rw [hn,toRat_finite,Nat.cast_zero,zero_mul] at hvalue
    exact absurd hvalue.symm (Nat.cast_pos.mpr hpos).ne'
  rw [hn,mul,if_neg hne]
  rfl

end

section
variable {m n : ℕ} {e f : ℤ}

/-- A number at the higher of two exponents has all digits, and is greater than every number at the lower one. -/
theorem IsNormal.lt_of_lt (h : IsNormal m e) (h' : IsNormal n f) (hef : e < f) :
    (m : ℚ) * 2 ^ e < n * 2 ^ f := by
  have hn : 2 ^ 52 ≤ n := h'.le.resolve_right fun hf => by have := h.minExponent_le; omega
  have hm : (m : ℚ) < 2 ^ 53 := by exact_mod_cast h.lt
  have hn' : (2 : ℚ) ^ 52 ≤ n := by exact_mod_cast hn
  have hpow := zpow_le_zpow_right₀ (one_le_two (α := ℚ)) (show e + 1 ≤ f by omega)
  calc (m : ℚ) * 2 ^ e < 2 ^ 53 * 2 ^ e := mul_lt_mul_of_pos_right hm (two_zpow_pos e)
    _ = 2 ^ 52 * 2 ^ (e + 1) := by rw [zpow_add_one₀ two_ne_zero]; ring
    _ ≤ n * 2 ^ f := by gcongr

theorem IsNormal.unique (h : IsNormal m e) (h' : IsNormal n f) (heq : (m : ℚ) * 2 ^ e = n * 2 ^ f) :
    m = n ∧ e = f := by
  rcases lt_trichotomy e f with hlt | rfl | hlt
  · exact absurd heq (h.lt_of_lt h' hlt).ne
  · exact ⟨by exact_mod_cast mul_right_cancel₀ (two_zpow_pos e).ne' heq,rfl⟩
  · exact absurd heq (h'.lt_of_lt h hlt).ne'

/-- The next multiple of the unit is at most the next number. -/
theorem IsNormal.succ_le (h : IsNormal m e) (h' : IsNormal n f) (hlt : (m : ℚ) * 2 ^ e < n * 2 ^ f) :
    ((m : ℚ) + 1) * 2 ^ e ≤ n * 2 ^ f := by
  rcases lt_or_ge f e with hfe | hef
  · exact absurd hlt (h'.lt_of_lt h hfe).asymm
  · obtain ⟨d,rfl⟩ := Int.le.dest hef
    rw [zpow_add₀ two_ne_zero,mul_comm (2 ^ e),← mul_assoc] at hlt ⊢
    have hless := lt_of_mul_lt_mul_right hlt (two_zpow_pos e).le
    rw [zpow_natCast] at hless ⊢
    have hnat : m + 1 ≤ n * 2 ^ d := by exact_mod_cast hless
    have hrat : (m : ℚ) + 1 ≤ n * 2 ^ d := by exact_mod_cast hnat
    exact mul_le_mul_of_nonneg_right hrat (two_zpow_pos e).le

end

/-- Two numbers on either side of a ratio are not both nearest to it: one of two neighbours has an odd mantissa. -/
theorem IsNearest.le (hx : IsNearest q x) (hy : IsNearest q y) : y.toRat ≤ x.toRat := by
  refine not_lt.mp fun hlt => ?_
  have htie : |q - x.toRat| = |q - y.toRat| := le_antisymm (hx.abs_le hy.isNumber) (hy.abs_le hx.isNumber)
  have hmiddle : q - x.toRat = y.toRat - q := by
    rcases abs_eq_abs.mp htie with h | h <;> linarith
  -- No number stands between the two, so that the next one above the lower is the upper.
  have hsteps (z : ℚ) (hz : IsNumber z) (hxz : x.toRat < z) (hzy : z ≤ y.toRat) : z = y.toRat := by
    have h := hx.abs_le hz
    rw [abs_of_pos (by linarith)] at h
    rcases le_abs'.mp h with h | h <;> linarith
  obtain ⟨m,e,rfl,hm,hxleast⟩ := id hx
  obtain ⟨n,f,rfl,hn,hyleast⟩ := id hy
  have hmeven : Even m := by
    rcases hxleast _ hy.isNumber with h | ⟨-,h | h⟩
    · exact absurd htie h.ne
    · exact absurd h hlt.ne'
    · exact h
  have hneven : Even n := by
    rcases hyleast _ hx.isNumber with h | ⟨-,h | h⟩
    · exact absurd htie h.ne'
    · exact absurd h hlt.ne
    · exact h
  have hm53 : m + 1 < 2 ^ 53 := by
    have := hm.lt
    obtain ⟨k,rfl⟩ := hmeven
    omega
  have hnext : IsNormal (m + 1) e := ⟨hm53,hm.minExponent_le,hm.le_maxExponent,hm.le.imp_left fun h => by omega⟩
  simp only [toRat_finite] at hlt hsteps
  have hz := hsteps ((m + 1 : ℕ) * 2 ^ e)
    ⟨m + 1,e,hm53,hm.minExponent_le,hm.le_maxExponent,abs_of_nonneg (by positivity)⟩
    (by push_cast; nlinarith [two_zpow_pos e]) (by push_cast; exact hm.succ_le hn hlt)
  obtain ⟨rfl,-⟩ := hnext.unique hn hz
  exact (Nat.even_add_one.mp hneven) hmeven

/-- There is one nearest number. -/
theorem IsNearest.unique (hx : IsNearest q x) (hy : IsNearest q y) : x = y := by
  have heq := le_antisymm (hy.le hx) (hx.le hy)
  obtain ⟨m,e,rfl,hm,-⟩ := hx
  obtain ⟨n,f,rfl,hn,-⟩ := hy
  rw [toRat_finite,toRat_finite] at heq
  obtain ⟨rfl,rfl⟩ := hm.unique hn heq
  rfl

/-- A greater ratio is not rounded to a lesser number. -/
theorem IsNearest.mono (hx : IsNearest q x) (hy : IsNearest r y) (h : q ≤ r) : x.toRat ≤ y.toRat := by
  rcases eq_or_lt_of_le h with rfl | hlt
  · rw [hx.unique hy]
  · by_contra hgt
    rw [not_le] at hgt
    have hq : |q - x.toRat| ≤ |q - y.toRat| := hx.abs_le hy.isNumber
    have hr : |r - y.toRat| ≤ |r - x.toRat| := hy.abs_le hx.isNumber
    rw [← sq_le_sq] at hq hr
    nlinarith

theorem IsNearest.natCast_le {k : ℕ} (hx : IsNearest q x) (hk : k ≤ 2 ^ 53) (hq : (k : ℚ) ≤ q) :
    (k : ℚ) ≤ x.toRat := by
  have hnumber := isNumber_natCast hk
  have hnear := (rounds_ofInt k).isNearest hnumber.lt_overflow
  exact hnear.toRat_eq hnumber ▸ hnear.mono hx hq

end

/-! ## Decimals -/

/-- What is less than half of the least number is rounded to zero. -/
theorem rounds_zero_of_lt {q : ℚ} (hq : 0 ≤ q) (hlt : 2 * q < 2 ^ minExponent) : Rounds q (zero false) := by
  have hin : q < overflow := by
    have hpow := zpow_le_zpow_right₀ (one_le_two (α := ℚ)) (show minExponent ≤ maxExponent by decide)
    have hbound : (2 : ℚ) ^ maxExponent ≤ overflow := le_mul_of_one_le_left (two_zpow_pos _).le (by norm_num)
    linarith
  refine .inl ⟨hin,0,minExponent,rfl,isNormal_zero,fun y hy => ?_⟩
  simp only [zero,toRat_finite,Nat.cast_zero,zero_mul,sub_zero,abs_of_nonneg hq]
  obtain ⟨m,e,-,hmin,-,habs⟩ := hy
  rcases Nat.eq_zero_or_pos m with rfl | hm
  · have hy : y = 0 := by simpa using habs
    exact .inr ⟨by rw [hy,sub_zero,abs_of_nonneg hq],.inl hy⟩
  · have hpow := zpow_le_zpow_right₀ (one_le_two (α := ℚ)) hmin
    have hone : (1 : ℚ) ≤ m := by exact_mod_cast hm
    have hleast : (2 : ℚ) ^ minExponent ≤ |y| := by
      rw [habs]
      nlinarith [two_zpow_pos e]
    have htriangle : |y| - q ≤ |q - y| := by
      rw [abs_sub_comm]
      simpa [abs_of_nonneg hq] using abs_sub_abs_le_abs_sub y q
    exact .inl (by linarith)

/-- Four hundred powers of ten are more than three times as many powers of two. -/
theorem two_zpow_le_ten_zpow : (2 : ℚ) ^ (1200 : ℤ) ≤ 10 ^ (400 : ℤ) := by
  calc (2 : ℚ) ^ (1200 : ℤ) = (2 ^ (3 : ℤ)) ^ (400 : ℤ) := by rw [← zpow_mul]; rfl
    _ ≤ 10 ^ (400 : ℤ) := zpow_le_zpow_left₀ (by decide) (by positivity) (by norm_num)

theorem overflow_le : overflow ≤ 10 ^ (400 : ℤ) := by
  calc overflow ≤ 2 ^ (53 : ℤ) * 2 ^ maxExponent := mul_le_mul_of_nonneg_right (by norm_num) (two_zpow_pos _).le
    _ = 2 ^ (53 + maxExponent) := (zpow_add₀ two_ne_zero _ _).symm
    _ ≤ 2 ^ (1200 : ℤ) := zpow_le_zpow_right₀ one_le_two (by decide)
    _ ≤ 10 ^ (400 : ℤ) := two_zpow_le_ten_zpow

theorem ten_zpow_lt : (2 : ℚ) * 10 ^ (-400 : ℤ) < 2 ^ minExponent := by
  have hinv : (10 : ℚ) ^ (-400 : ℤ) ≤ 2 ^ (-1200 : ℤ) := by
    rw [zpow_neg,zpow_neg]
    exact inv_anti₀ (two_zpow_pos _) two_zpow_le_ten_zpow
  calc (2 : ℚ) * 10 ^ (-400 : ℤ) ≤ 2 ^ (1 : ℤ) * 2 ^ (-1200 : ℤ) := by rw [zpow_one]; gcongr
    _ = 2 ^ (1 + -1200 : ℤ) := (zpow_add₀ two_ne_zero _ _).symm
    _ < 2 ^ minExponent := zpow_lt_zpow_right₀ one_lt_two (by decide)

section
variable {digits : ℕ} {exponent : ℤ}

theorem ten_zpow_le (hdigits : digits ≠ 0) : (10 : ℚ) ^ ((digits.log2 : ℤ) / 4) ≤ digits := by
  have hpow : 10 ^ (digits.log2 / 4) ≤ digits := by
    calc 10 ^ (digits.log2 / 4) ≤ (2 ^ 4) ^ (digits.log2 / 4) := Nat.pow_le_pow_left (by decide) _
      _ = 2 ^ (4 * (digits.log2 / 4)) := (Nat.pow_mul ..).symm
      _ ≤ 2 ^ digits.log2 := Nat.pow_le_pow_right Nat.two_pos (Nat.mul_div_le ..)
      _ ≤ digits := Nat.log2_self_le hdigits
  exact_mod_cast hpow

theorem lt_ten_zpow (digits : ℕ) : (digits : ℚ) < 10 ^ ((digits.log2 : ℤ) / 3 + 1) := by
  have hpow : digits < 10 ^ (digits.log2 / 3 + 1) := by
    calc digits < 2 ^ (digits.log2 + 1) := Nat.lt_log2_self
      _ ≤ 2 ^ (3 * (digits.log2 / 3 + 1)) := Nat.pow_le_pow_right Nat.two_pos (by omega)
      _ = (2 ^ 3) ^ (digits.log2 / 3 + 1) := Nat.pow_mul ..
      _ ≤ 10 ^ (digits.log2 / 3 + 1) := Nat.pow_le_pow_left (by decide) _
  exact_mod_cast hpow

/-- A decimal is rounded, whatever the number of its digits. -/
theorem rounds_ofDecimal (digits : ℕ) (exponent : ℤ) :
    Rounds (digits * 10 ^ exponent) (ofDecimal false digits exponent) := by
  have hten : (0 : ℚ) < 10 ^ exponent := zpow_pos (by norm_num) _
  unfold ofDecimal
  dsimp only
  split_ifs with hzero hhuge htiny hwhole
  · simpa [hzero] using rounds_zero
  · -- So great a power of ten is out of range by itself.
    refine .inr ⟨overflow_le.trans ?_,rfl⟩
    calc (10 : ℚ) ^ (400 : ℤ) ≤ 10 ^ ((digits.log2 : ℤ) / 4 + exponent) :=
          zpow_le_zpow_right₀ (by norm_num) (by omega)
      _ = 10 ^ ((digits.log2 : ℤ) / 4) * 10 ^ exponent := zpow_add₀ (by norm_num) _ _
      _ ≤ digits * 10 ^ exponent := mul_le_mul_of_nonneg_right (ten_zpow_le hzero) hten.le
  · refine rounds_zero_of_lt (by positivity) (lt_of_le_of_lt ?_ ten_zpow_lt)
    refine mul_le_mul_of_nonneg_left ?_ two_pos.le
    calc (digits : ℚ) * 10 ^ exponent ≤ 10 ^ ((digits.log2 : ℤ) / 3 + 1) * 10 ^ exponent :=
          mul_le_mul_of_nonneg_right (lt_ten_zpow digits).le hten.le
      _ = 10 ^ ((digits.log2 : ℤ) / 3 + 1 + exponent) := (zpow_add₀ (by norm_num) _ _).symm
      _ ≤ 10 ^ (-400 : ℤ) := zpow_le_zpow_right₀ (by norm_num) (by omega)
  · obtain ⟨k,rfl⟩ := Int.eq_ofNat_of_zero_le hwhole
    have hratio : (digits : ℚ) * 10 ^ (k : ℤ) = (digits * Nat.pow 10 k : ℕ) / (1 : ℕ) := by simp
    rw [hratio]
    exact rounds_ofRatio _ Nat.one_pos
  · obtain ⟨k,hk⟩ := Int.eq_ofNat_of_zero_le (show 0 ≤ -exponent by omega)
    obtain rfl : exponent = -k := by omega
    have hratio : (digits : ℚ) * 10 ^ (-(k : ℤ)) = digits / (Nat.pow 10 k : ℕ) := by
      simp [div_eq_mul_inv]
    rw [hratio,show (- -(k : ℤ)).toNat = k by omega]
    exact rounds_ofRatio digits (Nat.pow_pos (by decide))

end

end TrackerHub.Binary64
