import Mathlib.Algebra.Group.Nat.Defs
import Mathlib.Data.List.TakeWhile
import TrackerHub.Number.Numeral

/-! # Reading back numerals

The numeral of an integer is read as the integer, as long as it has no more digits than a numeral
may have. A hexadecimal numeral is read as its number, in digits of either case.
-/
namespace TrackerHub.Numeral
open TrackerHub.Text

/-- The integers whose numerals are short enough to be read. -/
def IsShort (n : Int) : Prop := n.natAbs < 10 ^ maxDigits

theorem isShort_of_lt {n : Int} (k : Nat) (h : n.natAbs < 10 ^ k) (hk : k ≤ maxDigits) : IsShort n :=
  h.trans_le (Nat.pow_le_pow_right (by decide) hk)

theorem isDigit_of_mem_decimal {n : Nat} {c : Char} (h : c ∈ decimal n) : c.isDigit = true :=
  Nat.isDigit_of_mem_toDigits (by decide) (by decide) h

theorem isDigit_bounds {c : Char} (h : c.isDigit = true) : 48 ≤ c.toNat ∧ c.toNat ≤ 57 := by
  simpa [Char.isDigit,UInt32.le_iff_toNat_le] using h

theorem underscoresBetween_of_digits {s : Chars} (h : ∀ c ∈ s, c.isDigit = true) :
    underscoresBetween Char.isDigit s = true := by
  induction s with
  | nil => rfl
  | cons c s ih =>
    have hc : c ≠ '_' := by
      rintro rfl
      exact absurd (h '_' List.mem_cons_self) (by decide)
    have hs := ih (fun d hd => h d (List.mem_cons_of_mem c hd))
    cases s with
    | nil => simp [underscoresBetween]
    | cons d s =>
      have hd : d ≠ '_' := by
        rintro rfl
        exact absurd (h '_' (by simp)) (by decide)
      simpa [underscoresBetween,hc,hd] using hs

/-- The value of digits is the one that the library gives them. -/
theorem digitsValue_of_digits {s : Chars} (h : ∀ c ∈ s, c.isDigit = true) :
    digitsValue s = Nat.ofDigitChars 10 s 0 := by
  rw [digitsValue,Nat.ofDigitChars_eq_foldl]
  generalize 0 = n
  induction s generalizing n with
  | nil => rfl
  | cons c s ih =>
    simp only [List.foldl_cons,h c List.mem_cons_self,↓reduceIte]
    exact ih (fun d hd => h d (List.mem_cons_of_mem c hd)) _

theorem digitsValue_decimal (n : Nat) : digitsValue (decimal n) = n := by
  rw [digitsValue_of_digits fun c => isDigit_of_mem_decimal]
  exact Nat.ofDigitChars_ten_toDigits

theorem length_decimal_le {n : Nat} (h : n < 10 ^ maxDigits) : (decimal n).length ≤ maxDigits :=
  (Nat.length_toDigits_le_iff (by decide) (by decide)).mpr h

theorem decimal_ne_nil (n : Nat) : decimal n ≠ [] := Nat.toDigits_ne_nil

theorem decimalInt_ne_nil (n : Int) : decimalInt n ≠ [] := by
  cases n with
  | ofNat m => exact decimal_ne_nil m
  | negSucc m => exact List.cons_ne_nil _ _

theorem takeDigits_decimal (n : Nat) : takeDigits (decimal n) = (decimal n,[]) := by
  have h : ∀ c ∈ decimal n, (c.isDigit || c == '_') = true := fun c hc => by
    simp [isDigit_of_mem_decimal hc]
  simp only [takeDigits,List.takeWhile_eq_self_iff.mpr h,List.dropWhile_eq_nil_iff.mpr h]

theorem mem_decimalInt {n : Int} {c : Char} (h : c ∈ decimalInt n) : c = '-' ∨ c.isDigit = true := by
  cases n with
  | ofNat m => exact Or.inr (isDigit_of_mem_decimal h)
  | negSucc m => exact (List.mem_cons.mp h).imp_right isDigit_of_mem_decimal

theorem not_mem_decimalInt {c : Char} (hs : c ≠ '-') (hd : c.isDigit = false) (n : Int) :
    c ∉ decimalInt n := by
  intro h
  rcases mem_decimalInt h with h | h
  · exact hs h
  · exact absurd h (Bool.eq_false_iff.mp hd)

/-- The first character of a numeral is no blank, nor is it a sign unless the number is negative. -/
theorem decimal_head {m : Nat} {c : Char} {r : Chars} (h : decimal m = c :: r) : c.isDigit = true :=
  isDigit_of_mem_decimal (h ▸ List.mem_cons_self)

theorem isPlainBlank_of_isDigit {c : Char} (h : c.isDigit = true) : isPlainBlank c = false := by
  have hb := isDigit_bounds h
  have hs : c ≠ ' ' := by
    rintro rfl
    exact absurd h (by decide)
  simp [isPlainBlank,hs]
  omega

theorem plain_of_ascii {s : Chars} (h : ∀ c ∈ s, c.toNat < 128) : plain s = s :=
  (List.map_congr_left fun c hc => if_pos (h c hc)).trans (List.map_id s)

theorem plain_decimalInt (n : Int) :
    (plain (decimalInt n)).dropWhile isPlainBlank = decimalInt n := by
  have ha : ∀ c ∈ decimalInt n, c.toNat < 128 := by
    intro c hc
    rcases mem_decimalInt hc with rfl | hd
    · decide
    · have hb := isDigit_bounds hd
      omega
  rw [plain_of_ascii ha]
  cases n with
  | ofNat m =>
    change (decimal m).dropWhile isPlainBlank = decimal m
    cases hm : decimal m with
    | nil => rfl
    | cons c r =>
      have hp := isPlainBlank_of_isDigit (decimal_head hm)
      rw [List.dropWhile_cons_of_neg (by simp [hp])]
  | negSucc m => rfl

theorem takeSign_decimalInt (n : Int) :
    takeSign (decimalInt n) = (decide (n < 0),decimal n.natAbs) := by
  cases n with
  | ofNat m =>
    change takeSign (decimal m) = (false,decimal m)
    cases hm : decimal m with
    | nil => rfl
    | cons c r =>
      have hd := decimal_head hm
      unfold takeSign
      split
      · next he => exact absurd hd (by rw [(List.cons.inj he).1]; decide)
      · next he => exact absurd hd (by rw [(List.cons.inj he).1]; decide)
      · rfl
  | negSucc m => simp [decimalInt,takeSign,Int.negSucc_lt_zero]

/-- The numeral of an integer is read as the integer. -/
theorem readInt_decimalInt {n : Int} (h : IsShort n) : readInt (decimalInt n) = .ok n := by
  have hd : ∀ c ∈ decimal n.natAbs, c.isDigit = true := fun c => isDigit_of_mem_decimal
  have hc : (decimal n.natAbs).countP Char.isDigit = (decimal n.natAbs).length :=
    List.countP_eq_length.mpr hd
  have hl := length_decimal_le h
  unfold readInt
  simp only [plain_decimalInt,takeSign_decimalInt,takeDigits_decimal,hc,digitsValue_decimal,
    underscoresBetween_of_digits hd,List.isEmpty_eq_false_iff.mpr (decimal_ne_nil _)]
  rw [if_neg (by simp), if_neg (by omega), if_neg (by simp)]
  rw [Except.ok.injEq]
  split
  next hn =>
    have hneg : n < 0 := of_decide_eq_true hn
    omega
  next hn =>
    have hpos : ¬n < 0 := of_decide_eq_false (Bool.eq_false_iff.mpr hn)
    omega

end TrackerHub.Numeral

namespace TrackerHub.Text

theorem toNat_lt (c : Char) : c.toNat < 0x110000 := by
  have h := c.valid
  simp only [UInt32.isValidChar,Nat.isValidChar] at h
  change c.val.toNat < _
  omega

theorem length_hex (width n : Nat) : (hex width n).length = width := by
  induction width generalizing n with
  | zero => rfl
  | succ width ih => simp [hex,ih]

/-- A hexadecimal numeral is read as its number, in whichever way its digits are written. -/
theorem readHex?_map_hex {f : Char → Char} (hf : ∀ d < 16, hexDigit? (f (hexDigit d)) = some d) {width n : Nat}
    (h : n < 16 ^ width) (hw : 0 < width) : readHex? ((hex width n).map f) = some n := by
  have hfold : ∀ width n m, n < 16 ^ width →
      ((hex width n).map f).foldl
        (fun acc c => acc.bind fun n => (hexDigit? c).map (16 * n + ·)) (some m) =
      some (m * 16 ^ width + n) := by
    intro width
    induction width with
    | zero =>
      intro n m h
      obtain rfl : n = 0 := by omega
      simp [hex]
    | succ width ih =>
      intro n m h
      rw [hex,List.map_append,List.foldl_append,ih (n / 16) m (by rw [Nat.pow_succ] at h; omega)]
      simp only [List.map_cons,List.map_nil,List.foldl_cons,List.foldl_nil,Option.bind_some,
        hf _ (Nat.mod_lt n (by decide)),Option.map_some,Option.some.injEq]
      rw [Nat.pow_succ,← Nat.mul_assoc]
      omega
  have hne : (hex width n).map f ≠ [] := by
    obtain ⟨width,rfl⟩ := Nat.exists_eq_succ_of_ne_zero (Nat.ne_zero_of_lt hw)
    simp [hex]
  rw [readHex?,if_neg (by simpa using hne),hfold width n 0 h]
  simp

end TrackerHub.Text
