import Mathlib.Data.List.Basic
import TrackerHub.Proofs.Number.IntegerText
import TrackerHub.Proofs.Text.Blanks
import TrackerHub.Query.Wire

/-! # Lower case

But for two capitals a text is put into lower case one character at a time. Blanks and the digits of every
script have no case. Letters beyond ASCII have lower-case forms in ASCII too, but none of these stands in one of
the six words with which a flag is written.
-/
namespace TrackerHub

namespace Text
open TrackerHub.Numeral

/-! ## Plain texts -/

section
/-- Whether the lower-case form of a character is one character, whatever its neighbours are. -/
def HasLowerChar (c : Char) : Prop := c ≠ '\u0130' ∧ c ≠ '\u03a3'

/-- Whether a character is its own lower-case form. -/
structure IsCaseless (c : Char) : Prop where
  hasLowerChar : HasLowerChar c
  lowerChar_eq : lowerChar c = c

variable {s : Chars} {c : Char} {d : Nat}

theorem toLower_of_isDigit (h : c.isDigit = true) : c.toLower = c := by
  have hb := isDigit_bounds h
  refine dif_neg fun hletter => ?_
  have hA : 'A'.toNat ≤ c.toNat := UInt32.le_iff_toNat_le.mp hletter.1
  exact absurd (hA.trans hb.2) (by decide)

theorem lower_eq_map (h : ∀ c ∈ s, HasLowerChar c) : lower s = s.map lowerChar := by
  unfold lower
  generalize [] = before
  induction s generalizing before with
  | nil => rfl
  | cons c s ih =>
    obtain ⟨⟨hdotted,hsigma⟩,hs⟩ := List.forall_mem_cons.mp h
    rw [lowerFrom,if_neg (by simpa using hdotted),if_neg (by simpa using hsigma),ih hs]
    rfl

theorem hasLowerChar_of_lt (h : (lowerChar c).toNat < 128) : HasLowerChar c := by
  refine ⟨?_,?_⟩
  · rintro rfl
    exact absurd h (by decide +kernel)
  · rintro rfl
    exact absurd h (by decide +kernel)

theorem map_lowerChar_of_caseless (h : ∀ c ∈ s, IsCaseless c) : s.map lowerChar = s := by
  rw [List.map_congr_left fun c hc => (h c hc).lowerChar_eq,List.map_id']

theorem isCaseless_of_isBlank (h : isBlank c = true) : IsCaseless c := by
  have hc := forall_blank (p := fun c => c != '\u0130' && c != '\u03a3' && lowerChar c == c) (by decide +kernel) h
  simp only [Bool.and_eq_true,bne_iff_ne,beq_iff_eq] at hc
  exact ⟨hc.1,hc.2⟩

/-- A small letter is no capital, no blank, no digit and no point. -/
theorem small_letter_spec (h : 'a' ≤ c ∧ c ≤ 'z') :
    c.toNat < 128 ∧ isBlank c = false ∧ isDecimalDigit c = false ∧ c ≠ '.' := by
  have hall : ∀ n ∈ List.range' 97 26, (Char.ofNat n).toNat < 128 ∧ isBlank (Char.ofNat n) = false ∧
      isDecimalDigit (Char.ofNat n) = false ∧ Char.ofNat n ≠ '.' := by decide +kernel
  have hlow : 97 ≤ c.toNat := UInt32.le_iff_toNat_le.mp h.1
  have hhigh : c.toNat ≤ 122 := UInt32.le_iff_toNat_le.mp h.2
  have hc := hall c.toNat (List.mem_range'_1.mpr (by omega))
  rwa [Char.ofNat_toNat] at hc

/-- No capital stands among the digits of a script. -/
theorem isCaseless_of_digitValue? (h : digitValue? c = some d) : IsCaseless c := by
  have hdisjoint : ∀ z ∈ digitZeros, (z + 10 ≤ 0x130 ∨ 0x3a3 < z) ∧
      ∀ r ∈ capitalRuns, z + 10 ≤ r.first ∨ r.last < z := by decide +kernel
  obtain ⟨hd,z,hz,hc⟩ := exists_zero_of_digitValue? h
  obtain ⟨hcapitals,hruns⟩ := hdisjoint z hz
  refine ⟨⟨?_,?_⟩,?_⟩
  · rintro rfl
    have : (304 : ℕ) = z + d := hc
    omega
  · rintro rfl
    have : (931 : ℕ) = z + d := hc
    omega
  · unfold lowerChar
    split
    next hascii =>
      rw [digitValue?,if_pos hascii] at h
      split at h
      next hdigit => exact toLower_of_isDigit hdigit
      · cases h
    · rw [List.find?_eq_none.mpr]
      intro r hr
      have := hruns r hr
      simp only [Bool.and_eq_true,decide_eq_true_eq,not_and]
      omega

end

/-! ## Texts of flags -/

def flagChars : Chars := ['0','1','a','e','f','l','r','s','t','u']

theorem flagChars_ascii {x : Char} (h : x ∈ flagChars) :
    x.toNat < 128 ∧ x ≠ 'i' ∧ x ≠ 'k' ∧ x ≠ '\x00' := by
  simp only [flagChars,List.mem_cons,List.not_mem_nil,or_false] at h
  rcases h with rfl | rfl | rfl | rfl | rfl | rfl | rfl | rfl | rfl | rfl <;> decide

theorem toNat_ofNat_of_valid {n : Nat} (h : n.isValidChar) : (Char.ofNat n).toNat = n := by
  rw [Char.ofNat,dif_pos h]
  rfl

/-- Beyond ASCII only the sign for kelvins has a lower-case form in ASCII. -/
theorem lowerChar_of_le {c : Char} (h : 128 ≤ c.toNat) :
    128 ≤ (lowerChar c).toNat ∨ lowerChar c = 'k' ∨ lowerChar c = '\x00' := by
  have hruns : ∀ r ∈ capitalRuns, r.last < 128 ∨ 128 ≤ r.first + r.distance ∨
      r.first = r.last ∧ r.first + r.distance = 107 := by decide +kernel
  unfold lowerChar
  rw [if_neg (Nat.not_lt.mpr h)]
  split
  next r hr =>
    have hin := List.find?_some hr
    simp only [Bool.and_eq_true,decide_eq_true_eq] at hin
    rcases hruns r (List.mem_of_find?_eq_some hr) with hlast | hlarge | ⟨hone,hk⟩
    · omega
    · by_cases hv : (Int.toNat (c.toNat + r.distance)).isValidChar
      · left
        rw [toNat_ofNat_of_valid hv]
        omega
      · right; right
        rw [Char.ofNat,dif_neg hv]
        rfl
    · right; left
      have hcode : Int.toNat (c.toNat + r.distance) = 107 := by omega
      rw [hcode]
  · exact .inl h

theorem toLower_of_le {c : Char} (h : 128 ≤ c.toNat) : c.toLower = c := by
  have hletter : ¬(c.val ≥ 'A'.val ∧ c.val ≤ 'Z'.val) := by
    rintro ⟨-,hz⟩
    rw [UInt32.le_iff_toNat_le] at hz
    exact absurd (Nat.le_trans h hz) (by decide)
  exact dif_neg hletter

theorem lowerChar_eq_iff {c x : Char} (hx : x ∈ flagChars) : lowerChar c = x ↔ c.toLower = x := by
  obtain ⟨hascii,-,hk,hnull⟩ := flagChars_ascii hx
  rcases Nat.lt_or_ge c.toNat 128 with hc | hc
  · rw [lowerChar,if_pos hc]
  · have hleft : lowerChar c ≠ x := by
      rintro rfl
      rcases lowerChar_of_le hc with h | h | h
      · omega
      · exact hk h
      · exact hnull h
    have hright : c.toLower ≠ x := by
      rw [toLower_of_le hc]
      rintro rfl
      omega
    simp [hleft,hright]

/-- Texts that start with other characters are no words for flags. -/
theorem eq_iff_of_not_mem {y z : Char} {r s word : Chars} (hy : y ∉ flagChars) (hz : z ∉ flagChars)
    (hword : ∀ x ∈ word, x ∈ flagChars) : y :: r = word ↔ z :: s = word := by
  constructor
  · rintro rfl
    exact absurd (hword y List.mem_cons_self) hy
  · rintro rfl
    exact absurd (hword z List.mem_cons_self) hz

/-- In lower case a text is a word for a flag just when it is that word whatever the case of its
letters. -/
theorem lowerFrom_eq_iff {s word : Chars} (hword : ∀ x ∈ word, x ∈ flagChars) (before : Chars) :
    lowerFrom before s = word ↔ s.map Char.toLower = word := by
  induction s generalizing before word with
  | nil => rfl
  | cons c s ih =>
    rw [lowerFrom,List.map_cons]
    split_ifs with hdotted hsigma
    · rw [beq_iff_eq.mp hdotted]
      exact eq_iff_of_not_mem (by decide) (by decide) hword
    · rw [beq_iff_eq.mp hsigma]
      exact eq_iff_of_not_mem (by decide) (by decide) hword
    · rw [beq_iff_eq.mp hsigma]
      exact eq_iff_of_not_mem (by decide) (by decide) hword
    · cases word with
      | nil => simp
      | cons x word =>
        obtain ⟨hx,hrest⟩ := List.forall_mem_cons.mp hword
        rw [List.singleton_append,List.cons.injEq,List.cons.injEq,lowerChar_eq_iff hx,ih hrest]

end Text

namespace Query
open TrackerHub.Text

/-- The words for a flag that is set or not set. -/
def flagWords (flag : Bool) : List String := if flag then ["1","t","true"] else ["0","f","false"]

/-- Whether a text is a word for a flag, whatever the case of its letters. -/
def WritesFlag (value : String) (flag : Bool) : Prop :=
  ∃ word ∈ flagWords flag, value.toList.map Char.toLower = word.toList

theorem flagWords_chars {word : String} {flag : Bool} (h : word ∈ flagWords flag) :
    ∀ x ∈ word.toList, x ∈ flagChars := by
  have hall : ∀ flag, (flagWords flag).all (fun w => w.toList.all flagChars.contains) = true := by
    rintro (_ | _) <;> rfl
  have hword := List.all_eq_true.mp (hall flag) word h
  exact fun x hx => List.contains_iff_mem.mp (List.all_eq_true.mp hword x hx)

theorem flagWords_disjoint {word : String} (h : word ∈ flagWords true) : word ∉ flagWords false := by
  revert word
  decide

theorem writesFlag_iff {value : String} {flag : Bool} :
    WritesFlag value flag ↔ String.ofList (lower value.toList) ∈ flagWords flag := by
  have hiff {word : String} (h : word ∈ flagWords flag) :
      value.toList.map Char.toLower = word.toList ↔ String.ofList (lower value.toList) = word := by
    rw [← lowerFrom_eq_iff (flagWords_chars h) [],← String.toList_inj,String.toList_ofList,lower]
  constructor
  · rintro ⟨word,h,he⟩
    rwa [(hiff h).mp he]
  · exact fun h => ⟨_,h,(hiff h).mpr rfl⟩

/-- A text is read as a flag just when it is a word for it. -/
theorem readFlag_eq_ok_iff {value : String} {flag : Bool} :
    readFlag value = .ok flag ↔ WritesFlag value flag := by
  rw [writesFlag_iff,readFlag]
  split_ifs with htrue hfalse
  · have hword : String.ofList (lower value.toList) ∈ flagWords true := List.contains_iff_mem.mp htrue
    cases flag with
    | true => simp [hword]
    | false => simp [flagWords_disjoint hword]
  · have hword : String.ofList (lower value.toList) ∈ flagWords false := List.contains_iff_mem.mp hfalse
    cases flag with
    | true => simpa using fun h => flagWords_disjoint h hword
    | false => simp [hword]
  · cases flag with
    | true => simpa [flagWords] using htrue
    | false => simpa [flagWords] using hfalse

end Query

end TrackerHub
