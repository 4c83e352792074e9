import Mathlib.Data.Char
import TrackerHub.Proofs.Text.SplitText
import TrackerHub.Text.Utf8
import TrackerHub.Web.FormText

/-! # Form encoding is read back

What form encoding writes for a character is ASCII, holds no separator, and is read back as the character's bytes
in UTF-8. The reader of UTF-8 takes one step for each byte of a character. The steps are stated first; a character is
then read back whatever bytes follow it, and a text by induction.
-/
namespace TrackerHub.Text

/-! ## UTF-8 -/

/-- Listing the bytes from a place on puts them behind those that were listed before. -/
theorem toList_loop_append (b : ByteArray) (n : ℕ) (i : ℕ) (acc : Bytes) (hn : b.size - i = n) :
    ByteArray.toList.loop b i acc = acc.reverse ++ b.data.toList.drop i := by
  induction n generalizing i acc with
  | zero =>
    have hd : b.data.toList.drop i = [] := List.drop_eq_nil_of_le (by simpa using by omega)
    rw [ByteArray.toList.loop, if_neg (by omega),hd,List.append_nil]
  | succ n ih =>
    have hi : i < b.data.toList.length := by simpa using by omega
    rw [ByteArray.toList.loop, if_pos (by omega),ih (i + 1) _ (by omega),List.drop_eq_getElem_cons hi]
    rw [ByteArray.get!,getElem!_pos b.data i (by simpa using hi)]
    simp

/-- The bytes of a text are those of its characters, one after the other. -/
theorem encodeUtf8_eq (s : Chars) : encodeUtf8 s = s.flatMap String.utf8EncodeChar := by
  have h := toList_loop_append (String.ofList s).toByteArray _ 0 [] rfl
  simp only [List.reverse_nil,List.nil_append,List.drop_zero] at h
  rw [encodeUtf8,String.toUTF8_eq_toByteArray,ByteArray.toList,h]
  exact List.toList_data_toByteArray

section Steps
variable {b : UInt8} {n low high bits : ℕ} (rest : Bytes)

theorem decodePieces_single (hb : b.toNat < 0x80) :
    decodePieces none (b :: rest) = .char (Char.ofNat b.toNat) :: decodePieces none rest := by
  simp [decodePieces,hb]

theorem decodePieces_lead (hb : 0x80 ≤ b.toNat) (hl : leadByte? b.toNat = some (n,low,high,bits)) :
    decodePieces none (b :: rest) = decodePieces (some ⟨n,low,high,bits⟩) rest := by
  simp [decodePieces,hl,Nat.not_lt.mpr hb]

theorem decodePieces_more (hl : low ≤ b.toNat) (hh : b.toNat ≤ high) :
    decodePieces (some ⟨n + 2,low,high,bits⟩) (b :: rest) =
      decodePieces (some ⟨n + 1,0x80,0xBF,bits * 64 + (b.toNat - 0x80)⟩) rest := by
  simp [decodePieces,hl,hh]

theorem decodePieces_last (hl : low ≤ b.toNat) (hh : b.toNat ≤ high) :
    decodePieces (some ⟨1,low,high,bits⟩) (b :: rest) =
      .char (Char.ofNat (bits * 64 + (b.toNat - 0x80))) :: decodePieces none rest := by
  simp [decodePieces,hl,hh]

end Steps

theorem toNat_ofNat_byte {n : ℕ} (h : n < 256) : (UInt8.ofNat n).toNat = n := by
  rw [UInt8.toNat_ofNat']
  exact Nat.mod_eq_of_lt h

/-- A first byte announces the high bits of its character, and the least and greatest second byte
keep out what a shorter form writes and what is no character. -/
theorem leadByte?_two : ∀ q < 30, leadByte? (q + 0xC2) = some (1,0x80,0xBF,q + 2) := by
  decide

theorem leadByte?_three : ∀ q < 16, leadByte? (q + 0xE0) =
    some (2,if q = 0 then 0xA0 else 0x80,if q = 13 then 0x9F else 0xBF,q) := by
  decide

theorem leadByte?_four : ∀ q < 5, leadByte? (q + 0xF0) =
    some (3,if q = 0 then 0x90 else 0x80,if q = 4 then 0x8F else 0xBF,q) := by
  decide

/-- A character is read back from its bytes, whatever follows them. -/
theorem decodePieces_utf8EncodeChar (c : Char) (rest : Bytes) :
    decodePieces none (String.utf8EncodeChar c ++ rest) = .char c :: decodePieces none rest := by
  have hc : Char.ofNat c.val.toNat = c := Char.ofNat_toNat c
  have hv : c.val.toNat < 0xD800 ∨ 0xDFFF < c.val.toNat ∧ c.val.toNat < 0x110000 := c.valid
  unfold String.utf8EncodeChar
  generalize c.val.toNat = v at hc hv
  have tail (n : ℕ) : (UInt8.ofNat (n % 0x40 + 0x80)).toNat = n % 0x40 + 0x80 :=
    toNat_ofNat_byte (by omega)
  -- One case for each number of bytes, from one to four.
  by_cases h1 : v ≤ 0x7F
  · have hb : (UInt8.ofNat v).toNat = v := toNat_ofNat_byte (by omega)
    simp only [h1,↓reduceIte,List.cons_append,List.nil_append]
    rw [decodePieces_single rest (by omega),hb,hc]
  by_cases h2 : v ≤ 0x7FF
  · have hb : (UInt8.ofNat (v / 64 % 0x20 + 0xC0)).toNat = v / 64 - 2 + 0xC2 := by
      rw [toNat_ofNat_byte (by omega)]
      omega
    have hl := leadByte?_two (v / 64 - 2) (by omega)
    simp only [h1,h2,↓reduceIte,List.cons_append,List.nil_append]
    rw [decodePieces_lead _ (by omega) (hb ▸ hl),
      decodePieces_last _ (by rw [tail]; omega) (by rw [tail]; omega),tail]
    have he : (v / 64 - 2 + 2) * 64 + (v % 0x40 + 0x80 - 0x80) = v := by omega
    rw [he,hc]
  by_cases h3 : v ≤ 0xFFFF
  · have hb : (UInt8.ofNat (v / 4096 % 0x10 + 0xE0)).toNat = v / 4096 + 0xE0 := by
      rw [toNat_ofNat_byte (by omega)]
      omega
    have hl := leadByte?_three (v / 4096) (by omega)
    simp only [h1,h2,h3,↓reduceIte,List.cons_append,List.nil_append]
    rw [decodePieces_lead _ (by omega) (hb ▸ hl),
      decodePieces_more _ (by rw [tail]; split <;> omega) (by rw [tail]; split <;> omega),
      decodePieces_last _ (by rw [tail]; omega) (by rw [tail]; omega),tail,tail]
    have he : (v / 4096 * 64 + (v / 64 % 0x40 + 0x80 - 0x80)) * 64 + (v % 0x40 + 0x80 - 0x80) = v := by
      omega
    rw [he,hc]
  · have hb : (UInt8.ofNat (v / 262144 % 0x08 + 0xF0)).toNat = v / 262144 + 0xF0 := by
      rw [toNat_ofNat_byte (by omega)]
      omega
    have hl := leadByte?_four (v / 262144) (by omega)
    simp only [h1,h2,h3,↓reduceIte,List.cons_append,List.nil_append]
    rw [decodePieces_lead _ (by omega) (hb ▸ hl),
      decodePieces_more _ (by rw [tail]; split <;> omega) (by rw [tail]; split <;> omega),
      decodePieces_more _ (by rw [tail]; omega) (by rw [tail]; omega),
      decodePieces_last _ (by rw [tail]; omega) (by rw [tail]; omega),
      tail,tail,tail]
    have he : ((v / 262144 * 64 + (v / 4096 % 0x40 + 0x80 - 0x80)) * 64 +
        (v / 64 % 0x40 + 0x80 - 0x80)) * 64 + (v % 0x40 + 0x80 - 0x80) = v := by omega
    rw [he,hc]

theorem decodePieces_encodeUtf8 (s : Chars) (rest : Bytes) :
    decodePieces none (encodeUtf8 s ++ rest) = s.map .char ++ decodePieces none rest := by
  rw [encodeUtf8_eq]
  induction s with
  | nil => rfl
  | cons c s ih =>
    rw [List.flatMap_cons,List.append_assoc,decodePieces_utf8EncodeChar,ih]
    rfl

theorem decodeUtf8Lossy_encodeUtf8 (s : Chars) : decodeUtf8Lossy (encodeUtf8 s) = s := by
  have h := decodePieces_encodeUtf8 s []
  rw [List.append_nil] at h
  rw [decodeUtf8Lossy,h,decodePieces,List.append_nil,List.map_map]
  exact List.map_id s

/-! ## Form encoding -/

theorem hexDigit?_hexDigitUpper : ∀ n < 16, hexDigit? (hexDigitUpper n) = some n := by decide

theorem hexDigitUpper_isFormSafe : ∀ n < 16, Web.isFormSafe (hexDigitUpper n) = true := by decide

end TrackerHub.Text

namespace TrackerHub.Web
open TrackerHub.Text

/-- What a plus sign becomes before percent marks are read. -/
def plusAsSpace (c : Char) : Char := if c == '+' then ' ' else c

/-- What form encoding writes for one character. -/
def quoteChar (c : Char) : Chars :=
  if isFormSafe c then [c] else if c == ' ' then ['+'] else percentChar c

theorem percentBytes_cons {c : Char} (hc : c ≠ '%') (rest : Chars) :
    percentBytes (c :: rest) = UInt8.ofNat c.toNat :: percentBytes rest := by
  rw [percentBytes]
  intro a b r he _
  exact hc he

/-- A percent mark with two digits is read as its byte. -/
theorem percentBytes_percentByte (b : UInt8) (rest : Chars) :
    percentBytes (percentByte b ++ rest) = b :: percentBytes rest := by
  have hb : b.toNat < 256 := UInt8.toNat_lt b
  have hh := hexDigit?_hexDigitUpper (b.toNat / 16) (by omega)
  have hl := hexDigit?_hexDigitUpper (b.toNat % 16) (by omega)
  have he : 16 * (b.toNat / 16) + b.toNat % 16 = b.toNat := by omega
  simp only [percentByte,List.cons_append,List.nil_append,percentBytes,hh,hl]
  rw [he,UInt8.ofNat_toNat]

theorem percentBytes_flatMap_percentByte (bytes : Bytes) (rest : Chars) :
    percentBytes (bytes.flatMap percentByte ++ rest) = bytes ++ percentBytes rest := by
  induction bytes with
  | nil => rfl
  | cons b bytes ih => rw [List.flatMap_cons,List.append_assoc,percentBytes_percentByte,ih]; rfl

/-- A safe character is ASCII and is none of those that form encoding gives a meaning. -/
theorem isFormSafe_ascii {c : Char} (h : isFormSafe c = true) : c.toNat < 128 := by
  simp only [isFormSafe,Bool.or_eq_true,Bool.and_eq_true,decide_eq_true_eq,beq_iff_eq] at h
  rcases h with (((⟨h,_⟩ | rfl) | rfl) | rfl) | rfl
  · exact h
  all_goals decide

theorem isFormSafe_ne {c d : Char} (h : isFormSafe c = true) (hd : isFormSafe d = false) : c ≠ d := by
  rintro rfl
  rw [h] at hd
  cases hd

theorem mem_percentByte {c : Char} {b : UInt8} (h : c ∈ percentByte b) :
    c = '%' ∨ isFormSafe c = true := by
  have hb : b.toNat < 256 := UInt8.toNat_lt b
  simp only [percentByte,List.mem_cons,List.not_mem_nil,or_false] at h
  rcases h with rfl | rfl | rfl
  · exact Or.inl rfl
  · exact Or.inr (hexDigitUpper_isFormSafe _ (by omega))
  · exact Or.inr (hexDigitUpper_isFormSafe _ (by omega))

/-- What form encoding writes is safe characters, percent marks and plus signs. -/
theorem mem_quoteChar {c d : Char} (h : d ∈ quoteChar c) :
    d = '%' ∨ d = '+' ∨ isFormSafe d = true := by
  unfold quoteChar at h
  split at h
  · next hs => exact Or.inr (Or.inr (List.mem_singleton.mp h ▸ hs))
  · split at h
    · exact Or.inr (Or.inl (List.mem_singleton.mp h))
    · obtain ⟨b,_,hb⟩ := List.mem_flatMap.mp h
      exact (mem_percentByte hb).imp_right Or.inr

theorem mem_formQuote {s : Chars} {d : Char} (h : d ∈ formQuote s) :
    d = '%' ∨ d = '+' ∨ isFormSafe d = true := by
  obtain ⟨c,_,hc⟩ := List.mem_flatMap.mp h
  exact mem_quoteChar hc

theorem not_mem_formQuote {d : Char} (hd : isFormSafe d = false) (hp : d ≠ '%') (hs : d ≠ '+')
    (s : Chars) : d ∉ formQuote s := by
  intro h
  rcases mem_formQuote h with h | h | h
  · exact hp h
  · exact hs h
  · exact isFormSafe_ne h hd rfl

theorem map_plusAsSpace_percentByte (b : UInt8) : (percentByte b).map plusAsSpace = percentByte b := by
  have hid : ∀ c ∈ percentByte b, plusAsSpace c = c := by
    intro c hc
    have hne : c ≠ '+' := by
      rcases mem_percentByte hc with rfl | h
      · decide
      · exact isFormSafe_ne h (by decide)
    simp [plusAsSpace,hne]
  exact (List.map_congr_left hid).trans (List.map_id _)

/-- A character is read back as its bytes, whatever follows it. -/
theorem percentBytes_quoteChar (c : Char) (rest : Chars) :
    percentBytes ((quoteChar c).map plusAsSpace ++ rest) =
      String.utf8EncodeChar c ++ percentBytes rest := by
  unfold quoteChar
  split
  · next hs =>
    have ha : c.val.toNat ≤ 0x7F := Nat.le_of_lt_succ (isFormSafe_ascii hs)
    have hp : c ≠ '+' := isFormSafe_ne hs (by decide)
    have hm : c ≠ '%' := isFormSafe_ne hs (by decide)
    rw [String.utf8EncodeChar, if_pos ha]
    simp [plusAsSpace,hp,percentBytes_cons hm]
  · split
    · next hs =>
      obtain rfl : c = ' ' := by simpa using hs
      rw [show ['+'].map plusAsSpace ++ rest = ' ' :: rest from rfl,percentBytes_cons (by decide)]
      rfl
    · have hb : encodeUtf8 [c] = String.utf8EncodeChar c := by simp [encodeUtf8_eq]
      rw [percentChar,hb,List.map_flatMap]
      simp only [map_plusAsSpace_percentByte]
      exact percentBytes_flatMap_percentByte _ rest

theorem percentBytes_formQuote (s : Chars) :
    percentBytes ((formQuote s).map plusAsSpace) = encodeUtf8 s := by
  rw [encodeUtf8_eq]
  induction s with
  | nil => rfl
  | cons c s ih =>
    have hq : formQuote (c :: s) = quoteChar c ++ formQuote s := rfl
    rw [hq,List.map_append,percentBytes_quoteChar,ih,List.flatMap_cons]

/-- A text that is all ASCII is one run of percent marks. -/
theorem percentDecode_go_of_ascii {s : Chars} (h : ∀ c ∈ s, c.toNat < 128) (run : Chars) :
    percentDecode.go s run = decodeUtf8Lossy (percentBytes (run.reverse ++ s)) := by
  induction s generalizing run with
  | nil => simp [percentDecode.go]
  | cons c s ih =>
    have hr := ih (fun d hd => h d (List.mem_cons_of_mem c hd)) (c :: run)
    rw [percentDecode.go,if_pos (h c List.mem_cons_self),hr]
    simp

/-- What form encoding writes for a text is read back as the text. -/
theorem formUnquote_formQuote (s : Chars) : formUnquote (formQuote s) = s := by
  have ha : ∀ c ∈ (formQuote s).map plusAsSpace, c.toNat < 128 := by
    intro c hc
    obtain ⟨d,hd,rfl⟩ := List.mem_map.mp hc
    rcases mem_formQuote hd with rfl | rfl | hs
    · decide
    · decide
    · simpa [plusAsSpace,isFormSafe_ne hs (show isFormSafe '+' = false by decide)] using
        isFormSafe_ascii hs
  have hg := percentDecode_go_of_ascii ha []
  rw [List.reverse_nil,List.nil_append,percentBytes_formQuote,decodeUtf8Lossy_encodeUtf8] at hg
  exact hg

theorem formQuote_ne_nil {s : Chars} (h : s ≠ []) : formQuote s ≠ [] := by
  intro he
  have hu := formUnquote_formQuote s
  rw [he] at hu
  exact h hu.symm

/-- A pair as form encoding writes it. -/
def formPiece (p : String × String) : Chars := formQuote p.1.toList ++ '=' :: formQuote p.2.toList

theorem not_mem_formPiece (p : String × String) : '&' ∉ formPiece p := by
  have hq := not_mem_formQuote (d := '&') (by decide) (by decide) (by decide)
  simp [formPiece,hq]

/-- A piece is cut at its first `=`, since no name holds one. -/
theorem takeWhile_formPiece (p : String × String) :
    (formPiece p).takeWhile (· != '=') = formQuote p.1.toList ∧
      (formPiece p).dropWhile (· != '=') = '=' :: formQuote p.2.toList := by
  have hq := not_mem_formQuote (d := '=') (by decide) (by decide) (by decide) p.1.toList
  have ha : ∀ c ∈ formQuote p.1.toList, (c != '=') = true := by
    intro c hc
    exact bne_iff_ne.mpr fun he => hq (he ▸ hc)
  constructor
  · rw [formPiece,List.takeWhile_append_of_pos ha]
    simp
  · rw [formPiece,List.dropWhile_append_of_pos ha]
    simp

/-- The line of some pairs is read back as the pairs if blank values are kept or there are none. -/
theorem decodeForm_encodeForm_of {keepBlank : Bool} {pairs : List (String × String)}
    (hv : ∀ p ∈ pairs, keepBlank = false → p.2 ≠ "") : decodeForm keepBlank (encodeForm pairs) = pairs := by
  have hl : (encodeForm pairs).toList = join ['&'] (pairs.map formPiece) := String.toList_ofList
  unfold decodeForm
  rw [hl]
  rcases eq_or_ne pairs [] with rfl | hne
  · rfl
  rw [splitOn_join (by simpa using hne) (by
    intro piece hp
    obtain ⟨p,_,rfl⟩ := List.mem_map.mp hp
    exact not_mem_formPiece p),List.filterMap_map]
  clear hl hne
  induction pairs with
  | nil => rfl
  | cons p rest ih =>
    obtain ⟨ht,hd⟩ := takeWhile_formPiece p
    have hq : ¬(formQuote p.2.toList = [] ∧ keepBlank = false) := fun ⟨hnil,hk⟩ =>
      formQuote_ne_nil (s := p.2.toList) (by simpa using hv p List.mem_cons_self hk) hnil
    have hp : formPiece p ≠ [] := by simp [formPiece]
    rw [List.filterMap_cons,ih (fun x hx => hv x (List.mem_cons_of_mem p hx))]
    simp [ht,hd,hq,hp,formUnquote_formQuote]

theorem decodeForm_encodeForm {pairs : List (String × String)} (hv : ∀ p ∈ pairs, p.2 ≠ "") :
    decodeForm false (encodeForm pairs) = pairs :=
  decodeForm_encodeForm_of fun p hp _ => hv p hp

end TrackerHub.Web
