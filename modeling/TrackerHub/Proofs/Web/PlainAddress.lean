import Mathlib.Data.Bool.AllAny
import TrackerHub.Proofs.Number.Numeral
import TrackerHub.Proofs.Web.FormText
import TrackerHub.Proofs.Web.LoadedPage

/-! # Plain addresses

The addresses whose text is in normal form already: reading it gives the address itself. No character
of a part has to be marked, the host is in lower case, the port is not the usual one and the path has no
dot segments.
-/
namespace TrackerHub.Web
open Text (Chars splitOn decimalInt)

theorem cutAtAny_append {stops s t : Chars} (hs : ∀ c ∈ s, c ∉ stops)
    (ht : ∀ c ∈ t.head?, c ∈ stops) : cutAtAny stops (s ++ t) = (s,t) := by
  have hin : ∀ c ∈ s, (!stops.contains c) = true := fun c hc => by simpa using hs c hc
  unfold cutAtAny
  dsimp only
  rw [List.takeWhile_append_of_pos hin,List.dropWhile_append_of_pos hin]
  cases t with
  | nil => simp
  | cons c t =>
    have hc : c ∈ stops := ht c rfl
    simp [hc]

theorem partitionAtLast_of_not_mem {sep : Char} {s : Chars} (h : sep ∉ s) : partitionAtLast sep s = ([],s) := by
  have hall : ∀ c ∈ s.reverse, (c != sep) = true := fun c hc => by
    rw [bne_iff_ne]
    rintro rfl
    exact h (List.mem_reverse.mp hc)
  unfold partitionAtLast partitionAt
  dsimp only
  rw [List.takeWhile_eq_self_iff.mpr hall,List.drop_length]
  rfl

namespace Address

/-- Whether no character of a part has to be marked. -/
def Unmarked (allowed : Char → Bool) (s : Chars) : Prop :=
  ∀ c ∈ s, (isFormSafe c || allowed c) = true

theorem quotePart_of_unmarked {allowed : Char → Bool} {s : Chars} (h : Unmarked allowed s) :
    quotePart allowed s = s := by
  unfold quotePart
  induction s with
  | nil => rfl
  | cons c s ih =>
    obtain ⟨hc,hs⟩ := List.forall_mem_cons.mp h
    rw [List.flatMap_cons,if_pos hc,ih hs]
    rfl

/-- Whether the text of an address is in normal form. -/
structure IsPlain (a : Address) : Prop where
  web : a.IsWeb
  anonymous : a.userInfo = []
  named : a.host ≠ []
  host : ∀ c ∈ a.host, isFormSafe c = true ∧ c.toLower = c
  numeric : looksNumeric a.host = true → isIpv4 a.host = true
  port : ∀ n ∈ a.port, Numeral.IsShort n ∧ usualPort? a.scheme ≠ some n
  rooted : a.path = [] ∨ a.path.head? = some '/'
  path : Unmarked inPath a.path
  dotless : ['.'] ∉ splitOn '/' a.path ∧ ['.','.'] ∉ splitOn '/' a.path
  query : ∀ q ∈ a.query, Unmarked inQuery q
  fragment : ∀ f ∈ a.fragment, Unmarked inFragment f
  short : a.toText.length ≤ maxLength

def IsPrintable (c : Char) : Prop := 0x20 ≤ c.toNat ∧ c.toNat < 0x7F

instance (c : Char) : Decidable (IsPrintable c) := inferInstanceAs (Decidable (_ ∧ _))

theorem printable_of_formSafe {c : Char} (h : isFormSafe c = true) : IsPrintable c := by
  have hlt := isFormSafe_ascii h
  have hcode : ∀ n < 128, isFormSafe (Char.ofNat n) = true → 0x20 ≤ n ∧ n < 0x7F := by decide
  rw [← Char.ofNat_toNat c] at h
  exact hcode _ hlt h

theorem printable_of_unmarked {stops : String} {s : Chars} (h : Unmarked (printableBut stops) s) :
    ∀ c ∈ s, IsPrintable c := by
  intro c hc
  rcases Bool.or_eq_true_iff.mp (h c hc) with hsafe | hallowed
  · exact printable_of_formSafe hsafe
  · unfold printableBut at hallowed
    simp only [Bool.and_eq_true,decide_eq_true_eq] at hallowed
    exact hallowed.1

theorem not_mem_of_unmarked {allowed : Char → Bool} {s : Chars} (h : Unmarked allowed s) {d : Char}
    (hd : (isFormSafe d || allowed d) = false) : d ∉ s := by
  intro hin
  rw [h d hin] at hd
  cases hd

theorem control?_of_printable {s : Chars} (h : ∀ c ∈ s, IsPrintable c) : control? s = none := by
  have hall : ∀ c ∈ s, (decide (0x20 ≤ c.toNat) && c.toNat != 0x7F) = true := by
    intro c hc
    have hp := h c hc
    unfold IsPrintable at hp
    simp only [Bool.and_eq_true,decide_eq_true_eq,bne_iff_ne]
    omega
  unfold control?
  dsimp only
  rw [List.takeWhile_eq_self_iff.mpr hall]
  simp

theorem walk_of_dotless {path : Chars} (h : ['.'] ∉ splitOn '/' path ∧ ['.','.'] ∉ splitOn '/' path) :
    walk path = path := by
  unfold walk
  simp [h.1,h.2]

namespace IsPlain
variable {a : Address} (h : a.IsPlain)
include h

theorem colon_not_mem_host : ':' ∉ a.host := fun hin => by
  have hc := (h.host _ hin).1
  revert hc
  decide

/-- The port as it is written. -/
theorem authority_eq : a.authority = a.host ++ (a.port.map fun n => ':' :: decimalInt n).getD [] := by
  have hhost : hostText a.host = a.host := by
    unfold hostText
    rw [if_neg (by simpa using h.colon_not_mem_host)]
  rw [authority,hhost,h.anonymous]
  rfl

theorem normalHost_eq : normalHost a.host = .ok a.host := by
  have hascii : Text.isAscii a.host = true :=
    List.all_eq_true.mpr fun c hc => by simpa using isFormSafe_ascii (h.host c hc).1
  have hlower : a.host.map Char.toLower = a.host :=
    (List.map_congr_left fun c hc => (h.host c hc).2).trans (List.map_id _)
  have hsafe : Unmarked inHost a.host := fun c hc => by rw [(h.host c hc).1,Bool.true_or]
  have hopen : ¬(a.host.head? == some '[' && a.host.getLast? == some ']' && decide (2 ≤ a.host.length)) = true := by
    intro hb
    simp only [Bool.and_eq_true,beq_iff_eq] at hb
    have hc := (h.host _ (List.mem_of_mem_head? hb.1.1)).1
    revert hc
    decide
  unfold normalHost
  rw [if_neg (by simpa using h.named)]
  by_cases hn : looksNumeric a.host = true
  · rw [if_pos hn,if_pos (h.numeric hn)]
  · rw [if_neg hn,if_neg hopen,if_pos hascii,hlower,quotePart_of_unmarked hsafe]

theorem normalPort_eq : normalPort ((a.port.map decimalInt).getD []) a.scheme = .ok a.port := by
  cases hp : a.port with
  | none => rfl
  | some n =>
    obtain ⟨hshort,husual⟩ := h.port n hp
    unfold normalPort
    rw [Option.map_some,Option.getD_some,if_neg (by simpa using Numeral.decimalInt_ne_nil n),
      Numeral.readInt_decimalInt hshort]
    simp [husual]

theorem mem_authority {c : Char} (hc : c ∈ a.authority) :
    isFormSafe c = true ∨ c = ':' ∨ c = '-' ∨ c.isDigit = true := by
  rw [h.authority_eq,List.mem_append] at hc
  rcases hc with hc | hc
  · exact .inl (h.host c hc).1
  · cases hp : a.port with
    | none => rw [hp] at hc; cases hc
    | some n =>
      rw [hp] at hc
      exact .inr ((List.mem_cons.mp hc).imp_right Numeral.mem_decimalInt)

theorem not_mem_authority {d : Char} (hd : isFormSafe d = false) (hcolon : d ≠ ':') (hminus : d ≠ '-')
    (hdigit : d.isDigit = false) : d ∉ a.authority := by
  intro hin
  rcases h.mem_authority hin with hc | hc | hc | hc
  · rw [hd] at hc; cases hc
  · exact hcolon hc
  · exact hminus hc
  · rw [hdigit] at hc; cases hc

theorem splitAuthority_eq :
    splitAuthority a.authority = ([],a.host,(a.port.map decimalInt).getD []) := by
  have hat : '@' ∉ a.authority := h.not_mem_authority (by decide) (by decide) (by decide) (by decide)
  have hcut : cutAtAny [':','@'] a.authority = (a.host,(a.port.map fun n => ':' :: decimalInt n).getD []) := by
    rw [h.authority_eq]
    refine cutAtAny_append (fun c hc => ?_) ?_
    · have hsafe := (h.host c hc).1
      intro hin
      rcases List.mem_cons.mp hin with rfl | hin
      · revert hsafe; decide
      · obtain rfl := List.mem_singleton.mp hin
        revert hsafe; decide
    · cases a.port with
      | none => nofun
      | some n => rintro c ⟨⟩; exact List.mem_cons_self
  have hhead : ∀ rest, a.authority ≠ '[' :: rest := fun rest heq =>
    h.not_mem_authority (d := '[') (by decide) (by decide) (by decide) (by decide)
      (heq ▸ List.mem_cons_self)
  unfold splitAuthority
  rw [partitionAtLast_of_not_mem hat]
  dsimp only
  split
  · next heq => exact absurd heq (hhead _)
  · rw [hcut]
    cases a.port <;> rfl

/-- The parts of a plain address are its own in normal form. -/
theorem ofParts_eq : ofParts a.scheme a.authority a.path a.query a.fragment = .ok a := by
  have hscheme : a.scheme.map Char.toLower = a.scheme := by
    rcases h.web with hs | hs <;> rw [hs] <;> rfl
  have hnamed : a.host.isEmpty = false := by simpa using h.named
  have hpath : (!a.path.isEmpty && a.path.head? != some '/') = false := by
    rcases h.rooted with hr | hr
    · rw [hr]; rfl
    · rw [hr]; simp
  have hquery : a.query.map (quotePart inQuery) = a.query := by
    cases hq : a.query with
    | none => rfl
    | some q => rw [Option.map_some,quotePart_of_unmarked (h.query q hq)]
  have hfragment : a.fragment.map (quotePart inFragment) = a.fragment := by
    cases hf : a.fragment with
    | none => rfl
    | some f => rw [Option.map_some,quotePart_of_unmarked (h.fragment f hf)]
  unfold ofParts
  rw [h.splitAuthority_eq]
  dsimp only
  rw [h.normalHost_eq,h.normalPort_eq,hscheme,hquery,hfragment]
  simp only [bind,Except.bind,hnamed,Bool.not_false,Bool.or_true,Bool.true_or,Bool.true_and,hpath]
  simp only [Bool.false_eq_true,if_false,Bool.not_true,Bool.and_false]
  rw [walk_of_dotless h.dotless,quotePart_of_unmarked h.path]
  have hsame : { a with userInfo := [] } = a := by rw [← h.anonymous]
  exact congrArg Except.ok hsame

/-- What follows the authority of an address. -/
def tail (a : Address) : Chars :=
  a.path ++ ((a.query.map ('?' :: ·)).getD [] ++ (a.fragment.map ('#' :: ·)).getD [])

theorem toText_eq : a.toText = a.scheme ++ ':' :: '/' :: '/' :: (a.authority ++ tail a) := by
  have hscheme : a.scheme.isEmpty = false := by
    rcases h.web with hs | hs <;> rw [hs] <;> rfl
  have hauthority : a.authority.isEmpty = false := by
    rw [h.authority_eq]
    simp [h.named]
  unfold toText tail
  rw [hscheme,hauthority]
  simp

theorem splitScheme_toText : splitScheme a.toText = (a.scheme,'/' :: '/' :: (a.authority ++ tail a)) := by
  rw [h.toText_eq]
  rcases h.web with hs | hs <;> rw [hs] <;>
    simp [splitScheme,partitionAt,List.takeWhile,isSchemeChar]

theorem cut_authority : cutAtAny ['/','?','#'] (a.authority ++ tail a) = (a.authority,tail a) := by
  refine cutAtAny_append (fun c hc hin => ?_) fun c hc => ?_
  · have hstop : ∀ d ∈ ['/','?','#'], isFormSafe d = false ∧ d ≠ ':' ∧ d ≠ '-' ∧ d.isDigit = false :=
      List.all_iff_forall_prop.mp (by decide)
    obtain ⟨h1,h2,h3,h4⟩ := hstop c hin
    exact h.not_mem_authority h1 h2 h3 h4 hc
  · unfold tail at hc
    rcases h.rooted with hr | hr
    · rw [hr] at hc
      cases hq : a.query with
      | some q => rw [hq] at hc; cases hc; decide
      | none =>
        cases hf : a.fragment with
        | some f => rw [hq,hf] at hc; cases hc; decide
        | none => rw [hq,hf] at hc; cases hc
    · obtain ⟨rest,hrest⟩ := List.head?_eq_some_iff.mp hr
      rw [hrest] at hc
      cases hc
      decide

theorem cut_path : cutAtAny ['?','#'] (tail a) =
    (a.path,(a.query.map ('?' :: ·)).getD [] ++ (a.fragment.map ('#' :: ·)).getD []) := by
  refine cutAtAny_append (fun c hc hin => ?_) fun c hc => ?_
  · have hstop : ∀ d ∈ ['?','#'], (isFormSafe d || inPath d) = false :=
      List.all_iff_forall_prop.mp (by decide)
    exact not_mem_of_unmarked h.path (hstop c hin) hc
  · cases hq : a.query with
    | some q => rw [hq] at hc; cases hc; decide
    | none =>
      cases hf : a.fragment with
      | some f => rw [hq,hf] at hc; cases hc; decide
      | none => rw [hq,hf] at hc; cases hc

theorem printable : ∀ c ∈ a.toText, IsPrintable c := by
  intro c hc
  rw [h.toText_eq,List.mem_append] at hc
  have hquery : ∀ c ∈ (a.query.map ('?' :: ·)).getD [], IsPrintable c := by
    cases hq : a.query with
    | none => nofun
    | some q => exact List.forall_mem_cons.mpr ⟨by decide,printable_of_unmarked (h.query q hq)⟩
  have hfragment : ∀ c ∈ (a.fragment.map ('#' :: ·)).getD [], IsPrintable c := by
    cases hf : a.fragment with
    | none => nofun
    | some f => exact List.forall_mem_cons.mpr ⟨by decide,printable_of_unmarked (h.fragment f hf)⟩
  have htail : ∀ c ∈ tail a, IsPrintable c :=
    List.forall_mem_append.mpr ⟨printable_of_unmarked h.path,List.forall_mem_append.mpr ⟨hquery,hfragment⟩⟩
  have hauthority : ∀ c ∈ a.authority, IsPrintable c := by
    intro c hc
    rcases h.mem_authority hc with hc | rfl | rfl | hc
    · exact printable_of_formSafe hc
    · decide
    · decide
    · have hd := Numeral.isDigit_bounds hc
      unfold IsPrintable
      omega
  rcases hc with hc | hc
  · have hscheme : ∀ c ∈ a.scheme, IsPrintable c := by
      rcases h.web with hs | hs <;> rw [hs] <;> exact List.all_iff_forall_prop.mp (by decide)
    exact hscheme c hc
  · have hrest : ∀ c ∈ ':' :: '/' :: '/' :: (a.authority ++ tail a), IsPrintable c := by
      simp only [List.forall_mem_cons,List.forall_mem_append]
      exact ⟨by decide,by decide,by decide,hauthority,htail⟩
    exact hrest c hc

/-- The text of a plain address is read as the address. -/
theorem read_toText : Address.read a.toText = .ok a := by
  have hown := h.ofParts_eq
  unfold Address.read
  rw [if_neg (Nat.not_lt.mpr h.short),control?_of_printable h.printable]
  dsimp only
  rw [h.splitScheme_toText]
  simp only [h.cut_authority,h.cut_path]
  cases hq : a.query with
  | none =>
    rw [hq] at hown
    cases hf : a.fragment with
    | none => rw [hf] at hown; exact hown
    | some f => rw [hf] at hown; exact hown
  | some q =>
    have hcut : cutAtAny ['#'] (q ++ (a.fragment.map ('#' :: ·)).getD []) =
        (q,(a.fragment.map ('#' :: ·)).getD []) := by
      refine cutAtAny_append (fun c hc hin => ?_) fun c hc => ?_
      · obtain rfl := List.mem_singleton.mp hin
        exact not_mem_of_unmarked (h.query q hq) (by decide) hc
      · cases hf : a.fragment with
        | none => rw [hf] at hc; cases hc
        | some f => rw [hf] at hc; cases hc; decide
    have hmarked : marked '#' ((a.fragment.map ('#' :: ·)).getD []) = a.fragment := by
      cases a.fragment <;> rfl
    rw [hq] at hown
    simp only [Option.map_some,Option.getD_some,List.cons_append,hcut,hmarked]
    exact hown

end IsPlain

end Address

end TrackerHub.Web
