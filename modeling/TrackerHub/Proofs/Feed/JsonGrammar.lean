import TrackerHub.Feed.Json
import TrackerHub.Proofs.Feed.MarkupReading

/-! # The grammar of JSON

Which texts are JSON documents, and what they hold: names, numbers, strings, lists and objects. Names and
numbers are runs of the same characters, so that they end where another one stands; a document can be read in
one way only, even by a grammar with further names.
-/
namespace TrackerHub.Json
open TrackerHub.Text
open TrackerHub.Feed (run_unique)

/-! ## Names and numbers -/

def IsDigits (s : Chars) : Prop := s ≠ [] ∧ ∀ c ∈ s, c.isDigit = true

-- Decided for the characters of the text, not for all characters.
instance (s : Chars) : Decidable (IsDigits s) :=
  haveI := List.decidableBAll (fun c : Char => c.isDigit = true) s
  inferInstanceAs (Decidable (_ ∧ _))

/-- The whole part of a number begins with no zero, unless that is all of it. -/
def IsWhole (s : Chars) : Prop := IsDigits s ∧ (s.head? = some '0' → s = ['0'])

/-- The decimal places of a number, if it has any. -/
inductive IsFraction : Chars → Prop where
  | none : IsFraction []
  | some {ds} (h : IsDigits ds) : IsFraction ('.' :: ds)

/-- The power of ten of a number, if it has one. -/
inductive IsExponent : Chars → Prop where
  | none : IsExponent []
  | some {e sign ds} (he : e = 'e' ∨ e = 'E') (hs : sign ∈ [[],['+'],['-']]) (hd : IsDigits ds) :
    IsExponent (e :: (sign ++ ds))

/-- A number without a sign. -/
inductive IsUnsigned : Chars → Prop where
  | intro {whole fraction exponent} (hw : IsWhole whole) (hf : IsFraction fraction)
    (he : IsExponent exponent) : IsUnsigned (whole ++ (fraction ++ exponent))

inductive IsNumber : Chars → Prop where
  | plain {s} (hs : IsUnsigned s) : IsNumber s
  | minus {s} (hs : IsUnsigned s) : IsNumber ('-' :: s)

def names : List Chars := ["false".toList,"null".toList,"true".toList]

/-- A name of a value, or a number. -/
def IsWord (w : Chars) : Prop := w ∈ names ∨ IsNumber w

/-- The characters of names and numbers. -/
def isWordChar (c : Char) : Bool := c.isAlphanum || c == '+' || c == '-' || c == '.'

/-- A run of the characters of names and numbers. -/
def IsRun (w : Chars) : Prop := w ≠ [] ∧ ∀ c ∈ w, isWordChar c = true

instance (w : Chars) : Decidable (IsRun w) :=
  haveI := List.decidableBAll (fun c => isWordChar c = true) w
  inferInstanceAs (Decidable (_ ∧ _))

/-- Whether the names and numbers of a grammar are runs of their characters. -/
def AreRuns (P : Chars → Prop) : Prop := ∀ w, P w → IsRun w

/-! ## Strings -/

/-- The characters that are written behind a backslash, with what they stand for. -/
def shortEscapes : List (Char × Nat) := [
  ('"',0x22),('\\',0x5C),('/',0x2F),('b',8),('f',12),('n',10),('r',13),('t',9)]

/-- The units of sixteen bits that make a character. -/
def units (c : Char) : List Nat :=
  if c.toNat < 0x10000 then [c.toNat]
  else [0xD800 + (c.toNat - 0x10000) / 0x400,0xDC00 + (c.toNat - 0x10000) % 0x400]

/-- The units that a text in a string begins with, and what follows. -/
def readUnits? : Chars → Option (List Nat × Chars)
  | '\\' :: 'u' :: a :: b :: c :: d :: r => (readHex? [a,b,c,d]).map fun n => ([n],r)
  | '\\' :: c :: r => (shortEscapes.lookup c).map fun n => ([n],r)
  | c :: r => if c = '"' ∨ c = '\\' ∨ c.toNat < 0x20 then none else some (units c,r)
  | [] => none

/-- The text `s` begins with the units `us` and goes on with `r`. -/
inductive Spells : List Nat → Chars → Chars → Prop where
  | nil {r} : Spells [] r r
  | cons {u us s t r} (hs : readUnits? s = some (u,t)) (ht : Spells us t r) : Spells (u ++ us) s r

/-- The text `s` begins with a string of the units `us` and goes on with `r`. -/
def Quoted (us : List Nat) (s r : Chars) : Prop := ∃ t, s = '"' :: t ∧ Spells us t ('"' :: r)

/-! ## Values -/

/-- What a document holds. Names and numbers are kept as they are written. -/
inductive Datum where
  | word (w : Chars)
  | text (units : List Nat)
  | list (items : List Datum)
  | object (members : List (List Nat × Datum))

/-- The characters that may stand between the parts of a document. -/
def isGap (c : Char) : Bool := c == ' ' || c == '\t' || c == '\n' || c == '\r'

/-- The text `s` begins with a gap, which may be empty, and goes on with `r`. -/
def Gap (s r : Chars) : Prop := ∃ a, (∀ c ∈ a, isGap c = true) ∧ s = a ++ r

section
variable {α : Type} (part : α → Chars → Chars → Prop)

/-- Further parts behind a first one, each after a comma. -/
inductive More : List α → Chars → Chars → Prop where
  | nil {s r} (hs : Gap s r) : More [] s r
  | cons {d ds s t x y r} (hs : Gap s (',' :: t)) (ht : Gap t x) (hx : part d x y) (hy : More ds y r) :
    More (d :: ds) s r

/-- Parts with commas between them. -/
inductive Separated : List α → Chars → Chars → Prop where
  | none {s r} (hs : Gap s r) : Separated [] s r
  | some {d ds s x y r} (hs : Gap s x) (hx : part d x y) (hy : More part ds y r) : Separated (d :: ds) s r

end

/-- A value with the string that names it. -/
inductive Member (value : Datum → Chars → Chars → Prop) : List Nat × Datum → Chars → Chars → Prop where
  | intro {k v s x y z r} (hs : Quoted k s x) (hx : Gap x (':' :: y)) (hy : Gap y z) (hz : value v z r) :
    Member value (k,v) s r

/-- The text `s` begins with the value `d` and goes on with `r`, when `P` are the names and numbers. -/
inductive Reads (P : Chars → Prop) : Datum → Chars → Chars → Prop where
  | word {w r} (hw : P w) : Reads P (.word w) (w ++ r) r
  | text {us s r} (hs : Quoted us s r) : Reads P (.text us) s r
  | list {ds s r} (hs : Separated (Reads P) ds s (']' :: r)) : Reads P (.list ds) ('[' :: s) r
  | object {ms s r} (hs : Separated (Member (Reads P)) ms s ('\x7d' :: r)) :
    Reads P (.object ms) ('\x7b' :: s) r

/-- The text is a document that holds the value `d`, when `P` are the names and numbers. -/
def IsDocumentOf (P : Chars → Prop) (d : Datum) (s : Chars) : Prop :=
  ∃ x y, Gap s x ∧ Reads P d x y ∧ Gap y []

/-- The text is a document that holds the value `d`. -/
def IsDocument (d : Datum) (s : Chars) : Prop := IsDocumentOf IsWord d s

/-! ## Characters -/

inductive Kind where
  | word
  | text
  | list
  | object

/-- The kind of the values that begin with a character. -/
def kindOf? (c : Char) : Option Kind :=
  if isWordChar c then some .word
  else if c = '"' then some .text
  else if c = '[' then some .list
  else if c = '\x7b' then some .object
  else none

def Datum.kind : Datum → Kind
  | .word _ => .word
  | .text _ => .text
  | .list _ => .list
  | .object _ => .object

/-- Whether a text does not go on with a name or a number. -/
def EndsWord (s : Chars) : Prop := ∀ c t, s = c :: t → isWordChar c = false

/-- Whether a text goes on with a value. -/
def BeginsValue (s : Chars) : Prop := ∃ c t, s = c :: t ∧ (kindOf? c).isSome = true

/-- A character that ends a list or an object. -/
structure IsEnd (c : Char) : Prop where
  gap : isGap c = false
  kind : kindOf? c = none
  comma : c ≠ ','

theorem isWordChar_of_isGap {c : Char} (h : isGap c = true) : isWordChar c = false := by
  simp only [isGap,Bool.or_eq_true,beq_iff_eq] at h
  rcases h with ((rfl | rfl) | rfl) | rfl <;> decide

section
variable {P Q : Chars → Prop} {us vs : List Nat} {s t x y r u : Chars} {c : Char} {d e : Datum}

theorem isWordChar_of_kindOf? (h : kindOf? c = none) : isWordChar c = false := by
  unfold kindOf? at h
  split at h
  · cases h
  next hc => exact Bool.eq_false_iff.mpr hc

theorem isGap_of_kindOf? (h : (kindOf? c).isSome = true) : isGap c = false := by
  rw [← Bool.not_eq_true]
  intro hc
  simp only [isGap,Bool.or_eq_true,beq_iff_eq] at hc
  rcases hc with ((rfl | rfl) | rfl) | rfl <;> exact absurd h (by decide)

/-- A gap ends where a character stands that is none of it. -/
theorem gap_unique {c d : Char} (h : Gap s (c :: x)) (h' : Gap s (d :: y)) (hc : isGap c = false)
    (hd : isGap d = false) : c = d ∧ x = y := by
  obtain ⟨a,ha,rfl⟩ := h
  obtain ⟨b,hb,heq⟩ := h'
  exact (run_unique ha hb hc hd heq).2

theorem Gap.endsWord (h : Gap s (c :: x)) (hc : isWordChar c = false) : EndsWord s := by
  obtain ⟨a,ha,rfl⟩ := h
  intro d t heq
  cases a with
  | nil => exact (List.cons.inj heq).1 ▸ hc
  | cons b a => exact (List.cons.inj heq).1 ▸ isWordChar_of_isGap (ha b List.mem_cons_self)

theorem Gap.endsWord_of_nil (h : Gap s []) : EndsWord s := by
  obtain ⟨a,ha,rfl⟩ := h
  intro c t heq
  rw [List.append_nil] at heq
  exact isWordChar_of_isGap (ha c (heq ▸ List.mem_cons_self))

theorem Gap.value_unique (h : Gap s x) (h' : Gap s y) (hx : BeginsValue x) (hy : BeginsValue y) : x = y := by
  obtain ⟨c,x,rfl,hc⟩ := hx
  obtain ⟨d,y,rfl,hd⟩ := hy
  obtain ⟨rfl,rfl⟩ := gap_unique h h' (isGap_of_kindOf? hc) (isGap_of_kindOf? hd)
  rfl

/-- No value begins where a list or an object ends. -/
theorem Gap.not_value (h : Gap s (c :: x)) (h' : Gap s y) (hc : IsEnd c) : ¬BeginsValue y := by
  rintro ⟨d,y,rfl,hd⟩
  obtain ⟨rfl,-⟩ := gap_unique h h' hc.gap (isGap_of_kindOf? hd)
  rw [hc.kind] at hd
  cases hd

/-! ## Strings -/

theorem Spells.unique (h : Spells us s x) (h' : Spells vs s y) (hx : x = '"' :: r) (hy : y = '"' :: u) :
    us = vs ∧ r = u := by
  induction h generalizing vs with
  | nil =>
    cases h' with
    | nil => exact ⟨rfl,(List.cons.inj (hx.symm.trans hy)).2⟩
    | cons hs ht =>
      rw [hx] at hs
      exact absurd hs (by simp [readUnits?])
  | cons hs ht ih =>
    cases h' with
    | nil =>
      rw [hy] at hs
      exact absurd hs (by simp [readUnits?])
    | cons hs' ht' =>
      obtain ⟨rfl,rfl⟩ := Prod.mk.inj (Option.some.inj (hs.symm.trans hs'))
      obtain ⟨rfl,hru⟩ := ih ht' hx
      exact ⟨rfl,hru⟩

theorem Quoted.unique (h : Quoted us s r) (h' : Quoted vs s u) : us = vs ∧ r = u := by
  obtain ⟨t,rfl,ht⟩ := h
  obtain ⟨t',heq,ht'⟩ := h'
  obtain ⟨-,rfl⟩ := List.cons.inj heq
  exact ht.unique ht' rfl rfl

end

/-! ## Lists and objects -/

section
variable {α : Type} {part part' : α → Chars → Chars → Prop} {ds es : List α} {s r u q q' : Chars} {c : Char}

/-- Whether the parts of a list can be told from each other. -/
def AreTold (part part' : α → Chars → Chars → Prop) (ds : List α) : Prop :=
  ∀ d ∈ ds, ∀ e s r u, part d s r → part' e s u → EndsWord r → EndsWord u → d = e ∧ r = u

theorem More.endsWord (h : More part ds s q) (hq : q = c :: r) (hc : isWordChar c = false) : EndsWord s := by
  cases h with
  | nil hs => exact (hq ▸ hs).endsWord hc
  | cons hs => exact hs.endsWord (by decide)

variable (hp : ∀ d s r, part d s r → BeginsValue s) (hp' : ∀ d s r, part' d s r → BeginsValue s)
include hp hp'

theorem More.unique (htold : AreTold part part' ds) (hc : IsEnd c) (h : More part ds s q)
    (h' : More part' es s q') (hq : q = c :: r) (hq' : q' = c :: u) : ds = es ∧ r = u := by
  induction h generalizing es with
  | nil hs =>
    subst hq
    cases h' with
    | nil hs' =>
      subst hq'
      exact ⟨rfl,(gap_unique hs hs' hc.gap hc.gap).2⟩
    | cons hs' => exact absurd (gap_unique hs hs' hc.gap (by decide)).1 hc.comma
  | cons hs ht hx hy ih =>
    cases h' with
    | nil hs' =>
      subst hq'
      exact absurd (gap_unique hs' hs hc.gap (by decide)).1 hc.comma
    | cons hs' ht' hx' hy' =>
      obtain ⟨-,rfl⟩ := gap_unique hs hs' (by decide) (by decide)
      obtain rfl := ht.value_unique ht' (hp _ _ _ hx) (hp' _ _ _ hx')
      have hword := isWordChar_of_kindOf? hc.kind
      obtain ⟨rfl,rfl⟩ := htold _ List.mem_cons_self _ _ _ _ hx hx' (hy.endsWord hq hword)
        (hy'.endsWord hq' hword)
      obtain ⟨rfl,hru⟩ := ih (fun d hd => htold d (List.mem_cons_of_mem _ hd)) hy' hq
      exact ⟨rfl,hru⟩

theorem Separated.unique (htold : AreTold part part' ds) (hc : IsEnd c) (h : Separated part ds s (c :: r))
    (h' : Separated part' es s (c :: u)) : ds = es ∧ r = u := by
  cases h with
  | none hs =>
    cases h' with
    | none hs' => exact ⟨rfl,(gap_unique hs hs' hc.gap hc.gap).2⟩
    | some hs' hx' => exact absurd (hp' _ _ _ hx') (hs.not_value hs' hc)
  | some hs hx hy =>
    cases h' with
    | none hs' => exact absurd (hp _ _ _ hx) (hs'.not_value hs hc)
    | some hs' hx' hy' =>
      obtain rfl := hs.value_unique hs' (hp _ _ _ hx) (hp' _ _ _ hx')
      have hword := isWordChar_of_kindOf? hc.kind
      obtain ⟨rfl,rfl⟩ := htold _ List.mem_cons_self _ _ _ _ hx hx' (hy.endsWord rfl hword)
        (hy'.endsWord rfl hword)
      obtain ⟨rfl,hru⟩ := More.unique hp hp' (fun d hd => htold d (List.mem_cons_of_mem _ hd)) hc hy hy' rfl rfl
      exact ⟨rfl,hru⟩

end

/-! ## Values -/

section
variable {P Q : Chars → Prop} {s r u : Chars} {d e : Datum}

/-- The first character of a value tells its kind. -/
theorem Reads.begins (hP : AreRuns P) (h : Reads P d s r) : ∃ c t, s = c :: t ∧ kindOf? c = some d.kind := by
  cases h with
  | @word w r hw =>
    obtain ⟨hne,hrun⟩ := hP w hw
    obtain ⟨c,w,rfl⟩ := List.exists_cons_of_ne_nil hne
    exact ⟨c,w ++ r,rfl,if_pos (hrun c List.mem_cons_self)⟩
  | text hs =>
    obtain ⟨t,rfl,-⟩ := hs
    exact ⟨_,_,rfl,rfl⟩
  | list hs => exact ⟨_,_,rfl,rfl⟩
  | object hs => exact ⟨_,_,rfl,rfl⟩

theorem Reads.beginsValue (hP : AreRuns P) (h : Reads P d s r) : BeginsValue s := by
  obtain ⟨c,t,rfl,hc⟩ := h.begins hP
  exact ⟨c,t,rfl,by rw [hc]; rfl⟩

theorem Member.beginsValue {value : Datum → Chars → Chars → Prop} {m : List Nat × Datum}
    (h : Member value m s r) : BeginsValue s := by
  cases h with
  | intro hs =>
    obtain ⟨t,rfl,-⟩ := hs
    exact ⟨_,_,rfl,rfl⟩

theorem reads_word_iff {w : Chars} : Reads P (.word w) s r ↔ P w ∧ s = w ++ r := by
  refine ⟨fun h => ?_,fun ⟨hw,hs⟩ => hs ▸ .word hw⟩
  cases h with
  | word hw => exact ⟨hw,rfl⟩

theorem reads_text_iff {us : List Nat} : Reads P (.text us) s r ↔ Quoted us s r := by
  refine ⟨fun h => ?_,.text⟩
  cases h with
  | text hs => exact hs

theorem reads_list_iff {ds : List Datum} :
    Reads P (.list ds) s r ↔ ∃ t, s = '[' :: t ∧ Separated (Reads P) ds t (']' :: r) := by
  refine ⟨fun h => ?_,fun ⟨_,hs,ht⟩ => hs ▸ .list ht⟩
  cases h with
  | list ht => exact ⟨_,rfl,ht⟩

theorem reads_object_iff {ms : List (List Nat × Datum)} :
    Reads P (.object ms) s r ↔ ∃ t, s = '\x7b' :: t ∧ Separated (Member (Reads P)) ms t ('\x7d' :: r) := by
  refine ⟨fun h => ?_,fun ⟨_,hs,ht⟩ => hs ▸ .object ht⟩
  cases h with
  | object ht => exact ⟨_,rfl,ht⟩

theorem Member.unique {value value' : Datum → Chars → Chars → Prop} {m n : List Nat × Datum}
    (hv : ∀ d s r, value d s r → BeginsValue s) (hv' : ∀ d s r, value' d s r → BeginsValue s)
    (htold : AreTold value value' [m.2]) (hr : EndsWord r) (hu : EndsWord u) (h : Member value m s r)
    (h' : Member value' n s u) : m = n ∧ r = u := by
  cases h with
  | intro hs hx hy hz =>
    cases h' with
    | intro hs' hx' hy' hz' =>
      obtain ⟨rfl,rfl⟩ := hs.unique hs'
      obtain ⟨-,rfl⟩ := gap_unique hx hx' (by decide) (by decide)
      obtain rfl := hy.value_unique hy' (hv _ _ _ hz) (hv' _ _ _ hz')
      obtain ⟨rfl,hru⟩ := htold _ List.mem_cons_self _ _ _ _ hz hz' hr hu
      exact ⟨rfl,hru⟩

theorem word_unique {w w' : Chars} (hw : ∀ c ∈ w, isWordChar c = true) (hw' : ∀ c ∈ w', isWordChar c = true)
    (hr : EndsWord r) (hu : EndsWord u) (h : w ++ r = w' ++ u) : w = w' ∧ r = u := by
  have take {w r : Chars} (hw : ∀ c ∈ w, isWordChar c = true) (hr : EndsWord r) :
      (w ++ r).takeWhile isWordChar = w := by
    rw [List.takeWhile_append_of_pos hw]
    cases r with
    | nil => simp
    | cons c r => rw [List.takeWhile_cons_of_neg (by simp [hr c r rfl]),List.append_nil]
  obtain rfl : w = w' := (take hw hr).symm.trans ((congrArg _ h).trans (take hw' hu))
  exact ⟨rfl,List.append_cancel_left h⟩

/-- A value can be read in one way only, if no further name or number stands behind it. -/
theorem Reads.unique (hP : AreRuns P) (hQ : AreRuns Q) {d e : Datum} {s r u : Chars} (h : Reads P d s r)
    (h' : Reads Q e s u) (hr : EndsWord r) (hu : EndsWord u) : d = e ∧ r = u := by
  -- The first character tells the kind of a value.
  have hkind : d.kind = e.kind := by
    obtain ⟨c,t,hs,hd⟩ := h.begins hP
    obtain ⟨c',t',hs',he⟩ := h'.begins hQ
    obtain ⟨rfl,-⟩ := List.cons.inj (hs.symm.trans hs')
    exact Option.some.inj (hd.symm.trans he)
  have hv (d : Datum) (s r : Chars) (h : Reads P d s r) : BeginsValue s := h.beginsValue hP
  have hv' (d : Datum) (s r : Chars) (h : Reads Q d s r) : BeginsValue s := h.beginsValue hQ
  match d, e, hkind with
  | .word w, .word w', _ =>
    obtain ⟨hw,rfl⟩ := reads_word_iff.mp h
    obtain ⟨hw',hs⟩ := reads_word_iff.mp h'
    obtain ⟨rfl,hru⟩ := word_unique (hP w hw).2 (hQ w' hw').2 hr hu hs
    exact ⟨rfl,hru⟩
  | .text us, .text vs, _ =>
    obtain ⟨rfl,hru⟩ := (reads_text_iff.mp h).unique (reads_text_iff.mp h')
    exact ⟨rfl,hru⟩
  | .list ds, .list es, _ =>
    obtain ⟨t,rfl,ht⟩ := reads_list_iff.mp h
    obtain ⟨t',hs,ht'⟩ := reads_list_iff.mp h'
    obtain ⟨-,rfl⟩ := List.cons.inj hs
    have htold : AreTold (Reads P) (Reads Q) ds := fun d hd e s r u h h' hr hu => Reads.unique hP hQ h h' hr hu
    obtain ⟨rfl,hru⟩ := ht.unique hv hv' htold ⟨by decide,by decide,by decide⟩ ht'
    exact ⟨rfl,hru⟩
  | .object ms, .object ns, _ =>
    obtain ⟨t,rfl,ht⟩ := reads_object_iff.mp h
    obtain ⟨t',hs,ht'⟩ := reads_object_iff.mp h'
    obtain ⟨-,rfl⟩ := List.cons.inj hs
    have htold : AreTold (Member (Reads P)) (Member (Reads Q)) ms := by
      intro m hm n s r u h h' hr hu
      refine Member.unique hv hv' ?_ hr hu h h'
      intro d hd e s r u h h' hr hu
      obtain rfl := List.mem_singleton.mp hd
      exact Reads.unique hP hQ h h' hr hu
    obtain ⟨rfl,hru⟩ := ht.unique (fun _ _ _ => Member.beginsValue) (fun _ _ _ => Member.beginsValue) htold
      ⟨by decide,by decide,by decide⟩ ht'
    exact ⟨rfl,hru⟩
termination_by d
decreasing_by
  · have := List.sizeOf_lt_of_mem hd
    simp
    omega
  · have := List.sizeOf_lt_of_mem hm
    obtain ⟨k,v⟩ := m
    simp at *
    omega

end

/-- A document is one of one value only. -/
theorem IsDocumentOf.unique {P Q : Chars → Prop} {d e : Datum} {s : Chars} (hP : AreRuns P) (hQ : AreRuns Q)
    (h : IsDocumentOf P d s) (h' : IsDocumentOf Q e s) : d = e := by
  obtain ⟨x,y,hs,hx,hy⟩ := h
  obtain ⟨x',y',hs',hx',hy'⟩ := h'
  obtain rfl := hs.value_unique hs' (hx.beginsValue hP) (hx'.beginsValue hQ)
  exact (hx.unique hP hQ hx' hy.endsWord_of_nil hy'.endsWord_of_nil).1

end TrackerHub.Json
