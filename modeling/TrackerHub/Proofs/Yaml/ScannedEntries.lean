import TrackerHub.Proofs.Yaml.ScannedBlocks

/-! # Written entries as tokens

An entry of a block gives the tokens of its name and of its value, between them the mark of a value. A name
on the line of its colon must end soon enough behind its beginning.
-/
namespace TrackerHub.Yaml
open TrackerHub.Text

namespace Scanner
variable {a b s : Scanner} {ts : List Token} {rest r t : Chars} {column : Nat} {blocks : List Nat} {keyAllowed : Bool}

/-! ## Marks -/

theorem pushNext_colon (h : atGap r = true) : a.pushNext ':' r = a.pushValue := by
  have hmark (m : Char) (hm : m ≠ ':') : atMark m (':' :: r) = false := by
    match r with
    | [] => rfl
    | [_] => rfl
    | _ :: _ :: _ => simp [atMark,hm.symm]
  unfold pushNext
  simp [hmark,h]

theorem pushNext_question : a.pushNext '?' (' ' :: r) = a.pushBlockMark .blockMapping .key := by
  have hmark (m : Char) (hm : m ≠ '?') : atMark m ('?' :: ' ' :: r) = false := by
    cases r <;> simp [atMark,hm.symm]
  have hgap : atGap (' ' :: r) = true := rfl
  unfold pushNext
  simp [hmark,hgap]

/-- A mark that stands where a key may begin opens a block there. -/
theorem At.pushBlockMark {c : Char} (h : At a ts (c :: r) column blocks true) (hc : isBreak c = false ∧ c ≠ '\uFEFF')
    {mark : Token} (hmark : mark = .key ∨ mark = .value) : ∃ s, a.pushBlockMark .blockMapping mark = .ok s ∧
      At s (ts ++ (opening column blocks ++ [mark])) r (column + 1) (enter column blocks) true := by
  have hopened : At (a.openBlockHere .blockMapping) (ts ++ opening column blocks) (c :: r) column (enter column blocks)
      true := by
    unfold openBlockHere isDeeper opening enter
    rw [h.indent,h.column]
    by_cases hdeeper : innermost blocks < column
    · simp only [hdeeper,decide_true,↓reduceIte]
      exact (h.openBlock column).push .blockMapping
    · simp only [hdeeper,decide_false,Bool.false_eq_true,↓reduceIte,List.append_nil]
      exact h
  have hallowed : At {a.openBlockHere .blockMapping with keyAllowed := !(a.openBlockHere .blockMapping).inFlow}
      (ts ++ opening column blocks) (c :: r) column (enter column blocks) true :=
    {hopened with keyAllowed := by rw [hopened.inFlow]; rfl}
  have hmoved := (hallowed.push mark).moveTo (p := [c]) (r := r) rfl
  rw [advance_line (by simpa using hc)] at hmoved
  refine ⟨_,?_,by simpa using hmoved⟩
  have hskip : (a.openBlockHere .blockMapping).rest.drop 1 = r := by rw [hopened.rest]; rfl
  have hgive := hallowed.giveUpKey
  rcases hmark with rfl | rfl
  all_goals
    simp only [Scanner.pushBlockMark,h.inFlow,h.keyAllowed,Bool.false_eq_true,↓reduceIte,pure_bind]
    rw [hgive]
    exact congrArg (fun x => Except.ok (Scanner.moveTo _ x)) hskip

theorem At.pushValue_refused (h : At s ts rest column blocks false) : s.pushValue = .error .malformed := by
  simp only [Scanner.pushValue,Scanner.pushBlockMark,h.possible,h.inFlow,h.keyAllowed,Bool.false_eq_true,↓reduceIte]
  rfl

theorem runFrom_of_refused {c : Char} {e : YamlError} (hrest : a.rest = c :: r) (h : a.pushNext c r = .error e)
    (fuel : Nat) : runFrom fuel a = .error e := by
  simp only [runFrom,hrest,h]
  rfl

/-! ## Names -/

theorem settled_colon (t : Chars) : Settled (':' :: t) := .inr ⟨':',t,rfl,by decide,by decide,by decide,by decide⟩

theorem scalar_ne_nil (split : Bool) (indent column : Nat) (s : Chars) : Write.scalar split indent column s ≠ [] := by
  unfold Write.scalar
  split
  next hstyle =>
    have hallows := styleOf_plain.mp hstyle
    obtain ⟨c,r,-,-,hr⟩ := (isPlain_of_allowsPlain hallows).written_head (allowsPlain_facts hallows).2.1 split indent none
      column
    rw [hr]
    exact List.cons_ne_nil c r
  next => simp
  next => simp

section
variable {indent k : Nat} {name : Chars}

/-- The scanner at the colon behind a name. -/
def atColon (a : Scanner) (name t : Chars) : Scanner := (a.noted (scalarToken name)).moveTo (':' :: t)

/-- A name that stands before its colon moves the scanner on along its line. -/
theorem At.atColon (h : At a ts (Write.scalar false indent k name ++ ':' :: t) column blocks true)
    (hname : Write.isSimpleName name = true) : (a.atColon name t).toNextToken = a.atColon name t ∧
    (a.atColon name t).line = a.line ∧
    (a.atColon name t).index = a.index + (Write.scalar false indent k name).length ∧
    (a.atColon name t).possible = some a.keyHere ∧
    At {a.atColon name t with possible := none} (ts ++ [scalarToken name]) (':' :: t)
      (column + (Write.scalar false indent k name).length) blocks false := by
  obtain ⟨hrest,hindex,hline,hcolumn,-,-,-⟩ := noted_facts a (scalarToken name)
  have hplace := advance_line (oneLine_scalar hname indent k)
  have hmove := moveTo_eq (hrest.trans h.rest)
  rw [hplace,hline,hindex] at hmove
  refine ⟨?_,by rw [Scanner.atColon,hmove],by rw [Scanner.atColon,hmove],?_,?_⟩
  · rw [toNextToken_spaces (n := 0) (r := ':' :: t) rfl (settled_colon t)]
    exact moveTo_self
  · change (a.noted (scalarToken name)).possible = _
    rw [Scanner.noted,if_pos h.keyAllowed]
  · have hmoved := (h.noted (scalarToken name)).moveTo rfl
    rw [hplace] at hmoved
    exact hmoved

theorem dropStaleKeys_near {key : PossibleKey} (hpossible : s.possible = some key) (haround : s.around = [])
    (hline : key.line = s.line) (hnear : s.index - key.index ≤ 1024) : s.dropStaleKeys = .ok s := by
  cases s
  simp only at hpossible haround hline hnear
  subst hpossible haround
  simp only [dropStaleKeys,dropStale,hline,ne_eq,not_true_eq_false,Nat.not_lt.mpr hnear,or_self,↓reduceIte]
  rfl

theorem closeBlocks_of_le {c : Int} (h : s.indent ≤ c) : s.closeBlocks c = s := by
  have hclose (fuel : Nat) : closeBlocksFrom fuel c s = s := by
    cases fuel with
    | zero => rfl
    | succ fuel => rw [closeBlocksFrom,if_neg (by omega)]
  unfold closeBlocks
  split
  · rfl
  · exact hclose _

/-- The colon behind a name turns the name into a key. -/
theorem At.pushValue (h : At a ts (Write.scalar false indent k name ++ ':' :: t) column blocks true)
    (hname : Write.isSimpleName name = true) : ∃ s, (a.atColon name t).pushValue = .ok s ∧
    At s (ts ++ (opening column blocks ++ [.key,scalarToken name,.value])) t
      (column + (Write.scalar false indent k name).length + 1) (enter column blocks) false := by
  obtain ⟨-,-,-,hpossible,hat⟩ := h.atColon hname
  have hitems : (a.atColon name t).items = .token (scalarToken name) :: .slot a.slots :: a.items := by
    change (a.noted _).items = _
    rw [Scanner.noted,if_pos h.keyAllowed]
  have hslots : (a.atColon name t).slots = a.slots + 1 := by
    change (a.noted _).slots = _
    rw [Scanner.noted,if_pos h.keyAllowed]
  -- The slot is fresh: nothing but the name stands behind it.
  have hfilled (filling : List Item) : fillSlot a.slots filling (a.atColon name t).items =
      .token (scalarToken name) :: (filling ++ a.items) := by
    have hfresh : Item.slot a.slots ∉ a.items := fun hmem => Nat.lt_irrefl _ (h.fresh _ hmem)
    rw [hitems]
    simpa [fillSlot] using fillSlot_of_fresh hfresh filling
  have hdeeper : (!(a.atColon name t).inFlow && (a.atColon name t).isDeeper a.keyHere.column) =
      decide (innermost blocks < column) := by
    have hinFlow : (a.atColon name t).inFlow = false := hat.inFlow
    have hindent : (a.atColon name t).indent = innermost blocks := hat.indent
    simp only [hinFlow,isDeeper,hindent,keyHere,h.column,Bool.not_false,Bool.true_and]
  have hfilling : (if innermost blocks < column then [Item.token .key,.token .blockMapping] else [.token .key]) =
      (opening column blocks ++ [Token.key]).reverse.map Item.token := by
    unfold opening
    split <;> rfl
  -- Whether a block is opened depends on the column alone; from here on both cases are one.
  obtain ⟨o,ho,hopened,hoitems,hoslots⟩ : ∃ o, (if innermost blocks < column then
      (a.atColon name t).openBlock a.keyHere.column else a.atColon name t) = o ∧
      At {o with possible := none} (ts ++ [scalarToken name]) (':' :: t)
        (column + (Write.scalar false indent k name).length) (enter column blocks) false ∧
      o.items = (a.atColon name t).items ∧ o.slots = (a.atColon name t).slots := by
    refine ⟨_,rfl,?_⟩
    unfold enter
    split
    · rw [show a.keyHere.column = column from h.column]
      exact ⟨hat.openBlock column,rfl,rfl⟩
    · exact ⟨hat,rfl,rfl⟩
  unfold Scanner.pushValue
  simp only [hpossible,hdeeper,decide_eq_true_eq]
  rw [hfilling,ho,show a.keyHere.slot = a.slots from rfl,hoitems,hfilled]
  have hfull : At {o with
      items := .token (scalarToken name) :: ((opening column blocks ++ [Token.key]).reverse.map .token ++ a.items),
      possible := none,keyAllowed := false} (ts ++ (opening column blocks ++ [.key,scalarToken name])) (':' :: t)
      (column + (Write.scalar false indent k name).length) (enter column blocks) false := by
    refine {hopened with keyAllowed := rfl,fresh := fun id hid => ?_,shown := ?_}
    · have hmem : Item.slot id ∈ a.items := by simpa using hid
      have hlt := h.fresh id hmem
      change id < o.slots
      omega
    · rw [← h.shown]
      have htoken : Item.token? ∘ Item.token = some := rfl
      simp [Scanner.shown,Item.token?,htoken]
  have hmoved := (hfull.push .value).moveTo (p := [':']) (r := t) rfl
  rw [advance_line (by simp [isBreak]),List.append_assoc,List.append_assoc] at hmoved
  refine ⟨_,?_,hmoved⟩
  have hdrop : o.rest.drop 1 = t := by rw [hopened.rest]; rfl
  exact congrArg (fun x => Except.ok (Scanner.moveTo _ x)) hdrop

/-- A name that stands before its colon is the key of an entry if it is written short enough. -/
theorem At.behind_name (h : At a ts (Write.scalar false indent k name ++ ':' :: t) column blocks true)
    (hi : 0 < indent) (hwidth : indent < Write.lineWidth) (hleast : innermost blocks < indent)
    (hcolumn : innermost blocks ≤ column) (ht : atGap t = true) (hname : Write.isSimpleName name = true)
    (hshort : (Write.scalar false indent k name).length ≤ 1024) : ∃ s, Behind a s ∧
    At s (ts ++ (opening column blocks ++ [.key,scalarToken name,.value])) t
      (column + (Write.scalar false indent k name).length + 1) (enter column blocks) false := by
  obtain ⟨c,r,hrest,hpush⟩ := h.pushNext_name hi hwidth hleast ht
  obtain ⟨hnext,hline,hindex,hpossible,hat⟩ := h.atColon hname
  obtain ⟨s,hs,hbehind⟩ := h.pushValue hname
  have harrive : (a.atColon name t).arrive = .ok (a.atColon name t) := by
    have hstale : (a.atColon name t).dropStaleKeys = .ok (a.atColon name t) :=
      dropStaleKeys_near hpossible hat.around hline.symm (by rw [hindex]; simp only [keyHere]; omega)
    have hindent : (a.atColon name t).indent = innermost blocks := hat.indent
    have hcolumn' : (a.atColon name t).column = column + (Write.scalar false indent k name).length := hat.column
    rw [arrive,hnext,hstale]
    exact congrArg Except.ok (closeBlocks_of_le (by rw [hindent,hcolumn']; omega))
  have hlength : (a.atColon name t).rest.length < a.rest.length := by
    have hne := List.length_pos_iff.mpr (scalar_ne_nil false indent k name)
    rw [h.rest,List.length_append]
    change (':' :: t).length < _
    omega
  refine ⟨s,⟨a.atColon name t,':',t,.single ⟨c,r,_,hrest,hpush,harrive,hlength⟩,rfl,?_,?_⟩,hbehind⟩
  · rw [pushNext_colon ht,hs]
  · rw [hbehind.rest]
    exact Nat.lt_succ_self _

/-- A name that is written too long is no key any more when its colon comes. -/
theorem At.fails_of_long (h : At a ts (Write.scalar false indent k name ++ ':' :: t) column blocks true)
    (hi : 0 < indent) (hwidth : indent < Write.lineWidth) (hleast : innermost blocks < indent)
    (hcolumn : innermost blocks ≤ column) (ht : atGap t = true) (hname : Write.isSimpleName name = true)
    (hlong : 1024 < (Write.scalar false indent k name).length) : Fails a := by
  obtain ⟨c,r,hrest,hpush⟩ := h.pushNext_name hi hwidth hleast ht
  obtain ⟨hnext,hline,hindex,hpossible,hat⟩ := h.atColon hname
  -- Too far behind, the name is given up as a key, which it must not be where a key has to stand.
  have hstale : (a.atColon name t).dropStaleKeys = if innermost blocks = column then .error .malformed
      else .ok {a.atColon name t with possible := none} := by
    have haround : (a.atColon name t).around = [] := hat.around
    have hfar : 1024 < (a.atColon name t).index - a.keyHere.index := by
      rw [hindex]
      simp only [keyHere]
      omega
    have hrequired : a.keyHere.required = decide (innermost blocks = column) := by
      simp only [keyHere,h.inFlow,h.indent,h.column,Bool.not_false,Bool.true_and]
    simp only [dropStaleKeys,hpossible,haround,dropStale,hfar,or_true,↓reduceIte,dropKey,hrequired,decide_eq_true_eq]
    split <;> rfl
  intro fuel
  simp only [runFrom,hrest,hpush,bind,Except.bind]
  change run fuel (a.atColon name t) = _
  cases fuel with
  | zero => rfl
  | succ fuel =>
    rw [run_succ,arrive,hnext,hstale]
    split
    · rfl
    · have hclosed := closeBlocks_of_le (s := {a.atColon name t with possible := none})
        (c := (a.atColon name t).column) (by
          rw [hat.indent]
          have hcolumn' : (a.atColon name t).column = column + (Write.scalar false indent k name).length := hat.column
          omega)
      simp only [Except.map,bind,Except.bind,hclosed]
      exact runFrom_of_refused hat.rest (by rw [pushNext_colon ht,hat.pushValue_refused]) fuel

/-- A name that is marked by a question mark is the key of an entry, however it is written. -/
theorem At.behind_marked {split : Bool} {column : Nat}
    (h : At a ts ('?' :: ' ' :: (Write.scalar split (column + 2) k name ++ (Write.newLine column ++ ':' :: t))) column
      blocks true)
    (hwidth : column + 2 < Write.lineWidth) (hcolumn : innermost blocks ≤ column) (ht : atGap t = true) :
    ∃ s, Behind a s ∧ At s (ts ++ (opening column blocks ++ [.key,scalarToken name,.value])) t (column + 1)
      (enter column blocks) true := by
  have hinner := innermost_enter hcolumn
  obtain ⟨s₁,hpush₁,hs₁⟩ := h.pushBlockMark (by decide) (.inl rfl)
  obtain ⟨b₁,harrive₁,hb₁⟩ := At.arrive_spaces (n := 1) hs₁
    (r := Write.scalar split (column + 2) k name ++ (Write.newLine column ++ ':' :: t)) (settled_scalar _ _ _ _ _)
  rw [ends_of_le (by rw [hinner]; omega),leave_of_le (by rw [hinner]; omega),List.append_nil] at hb₁
  have hnext₁ : Next a b₁ := ⟨'?',_,s₁,h.rest,by rw [pushNext_question,hpush₁],harrive₁,by
    rw [hb₁.rest,h.rest]
    exact Nat.lt_succ_of_lt (Nat.lt_succ_self _)⟩
  obtain ⟨b₂,hnext₂,hb₂⟩ := hb₁.next_text (by omega) hwidth (by rw [hinner]; omega) (Int.le_of_eq hinner.symm) (by rw [hinner]; omega)
    (settled_colon t)
  rw [ends_of_le (Int.le_of_eq hinner),leave_of_le (Int.le_of_eq hinner)] at hb₂
  obtain ⟨s,hpush,hs⟩ := hb₂.pushBlockMark (by decide) (.inr rfl)
  have hvalue : b₂.pushNext ':' t = .ok s := by
    rw [pushNext_colon ht,Scanner.pushValue,hb₂.possible]
    exact hpush
  have hopening : opening column (enter column blocks) = [] := by
    unfold opening
    rw [hinner,if_neg (Int.lt_irrefl _)]
  have henter : enter column (enter column blocks) = enter column blocks := by
    rw [enter,hinner,if_neg (Int.lt_irrefl _)]
  rw [hopening,henter] at hs
  refine ⟨s,⟨b₂,':',t,.tail (.single hnext₁) hnext₂,hb₂.rest,hvalue,?_⟩,by simpa using hs⟩
  rw [hs.rest,hb₂.rest]
  exact Nat.lt_succ_self _

end

end Scanner

/-! ## Entries -/

/-- Whether a name that stands before its colon is written so long that the colon does not belong to it. -/
def Write.outgrows (indent : Nat) (name : Chars) : Bool :=
  isSimpleName name && decide (1024 < (scalar false (indent + 2) indent name).length)

namespace Scanner
variable {a b s : Scanner} {ts : List Token} {tail : Chars} {blocks : List Nat} {indent : Nat} {name : Chars}
  {value : Bool → Nat → Chars}

/-- The tokens of an entry up to its value, which begins on the line of its name if there is no key allowed. -/
theorem At.behind_entry (h : At a ts (Write.entry indent name value ++ tail) indent blocks true)
    (hwidth : indent + 2 < Write.lineWidth) (hcolumn : innermost blocks ≤ indent)
    (hvalue : ∀ ownLine k, atGap (value ownLine k ++ tail) = true) (hshort : Write.outgrows indent name = false) :
    ∃ s ownLine k, Behind a s ∧ indent < k ∧ (ownLine = true → k = indent + 1) ∧
    At s (ts ++ (opening indent blocks ++ [.key,scalarToken name,.value])) (value ownLine k ++ tail) k
      (enter indent blocks) ownLine := by
  unfold Write.entry at h
  cases hname : Write.isSimpleName name with
  | true =>
    simp only [hname,↓reduceIte,List.append_assoc,List.cons_append,List.nil_append] at h
    simp only [Write.outgrows,hname,Bool.true_and,decide_eq_false_iff_not,Nat.not_lt] at hshort
    obtain ⟨s,hbehind,hs⟩ := h.behind_name (by omega) hwidth (by omega) hcolumn (hvalue _ _) hname hshort
    rw [List.length_append,List.length_singleton,← Nat.add_assoc] at hs
    exact ⟨s,false,_,hbehind,by omega,by simp,hs⟩
  | false =>
    simp only [hname,Bool.false_eq_true,↓reduceIte,List.append_assoc,List.cons_append] at h
    obtain ⟨s,hbehind,hs⟩ := h.behind_marked hwidth hcolumn (hvalue _ _)
    exact ⟨s,true,_,hbehind,Nat.lt_succ_self indent,fun _ => rfl,hs⟩

/-- An entry whose name outgrows its line cannot be read. -/
theorem At.fails_of_outgrown (h : At a ts (Write.entry indent name value ++ tail) indent blocks true)
    (hwidth : indent + 2 < Write.lineWidth) (hcolumn : innermost blocks ≤ indent)
    (hvalue : ∀ ownLine k, atGap (value ownLine k ++ tail) = true) (hlong : Write.outgrows indent name = true) :
    Fails a := by
  unfold Write.entry at h
  simp only [Write.outgrows,Bool.and_eq_true,decide_eq_true_eq] at hlong
  simp only [hlong.1,↓reduceIte,List.append_assoc,List.cons_append,List.nil_append] at h
  exact h.fails_of_long (by omega) hwidth (by omega) hcolumn (hvalue _ _) hlong.1 hlong.2

end Scanner

end TrackerHub.Yaml
