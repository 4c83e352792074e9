import TrackerHub.Proofs.Yaml.WrittenChars

/-! # Blocks of a written document

Between two entries of written blocks the scanner stands inside some open blocks, knows of no possible key,
and closes the blocks that the next line is not part of. A text before a new line is one more token.
-/
namespace TrackerHub.Yaml
open TrackerHub.Text

/-! ## What may follow a text -/

section
variable {least : Nat} {t : Chars}

theorem stops_colon (h : atGap t = true) : Stops least (':' :: t) := by
  refine ⟨?_,.inl rfl,by simp⟩
  have hends : plainEnds false ':' t = true := by simp [plainEnds,h]
  simp [plainPiece,hends]

theorem plainBreaks?_end (start : Bool) (column n : Nat) :
    plainBreaks? start column (List.replicate n ' ' ++ []) = some ([],column + n,[]) := by
  induction n generalizing start column with
  | zero => rfl
  | succ n ih =>
    rw [List.replicate_succ,List.cons_append,plainBreaks?,atDocumentMark_space]
    simp only [Bool.and_false,Bool.false_eq_true,↓reduceIte,beq_self_eq_true,ih]
    rw [Nat.add_assoc,Nat.add_comm 1 n]

/-- A line behind a plain text ends it, if it is indented less or begins or ends a document. -/
theorem plainGap_line {r : Chars} (hr : Scanner.Settled r) (n : Nat) :
    plainGap (Write.newLine n ++ r) = ⟨[' '],true,n,r⟩ ∨ (n = 0 ∧ plainGap (Write.newLine n ++ r) = ⟨[],true,0,r⟩) := by
  have hline : Write.newLine n ++ r = '\n' :: (List.replicate n ' ' ++ r) := rfl
  have hrun : ('\n' :: (List.replicate n ' ' ++ r)).takeWhile (· == ' ') = [] := rfl
  have hbreak : isBreak '\n' = true := rfl
  have hgap : plainGap (Write.newLine n ++ r) =
      ((plainBreaks? true 0 (List.replicate n ' ' ++ r)).map fun found =>
        ⟨(if found.1.isEmpty then [' '] else []) ++ found.1,true,found.2.1,found.2.2⟩).getD
      ⟨[],true,0,List.replicate n ' ' ++ r⟩ := by
    simp only [plainGap,hline,hrun,hbreak,List.length_nil,List.drop_zero,↓reduceIte]
    cases plainBreaks? true 0 (List.replicate n ' ' ++ r) <;> rfl
  rw [hgap]
  rcases hr with rfl | ⟨c,t,rfl,hs,hb,-,-⟩
  · rw [plainBreaks?_end]
    exact .inl (by simp)
  · have hfirm : StartsFirm (c :: t) := ⟨c,t,rfl,hs,hb⟩
    cases n with
    | zero =>
      cases hmark : atDocumentMark (c :: t) with
      | false =>
        have hc : (c == ' ') = false := (Bool.or_eq_false_iff.mp hs).1
        simp [plainBreaks?,hmark,hb,hc]
      | true => simp [plainBreaks?,hmark]
    | succ n =>
      rw [List.replicate_succ,List.cons_append,plainBreaks?,atDocumentMark_space]
      simp only [Bool.and_false,Bool.false_eq_true,↓reduceIte,beq_self_eq_true,plainBreaks?_spaces hfirm n 1]
      exact .inl (by simp [Nat.add_comm])

theorem stops_line {r : Chars} (hr : Scanner.Settled r) {n : Nat} (hn : n < least) :
    Stops least (Write.newLine n ++ r) ∧ (plainGap (Write.newLine n ++ r)).newLine = true ∧
    (plainGap (Write.newLine n ++ r)).rest = r := by
  rcases plainGap_line hr n with hgap | ⟨-,hgap⟩
  · rw [hgap]
    exact ⟨⟨plainPiece_break _,.inr (by rw [hgap]; exact ⟨rfl,hn⟩),by simp [Write.newLine]⟩,rfl,rfl⟩
  · rw [hgap]
    exact ⟨⟨plainPiece_break _,.inl (by rw [hgap]),by simp [Write.newLine]⟩,rfl,rfl⟩

end

/-! ## Blocks -/

/-- The column of the innermost of some open blocks, or -1 if none is open. -/
def innermost : List Nat → Int
  | [] => -1
  | column :: _ => column

/-- The columns around the innermost of some open blocks. -/
def enclosing : List Nat → List Int
  | [] => []
  | _ :: blocks => innermost blocks :: enclosing blocks

theorem length_enclosing (blocks : List Nat) : (enclosing blocks).length = blocks.length := by
  induction blocks with
  | nil => rfl
  | cons b blocks ih => simp [enclosing,ih]

/-- The blocks that stay open at a column. -/
def leave (column : Int) (blocks : List Nat) : List Nat := blocks.dropWhile fun b : Nat => decide (column < b)

/-- The tokens of the blocks that end at a column. -/
def ends (column : Int) (blocks : List Nat) : List Token :=
  (blocks.takeWhile fun b : Nat => decide (column < b)).map fun _ => .blockEnd

/-- The blocks that are open behind a key at a column. -/
def enter (column : Nat) (blocks : List Nat) : List Nat :=
  if innermost blocks < column then column :: blocks else blocks

/-- The token of the block that a key at a column opens. -/
def opening (column : Nat) (blocks : List Nat) : List Token :=
  if innermost blocks < column then [.blockMapping] else []

theorem ends_of_le {column : Int} {blocks : List Nat} (h : innermost blocks ≤ column) : ends column blocks = [] := by
  cases blocks with
  | nil => rfl
  | cons b blocks =>
    have hb : ¬column < (b : Int) := Int.not_lt.mpr h
    simp [ends,hb]

theorem leave_of_le {column : Int} {blocks : List Nat} (h : innermost blocks ≤ column) :
    leave column blocks = blocks := by
  cases blocks with
  | nil => rfl
  | cons b blocks =>
    have hb : ¬column < (b : Int) := Int.not_lt.mpr h
    simp [leave,hb]

theorem innermost_enter {column : Nat} {blocks : List Nat} (h : innermost blocks ≤ column) :
    innermost (enter column blocks) = column := by
  unfold enter
  split
  · rfl
  · omega

def Item.token? : Item → Option Token
  | .token t => some t
  | .slot _ => none

theorem fillSlot_of_fresh {id : Nat} {items : List Item} (h : Item.slot id ∉ items) (filling : List Item) :
    Scanner.fillSlot id filling items = items := by
  induction items with
  | nil => rfl
  | cons i items ih =>
    obtain ⟨hi,hitems⟩ : Item.slot id ≠ i ∧ Item.slot id ∉ items := by simpa using h
    unfold Scanner.fillSlot at ih ⊢
    rw [List.flatMap_cons,ih hitems,if_neg (Ne.symm hi)]
    rfl

namespace Scanner
variable {a b s : Scanner} {ts : List Token} {rest r : Chars} {column : Nat} {blocks : List Nat} {keyAllowed : Bool}

def shown (s : Scanner) : List Token := s.items.reverse.filterMap Item.token?

/-- A scanner inside some blocks, without a possible key. -/
structure At (s : Scanner) (ts : List Token) (rest : Chars) (column : Nat) (blocks : List Nat) (keyAllowed : Bool) :
    Prop where
  rest : s.rest = rest
  column : s.column = column
  indent : s.indent = innermost blocks
  outer : s.outer = enclosing blocks
  keyAllowed : s.keyAllowed = keyAllowed
  possible : s.possible = none
  around : s.around = []
  fresh : ∀ id, Item.slot id ∈ s.items → id < s.slots
  shown : s.shown = ts

theorem At.push (h : At s ts rest column blocks keyAllowed) (t : Token) :
    At (s.push t) (ts ++ [t]) rest column blocks keyAllowed := by
  refine ⟨h.rest,h.column,h.indent,h.outer,h.keyAllowed,h.possible,h.around,fun id hid => ?_,?_⟩
  · rcases List.mem_cons.mp hid with hid | hid
    · cases hid
    · exact h.fresh id hid
  · rw [← h.shown]
    simp [Scanner.shown,Scanner.push,Item.token?]

theorem At.inFlow (h : At s ts rest column blocks keyAllowed) : s.inFlow = false := by
  simp [Scanner.inFlow,h.around]

theorem At.giveUpKey (h : At s ts rest column blocks keyAllowed) : s.giveUpKey = .ok s := by
  simp only [Scanner.giveUpKey,h.possible]

theorem At.openBlock (h : At s ts rest column blocks keyAllowed) (k : Nat) :
    At (s.openBlock k) ts rest column (k :: blocks) keyAllowed := by
  refine {h with indent := rfl,outer := ?_}
  rw [enclosing,← h.indent,← h.outer]
  rfl

theorem At.closeBlocksFrom (h : At s ts rest column blocks keyAllowed) (c : Int) {fuel : Nat}
    (hfuel : blocks.length ≤ fuel) :
    At (closeBlocksFrom fuel c s) (ts ++ ends c blocks) rest column (leave c blocks) keyAllowed := by
  induction blocks generalizing s ts fuel with
  | nil =>
    have hself : Scanner.closeBlocksFrom fuel c s = s := by
      cases fuel with
      | zero => rfl
      | succ fuel =>
        unfold Scanner.closeBlocksFrom
        rw [h.outer]
        split <;> rfl
    rw [hself]
    simpa [ends,leave] using h
  | cons b blocks ih =>
    obtain ⟨fuel,rfl⟩ := Nat.exists_eq_succ_of_ne_zero (Nat.ne_zero_of_lt hfuel)
    have hindent : s.indent = b := h.indent
    unfold Scanner.closeBlocksFrom
    split
    next hlt =>
      have hb : c < (b : Int) := hindent ▸ hlt
      have hclosed : At {s.push .blockEnd with indent := innermost blocks,outer := enclosing blocks}
          (ts ++ [.blockEnd]) rest column blocks keyAllowed :=
        {h.push .blockEnd with indent := rfl,outer := rfl}
      have hrest := ih hclosed (Nat.le_of_succ_le_succ hfuel)
      simp only [h.outer,enclosing]
      simpa [ends,leave,hb] using hrest
    next hnot =>
      have hb : ¬c < (b : Int) := hindent ▸ hnot
      simpa [ends,leave,hb] using h

theorem At.closeBlocks (h : At s ts rest column blocks keyAllowed) (c : Int) :
    At (s.closeBlocks c) (ts ++ ends c blocks) rest column (leave c blocks) keyAllowed := by
  unfold Scanner.closeBlocks
  rw [h.inFlow,if_neg (by simp)]
  exact h.closeBlocksFrom c (by rw [h.outer,length_enclosing])

/-! ## Arrivals -/

theorem At.moveTo {p : Chars} (h : At s ts rest column blocks keyAllowed) (hp : rest = p ++ r) :
    At (s.moveTo r) ts r (advance (s.line,column) p).2 blocks keyAllowed := by
  subst hp
  refine {h with rest := rfl,column := ?_}
  rw [moveTo_eq h.rest,h.column]

theorem dropStaleKeys_none (hpossible : s.possible = none) (haround : s.around = []) :
    s.dropStaleKeys = .ok s := by
  cases s
  simp only at hpossible haround
  subst hpossible haround
  rfl

/-- A key that is not required is given up when its line is over. -/
theorem dropStaleKeys_line (haround : s.around = [])
    (h : ∀ k, s.possible = some k → k.required = false ∧ k.line ≠ s.line) :
    s.dropStaleKeys = .ok {s with possible := none} := by
  cases hpossible : s.possible with
  | none =>
    rw [dropStaleKeys_none hpossible haround]
    cases s
    simp only at hpossible
    rw [hpossible]
  | some k =>
    obtain ⟨hrequired,hline⟩ := h k hpossible
    cases s
    simp only at hpossible haround hline
    subst hpossible haround
    simp only [dropStaleKeys,dropStale,hline,ne_eq,not_false_eq_true,true_or,↓reduceIte,dropKey,hrequired]
    rfl

theorem arrive_of_at (hstale : s.toNextToken.dropStaleKeys = .ok b) (h : At b ts r column blocks keyAllowed) :
    ∃ c, s.arrive = .ok c ∧ At c (ts ++ ends column blocks) r column (leave column blocks) keyAllowed :=
  ⟨b.closeBlocks b.column,by rw [arrive,hstale]; rfl,by rw [h.column]; exact h.closeBlocks column⟩

theorem At.arrive_spaces {n : Nat} (h : At s ts (List.replicate n ' ' ++ r) column blocks keyAllowed)
    (hr : Settled r) : ∃ b, s.arrive = .ok b ∧
      At b (ts ++ ends (column + n : Nat) blocks) r (column + n) (leave (column + n : Nat) blocks) keyAllowed := by
  have hmoved := h.moveTo rfl
  rw [advance_spaces] at hmoved
  refine arrive_of_at ?_ hmoved
  rw [toNextToken_spaces h.rest hr]
  exact dropStaleKeys_none hmoved.possible hmoved.around

/-- Behind a line break the possible key is given up. -/
theorem At.arrive_line {n : Nat}
    (h : At {s with possible := none} ts (Write.newLine n ++ r) column blocks keyAllowed)
    (hkey : ∀ k, s.possible = some k → k.required = false ∧ k.line ≤ s.line) (hr : Settled r) :
    ∃ b, s.arrive = .ok b ∧ At b (ts ++ ends n blocks) r n (leave n blocks) true := by
  have hmoved := h.moveTo rfl
  rw [show Write.newLine n = [] ++ '\n' :: List.replicate n ' ' from rfl,advance_newLine] at hmoved
  refine arrive_of_at ?_ (b := {s.moveTo r with keyAllowed := true,possible := none}) {hmoved with keyAllowed := rfl}
  have hrest : s.rest = ([] ++ '\n' :: List.replicate n ' ') ++ r := h.rest
  rw [toNextToken_newLine (s := s) hrest hr h.around]
  refine dropStaleKeys_line h.around fun k hk => ?_
  obtain ⟨hrequired,hline⟩ := hkey k hk
  refine ⟨hrequired,?_⟩
  change k.line ≠ (s.moveTo r).line
  rw [moveTo_eq hrest,advance_newLine]
  simp only [advance,List.foldl_nil]
  omega

/-- The scanner `s` stands behind a token to which the scanner comes from `a`. -/
def Behind (a s : Scanner) : Prop := ∃ b c r, Relation.ReflTransGen Next a b ∧ b.rest = c :: r ∧
  b.pushNext c r = .ok s ∧ s.rest.length < b.rest.length

theorem Behind.arrives (h : Behind a s) (harrive : s.arrive = .ok b) (hlength : b.rest.length ≤ s.rest.length) :
    Relation.ReflTransGen Next a b := by
  obtain ⟨_,c,r,hsteps,hrest,hpush,hlt⟩ := h
  exact hsteps.tail ⟨c,r,s,hrest,hpush,harrive,Nat.lt_of_le_of_lt hlength hlt⟩

/-! ## Texts -/

/-- The possible key that begins at the next token. -/
def keyHere (a : Scanner) : PossibleKey :=
  {slot := a.slots,required := !a.inFlow && decide (a.indent = a.column),index := a.index,line := a.line,
    column := a.column}

/-- The scanner with a token that may be a key where one is allowed. -/
def noted (a : Scanner) (t : Token) : Scanner :=
  if a.keyAllowed then
    {a with
      possible := some a.keyHere,items := .token t :: .slot a.slots :: a.items,slots := a.slots + 1,keyAllowed := false}
  else {a with items := .token t :: a.items,keyAllowed := false}

theorem pushKeyable_eq (h : a.possible = none) (t : Token) (rest : Chars) :
    a.pushKeyable t rest = .ok ((a.noted t).moveTo rest) := by
  unfold pushKeyable noteKey noted
  split
  · simp only [giveUpKey,h]
    rfl
  · rfl

theorem noted_facts (a : Scanner) (t : Token) : (a.noted t).rest = a.rest ∧ (a.noted t).index = a.index ∧
    (a.noted t).line = a.line ∧ (a.noted t).column = a.column ∧ (a.noted t).around = a.around ∧
    (a.noted t).indent = a.indent ∧ (a.noted t).keyAllowed = false := by
  unfold noted
  split <;> exact ⟨rfl,rfl,rfl,rfl,rfl,rfl,rfl⟩

theorem noted_possible (h : a.possible = none) (t : Token) {k : PossibleKey} (hk : (a.noted t).possible = some k) :
    k = a.keyHere := by
  unfold noted at hk
  split at hk
  · exact (Option.some.inj hk).symm
  · rw [h] at hk
    cases hk

theorem At.noted (h : At a ts rest column blocks keyAllowed) (t : Token) :
    At {a.noted t with possible := none} (ts ++ [t]) rest column blocks false := by
  obtain ⟨hrest,-,-,hcolumn,haround,hindent,hkey⟩ := noted_facts a t
  refine ⟨hrest.trans h.rest,hcolumn.trans h.column,hindent.trans h.indent,?_,hkey,rfl,haround.trans h.around,?_,?_⟩
  · unfold Scanner.noted
    split <;> exact h.outer
  · intro id
    have hfresh := h.fresh id
    cases hallowed : a.keyAllowed with
    | true =>
      simp only [Scanner.noted,hallowed,↓reduceIte,List.mem_cons,reduceCtorEq,Item.slot.injEq,false_or]
      rintro (rfl | hid)
      · exact Nat.lt_succ_self _
      · exact Nat.lt_succ_of_lt (hfresh hid)
    | false => simpa [Scanner.noted,hallowed] using hfresh
  · rw [← h.shown]
    unfold Scanner.noted Scanner.shown
    split <;> simp [Item.token?,List.filterMap_cons]

theorem moveTo_self : s.moveTo s.rest = s := by
  rw [moveTo_eq (p := []) rfl]
  cases s
  rfl

theorem moveTo_moveTo {p q : Chars} (h : s.rest = p ++ (q ++ r)) : (s.moveTo (q ++ r)).moveTo r = s.moveTo r := by
  rw [moveTo_eq (s := s) (p := p) h,moveTo_eq (s := s) (p := p ++ q) (by rw [h,List.append_assoc]),moveTo_eq (p := q) rfl,
    advance_append,List.length_append,Nat.add_assoc]

section
variable {split : Bool} {indent k n : Nat} {text : Chars}

/-- Before a colon a written text is a token that may be a key. -/
theorem At.pushNext_name {t : Chars} (h : At a ts (Write.scalar split indent k text ++ ':' :: t) column blocks keyAllowed)
    (hi : 0 < indent) (hwidth : indent < Write.lineWidth) (hleast : innermost blocks < indent) (ht : atGap t = true) :
    ∃ c r, a.rest = c :: r ∧ a.pushNext c r = .ok ((a.noted (scalarToken text)).moveTo (':' :: t)) := by
  obtain ⟨c,r,hrest,hpush⟩ := pushNext_scalar h.rest h.around hi hwidth (by rw [h.indent]; omega) (stops_colon ht)
  refine ⟨c,r,hrest,hpush.trans ?_⟩
  rw [pushKeyable_eq h.possible,pushKeyable_eq h.possible]
  split
  · have hkey := (noted_facts a (scalarToken text)).2.2.2.2.2.2
    simp only [Except.map,Except.ok.injEq]
    exact congrArg (fun b : Bool => {(a.noted (scalarToken text)).moveTo (':' :: t) with keyAllowed := b}) hkey.symm
  · rfl

/-- Before a new line a written text is a token that is no key. -/
theorem At.next_text (h : At a ts (Write.scalar split indent k text ++ (Write.newLine n ++ r)) column blocks keyAllowed)
    (hi : 0 < indent) (hwidth : indent < Write.lineWidth) (hleast : innermost blocks < indent)
    (hn : (n : Int) ≤ innermost blocks) (hcolumn : innermost blocks < column) (hr : Settled r) :
    ∃ b, Next a b ∧ At b (ts ++ scalarToken text :: ends n blocks) r n (leave n blocks) true := by
  have hleast' : n < (a.indent + 1).toNat := by
    rw [h.indent]
    omega
  obtain ⟨hstops,hline,hafter⟩ := stops_line hr hleast'
  obtain ⟨c,r',hrest,hpush⟩ := pushNext_scalar h.rest h.around hi hwidth (by rw [h.indent]; omega) hstops
  obtain ⟨hx,-,-,-,-,-,-⟩ := noted_facts a (scalarToken text)
  rw [h.rest] at hx
  rw [pushKeyable_eq h.possible,pushKeyable_eq h.possible,hline,hafter] at hpush
  -- Behind the line break the scanner is the same, whether the text has taken it along or not.
  obtain ⟨s,hs,hnext⟩ : ∃ s, a.pushNext c r' = .ok s ∧
      s.toNextToken = {(a.noted (scalarToken text)).moveTo r with keyAllowed := true} := by
    split at hpush
    · refine ⟨_,hpush,?_⟩
      rw [toNextToken_spaces (n := 0) (r := r) rfl hr]
      exact moveTo_self
    · refine ⟨_,hpush,?_⟩
      rw [toNextToken_newLine (s := (a.noted _).moveTo (Write.newLine n ++ r)) rfl hr ((noted_facts a _).2.2.2.2.1.trans h.around),moveTo_moveTo hx]
  have hat : At {(a.noted (scalarToken text)).moveTo r with keyAllowed := true,possible := none}
      (ts ++ [scalarToken text]) r n blocks true := by
    have hmoved := (h.noted (scalarToken text)).moveTo (p := _ ++ Write.newLine n) (List.append_assoc _ _ _).symm
    rw [show Write.newLine n = '\n' :: List.replicate n ' ' from rfl,advance_newLine] at hmoved
    exact {hmoved with keyAllowed := rfl}
  have hstale : s.toNextToken.dropStaleKeys =
      .ok {(a.noted (scalarToken text)).moveTo r with keyAllowed := true,possible := none} := by
    rw [hnext]
    refine dropStaleKeys_line hat.around fun key hkey => ?_
    obtain rfl := noted_possible h.possible _ hkey
    refine ⟨?_,?_⟩
    · have hne : a.indent ≠ a.column := by
        rw [h.indent,h.column]
        omega
      simp [keyHere,hne]
    · have hline := (noted_facts a (scalarToken text)).2.2.1
      change a.line ≠ ((a.noted (scalarToken text)).moveTo r).line
      rw [moveTo_eq (hx.trans (List.append_assoc _ _ _).symm),show Write.newLine n = '\n' :: List.replicate n ' ' from rfl,
        advance_newLine,hline]
      have hle := le_advance (a.line,(a.noted (scalarToken text)).column) (Write.scalar split indent k text)
      simp only at hle ⊢
      omega
  obtain ⟨b,harrive,hb⟩ := arrive_of_at hstale hat
  refine ⟨b,⟨c,r',s,hrest,hs,harrive,?_⟩,by simpa using hb⟩
  rw [hb.rest,h.rest]
  simp [Write.newLine]
  omega

end

end Scanner

end TrackerHub.Yaml
