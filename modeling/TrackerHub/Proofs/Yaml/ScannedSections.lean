import TrackerHub.Proofs.Yaml.ScannedEntries

/-! # Written sections as tokens

The tokens of a written document are those of a block of sections, each of which is a block of names and
texts, or an empty mapping in brackets.
-/
namespace TrackerHub.Yaml
open TrackerHub.Text

def settingTokens (setting : Chars × Chars) : List Token :=
  [.key,scalarToken setting.1,.value,scalarToken setting.2]

def settingsTokens (settings : List (Chars × Chars)) : List Token :=
  if settings.isEmpty then [.openMapping,.closeMapping]
  else .blockMapping :: settings.flatMap settingTokens ++ [.blockEnd]

/-- The tokens of a section, the settings of which are in order. -/
def sectionTokens (sect : Chars × List (Chars × Chars)) : List Token :=
  [.key,scalarToken sect.1,.value] ++ settingsTokens sect.2

namespace Scanner
variable {a b s : Scanner} {ts : List Token} {r : Chars} {column : Nat} {blocks : List Nat} {keyAllowed : Bool}

theorem settled_entry {indent : Nat} {name : Chars} {value : Bool → Nat → Chars} (tail : Chars) :
    Settled (Write.entry indent name value ++ tail) := by
  unfold Write.entry
  split
  · rw [List.append_assoc,List.append_assoc]
    exact settled_scalar _ _ _ _ _
  · exact .inr ⟨'?',_,rfl,by decide,by decide,by decide,by decide⟩

/-! ## Settings -/

/-- A setting as an entry of its section. -/
def settingText (setting : Chars × Chars) : Chars :=
  Write.entry 2 setting.1 fun _ column => ' ' :: Write.scalar true 4 (column + 1) setting.2

theorem sectionText_eq (settings : List (Chars × Chars)) :
    Write.sectionText settings = join (Write.newLine 2) (settings.map settingText) := rfl

theorem sectionText_cons (e e' : Chars × Chars) (es : List (Chars × Chars)) (tail : Chars) :
    Write.sectionText (e :: e' :: es) ++ tail =
      settingText e ++ (Write.newLine 2 ++ (Write.sectionText (e' :: es) ++ tail)) := by
  simp [sectionText_eq,join]

theorem settled_sectionText (e : Chars × Chars) (es : List (Chars × Chars)) (tail : Chars) :
    Settled (Write.sectionText (e :: es) ++ tail) := by
  rw [sectionText_eq]
  cases es <;> simp [join,settingText,settled_entry]

/-- A setting adds the tokens of its name and its text. -/
theorem At.steps_setting {setting : Chars × Chars} {n : Nat}
    (h : At a ts (settingText setting ++ (Write.newLine n ++ r)) 2 blocks true)
    (hblocks : enter 2 blocks = [2,0]) (hinner : innermost blocks ≤ 2) (hn : n ≤ 2) (hr : Settled r)
    (hshort : Write.outgrows 2 setting.1 = false) : ∃ b, Relation.ReflTransGen Next a b ∧
    At b (ts ++ (opening 2 blocks ++ settingTokens setting ++ ends n [2,0])) r n (leave n [2,0]) true := by
  obtain ⟨s,ownLine,k,hbehind,hk,-,hs⟩ := h.behind_entry (by decide) hinner (fun _ _ => rfl) hshort
  rw [hblocks] at hs
  have hvalue : innermost [2,0] < (k + 1 : Nat) := Int.ofNat_lt.mpr (Nat.lt_succ_of_lt hk)
  obtain ⟨b,harrive,hb⟩ := At.arrive_spaces (n := 1)
    (r := Write.scalar true 4 (k + 1) setting.2 ++ (Write.newLine n ++ r)) hs (settled_scalar _ _ _ _ _)
  rw [ends_of_le (Int.le_of_lt hvalue),leave_of_le (Int.le_of_lt hvalue),List.append_nil] at hb
  have hsteps := hbehind.arrives harrive (by rw [hs.rest,hb.rest]; exact Nat.le_succ _)
  obtain ⟨c,hnext,hc⟩ := hb.next_text (by decide) (by decide) (by decide) (Int.ofNat_le.mpr hn) hvalue hr
  exact ⟨c,hsteps.tail hnext,by simpa [settingTokens] using hc⟩

theorem At.steps_settings {settings : List (Chars × Chars)} (hne : settings ≠ [])
    (h : At a ts (Write.sectionText settings ++ (Write.newLine 0 ++ r)) 2 blocks true)
    (hblocks : enter 2 blocks = [2,0]) (hinner : innermost blocks ≤ 2) (hr : Settled r)
    (hshort : ∀ e ∈ settings, Write.outgrows 2 e.1 = false) : ∃ b, Relation.ReflTransGen Next a b ∧
    At b (ts ++ (opening 2 blocks ++ settings.flatMap settingTokens ++ [.blockEnd])) r 0 [0] true := by
  induction settings generalizing a ts blocks with
  | nil => exact absurd rfl hne
  | cons e es ih =>
    obtain ⟨he,hes⟩ := List.forall_mem_cons.mp hshort
    cases es with
    | nil => simpa [settingTokens,ends,leave] using h.steps_setting hblocks hinner (Nat.zero_le 2) hr he
    | cons e' es =>
      rw [sectionText_cons] at h
      obtain ⟨b,hsteps,hb⟩ := h.steps_setting hblocks hinner (Nat.le_refl 2) (settled_sectionText e' es _) he
      obtain ⟨c,hsteps',hc⟩ := ih (List.cons_ne_nil _ _) hb rfl (by decide) hes
      exact ⟨c,hsteps.trans hsteps',by simpa [opening,ends,leave,innermost] using hc⟩

/-- A section with a name that outgrows its line cannot be read. -/
theorem At.fails_of_settings {settings : List (Chars × Chars)}
    (h : At a ts (Write.sectionText settings ++ (Write.newLine 0 ++ r)) 2 blocks true)
    (hblocks : enter 2 blocks = [2,0]) (hinner : innermost blocks ≤ 2)
    (hlong : ∃ e ∈ settings, Write.outgrows 2 e.1 = true) : Fails a := by
  induction settings generalizing a ts blocks with
  | nil => simp at hlong
  | cons e es ih =>
    cases he : Write.outgrows 2 e.1 with
    | true =>
      obtain ⟨tail,htail⟩ : ∃ tail, Write.sectionText (e :: es) ++ (Write.newLine 0 ++ r) = settingText e ++ tail := by
        cases es with
        | nil => exact ⟨_,rfl⟩
        | cons e' es => exact ⟨_,sectionText_cons e e' es _⟩
      rw [htail] at h
      exact h.fails_of_outgrown (by decide) hinner (fun _ _ => rfl) he
    | false =>
      obtain ⟨e',he',hlong'⟩ : ∃ e ∈ es, Write.outgrows 2 e.1 = true := by simpa [he] using hlong
      obtain ⟨d,es,rfl⟩ := List.exists_cons_of_ne_nil (List.ne_nil_of_mem he')
      rw [sectionText_cons] at h
      obtain ⟨b,hsteps,hb⟩ := h.steps_setting hblocks hinner (Nat.le_refl 2) (settled_sectionText d es _) he
      exact .of_steps hsteps (ih hb rfl (by decide) ⟨e',he',hlong'⟩)

/-! ## Sections -/

theorem pushNext_openBrace {t : Chars} : a.pushNext '\x7b' ('\x7d' :: t) = a.openBracket .openMapping := by
  have hmark (m : Char) (hm : m ≠ '\x7b') : atMark m ('\x7b' :: '\x7d' :: t) = false := by
    cases t <;> simp [atMark,hm.symm]
  unfold pushNext
  simp [hmark]

theorem pushNext_closeBrace {t : Chars} : a.pushNext '\x7d' t = a.closeBracket .closeMapping := by
  have hmark (m : Char) (hm : m ≠ '\x7d') : atMark m ('\x7d' :: t) = false := by
    match t with
    | [] => rfl
    | [_] => rfl
    | _ :: _ :: _ => simp [atMark,hm.symm]
  unfold pushNext
  simp [hmark]

/-- The scanner at `r` behind an opening bracket: the possible key is that of the bracket. -/
def inBracket (s : Scanner) (r : Chars) : Scanner :=
  {s with around := s.possible :: s.around,possible := none,keyAllowed := true}.moveTo r

theorem openBracket_eq (hpossible : a.possible = none) {c : Char} (hrest : a.rest = c :: r) (t : Token) :
    a.openBracket t = .ok ((a.noted t).inBracket r) := by
  have hdrop : a.rest.drop 1 = r := by rw [hrest]; rfl
  unfold openBracket noteKey inBracket noted
  split
  · simp only [Scanner.giveUpKey,hpossible]
    exact congrArg (fun x => Except.ok (Scanner.moveTo _ x)) hdrop
  · exact congrArg (fun x => Except.ok (Scanner.moveTo _ x)) hdrop

theorem closeBracket_eq (haround : s.around = []) (hkey : s.keyAllowed = false) {c d : Char}
    (hrest : s.rest = c :: d :: r) (t : Token) :
    (s.inBracket (d :: r)).closeBracket t = .ok ((s.push t).moveTo r) := by
  have hback := moveTo_moveTo (s := s.push t) (p := [c]) (q := [d]) (r := r) hrest
  rw [← hback]
  cases s
  simp only at haround hkey
  subst haround hkey
  rfl

/-- Inside a bracket the scanner stays at the next token. -/
theorem arrive_inBracket (haround : s.around = []) (hr : Settled r) {p : Chars} (hrest : s.rest = p ++ r)
    (hp : ∀ c ∈ p, isBreak c = false ∧ c ≠ '\uFEFF')
    (hkey : ∀ k, s.possible = some k → k.line = s.line ∧ s.index + p.length - k.index ≤ 1024) :
    (s.inBracket r).arrive = .ok (s.inBracket r) := by
  have hnext : (s.inBracket r).toNextToken = s.inBracket r := by
    rw [toNextToken_spaces (n := 0) (r := r) rfl hr]
    exact moveTo_self
  have hmove := moveTo_eq hrest
  rw [advance_line hp] at hmove
  have hstale : (s.inBracket r).dropStaleKeys = .ok (s.inBracket r) := by
    have hkeep : (s.inBracket r).dropStale s.possible = .ok s.possible := by
      have hline : (s.inBracket r).line = s.line := by
        change (s.moveTo r).line = _
        rw [hmove]
      have hindex : (s.inBracket r).index = s.index + p.length := by
        change (s.moveTo r).index = _
        rw [hmove]
      cases hk : s.possible with
      | none => rfl
      | some k =>
        obtain ⟨hkline,hnear⟩ := hkey k hk
        rw [dropStale,hline,hindex,if_neg (by omega)]
    have hself : {s.inBracket r with possible := none,around := [s.possible]} = s.inBracket r := by
      unfold inBracket
      rw [haround]
      rfl
    have haround' : (s.inBracket r).around = [s.possible] := by
      rw [← hself]
    rw [dropStaleKeys,haround',List.mapM_cons,hkeep]
    exact congrArg Except.ok hself
  rw [arrive,hnext,hstale]
  rfl

/-- An empty mapping in brackets adds two tokens. -/
theorem At.steps_empty (h : At a ts ('\x7b' :: '\x7d' :: (Write.newLine 0 ++ r)) column blocks keyAllowed)
    (hcolumn : innermost blocks < column) (hr : Settled r) : ∃ b, Relation.ReflTransGen Next a b ∧
    At b (ts ++ (settingsTokens [] ++ ends (0 : Nat) blocks)) r 0 (leave (0 : Nat) blocks) true := by
  have hbracket : Settled ('\x7d' :: (Write.newLine 0 ++ r)) := .inr ⟨_,_,rfl,by decide,by decide,by decide,by decide⟩
  obtain ⟨hx,hindex,hline,-,haround,-,hallowed⟩ := noted_facts a .openMapping
  rw [h.rest] at hx
  rw [h.around] at haround
  -- The bracket may be a key, but need not be one: it stands deeper than the block around it.
  have hkeys (k : PossibleKey) (hk : (a.noted .openMapping).possible = some k) :
      k.required = false ∧ k.line = a.line ∧ k.index = a.index := by
    obtain rfl := noted_possible h.possible _ hk
    have hne : a.indent ≠ a.column := by
      rw [h.indent,h.column]
      omega
    simp [keyHere,hne]
  have harrive := arrive_inBracket (s := a.noted .openMapping) (p := ['\x7b']) haround hbracket hx (by simp [isBreak])
    fun k hk => by
      obtain ⟨-,hkline,hkindex⟩ := hkeys k hk
      rw [hline,hindex,hkline,hkindex]
      exact ⟨rfl,by simp⟩
  have hnext : Next a ((a.noted .openMapping).inBracket ('\x7d' :: (Write.newLine 0 ++ r))) :=
    ⟨'\x7b',_,_,h.rest,pushNext_openBrace.trans (openBracket_eq h.possible h.rest _),harrive,by
      rw [h.rest]
      exact Nat.lt_succ_self _⟩
  have hclosed := ((h.noted .openMapping).push .closeMapping).moveTo (p := ['\x7b','\x7d']) (r := Write.newLine 0 ++ r) rfl
  have hgiven (k : PossibleKey) (hk : (a.noted .openMapping).possible = some k) : k.required = false ∧
      k.line ≤ (((a.noted .openMapping).push .closeMapping).moveTo (Write.newLine 0 ++ r)).line := by
    obtain ⟨hrequired,hkline,-⟩ := hkeys k hk
    refine ⟨hrequired,?_⟩
    rw [hkline,moveTo_eq (s := (a.noted .openMapping).push .closeMapping) (p := ['\x7b','\x7d'])
      (r := Write.newLine 0 ++ r) hx]
    exact hline ▸ le_advance (_,_) _
  obtain ⟨b,hb,hat⟩ := At.arrive_line
    (s := ((a.noted .openMapping).push .closeMapping).moveTo (Write.newLine 0 ++ r)) hclosed hgiven hr
  refine ⟨b,.tail (.single hnext) ⟨'\x7d',_,_,rfl,pushNext_closeBrace.trans (closeBracket_eq haround hallowed hx _),hb,?_⟩,
    by simpa [settingsTokens] using hat⟩
  rw [hat.rest]
  exact Nat.lt_succ_of_lt (Nat.lt_succ_self _)

/-- A section as an entry of a document, the settings of which are in order. -/
def sectionEntry (sect : Chars × List (Chars × Chars)) : Chars :=
  Write.entry 0 sect.1 fun ownLine _ =>
    if sect.2.isEmpty then [' ','\x7b','\x7d']
    else (if ownLine then [' '] else Write.newLine 2) ++ Write.sectionText sect.2

/-- Whether a section can be read, as far as the lengths of its names go. -/
def Fits (sect : Chars × List (Chars × Chars)) : Prop :=
  Write.outgrows 0 sect.1 = false ∧ ∀ e ∈ sect.2, Write.outgrows 2 e.1 = false

theorem atGap_sectionValue (settings : List (Chars × Chars)) (ownLine : Bool) (tail : Chars) :
    atGap ((if settings.isEmpty then [' ','\x7b','\x7d']
      else (if ownLine then [' '] else Write.newLine 2) ++ Write.sectionText settings) ++ tail) = true := by
  cases settings with
  | nil => rfl
  | cons e es => cases ownLine <;> rfl

/-- The settings of a section begin two columns further in. -/
theorem At.steps_intoSection {sect : Chars × List (Chars × Chars)} {tail : Chars}
    (h : At a ts (sectionEntry sect ++ tail) 0 blocks true) (henter : enter 0 blocks = [0])
    (hinner : innermost blocks ≤ 0) (hne : sect.2 ≠ []) (hshort : Write.outgrows 0 sect.1 = false) :
    ∃ b, Relation.ReflTransGen Next a b ∧
    At b (ts ++ (opening 0 blocks ++ [.key,scalarToken sect.1,.value])) (Write.sectionText sect.2 ++ tail) 2 [0] true := by
  obtain ⟨e,es,hes⟩ := List.exists_cons_of_ne_nil hne
  have hsettled : Settled (Write.sectionText sect.2 ++ tail) := by
    rw [hes]
    exact settled_sectionText e es tail
  obtain ⟨s,ownLine,k,hbehind,-,hk,hs⟩ := h.behind_entry (by decide) hinner
    (fun ownLine _ => atGap_sectionValue sect.2 ownLine tail) hshort
  have hfull : sect.2.isEmpty = false := by rw [hes]; rfl
  simp only [hfull,henter,Bool.false_eq_true,↓reduceIte,List.append_assoc] at hs
  cases ownLine with
  | true =>
    obtain rfl := hk rfl
    obtain ⟨b,harrive,hb⟩ := At.arrive_spaces (n := 1) (r := Write.sectionText sect.2 ++ tail) hs hsettled
    refine ⟨b,hbehind.arrives harrive (by rw [hs.rest,hb.rest]; exact Nat.le_succ _),?_⟩
    simpa [ends,leave] using hb
  | false =>
    obtain ⟨b,harrive,hb⟩ := At.arrive_line (n := 2) (s := s) (r := Write.sectionText sect.2 ++ tail)
      {hs with possible := rfl} (fun k hk => by rw [hs.possible] at hk; cases hk) hsettled
    refine ⟨b,hbehind.arrives harrive ?_,by simpa [ends,leave] using hb⟩
    rw [hs.rest,hb.rest]
    exact (List.suffix_append _ _).length_le

/-- A section adds its tokens. -/
theorem At.steps_section {sect : Chars × List (Chars × Chars)}
    (h : At a ts (sectionEntry sect ++ (Write.newLine 0 ++ r)) 0 blocks true) (henter : enter 0 blocks = [0])
    (hinner : innermost blocks ≤ 0) (hr : Settled r) (hfits : Fits sect) :
    ∃ b, Relation.ReflTransGen Next a b ∧ At b (ts ++ (opening 0 blocks ++ sectionTokens sect)) r 0 [0] true := by
  by_cases hne : sect.2 = []
  · obtain ⟨s,ownLine,k,hbehind,hk,-,hs⟩ := h.behind_entry (by decide) hinner
      (fun ownLine _ => atGap_sectionValue sect.2 ownLine _) hfits.1
    simp only [hne,henter,List.isEmpty_nil,↓reduceIte] at hs
    have hinside : innermost [0] < (k + 1 : Nat) := Int.ofNat_lt.mpr (Nat.zero_lt_succ k)
    obtain ⟨b,harrive,hb⟩ := At.arrive_spaces (n := 1) (r := '\x7b' :: '\x7d' :: (Write.newLine 0 ++ r)) hs
      (.inr ⟨_,_,rfl,by decide,by decide,by decide,by decide⟩)
    rw [ends_of_le (Int.le_of_lt hinside),leave_of_le (Int.le_of_lt hinside),List.append_nil] at hb
    have hsteps := hbehind.arrives harrive (by rw [hs.rest,hb.rest]; exact Nat.le_succ _)
    obtain ⟨c,hsteps',hc⟩ := hb.steps_empty hinside hr
    exact ⟨c,hsteps.trans hsteps',by simpa [sectionTokens,hne,ends,leave] using hc⟩
  · obtain ⟨b,hsteps,hb⟩ := h.steps_intoSection henter hinner hne hfits.1
    obtain ⟨c,hsteps',hc⟩ := hb.steps_settings hne rfl (by decide) hr hfits.2
    refine ⟨c,hsteps.trans hsteps',?_⟩
    have hfull : sect.2.isEmpty = false := by simpa using hne
    simpa [sectionTokens,settingsTokens,hfull,opening,innermost] using hc

/-- A section cannot be read if one of its names outgrows its line. -/
theorem At.fails_of_section {sect : Chars × List (Chars × Chars)} {tail : Chars}
    (h : At a ts (sectionEntry sect ++ (Write.newLine 0 ++ tail)) 0 blocks true) (henter : enter 0 blocks = [0])
    (hinner : innermost blocks ≤ 0) (hlong : ¬Fits sect) : Fails a := by
  cases hname : Write.outgrows 0 sect.1 with
  | true =>
    exact h.fails_of_outgrown (by decide) hinner (fun ownLine _ => atGap_sectionValue sect.2 ownLine _) hname
  | false =>
    obtain ⟨e,he,hlong⟩ : ∃ e ∈ sect.2, Write.outgrows 2 e.1 = true := by simpa [Fits,hname] using hlong
    obtain ⟨b,hsteps,hb⟩ := h.steps_intoSection henter hinner (List.ne_nil_of_mem he) hname
    exact .of_steps hsteps (hb.fails_of_settings rfl (by decide) ⟨e,he,hlong⟩)

/-! ## Documents -/

theorem settled_sections (sections : List (Chars × List (Chars × Chars))) :
    Settled (sections.flatMap fun sect => sectionEntry sect ++ ['\n']) := by
  cases sections with
  | nil => exact .inl rfl
  | cons sect sections =>
    rw [List.flatMap_cons,List.append_assoc]
    exact settled_entry _

theorem sections_cons (sect : Chars × List (Chars × Chars)) (sections : List (Chars × List (Chars × Chars))) :
    ((sect :: sections).flatMap fun sect => sectionEntry sect ++ ['\n']) =
      sectionEntry sect ++ (Write.newLine 0 ++ sections.flatMap fun sect => sectionEntry sect ++ ['\n']) := by
  rw [List.flatMap_cons,List.append_assoc]
  rfl

theorem At.steps_sections {sections : List (Chars × List (Chars × Chars))} (hne : sections ≠ [])
    (h : At a ts (sections.flatMap fun sect => sectionEntry sect ++ ['\n']) 0 blocks true)
    (henter : enter 0 blocks = [0]) (hinner : innermost blocks ≤ 0) (hfits : ∀ sect ∈ sections, Fits sect) :
    ∃ b, Relation.ReflTransGen Next a b ∧
    At b (ts ++ (opening 0 blocks ++ sections.flatMap sectionTokens)) [] 0 [0] true := by
  induction sections generalizing a ts blocks with
  | nil => exact absurd rfl hne
  | cons sect sections ih =>
    obtain ⟨hsect,hsections⟩ := List.forall_mem_cons.mp hfits
    rw [sections_cons] at h
    obtain ⟨b,hsteps,hb⟩ := h.steps_section henter hinner (settled_sections sections) hsect
    by_cases hend : sections = []
    · subst hend
      exact ⟨b,hsteps,by simpa using hb⟩
    · obtain ⟨c,hsteps',hc⟩ := ih hend hb rfl (by decide) hsections
      exact ⟨c,hsteps.trans hsteps',by simpa [opening,innermost] using hc⟩

theorem At.fails_of_sections {sections : List (Chars × List (Chars × Chars))}
    (h : At a ts (sections.flatMap fun sect => sectionEntry sect ++ ['\n']) 0 blocks true)
    (henter : enter 0 blocks = [0]) (hinner : innermost blocks ≤ 0) (hlong : ∃ sect ∈ sections, ¬Fits sect) :
    Fails a := by
  induction sections generalizing a ts blocks with
  | nil => simp at hlong
  | cons sect sections ih =>
    rw [sections_cons] at h
    by_cases hsect : Fits sect
    · obtain ⟨b,hsteps,hb⟩ := h.steps_section henter hinner (settled_sections sections) hsect
      exact .of_steps hsteps (ih hb rfl (by decide) (by simpa [hsect] using hlong))
    · exact h.fails_of_section henter hinner hsect

/-- A text of sections has been cut when all of them have been cut. -/
theorem run_sections {sections : List (Chars × List (Chars × Chars))} (hne : sections ≠ []) {text : Chars}
    (htext : text = sections.flatMap fun sect => sectionEntry sect ++ ['\n']) :
    ((∀ sect ∈ sections, Fits sect) → ∃ s, run (text.length + 1) {rest := text} = .ok s ∧
      s.shown = .blockMapping :: (sections.flatMap sectionTokens ++ [.blockEnd])) ∧
    ((∃ sect ∈ sections, ¬Fits sect) → run (text.length + 1) {rest := text} = .error .malformed) := by
  have hstart : At {rest := text} [] (List.replicate 0 ' ' ++ text) 0 [] true :=
    ⟨rfl,rfl,rfl,rfl,rfl,rfl,rfl,by simp,rfl⟩
  obtain ⟨a,harrive,ha⟩ := hstart.arrive_spaces (by rw [htext]; exact settled_sections sections)
  rw [run_succ,harrive]
  subst htext
  refine ⟨fun hfits => ?_,fun hlong => ?_⟩
  · obtain ⟨b,hsteps,hb⟩ := ha.steps_sections hne rfl (by decide) hfits
    obtain ⟨fuel,-,hrun⟩ := runFrom_of_steps hsteps (Nat.le_of_eq (congrArg List.length ha.rest))
    have hclosed := hb.closeBlocks (-1)
    refine ⟨_,(hrun.trans ?_),hclosed.shown⟩
    simp only [runFrom,hb.rest]
    exact hclosed.giveUpKey
  · exact ha.fails_of_sections rfl (by decide) hlong _

end Scanner

theorem join_append {sep : Chars} {parts : List Chars} (hne : parts ≠ []) :
    join sep parts ++ sep = parts.flatMap (· ++ sep) := by
  match parts with
  | [] => exact absurd rfl hne
  | [part] => simp [join]
  | part :: next :: parts =>
    rw [join,List.append_assoc,join_append (List.cons_ne_nil next parts)]
    rfl

/-- The sections of a document in the order in which they are written. -/
def inOrder (sections : List (Chars × List (Chars × Chars))) : List (Chars × List (Chars × Chars)) :=
  (Write.sortByName sections).map fun sect => (sect.1,Write.sortByName sect.2)

theorem isEmpty_sortByName {α : Type} (entries : List (Chars × α)) :
    (Write.sortByName entries).isEmpty = entries.isEmpty := by
  rw [Bool.eq_iff_iff,List.isEmpty_iff,List.isEmpty_iff,← List.length_eq_zero_iff,← List.length_eq_zero_iff,
    Write.sortByName,List.length_mergeSort]

theorem inOrder_ne_nil {sections : List (Chars × List (Chars × Chars))} (hne : sections ≠ []) :
    inOrder sections ≠ [] := by
  rw [inOrder,Ne,List.map_eq_nil_iff,← List.isEmpty_iff,isEmpty_sortByName,List.isEmpty_iff]
  exact hne

theorem document_eq {sections : List (Chars × List (Chars × Chars))} (hne : sections ≠ []) :
    Write.document sections = (inOrder sections).flatMap fun sect => Scanner.sectionEntry sect ++ ['\n'] := by
  have hempty : sections.isEmpty = false := by simpa using hne
  have hsorted : (inOrder sections).map Scanner.sectionEntry ≠ [] := by simpa using inOrder_ne_nil hne
  unfold Write.document
  rw [hempty,if_neg (by simp)]
  refine Eq.trans ?_ ((join_append hsorted).trans (List.flatMap_map _ _ _))
  refine congrArg (fun parts => join ['\n'] parts ++ ['\n']) ?_
  rw [inOrder,List.map_map]
  refine List.map_congr_left fun sect _ => ?_
  simp only [Function.comp_apply,Scanner.sectionEntry,isEmpty_sortByName]

theorem tokens_eq {text : Chars} (hallowed : text.all isAllowed = true) (hbreaks : unifyBreaks text = text) :
    tokens text = (Scanner.run (text.length + 1) {rest := text}).map Scanner.shown := by
  simp only [tokens,hallowed,hbreaks,Bool.not_true,Bool.false_eq_true,↓reduceIte]
  cases Scanner.run (text.length + 1) {rest := text} with
  | error e => rfl
  | ok s =>
    refine congrArg Except.ok (congrArg (fun f => s.items.reverse.filterMap f) (funext fun i => ?_))
    cases i <;> rfl

/-- The tokens of a written document are those of its sections, unless one of its names outgrows its line. -/
theorem tokens_document {sections : List (Chars × List (Chars × Chars))} (hne : sections ≠ []) :
    ((∀ sect ∈ inOrder sections, Scanner.Fits sect) → tokens (Write.document sections) =
      .ok (.blockMapping :: ((inOrder sections).flatMap sectionTokens ++ [.blockEnd]))) ∧
    ((∃ sect ∈ inOrder sections, ¬Scanner.Fits sect) → tokens (Write.document sections) = .error .malformed) := by
  have hsimple := isSimple_document sections
  have hallowed : (Write.document sections).all isAllowed = true :=
    List.all_eq_true.mpr fun c hc => isAllowed_of_isSimple (hsimple c hc)
  obtain ⟨hfits,hfails⟩ := Scanner.run_sections (inOrder_ne_nil hne) (document_eq hne)
  rw [tokens_eq hallowed (unifyBreaks_eq hsimple)]
  refine ⟨fun h => ?_,fun h => ?_⟩
  · obtain ⟨s,hrun,hshown⟩ := hfits h
    rw [hrun]
    exact congrArg Except.ok hshown
  · rw [hfails h]
    rfl

end TrackerHub.Yaml
