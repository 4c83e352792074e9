import TrackerHub.Proofs.ReadLists
import TrackerHub.Proofs.Yaml.ScannedSections
import TrackerHub.Yaml.Load

/-! # Written sections as nodes and values

The tokens of written sections are read as a mapping of mappings of texts, and nothing of it is taken for
another kind of value.
-/
namespace TrackerHub.Yaml
open TrackerHub.Text

namespace Node
variable {t : Token} {ts rest : List Token} {fuel : Nat} {node : Node}

/-! ## Readers of tokens -/

theorem run_bind_ok {α β : Type} {x : NodeReader α} {f : α → NodeReader β} {s s' : Reading} {y : α}
    (h : x.run s = .ok (y,s')) : (x >>= f).run s = (f y).run s' := by
  rw [StateT.run_bind,h]
  rfl

theorem run_acceptToken_same (s : Reading) (h : s.tokens = t :: rest) :
    (acceptToken t).run s = .ok (true,{s with tokens := rest}) := by
  cases s
  simp only at h
  subst h
  simp [acceptToken,peekToken,skipToken]
  rfl

theorem run_acceptToken_other {u : Token} (s : Reading) (h : s.tokens = u :: rest) (hne : u ≠ t) :
    (acceptToken t).run s = .ok (false,s) := by
  cases s
  simp only at h
  subst h
  simp [acceptToken,peekToken,hne]
  rfl

/-- A token that begins a node without properties. -/
def beginsNode : Token → Bool
  | .scalar _ _ | .blockMapping | .openMapping => true
  | _ => false

theorem run_readNode {s : Reading} (h : s.tokens = t :: rest) (ht : beginsNode t = true) (block bare : Bool) :
    (readNode (fuel + 1) block bare).run s = (readContent fuel block bare {}).run s := by
  cases s
  simp only at h
  subst h
  cases t with
  | scalar | blockMapping | openMapping =>
    simp only [readNode,readProperties,peekToken,checkAnchor,setAnchor,StateT.run_bind,StateT.run_get,StateT.run_pure,
      pure_bind,List.head?_cons]
    exact bind_pure _
  | _ => cases ht

/-- The tokens are read as the node, whatever stands behind them. -/
structure ReadsAs (ts : List Token) (node : Node) : Prop where
  head : ∃ t r, ts = t :: r ∧ beginsNode t = true
  reads : ∀ fuel bare (s : Reading), ts.length + 4 ≤ fuel → ∀ rest, s.tokens = ts ++ rest →
    (readNode fuel true bare).run s = .ok (node,{s with tokens := rest})

theorem ReadsAs.readUnless {ends : List Token} (h : ReadsAs ts node)
    (hends : ∀ t ∈ ends, beginsNode t = false) {s : Reading} (hs : s.tokens = ts ++ rest)
    (hfuel : ts.length + 5 ≤ fuel) (bare : Bool) :
    (readUnless fuel ends true bare).run s = .ok (node,{s with tokens := rest}) := by
  obtain ⟨fuel,rfl⟩ := Nat.exists_eq_succ_of_ne_zero (show fuel ≠ 0 by omega)
  obtain ⟨t,r,ht,hbegins⟩ := h.head
  have hread := h.reads fuel bare s (by omega) rest hs
  have hnot : ends.contains t = false := by
    cases hc : ends.contains t with
    | false => rfl
    | true =>
      rw [hends t (by simpa using hc)] at hbegins
      cases hbegins
  rw [ht] at hs
  simp only [Node.readUnless,nextIsOneOf,peekToken,StateT.run_bind,StateT.run_get,pure_bind,hs,List.cons_append,
    List.head?_cons,StateT.run_pure,hnot,Bool.false_eq_true,↓reduceIte]
  exact hread

theorem readsAs_scalar (plain : Bool) (text : Chars) :
    ReadsAs [.scalar plain text] (.scalar (scalarKind none plain text) text) := by
  refine ⟨⟨_,_,rfl,rfl⟩,fun fuel bare s hfuel rest hs => ?_⟩
  obtain ⟨fuel,rfl⟩ : ∃ n, fuel = n + 2 := ⟨fuel - 2,by simp at hfuel; omega⟩
  rw [run_readNode hs rfl]
  cases s
  simp only at hs
  subst hs
  rfl

theorem readsAs_emptyMapping : ReadsAs [.openMapping,.closeMapping] (.mapping .map []) := by
  refine ⟨⟨_,_,rfl,rfl⟩,fun fuel bare s hfuel rest hs => ?_⟩
  obtain ⟨fuel,rfl⟩ : ∃ n, fuel = n + 3 := ⟨fuel - 3,by simp at hfuel; omega⟩
  rw [run_readNode hs rfl]
  cases s
  simp only at hs
  subst hs
  rfl

/-- A key and a value, each with its tokens. -/
structure Entry where
  keyTokens : List Token
  key : Node
  valueTokens : List Token
  value : Node

def Entry.tokens (e : Entry) : List Token := .key :: e.keyTokens ++ .value :: e.valueTokens

/-- The tokens of an entry are read as its key and its value. -/
structure Entry.Reads (e : Entry) : Prop where
  key : ReadsAs e.keyTokens e.key
  value : ReadsAs e.valueTokens e.value

theorem run_readBlockEntries {entries : List Entry} (h : ∀ e ∈ entries, e.Reads) {s : Reading}
    (hs : s.tokens = entries.flatMap Entry.tokens ++ .blockEnd :: rest)
    (hfuel : (entries.flatMap Entry.tokens).length + 4 ≤ fuel) :
    (readBlockEntries fuel).run s = .ok (entries.map fun e => (e.key,e.value),{s with tokens := rest}) := by
  induction entries generalizing s fuel with
  | nil =>
    obtain ⟨fuel,rfl⟩ := Nat.exists_eq_succ_of_ne_zero (show fuel ≠ 0 by omega)
    rw [readBlockEntries]
    exact run_bind_ok (run_acceptToken_same s hs)
  | cons e entries ih =>
    obtain ⟨fuel,rfl⟩ := Nat.exists_eq_succ_of_ne_zero (show fuel ≠ 0 by omega)
    obtain ⟨he,hentries⟩ := List.forall_mem_cons.mp h
    have hends : ∀ t ∈ [Token.key,.value,.blockEnd], beginsNode t = false := by decide
    simp only [List.flatMap_cons,Entry.tokens,List.cons_append,List.append_assoc,List.length_cons,List.length_append]
      at hs hfuel
    have hkey (tail : List Token) := he.key.readUnless hends
      (s := {s with tokens := e.keyTokens ++ tail}) rfl (show e.keyTokens.length + 5 ≤ fuel by omega) true
    have hvalue (tail : List Token) := he.value.readUnless hends
      (s := {s with tokens := e.valueTokens ++ tail}) rfl (show e.valueTokens.length + 5 ≤ fuel by omega) true
    have hrest := ih hentries
      (s := {s with tokens := entries.flatMap Entry.tokens ++ .blockEnd :: rest}) rfl
      (show (entries.flatMap Entry.tokens).length + 4 ≤ fuel by omega)
    rw [readBlockEntries]
    refine (run_bind_ok (run_acceptToken_other s hs (by decide))).trans ?_
    rw [if_neg Bool.false_ne_true]
    refine (run_bind_ok (run_acceptToken_same s hs)).trans ?_
    rw [if_pos rfl]
    refine (run_bind_ok (hkey _)).trans ?_
    have hmark (tail : List Token) : (acceptToken .value).run {s with tokens := .value :: tail} =
        .ok (true,{s with tokens := tail}) := run_acceptToken_same _ rfl
    refine (run_bind_ok (hmark _)).trans ?_
    rw [if_pos rfl]
    refine (run_bind_ok (hvalue _)).trans ?_
    exact run_bind_ok hrest

theorem readsAs_block {entries : List Entry} (h : ∀ e ∈ entries, e.Reads) :
    ReadsAs (.blockMapping :: (entries.flatMap Entry.tokens ++ [.blockEnd]))
      (.mapping .map (entries.map fun e => (e.key,e.value))) := by
  refine ⟨⟨_,_,rfl,rfl⟩,fun fuel bare s hfuel rest hs => ?_⟩
  simp only [List.length_cons,List.length_append,List.length_nil] at hfuel
  obtain ⟨fuel,rfl⟩ : ∃ n, fuel = n + 2 := ⟨fuel - 2,by omega⟩
  rw [run_readNode hs rfl]
  have hentries := run_readBlockEntries h
    (s := {s with tokens := entries.flatMap Entry.tokens ++ .blockEnd :: rest}) rfl
    (show (entries.flatMap Entry.tokens).length + 4 ≤ fuel by omega)
  rw [List.cons_append,List.append_assoc] at hs
  cases s
  simp only at hs
  subst hs
  rw [readContent]
  refine (run_bind_ok (y := some .blockMapping) rfl).trans ?_
  simp only [Bool.and_eq_true,beq_iff_eq,reduceCtorEq,and_false,↓reduceIte,Bool.true_and,Option.some.injEq]
  refine (run_bind_ok (y := ()) rfl).trans ?_
  exact run_bind_ok hentries

end Node

/-! ## Sections -/

def settingsNode (settings : List (Chars × Chars)) : Node :=
  .mapping .map (settings.map fun e => (.scalar .text e.1,.scalar .text e.2))

def sectionsNode (sections : List (Chars × List (Chars × Chars))) : Node :=
  .mapping .map (sections.map fun sect => (.scalar .text sect.1,settingsNode sect.2))

theorem readsAs_scalarToken (s : Chars) : Node.ReadsAs [scalarToken s] (.scalar .text s) := by
  have hkind : Node.scalarKind none (decide (Write.styleOf s = .plain)) s = .text := by
    by_cases hstyle : Write.styleOf s = .plain
    · simpa [Node.scalarKind,hstyle] using (allowsPlain_facts (styleOf_plain.mp hstyle)).1
    · simp [Node.scalarKind,hstyle]
  have h := Node.readsAs_scalar (decide (Write.styleOf s = .plain)) s
  rw [hkind] at h
  exact h

def settingEntry (setting : Chars × Chars) : Node.Entry :=
  ⟨[scalarToken setting.1],.scalar .text setting.1,[scalarToken setting.2],.scalar .text setting.2⟩

theorem readsAs_settings (settings : List (Chars × Chars)) :
    Node.ReadsAs (settingsTokens settings) (settingsNode settings) := by
  cases settings with
  | nil => exact Node.readsAs_emptyMapping
  | cons e es =>
    have hreads : ∀ x ∈ (e :: es).map settingEntry, x.Reads := by
      intro x hx
      obtain ⟨setting,-,rfl⟩ := List.mem_map.mp hx
      exact ⟨readsAs_scalarToken setting.1,readsAs_scalarToken setting.2⟩
    have h := Node.readsAs_block hreads
    rw [List.map_map,List.flatMap_map] at h
    exact h

def sectionEntry (sect : Chars × List (Chars × Chars)) : Node.Entry :=
  ⟨[scalarToken sect.1],.scalar .text sect.1,settingsTokens sect.2,settingsNode sect.2⟩

theorem readsAs_sections (sections : List (Chars × List (Chars × Chars))) :
    Node.ReadsAs (.blockMapping :: (sections.flatMap sectionTokens ++ [.blockEnd])) (sectionsNode sections) := by
  have hreads : ∀ x ∈ sections.map sectionEntry, x.Reads := by
    intro x hx
    obtain ⟨sect,-,rfl⟩ := List.mem_map.mp hx
    exact ⟨readsAs_scalarToken sect.1,readsAs_settings sect.2⟩
  have h := Node.readsAs_block hreads
  rw [List.map_map,List.flatMap_map] at h
  exact h

/-- The tokens of sections are one document. -/
theorem ofTokens_sections (sections : List (Chars × List (Chars × Chars))) :
    Node.ofTokens (.blockMapping :: (sections.flatMap sectionTokens ++ [.blockEnd])) =
      .ok (some (sectionsNode sections)) := by
  have hread := (readsAs_sections sections).reads
    (4 * (Token.blockMapping :: (sections.flatMap sectionTokens ++ [.blockEnd])).length + 4) false
    {tokens := .blockMapping :: (sections.flatMap sectionTokens ++ [.blockEnd]),handles := Node.usualHandles}
    (by omega) [] (by simp)
  simp only [Node.ofTokens,Node.opensHead,Bool.false_eq_true,↓reduceIte,pure_bind,Bool.false_and,hread]
  rfl

/-! ## Values -/

section
variable {fuel : Nat}

def textKey (name : Chars) : Value := .text (String.ofList name)

theorem sameKey_textKey {a b : Chars} : (textKey a).sameKey (textKey b) = decide (a = b) := by
  simp only [textKey,Value.sameKey]
  rw [Bool.eq_iff_iff,beq_iff_eq,String.ofList_inj,decide_eq_true_iff]

/-- Entries with texts as keys take nothing over from other mappings. -/
theorem mergedEntries_texts {α : Type} (entries : List α) (name : α → Chars) (node : α → Node) :
    mergedEntries (fuel + 1) (entries.map fun e => (.scalar .text (name e),node e)) =
      .ok (entries.map fun e => (.scalar .text (name e),node e)) := by
  have hkey : ∀ e ∈ entries.map fun e => (Node.scalar .text (name e),node e), ∃ text, e.1 = .scalar .text text := by
    simp
  have hown : ∀ e ∈ entries.map fun e => (Node.scalar .text (name e),node e), (e.1.kind != .merge) = true := by
    simp [Node.kind]
  rw [mergedEntries,List.filter_eq_self.mpr hown]
  refine (congrArg (· >>= _) (mapM_eq_map (g := fun _ => []) fun e he => ?_)).trans ?_
  · obtain ⟨text,he⟩ := hkey e he
    simp [he,Node.kind]
    rfl
  · refine congrArg Except.ok ?_
    simp [Function.comp_def]

/-- Distinct texts as keys make a mapping with as many entries. -/
theorem valueFrom_mapping {α : Type} {entries : List α} {name : α → Chars} {node : α → Node} {value : α → Value}
    (h : ∀ e ∈ entries, 0 < fuel ∧ valueFrom fuel (node e) = .ok (value e))
    (hnames : (entries.map name).Nodup) :
    valueFrom (fuel + 1) (.mapping .map (entries.map fun e => (.scalar .text (name e),node e))) =
      .ok (.map (entries.map fun e => (textKey (name e),value e))) := by
  have hstep : ∀ before e after, entries = before ++ e :: after →
      Value.put (before.map fun e => (textKey (name e),value e)) (textKey (name e)) (value e) =
        (before.map fun e => (textKey (name e),value e)) ++ [(textKey (name e),value e)] := by
    intro before e after heq
    have hnew : ((before.map fun e => (textKey (name e),value e)).any fun x => x.1.sameKey (textKey (name e))) =
        false := by
      rw [heq,List.map_append,List.map_cons] at hnames
      have hdistinct := (List.nodup_append.mp hnames).2.2
      simp only [List.any_map,List.any_eq_false,Function.comp_apply,sameKey_textKey,decide_eq_true_eq]
      exact fun x hx => hdistinct _ (List.mem_map_of_mem hx) _ List.mem_cons_self
    rw [Value.put,hnew,if_neg Bool.false_ne_true]
  simp only [valueFrom,Node.kind,mergedEntries_texts]
  refine (congrArg (· >>= fun es => pure (Value.map es)) (?_ : _ = .ok (entries.map _))).trans rfl
  change List.foldlM _ [] (entries.map _) = _
  rw [List.foldlM_map]
  refine foldlM_eq_map fun before e after heq => ?_
  obtain ⟨hpos,hvalue⟩ := h e (by rw [heq]; simp)
  obtain ⟨fuel,rfl⟩ := Nat.exists_eq_succ_of_ne_zero (Nat.ne_zero_of_lt hpos)
  have hkey : valueFrom (fuel + 1) (.scalar .text (name e)) = .ok (textKey (name e)) := rfl
  simp only [hkey,hvalue,bind,Except.bind]
  exact congrArg Except.ok (hstep before e after heq)

theorem depth_le_depthEntries {α : Type} {entries : List α} {e : α} (h : e ∈ entries) (f : α → Node × Node) :
    (f e).2.depth ≤ Node.depth.depthEntries (entries.map f) := by
  induction entries with
  | nil => simp at h
  | cons x entries ih =>
    rw [List.map_cons,Node.depth.depthEntries]
    rcases List.mem_cons.mp h with rfl | h
    · omega
    · have hrest := ih h
      omega

/-- The value of the settings of a section. -/
def settingsValue (settings : List (Chars × Chars)) : Value :=
  .map (settings.map fun e => (textKey e.1,textKey e.2))

theorem valueFrom_settings {settings : List (Chars × Chars)} (hnames : (settings.map (·.1)).Nodup)
    (hfuel : (settingsNode settings).depth ≤ fuel) :
    valueFrom fuel (settingsNode settings) = .ok (settingsValue settings) := by
  simp only [settingsNode,Node.depth] at hfuel
  obtain ⟨fuel,rfl⟩ := Nat.exists_eq_succ_of_ne_zero (show fuel ≠ 0 by omega)
  refine valueFrom_mapping (fun e he => ?_) hnames
  have hdepth := depth_le_depthEntries he fun e => (.scalar .text e.1,.scalar .text e.2)
  simp only [Node.depth] at hdepth
  obtain ⟨fuel,rfl⟩ := Nat.exists_eq_succ_of_ne_zero (show fuel ≠ 0 by omega)
  exact ⟨Nat.succ_pos fuel,rfl⟩

/-- The value of a document of sections. -/
theorem valueFrom_sections {sections : List (Chars × List (Chars × Chars))} (hnames : (sections.map (·.1)).Nodup)
    (hsettings : ∀ sect ∈ sections, (sect.2.map (·.1)).Nodup) :
    valueFrom ((sectionsNode sections).depth + 1) (sectionsNode sections) =
      .ok (.map (sections.map fun sect => (textKey sect.1,settingsValue sect.2))) := by
  refine valueFrom_mapping (fun sect hsect => ?_) hnames
  have hdepth : (settingsNode sect.2).depth ≤ _ :=
    depth_le_depthEntries hsect fun sect => (.scalar .text sect.1,settingsNode sect.2)
  refine ⟨by simp only [sectionsNode,Node.depth]; omega,valueFrom_settings (hsettings sect hsect) ?_⟩
  simp only [sectionsNode,Node.depth]
  omega

end

/-! ## Documents -/

theorem sortByName_perm {α : Type} (entries : List (Chars × α)) : (Write.sortByName entries).Perm entries :=
  List.mergeSort_perm entries _

/-- Sections with distinct names of settings. -/
structure Distinct (sections : List (Chars × List (Chars × Chars))) : Prop where
  names : (sections.map (·.1)).Nodup
  settings : ∀ sect ∈ sections, (sect.2.map (·.1)).Nodup

theorem Distinct.inOrder {sections : List (Chars × List (Chars × Chars))} (h : Distinct sections) :
    Distinct (inOrder sections) := by
  refine ⟨?_,fun sect hsect => ?_⟩
  · rw [Yaml.inOrder,List.map_map]
    exact ((sortByName_perm sections).map _).nodup_iff.mpr h.names
  · obtain ⟨unsorted,hunsorted,rfl⟩ := List.mem_map.mp hsect
    have hmem := (sortByName_perm sections).mem_iff.mp hunsorted
    exact ((sortByName_perm unsorted.2).map _).nodup_iff.mpr (h.settings unsorted hmem)

/-- A written document of sections is read as these sections, unless one of their names outgrows its line. -/
theorem load_document {sections : List (Chars × List (Chars × Chars))} (hne : sections ≠ [])
    (h : Distinct sections) :
    ((∀ sect ∈ inOrder sections, Scanner.Fits sect) → load (Write.document sections) =
      .ok (.map ((inOrder sections).map fun sect => (textKey sect.1,settingsValue sect.2)))) ∧
    ((∃ sect ∈ inOrder sections, ¬Scanner.Fits sect) → load (Write.document sections) = .error .malformed) := by
  obtain ⟨hfits,hfails⟩ := tokens_document hne
  unfold load
  refine ⟨fun hall => ?_,fun hone => ?_⟩
  · rw [hfits hall]
    change (Node.ofTokens _ >>= _) = _
    rw [ofTokens_sections]
    exact valueFrom_sections h.inOrder.names h.inOrder.settings
  · rw [hfails hone]
    rfl

end TrackerHub.Yaml
