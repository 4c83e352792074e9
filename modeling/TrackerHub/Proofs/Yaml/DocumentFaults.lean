import TrackerHub.Proofs.ReadLists
import TrackerHub.Proofs.Yaml.TokenFaults
import TrackerHub.Yaml.Load

/-! # Faults of documents

A document that cannot be read is malformed, with two kinds of exceptions: an escape may name no
character, and the text of a scalar may be no value of the kind that its tag or its spelling says.
-/
namespace TrackerHub.Yaml
open Text (Chars)

namespace Node

/-- Whether a reader of nodes fails only on a malformed document. -/
def OnlyMalformed {α : Type} (r : NodeReader α) : Prop := ∀ s, FailsIn (· = .malformed) (r s)

namespace OnlyMalformed
variable {α β : Type}

theorem pure {x : α} : OnlyMalformed (Pure.pure x) := fun _ => .ok

theorem malformed : OnlyMalformed (throw .malformed : NodeReader α) := fun _ => .error rfl

theorem bind {r : NodeReader α} {f : α → NodeReader β} (hr : OnlyMalformed r)
    (hf : ∀ x, OnlyMalformed (f x)) : OnlyMalformed (r >>= f) :=
  fun s => .bind (hr s) fun x _ => hf x.1 x.2

theorem ite {c : Prop} [Decidable c] {r r' : NodeReader α} (hr : OnlyMalformed r)
    (hr' : OnlyMalformed r') : OnlyMalformed (if c then r else r') := by
  split
  · exact hr
  · exact hr'

end OnlyMalformed

theorem onlyMalformed_peekToken : OnlyMalformed peekToken := fun _ => .ok

theorem onlyMalformed_skipToken : OnlyMalformed skipToken := fun _ => .ok

theorem onlyMalformed_acceptToken (t : Token) : OnlyMalformed (acceptToken t) :=
  .bind onlyMalformed_peekToken fun _ => .ite (.bind onlyMalformed_skipToken fun _ => .pure) .pure

theorem onlyMalformed_nextIsOneOf (ts : List Token) : OnlyMalformed (nextIsOneOf ts) := by
  refine .bind onlyMalformed_peekToken fun t => ?_
  cases t with
  | none => exact .pure
  | some t => exact .pure

theorem onlyMalformed_completeTag (handle : Option Chars) (suffix : Chars) :
    OnlyMalformed (completeTag handle suffix) := by
  cases handle with
  | none => exact .pure
  | some h =>
    refine .bind (fun _ => .ok) fun s : Reading => ?_
    split
    · exact .pure
    · exact .malformed

theorem onlyMalformed_readProperties : OnlyMalformed readProperties := by
  refine .bind onlyMalformed_peekToken fun t => ?_
  split
  · refine .bind onlyMalformed_skipToken fun _ => .bind onlyMalformed_peekToken fun t => ?_
    split
    · exact .bind onlyMalformed_skipToken fun _ => .bind (onlyMalformed_completeTag _ _) fun _ => .pure
    · exact .pure
  · refine .bind onlyMalformed_skipToken fun _ => .bind onlyMalformed_peekToken fun t => ?_
    split
    · exact .bind onlyMalformed_skipToken fun _ => .bind (onlyMalformed_completeTag _ _) fun _ => .pure
    · exact .bind (onlyMalformed_completeTag _ _) fun _ => .pure
  · exact .pure

theorem onlyMalformed_setAnchor (anchor : Option Chars) (node : Option Node) :
    OnlyMalformed (setAnchor anchor node) := by
  cases anchor with
  | none => exact .pure
  | some a => exact fun _ => .ok

theorem onlyMalformed_checkAnchor (anchor : Option Chars) : OnlyMalformed (checkAnchor anchor) := by
  cases anchor with
  | none => exact .pure
  | some a => exact .bind (fun _ => .ok) fun s : Reading => .ite .malformed .pure

theorem onlyMalformed_ofAlias (name : Chars) : OnlyMalformed (ofAlias name) := by
  refine .bind (fun _ => .ok) fun s : Reading => ?_
  split
  · exact .pure
  · exact .pure
  · exact .malformed

/-- What the readers of nodes do that take a given number of steps. -/
structure Steady (fuel : Nat) : Prop where
  node : ∀ block bare, OnlyMalformed (readNode fuel block bare)
  content : ∀ block bare p, OnlyMalformed (readContent fuel block bare p)
  nodeUnless : ∀ ends block bare, OnlyMalformed (readUnless fuel ends block bare)
  blockItems : OnlyMalformed (readBlockItems fuel)
  bareItems : OnlyMalformed (readBareItems fuel)
  blockEntries : OnlyMalformed (readBlockEntries fuel)
  flowItems : ∀ first, OnlyMalformed (readFlowItems fuel first)
  flowEntries : ∀ first, OnlyMalformed (readFlowEntries fuel first)

section
variable {fuel : Nat} (h : Steady fuel)
include h

theorem onlyMalformed_readNode (block bare : Bool) : OnlyMalformed (readNode (fuel + 1) block bare) := by
  rw [readNode]
  refine .bind onlyMalformed_peekToken fun t => ?_
  split
  · exact .bind onlyMalformed_skipToken fun _ => onlyMalformed_ofAlias _
  · refine .bind onlyMalformed_readProperties fun p => .bind (onlyMalformed_checkAnchor _) fun _ => ?_
    refine .bind (onlyMalformed_setAnchor _ _) fun _ => .bind (h.content _ _ _) fun node => ?_
    exact .bind (onlyMalformed_setAnchor _ _) fun _ => .pure

theorem onlyMalformed_readContent (block bare : Bool) (p : Properties) :
    OnlyMalformed (readContent (fuel + 1) block bare p) := by
  rw [readContent]
  refine .bind onlyMalformed_peekToken fun t => ?_
  split
  · exact .bind onlyMalformed_skipToken fun _ => .pure
  · exact .bind onlyMalformed_skipToken fun _ => .bind (h.flowItems _) fun _ => .pure
  · exact .bind onlyMalformed_skipToken fun _ => .bind (h.flowEntries _) fun _ => .pure
  · refine .ite (.bind h.bareItems fun _ => .pure) ?_
    refine .ite (.bind onlyMalformed_skipToken fun _ => .bind h.blockItems fun _ => .pure) ?_
    refine .ite (.bind onlyMalformed_skipToken fun _ => .bind h.blockEntries fun _ => .pure) ?_
    refine .ite ?_ .malformed
    split <;> exact .pure

theorem onlyMalformed_readUnless (ends : List Token) (block bare : Bool) :
    OnlyMalformed (readUnless (fuel + 1) ends block bare) := by
  rw [readUnless]
  exact .bind (onlyMalformed_nextIsOneOf _) fun _ => .ite .pure (h.node _ _)

theorem onlyMalformed_readBlockItems : OnlyMalformed (readBlockItems (fuel + 1)) := by
  rw [readBlockItems]
  refine .bind (onlyMalformed_acceptToken _) fun _ => .ite ?_ ?_
  · exact .bind (h.nodeUnless _ _ _) fun _ => .bind h.blockItems fun _ => .pure
  · exact .bind (onlyMalformed_acceptToken _) fun _ => .ite .pure .malformed

theorem onlyMalformed_readBareItems : OnlyMalformed (readBareItems (fuel + 1)) := by
  rw [readBareItems]
  refine .bind (onlyMalformed_acceptToken _) fun _ => .ite ?_ .pure
  exact .bind (h.nodeUnless _ _ _) fun _ => .bind h.bareItems fun _ => .pure

theorem onlyMalformed_readBlockEntries : OnlyMalformed (readBlockEntries (fuel + 1)) := by
  rw [readBlockEntries]
  refine .bind (onlyMalformed_acceptToken _) fun _ => .ite .pure ?_
  refine .bind (onlyMalformed_acceptToken _) fun _ => .ite ?_ .malformed
  refine .bind (h.nodeUnless _ _ _) fun key => .bind (onlyMalformed_acceptToken _) fun _ => .ite ?_ ?_
  · exact .bind (h.nodeUnless _ _ _) fun _ => .bind h.blockEntries fun _ => .pure
  · exact .bind .pure fun _ => .bind h.blockEntries fun _ => .pure

theorem onlyMalformed_readFlowItems (first : Bool) : OnlyMalformed (readFlowItems (fuel + 1) first) := by
  rw [readFlowItems]
  have next : OnlyMalformed (do
      if ← acceptToken .key then
        let key ← readUnless fuel [.value,.flowEntry,.closeSequence] false false
        let value ←
          if ← acceptToken .value then readUnless fuel [.flowEntry,.closeSequence] false false
          else Pure.pure empty
        Pure.pure (.mapping .map [(key,value)] :: (← readFlowItems fuel false))
      else if ← acceptToken .closeSequence then Pure.pure []
      else
        let item ← readNode fuel false false
        Pure.pure (item :: (← readFlowItems fuel false))) := by
    refine .bind (onlyMalformed_acceptToken _) fun _ => .ite ?_ ?_
    · refine .bind (h.nodeUnless _ _ _) fun key => .bind (onlyMalformed_acceptToken _) fun _ => .ite ?_ ?_
      · exact .bind (h.nodeUnless _ _ _) fun _ => .bind (h.flowItems _) fun _ => .pure
      · exact .bind .pure fun _ => .bind (h.flowItems _) fun _ => .pure
    · refine .bind (onlyMalformed_acceptToken _) fun _ => .ite .pure ?_
      exact .bind (h.node _ _) fun _ => .bind (h.flowItems _) fun _ => .pure
  refine .bind (onlyMalformed_acceptToken _) fun _ => .ite .pure (.ite ?_ next)
  exact .bind (onlyMalformed_acceptToken _) fun _ => .ite (.bind .malformed fun _ => next) next

theorem onlyMalformed_readFlowEntries (first : Bool) :
    OnlyMalformed (readFlowEntries (fuel + 1) first) := by
  rw [readFlowEntries]
  have next : OnlyMalformed (do
      if ← acceptToken .key then
        let key ← readUnless fuel [.value,.flowEntry,.closeMapping] false false
        let value ←
          if ← acceptToken .value then readUnless fuel [.flowEntry,.closeMapping] false false
          else Pure.pure empty
        Pure.pure ((key,value) :: (← readFlowEntries fuel false))
      else if ← acceptToken .closeMapping then Pure.pure []
      else
        let key ← readNode fuel false false
        Pure.pure ((key,empty) :: (← readFlowEntries fuel false))) := by
    refine .bind (onlyMalformed_acceptToken _) fun _ => .ite ?_ ?_
    · refine .bind (h.nodeUnless _ _ _) fun key => .bind (onlyMalformed_acceptToken _) fun _ => .ite ?_ ?_
      · exact .bind (h.nodeUnless _ _ _) fun _ => .bind (h.flowEntries _) fun _ => .pure
      · exact .bind .pure fun _ => .bind (h.flowEntries _) fun _ => .pure
    · refine .bind (onlyMalformed_acceptToken _) fun _ => .ite .pure ?_
      exact .bind (h.node _ _) fun _ => .bind (h.flowEntries _) fun _ => .pure
  refine .bind (onlyMalformed_acceptToken _) fun _ => .ite .pure (.ite ?_ next)
  exact .bind (onlyMalformed_acceptToken _) fun _ => .ite (.bind .malformed fun _ => next) next

end

theorem steady (fuel : Nat) : Steady fuel := by
  induction fuel with
  | zero =>
    constructor
    all_goals intros; exact .malformed
  | succ fuel h =>
    exact {
      node := onlyMalformed_readNode h
      content := onlyMalformed_readContent h
      nodeUnless := onlyMalformed_readUnless h
      blockItems := onlyMalformed_readBlockItems h
      bareItems := onlyMalformed_readBareItems h
      blockEntries := onlyMalformed_readBlockEntries h
      flowItems := onlyMalformed_readFlowItems h
      flowEntries := onlyMalformed_readFlowEntries h }

theorem malformed_readDirectives (fuel : Nat) (versioned : Bool) (handles : List (Chars × Chars))
    (ts : List Token) : FailsIn (· = .malformed) (readDirectives fuel versioned handles ts) := by
  fun_induction readDirectives fuel versioned handles ts with
  | case1 => exact .error rfl
  | case2 => exact .ok
  | case3 => exact .error rfl
  | case4 => assumption
  | case5 => exact .error rfl
  | case6 => assumption
  | case7 => assumption
  | case8 => exact .ok

/-- Tokens that do not make one document are malformed. -/
theorem malformed_ofTokens (ts : List Token) : FailsIn (· = .malformed) (ofTokens ts) := by
  unfold ofTokens
  split
  · exact .ok
  next t _ =>
    have ended : ∀ (node : Node) (s : Reading), FailsIn (· = .malformed)
        (if (s.tokens.dropWhile (· == .documentEnd)).isEmpty then Pure.pure (some node)
          else throw .malformed : Except YamlError (Option Node)) :=
      fun _ _ => .ite (fun _ => .ok) fun _ => .error rfl
    dsimp only
    refine .ite (fun _ => ?_) fun _ => ?_
    · refine .bind (malformed_readDirectives _ _ _ _) fun declared _ => ?_
      split
      · refine .ite (fun _ => ended _ _) fun _ => ?_
        exact .bind ((steady _).node _ _ _) fun x _ => ended x.1 x.2
      · exact .throw_bind (p := (· = YamlError.malformed)) rfl _
    · refine .ite (fun _ => ended _ _) fun _ => ?_
      exact .bind ((steady _).node _ _ _) fun x _ => ended x.1 x.2

/-- Whether a node stands inside another one or is that node. -/
inductive Within (n : Node) : Node → Prop where
  | here : Within n n
  | item {kind : Kind} {items : List Node} {i : Node} : i ∈ items → Within n i →
    Within n (.sequence kind items)
  | key {kind : Kind} {entries : List (Node × Node)} {e : Node × Node} :
    e ∈ entries → Within n e.1 → Within n (.mapping kind entries)
  | value {kind : Kind} {entries : List (Node × Node)} {e : Node × Node} :
    e ∈ entries → Within n e.2 → Within n (.mapping kind entries)

theorem Within.trans {a b c : Node} (h : Within a b) (h' : Within b c) : Within a c := by
  induction h' with
  | here => exact h
  | item hi _ ih => exact .item hi ih
  | key he _ ih => exact .key he ih
  | value he _ ih => exact .value he ih

/-- Whether an error says that the text of a scalar is no value of its kind. -/
def HasScalarFault (root : Node) (e : YamlError) : Prop :=
  ∃ n, Within n root ∧ ∃ text, n.text? = some text ∧ scalarValue n.kind text = .error e

/-- Whether an error is one of a malformed document or of a scalar of it. -/
def IsFaultOf (root : Node) (e : YamlError) : Prop := e = .malformed ∨ root.HasScalarFault e

theorem IsFaultOf.mono {n root : Node} (h : Within n root) {e : YamlError} (he : n.IsFaultOf e) :
    root.IsFaultOf e := by
  rcases he with rfl | ⟨m,hm,text,ht,hv⟩
  · exact .inl rfl
  · exact .inr ⟨m,hm.trans h,text,ht,hv⟩

/-- Whether an entry may be one of a node: its value stands inside the node, and its key does or is a
text. -/
def Offers (root : Node) (e : Node × Node) : Prop :=
  Within e.2 root ∧ (Within e.1 root ∨ ∃ text, e.1 = .scalar .text text)

theorem Offers.mono {n root : Node} (h : Within n root) {e : Node × Node} (he : n.Offers e) :
    root.Offers e :=
  ⟨he.1.trans h,he.2.imp_left fun hk => hk.trans h⟩

end Node

theorem malformed_mergedEntries (fuel : Nat) (entries : List (Node × Node)) :
    FailsIn (· = .malformed) (mergedEntries fuel entries) := by
  induction fuel generalizing entries with
  | zero => exact .error rfl
  | succ fuel ih =>
    rw [mergedEntries]
    refine .bind (.mapM fun e _ => .ite (fun _ => ?_) fun _ => .ok) fun _ _ => .ok
    split
    · exact ih _
    · refine .bind (.mapM fun item _ => ?_) fun _ _ => .ok
      split
      · exact ih _
      · exact .error rfl
    · exact .error rfl

/-- What is merged into a mapping stands inside it; only the mark of a default value is taken for a text. -/
theorem offers_mergedEntries {fuel : Nat} {entries merged : List (Node × Node)}
    (h : mergedEntries fuel entries = .ok merged) (kind : Kind) :
    ∀ e ∈ merged, (Node.mapping kind entries).Offers e := by
  induction fuel generalizing entries merged kind with
  | zero => cases h
  | succ fuel ih =>
    rw [mergedEntries] at h
    obtain ⟨taken,htaken,h⟩ := bind_eq_ok.mp h
    cases h
    intro e he
    -- An entry is taken from under a merge key, or is one of the mapping itself.
    rcases List.mem_append.mp he with he | he
    · obtain ⟨group,hgroup,he⟩ := List.mem_flatten.mp he
      obtain ⟨⟨k,v⟩,hv,hgroup⟩ := exists_of_mem_mapM htaken hgroup
      dsimp only at hgroup
      split at hgroup
      · split at hgroup
        · exact (ih hgroup _ e he).mono (.value hv .here)
        · obtain ⟨groups,hgroups,h⟩ := bind_eq_ok.mp hgroup
          cases h
          obtain ⟨g,hg,he⟩ := List.mem_flatten.mp he
          obtain ⟨item,hitem,hmerged⟩ := exists_of_mem_mapM hgroups (List.mem_reverse.mp hg)
          split at hmerged
          · exact (ih hmerged _ e he).mono (.value hv (.item hitem .here))
          · cases hmerged
        · cases hgroup
      · cases hgroup
        cases he
    · obtain ⟨⟨k,v⟩,hv,rfl⟩ := List.mem_map.mp he
      have hv := (List.mem_filter.mp hv).1
      dsimp only
      split
      · exact ⟨.value hv .here,.inr ⟨_,rfl⟩⟩
      · exact ⟨.value hv .here,.inl (.key hv .here)⟩

/-- The value of a node fails only where the document is malformed or a scalar is none of its kind. -/
theorem isFaultOf_valueFrom (fuel : Nat) (node : Node) : FailsIn node.IsFaultOf (valueFrom fuel node) := by
  induction fuel generalizing node with
  | zero => exact .error (.inl rfl)
  | succ fuel ih =>
    have inside : ∀ n, Node.Within n node → FailsIn node.IsFaultOf (valueFrom fuel n) :=
      fun n hn => (ih n).mono fun e he => he.mono hn
    -- Mappings and sets share the reading of entries.
    have mapping : ∀ kind entries, node = .mapping kind entries → FailsIn node.IsFaultOf (do
        let merged ← mergedEntries (fuel + 1) entries
        merged.foldlM (fun acc e => do
          let key ← valueFrom fuel e.1
          if !isKeyable key then throw YamlError.malformed
          let value ← valueFrom fuel e.2
          pure (Value.put acc key value)) []) := by
      rintro kind entries rfl
      refine .bind ((malformed_mergedEntries _ _).mono fun _ => .inl) fun merged hmerged => ?_
      refine .foldlM (fun e he acc => ?_) []
      obtain ⟨hvalue,hkey⟩ := offers_mergedEntries hmerged kind e he
      refine .bind ?_ fun key _ => .ite (fun _ => .throw_bind (.inl rfl) _) fun _ => ?_
      · rcases hkey with hkey | ⟨text,hkey⟩
        · exact inside _ hkey
        · rw [hkey]
          cases fuel with
          | zero => exact .error (.inl rfl)
          | succ fuel => exact .ok
      · exact .bind (inside _ hvalue) fun _ _ => .ok
    unfold valueFrom
    split
    · refine .bind (.mapM fun item hitem => inside item (.item hitem .here)) fun _ _ => .ok
    · exact .bind (mapping _ _ rfl) fun _ _ => .ok
    · exact .bind (mapping _ _ rfl) fun _ _ => .ok
    · refine .bind (.mapM fun item hitem => ?_) fun _ _ => .ok
      split
      next kind k v =>
        have hkey : Node.Within k (.mapping kind [(k,v)]) := .key List.mem_cons_self .here
        have hvalue : Node.Within v (.mapping kind [(k,v)]) := .value List.mem_cons_self .here
        refine .bind (inside k (.item hitem hkey)) fun _ _ => ?_
        exact .bind (inside v (.item hitem hvalue)) fun _ _ => .ok
      · exact .error (.inl rfl)
    · exact .error (.inl rfl)
    · exact .error (.inl rfl)
    · exact .error (.inl rfl)
    · exact .error (.inl rfl)
    · split
      next text htext => exact fun e he => .inr ⟨_,.here,text,htext,he⟩
      · exact .error (.inl rfl)

/-- Whether an error says that a document is well-formed but for what one of its parts stands for: an
escape that names no character, or a scalar that is none of its kind. -/
inductive IsForeign (source : Chars) : YamlError → Prop where
  | escape : tokens source = .error .noCharacter → IsForeign source .noCharacter
  | scalar {ts : List Token} {root : Node} {e : YamlError} : tokens source = .ok ts →
    Node.ofTokens ts = .ok (some root) → root.HasScalarFault e → IsForeign source e

/-- A document that cannot be read is malformed, or one of its escapes or scalars is at fault. -/
theorem load_eq_error {source : Chars} {e : YamlError} (h : load source = .error e) :
    e = .malformed ∨ IsForeign source e := by
  unfold load at h
  cases ht : tokens source with
  | error f =>
    rw [ht] at h
    cases h
    rcases lexical_tokens source e ht with rfl | rfl
    · exact .inl rfl
    · exact .inr (.escape ht)
  | ok ts =>
    rw [ht] at h
    change (Node.ofTokens ts >>= _) = _ at h
    cases hn : Node.ofTokens ts with
    | error f =>
      rw [hn] at h
      cases h
      exact .inl (Node.malformed_ofTokens ts e hn)
    | ok root? =>
      rw [hn] at h
      cases root? with
      | none => cases h
      | some root => exact (isFaultOf_valueFrom _ root e h).imp_right (.scalar ht hn)

end TrackerHub.Yaml
