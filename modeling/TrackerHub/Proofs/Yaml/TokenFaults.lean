import TrackerHub.Yaml.Token

/-! # Faults of tokens

A text that cannot be cut into tokens is malformed, unless an escape in it names no character.
-/
namespace TrackerHub

section
variable {ε α β : Type} {p q : ε → Prop}

/-- Whether every error that a reading can end with satisfies `p`. -/
def FailsIn (p : ε → Prop) (x : Except ε α) : Prop := ∀ e, x = .error e → p e

namespace FailsIn

@[simp] theorem ok {x : α} : FailsIn p (.ok x : Except ε α) := by
  intro e h
  cases h

@[simp] theorem pure {x : α} : FailsIn p (Pure.pure x : Except ε α) := ok

theorem error {e : ε} (h : p e) : FailsIn p (.error e : Except ε α) := by
  rintro _ ⟨⟩
  exact h

theorem mono {x : Except ε α} (h : FailsIn p x) (hpq : ∀ e, p e → q e) : FailsIn q x :=
  fun e he => hpq e (h e he)

theorem bind {x : Except ε α} {f : α → Except ε β} (hx : FailsIn p x)
    (hf : ∀ a, x = .ok a → FailsIn p (f a)) : FailsIn p (x >>= f) := by
  intro e he
  cases h : x with
  | error e' =>
    rw [h] at he
    cases he
    exact hx e h
  | ok a =>
    rw [h] at he
    exact hf a h e he

theorem throw_bind {e : ε} (h : p e) (f : α → Except ε β) : FailsIn p (.error e >>= f) := error h

theorem map {x : Except ε α} (hx : FailsIn p x) (f : α → β) : FailsIn p (x.map f) := by
  intro e he
  cases h : x with
  | error e' =>
    rw [h] at he
    cases he
    exact hx e h
  | ok a =>
    rw [h] at he
    cases he

theorem ite {c : Prop} [Decidable c] {x y : Except ε α} (hx : c → FailsIn p x)
    (hy : ¬c → FailsIn p y) : FailsIn p (if c then x else y) := by
  split
  next h => exact hx h
  next h => exact hy h

theorem mapM {f : α → Except ε β} {xs : List α} (hf : ∀ x ∈ xs, FailsIn p (f x)) :
    FailsIn p (xs.mapM f) := by
  induction xs with
  | nil => exact ok
  | cons x xs ih =>
    rw [List.mapM_cons]
    refine bind (hf x List.mem_cons_self) fun y _ => ?_
    exact bind (ih fun z hz => hf z (List.mem_cons_of_mem x hz)) fun ys _ => ok

theorem foldlM {f : β → α → Except ε β} {xs : List α} (hf : ∀ x ∈ xs, ∀ y, FailsIn p (f y x))
    (y : β) : FailsIn p (xs.foldlM f y) := by
  induction xs generalizing y with
  | nil => exact ok
  | cons x xs ih =>
    rw [List.foldlM_cons]
    exact bind (hf x List.mem_cons_self y) fun z _ => ih (fun w hw => hf w (List.mem_cons_of_mem x hw)) z

end FailsIn

end

namespace Yaml
open Text (Chars)

/-- The errors of a document that cannot be cut into tokens. -/
def IsLexical (e : YamlError) : Prop := e = .malformed ∨ e = .noCharacter

theorem isLexical_malformed {α : Type} : FailsIn IsLexical (.error .malformed : Except YamlError α) :=
  .error (.inl rfl)

theorem lexical_quotedBreaks (start : Bool) (s : Chars) : FailsIn IsLexical (quotedBreaks start s) := by
  fun_induction quotedBreaks start s with
  | case1 => exact .ok
  | case2 => exact isLexical_malformed
  | case3 => assumption
  | case4 _ _ _ _ _ _ ih => exact ih.map _
  | case5 => exact .ok

theorem lexical_quotedBlanks (s : Chars) : FailsIn IsLexical (quotedBlanks s) := by
  unfold quotedBlanks
  dsimp only
  split
  · exact isLexical_malformed
  · exact .ite (fun _ => (lexical_quotedBreaks _ _).map _) fun _ => .ok

theorem lexical_readEscape (s : Chars) : FailsIn IsLexical (readEscape s) := by
  unfold readEscape
  split
  · exact isLexical_malformed
  split
  · exact .ok
  split
  · dsimp only
    split
    · exact .ite (fun _ => .ok) fun _ => .error (.inr rfl)
    · exact isLexical_malformed
  · exact .ite (fun _ => lexical_quotedBreaks _ _) fun _ => isLexical_malformed

theorem lexical_quotedFrom (double : Bool) (fuel : Nat) (s : Chars) :
    FailsIn IsLexical (quotedFrom double fuel s) := by
  induction fuel generalizing s with
  | zero => exact isLexical_malformed
  | succ fuel ih =>
    unfold quotedFrom
    dsimp only
    split
    · exact isLexical_malformed
    split
    · exact .bind (lexical_quotedBlanks _) fun _ _ => (ih _).map _
    split
    · split
      · exact .ok
      split
      · exact .bind (lexical_readEscape _) fun _ _ => (ih _).map _
      · exact (ih _).map _
    split
    · split
      · exact (ih _).map _
      · exact .ok
    · exact (ih _).map _

theorem lexical_endLine (s : Chars) : FailsIn IsLexical (endLine s) :=
  .ite (fun _ => .ok) fun _ => isLexical_malformed

theorem lexical_blockMarks (s : Chars) : FailsIn IsLexical (blockMarks s) :=
  .ite (fun _ => isLexical_malformed) fun _ => .ok

theorem lexical_readBlock (folded : Bool) (least : Nat) (s : Chars) :
    FailsIn IsLexical (readBlock folded least s) := by
  refine .bind (lexical_blockMarks _) fun marks _ => ?_
  refine .bind (lexical_endLine _) fun rest _ => ?_
  dsimp only
  split <;> exact .ok

namespace Scanner

theorem lexical_percentRun (s : Chars) : FailsIn IsLexical (percentRun s) := by
  fun_induction percentRun s with
  | case1 _ _ _ _ _ _ _ ih => exact ih.map _
  | case2 => exact isLexical_malformed
  | case3 => exact isLexical_malformed
  | case4 => exact .ok

theorem lexical_tagTextFrom (fuel : Nat) (s : Chars) : FailsIn IsLexical (tagTextFrom fuel s) := by
  induction fuel generalizing s with
  | zero => exact isLexical_malformed
  | succ fuel ih =>
    unfold tagTextFrom
    dsimp only
    split
    · refine .bind (lexical_percentRun _) fun run _ => ?_
      split
      · exact .bind (ih _) fun _ _ => .ok
      · exact isLexical_malformed
    · exact .ok

theorem lexical_tagText (s : Chars) : FailsIn IsLexical (tagText s) :=
  .ite (fun _ => lexical_tagTextFrom _ _) fun _ => isLexical_malformed

theorem lexical_tagHandle (s : Chars) : FailsIn IsLexical (tagHandle s) := by
  unfold tagHandle
  split
  · refine .ite (fun _ => .ok) fun _ => ?_
    dsimp only
    split
    · exact .ok
    · exact isLexical_malformed
  · exact isLexical_malformed

theorem lexical_readTag (s : Chars) : FailsIn IsLexical (readTag s) := by
  have whole : ∀ (t : Token) (rest : Chars), FailsIn IsLexical
      (if atSpace rest then Pure.pure (t,rest) else throw .malformed : Except YamlError (Token × Chars)) :=
    fun _ _ => .ite (fun _ => .ok) fun _ => isLexical_malformed
  unfold readTag
  split
  · refine .bind (lexical_tagText _) fun suffix _ => ?_
    dsimp only
    split
    · exact whole _ _
    · exact .throw_bind (.inl rfl) _
  · refine .ite (fun _ => whole (.tag none ['!']) _) fun _ => .ite (fun _ => ?_) fun _ => ?_
    · refine .bind (lexical_tagHandle _) fun handle _ => .bind (lexical_tagText _) fun suffix _ => ?_
      exact whole (.tag (some handle.1) suffix.1) suffix.2
    · exact .bind (lexical_tagText _) fun suffix _ => whole (.tag (some ['!']) suffix.1) suffix.2

theorem lexical_readDirective (s : Chars) : FailsIn IsLexical (readDirective s) := by
  have whole : ∀ (t : Token) (rest : Chars),
      FailsIn IsLexical (do Pure.pure (t,← endLine rest) : Except YamlError (Token × Chars)) :=
    fun _ _ => .bind (lexical_endLine _) fun _ _ => .ok
  unfold readDirective
  dsimp only
  refine .ite (fun _ => .throw_bind (.inl rfl) _) fun _ => ?_
  refine .ite (fun _ => ?_) fun _ => .ite (fun _ => ?_) fun _ => whole _ _
  · split
    · exact .ite (fun _ => .throw_bind (.inl rfl) _) fun _ => whole _ _
    · exact .throw_bind (.inl rfl) _
  · refine .bind (lexical_tagHandle _) fun handle _ => ?_
    refine .ite (fun _ => .throw_bind (.inl rfl) _) fun _ => ?_
    refine .bind (lexical_tagText _) fun start _ => ?_
    exact .ite (fun _ => whole _ _) fun _ => .throw_bind (.inl rfl) _

theorem lexical_readName (s : Chars) : FailsIn IsLexical (readName s) :=
  .ite (fun _ => .ok) fun _ => isLexical_malformed

section
variable (s : Scanner) (t : Token)

theorem lexical_dropKey (k : PossibleKey) : FailsIn IsLexical (dropKey k) :=
  .ite (fun _ => isLexical_malformed) fun _ => .ok

theorem lexical_dropStaleKeys : FailsIn IsLexical s.dropStaleKeys := by
  have stale : ∀ k, FailsIn IsLexical (s.dropStale k) := by
    intro k
    cases k with
    | none => exact .ok
    | some k => exact .ite (fun _ => lexical_dropKey k) fun _ => .ok
  exact .bind (stale _) fun _ _ => .bind (.mapM fun k _ => stale k) fun _ _ => .ok

theorem lexical_giveUpKey : FailsIn IsLexical s.giveUpKey := by
  unfold giveUpKey
  split
  · exact .ok
  · exact (lexical_dropKey _).map _

theorem lexical_noteKey : FailsIn IsLexical s.noteKey :=
  .ite (fun _ => .bind (lexical_giveUpKey _) fun _ _ => .ok) fun _ => .ok

theorem lexical_betweenDocuments : FailsIn IsLexical s.betweenDocuments :=
  .bind (lexical_giveUpKey _) fun _ _ => .ok

theorem lexical_pushKeyable (rest : Chars) : FailsIn IsLexical (s.pushKeyable t rest) :=
  .bind (lexical_noteKey _) fun _ _ => .ok

theorem lexical_openBracket : FailsIn IsLexical (s.openBracket t) :=
  .bind (lexical_noteKey _) fun _ _ => .ok

theorem lexical_closeBracket : FailsIn IsLexical (s.closeBracket t) := by
  refine .bind (lexical_giveUpKey _) fun u _ => ?_
  split
  · exact isLexical_malformed
  · exact .ok

theorem lexical_pushBlockMark (mark : Token) : FailsIn IsLexical (s.pushBlockMark t mark) := by
  have marked : ∀ u : Scanner, FailsIn IsLexical (do Pure.pure (((← u.giveUpKey).push mark).skip 1)) :=
    fun u => .bind (lexical_giveUpKey u) fun _ _ => .ok
  unfold pushBlockMark
  refine .ite (fun _ => marked _) fun _ => .ite (fun _ => marked _) fun _ => ?_
  exact .throw_bind (.inl rfl) _

theorem lexical_pushValue : FailsIn IsLexical s.pushValue := by
  unfold pushValue
  split
  · exact .ok
  · exact lexical_pushBlockMark _ _ _

theorem lexical_pushBlock (folded : Bool) : FailsIn IsLexical (s.pushBlock folded) :=
  .bind (lexical_giveUpKey _) fun _ _ => .bind (lexical_readBlock _ _ _) fun _ _ => .ok

theorem lexical_pushQuoted (double : Bool) : FailsIn IsLexical (s.pushQuoted double) :=
  .bind (lexical_quotedFrom _ _ _) fun _ _ => lexical_pushKeyable _ _ _

theorem lexical_pushPlain : FailsIn IsLexical s.pushPlain :=
  .bind (lexical_pushKeyable _ _ _) fun _ _ => .ok

theorem lexical_pushNext (c : Char) (r : Chars) : FailsIn IsLexical (s.pushNext c r) := by
  unfold pushNext
  refine .ite (fun _ => ?_) fun _ => ?_
  · refine .bind (lexical_betweenDocuments s) fun _ _ => ?_
    exact .bind (lexical_readDirective _) fun _ _ => .ok
  refine .ite (fun _ => .bind (lexical_betweenDocuments s) fun _ _ => .ok) fun _ => ?_
  refine .ite (fun _ => .bind (lexical_betweenDocuments s) fun _ _ => .ok) fun _ => ?_
  refine .ite (fun _ => lexical_openBracket s _) fun _ => ?_
  refine .ite (fun _ => lexical_openBracket s _) fun _ => ?_
  refine .ite (fun _ => lexical_closeBracket s _) fun _ => ?_
  refine .ite (fun _ => lexical_closeBracket s _) fun _ => ?_
  refine .ite (fun _ => .bind (lexical_giveUpKey _) fun _ _ => .ok) fun _ => ?_
  refine .ite (fun _ => lexical_pushBlockMark s _ _) fun _ => ?_
  refine .ite (fun _ => lexical_pushBlockMark s _ _) fun _ => ?_
  refine .ite (fun _ => lexical_pushValue s) fun _ => ?_
  refine .ite (fun _ => .bind (lexical_readName _) fun _ _ => lexical_pushKeyable s _ _) fun _ => ?_
  refine .ite (fun _ => .bind (lexical_readName _) fun _ _ => lexical_pushKeyable s _ _) fun _ => ?_
  refine .ite (fun _ => .bind (lexical_readTag _) fun _ _ => lexical_pushKeyable s _ _) fun _ => ?_
  refine .ite (fun _ => lexical_pushBlock s _) fun _ => ?_
  refine .ite (fun _ => lexical_pushBlock s _) fun _ => ?_
  refine .ite (fun _ => lexical_pushQuoted s _) fun _ => ?_
  refine .ite (fun _ => lexical_pushQuoted s _) fun _ => ?_
  exact .ite (fun _ => lexical_pushPlain s) fun _ => isLexical_malformed

theorem lexical_run (fuel : Nat) : FailsIn IsLexical (run fuel s) := by
  induction fuel generalizing s with
  | zero => exact isLexical_malformed
  | succ fuel ih =>
    rw [run]
    refine .bind (lexical_dropStaleKeys _) fun u _ => ?_
    dsimp only
    split
    · exact lexical_giveUpKey _
    · exact .bind (lexical_pushNext _ _ _) fun v _ => ih v

end

end Scanner

/-- A text that cannot be cut into tokens is malformed or has an escape that names no character. -/
theorem lexical_tokens (source : Chars) : FailsIn IsLexical (tokens source) :=
  .ite (fun _ => isLexical_malformed) fun _ => .bind (Scanner.lexical_run _ _) fun _ _ => .ok

end Yaml

end TrackerHub
