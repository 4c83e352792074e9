import Mathlib.Data.List.Perm.Basic
import TrackerHub.Page.Parse
import TrackerHub.Proofs.Page.EditedPages

/-! # Numbered pages

No two elements of a page that was parsed have the same number: an element has the number that comes
next when it is opened, and nothing else makes elements or takes them away.
-/
namespace TrackerHub.Page
open Node
open Text (Chars)

theorem Node.numbersOf_reverse (nodes : List Node) : (numbersOf nodes.reverse).Perm (numbersOf nodes) := by
  induction nodes with
  | nil => exact List.Perm.refl _
  | cons n rest ih =>
    have hsplit : numbersOf (n :: rest) = numbersOf [n] ++ numbersOf rest := numbersOf_append [n] rest
    rw [List.reverse_cons,numbersOf_append,hsplit]
    exact List.perm_append_comm.trans (ih.append_left _)

namespace Builder

/-- The numbers of the elements so far, finished or not. -/
def numbers (b : Builder) : List Nat :=
  (b.stack.flatMap fun e => e.tag.id :: numbersOf e.children) ++ numbersOf b.done

/-- Whether the elements so far have different numbers, all of them given out before. -/
structure IsNumbered (b : Builder) : Prop where
  nodup : b.numbers.Nodup
  given : ∀ id ∈ b.numbers, id < b.nextId

/-- One step keeps the elements so far, whatever it does to their places. -/
theorem IsNumbered.of_perm {b c : Builder} (h : b.IsNumbered) (hp : c.numbers.Perm b.numbers)
    (hid : c.nextId = b.nextId) : c.IsNumbered where
  nodup := hp.nodup_iff.mpr h.nodup
  given id hi := hid ▸ h.given id (hp.subset hi)

theorem isNumbered_empty : ({} : Builder).IsNumbered := ⟨List.nodup_nil,nofun⟩

section
variable {b : Builder}

theorem numbers_add (n : Node) : (b.add n).numbers.Perm (numbersOf [n] ++ b.numbers) := by
  have hsplit (rest : List Node) : numbersOf (n :: rest) = numbersOf [n] ++ numbersOf rest :=
    numbersOf_append [n] rest
  refine List.perm_iff_count.mpr fun id => ?_
  unfold add
  split <;> rename_i h
  · rw [numbers,numbers,h,hsplit]
    rfl
  · rw [numbers,numbers,h,List.flatMap_cons,hsplit]
    simp only [List.flatMap_cons,List.count_cons,List.count_append]
    omega

theorem nextId_add (n : Node) : (b.add n).nextId = b.nextId := by
  unfold add
  split <;> rfl

theorem numbers_flush : b.flush.numbers.Perm b.numbers := by
  unfold flush
  split
  · exact List.Perm.refl _
  · exact numbers_add _

theorem nextId_flush : b.flush.nextId = b.nextId := by
  unfold flush
  split
  · rfl
  · exact nextId_add _

theorem numbers_push (name : Chars) (attrs : List (Chars × Chars)) :
    (b.push name attrs).numbers.Perm (b.nextId :: b.numbers) := by
  rw [← nextId_flush]
  exact numbers_flush.cons b.flush.nextId

theorem numbers_pop : b.pop.numbers.Perm b.numbers := by
  refine List.Perm.trans ?_ numbers_flush
  unfold pop
  dsimp only
  split <;> rename_i h
  · exact List.Perm.refl _
  · rename_i top rest
    refine (numbers_add _).trans ?_
    rw [numbersOf_element,numbersOf_nil,List.append_nil,numbers,numbers,h,List.flatMap_cons,
      List.append_assoc]
    exact ((numbersOf_reverse top.children).cons top.tag.id).append_right _

theorem nextId_pop : b.pop.nextId = b.nextId := by
  refine Eq.trans ?_ (nextId_flush (b := b))
  unfold pop
  dsimp only
  split
  · rfl
  · exact nextId_add _

variable (h : b.IsNumbered)
include h

theorem IsNumbered.flush : b.flush.IsNumbered := h.of_perm numbers_flush nextId_flush

theorem IsNumbered.pop : b.pop.IsNumbered := h.of_perm numbers_pop nextId_pop

theorem IsNumbered.push (name : Chars) (attrs : List (Chars × Chars)) :
    (b.push name attrs).IsNumbered := by
  have hp := numbers_push (b := b) name attrs
  have hid : (b.push name attrs).nextId = b.nextId + 1 := congrArg (· + 1) nextId_flush
  constructor
  · exact hp.nodup_iff.mpr (List.nodup_cons.mpr ⟨fun hi => absurd (h.given _ hi) (Nat.lt_irrefl _),h.nodup⟩)
  · intro id hi
    rw [hid]
    rcases List.mem_cons.mp (hp.subset hi) with rfl | hi
    · exact Nat.lt_succ_self _
    · exact Nat.lt_succ_of_lt (h.given id hi)

theorem IsNumbered.popMany (n : Nat) : (popMany n b).IsNumbered := by
  induction n generalizing b with
  | zero => exact h
  | succ n ih => exact ih h.pop

theorem IsNumbered.closeFor (name : Chars) : (closeFor name b).IsNumbered := h.popMany _

theorem IsNumbered.supply (name : Chars) : (supply name b).IsNumbered := by
  have hframe : (if b.stack.isEmpty then b.push "html".toList [] else b).IsNumbered := by
    split
    · exact h.push _ _
    · exact h
  unfold Builder.supply
  dsimp only
  generalize (if b.stack.isEmpty then b.push "html".toList [] else b) = c at hframe ⊢
  split
  · exact h
  · repeat' split
    all_goals first | exact hframe | exact hframe.push _ _

theorem IsNumbered.start (name : Chars) (attrs : List (Chars × Chars)) (closed : Bool) :
    (start name attrs closed b).IsNumbered := by
  have hs := (h.closeFor name).supply name
  have hp := hs.push name (attrs.map (keptAttr name))
  unfold Builder.start
  dsimp only
  split
  · exact hs.of_perm (List.Perm.refl _) rfl
  · split
    · exact hp.pop
    · exact hp

theorem IsNumbered.stop (name : Chars) : (stop name b).IsNumbered := by
  unfold Builder.stop
  dsimp only
  split
  · exact h.of_perm (List.Perm.refl _) rfl
  · split
    · split
      · exact h
      · exact h.popMany _
    · exact h

theorem IsNumbered.text (s : Chars) : (text s b).IsNumbered := by
  have happend {b : Builder} (h : b.IsNumbered) (s : Chars) :
      { b with pending := b.pending ++ s }.IsNumbered := h.of_perm (List.Perm.refl _) rfl
  unfold Builder.text
  extract_lets append outside blanks rest c d
  have hc : c.IsNumbered := by
    dsimp only [c]
    split
    · exact h
    · exact happend h blanks
  have hd : d.IsNumbered := by
    dsimp only [d]
    split
    · exact hc.closeFor _
    · exact hc
  split
  · split
    · exact hc
    · exact happend (hd.supply _) rest
  · exact happend h s

theorem IsNumbered.step (token : Token) : (step b token).IsNumbered := by
  cases token with
  | text s => exact h.text s
  | start name attrs closed => exact h.start name attrs closed
  | stop name => exact h.stop name
  | hidden => exact h.flush.of_perm (numbers_add _) (nextId_add _)

theorem IsNumbered.finish : Node.IsNumbered b.finish := by
  have hn := (h.popMany b.stack.length).flush.nodup
  rw [numbers,List.nodup_append'] at hn
  exact (numbersOf_reverse _).nodup_iff.mpr hn.2.1

end

end Builder

/-- A page that was parsed is numbered. -/
theorem isNumbered_parse (source : Chars) : Node.IsNumbered (parse source) := by
  have hrun (tokens : List Token) {b : Builder} (h : b.IsNumbered) :
      (tokens.foldl Builder.step b).IsNumbered := by
    induction tokens generalizing b with
    | nil => exact h
    | cons token rest ih => exact ih (h.step token)
  exact (hrun _ Builder.isNumbered_empty).finish

end TrackerHub.Page
