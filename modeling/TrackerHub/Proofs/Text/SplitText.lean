import Mathlib.Logic.Basic
import TrackerHub.Text.Chars

/-! # Texts in pieces

A text is cut at a separator and joined again. The pieces of a text are found again because none of them
holds the separator.
-/
namespace TrackerHub.Text

theorem splitOn_ne_nil (sep : Char) (s : Chars) : splitOn sep s ≠ [] := by
  cases s with
  | nil => simp [splitOn]
  | cons c s =>
    rw [splitOn]
    split
    · simp
    · split <;> simp

theorem join_splitOn (sep : Char) (s : Chars) : join [sep] (splitOn sep s) = s := by
  induction s with
  | nil => rfl
  | cons c s ih =>
    rw [splitOn]
    cases hpieces : splitOn sep s with
    | nil => exact absurd hpieces (splitOn_ne_nil sep s)
    | cons piece pieces =>
      rw [hpieces] at ih
      split
      next h => simp [join,ih,beq_iff_eq.mp h]
      next => cases pieces <;> simpa [join] using ih

theorem not_mem_of_mem_splitOn {sep : Char} {s piece : Chars} (h : piece ∈ splitOn sep s) : sep ∉ piece := by
  induction s generalizing piece with
  | nil => simp_all [splitOn]
  | cons c s ih =>
    rw [splitOn] at h
    cases hpieces : splitOn sep s with
    | nil => exact absurd hpieces (splitOn_ne_nil sep s)
    | cons first pieces =>
      rw [hpieces] at h ih
      split at h
      · rcases List.mem_cons.mp h with rfl | h
        · exact List.not_mem_nil
        · exact ih h
      next hc =>
        rcases List.mem_cons.mp h with rfl | h
        · simpa [Ne.symm (fun heq => hc (beq_iff_eq.mpr heq))] using ih List.mem_cons_self
        · exact ih (List.mem_cons_of_mem first h)

/-- Pieces without the separator are found again in their join. -/
theorem splitOn_append_sep {sep : Char} {piece : Chars} (h : sep ∉ piece) (rest : Chars) :
    splitOn sep (piece ++ sep :: rest) = piece :: splitOn sep rest := by
  induction piece with
  | nil => simp [splitOn]
  | cons c piece ih =>
    obtain ⟨hc,hp⟩ := not_or.mp (List.mem_cons.not.mp h)
    simp [splitOn,Ne.symm hc,ih hp]

theorem splitOn_of_not_mem {sep : Char} {piece : Chars} (h : sep ∉ piece) :
    splitOn sep piece = [piece] := by
  induction piece with
  | nil => rfl
  | cons c piece ih =>
    obtain ⟨hc,hp⟩ := not_or.mp (List.mem_cons.not.mp h)
    simp [splitOn,Ne.symm hc,ih hp]

theorem splitOn_join {sep : Char} {pieces : List Chars} (hne : pieces ≠ [])
    (h : ∀ p ∈ pieces, sep ∉ p) : splitOn sep (join [sep] pieces) = pieces := by
  induction pieces with
  | nil => exact absurd rfl hne
  | cons p rest ih =>
    cases rest with
    | nil => exact splitOn_of_not_mem (h p List.mem_cons_self)
    | cons q rest =>
      have hr := ih (List.cons_ne_nil q rest) (fun x hx => h x (List.mem_cons_of_mem p hx))
      rw [join,List.append_assoc,List.singleton_append,
        splitOn_append_sep (h p List.mem_cons_self),hr]

theorem join_ne_nil (sep : Chars) {piece : Chars} (h : piece ≠ []) (rest : List Chars) :
    join sep (piece :: rest) ≠ [] := by
  cases rest with
  | nil => exact h
  | cons q rest => simp [join,h]

theorem forall_mem_join {p : Char → Prop} {sep : Chars} (hsep : ∀ c ∈ sep, p c) {parts : List Chars}
    (h : ∀ s ∈ parts, ∀ c ∈ s, p c) : ∀ c ∈ join sep parts, p c := by
  match parts with
  | [] => simp [join]
  | [s] => exact h s List.mem_cons_self
  | s :: t :: parts =>
    obtain ⟨hs,hparts⟩ := List.forall_mem_cons.mp h
    exact List.forall_mem_append.mpr ⟨List.forall_mem_append.mpr ⟨hs,hsep⟩,forall_mem_join hsep hparts⟩

theorem length_le_of_mem_splitOn {sep : Char} {s piece : Chars} (h : piece ∈ splitOn sep s) :
    piece.length ≤ s.length := by
  induction s generalizing piece with
  | nil =>
    rw [splitOn,List.mem_singleton] at h
    simp [h]
  | cons c rest ih =>
    rw [splitOn] at h
    split at h
    · rcases List.mem_cons.mp h with rfl | h
      · simp
      · exact Nat.le_trans (ih h) (Nat.le_succ _)
    · split at h
      · rw [List.mem_singleton] at h
        simp [h]
      next first more heq =>
        rcases List.mem_cons.mp h with rfl | h
        · exact Nat.succ_le_succ (ih (heq ▸ List.mem_cons_self))
        · exact Nat.le_trans (ih (heq ▸ List.mem_cons_of_mem _ h)) (Nat.le_succ _)

end TrackerHub.Text
