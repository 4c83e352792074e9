import Mathlib.Data.List.Induction
import Mathlib.Tactic.ByContra
import TrackerHub.Aggregate

/-! # Taking turns

Groups that take turns give their first items, then their second ones, and so on. Each item has a
turn: the round in which it comes and the group whose it is. In the order of turns no group gets ahead
of another by more than one item as long as the other has any left.
-/
namespace TrackerHub
variable {α : Type}

/-- The turn of an item: the round that it comes in, and its group. -/
structure Turn where
  round : Nat
  group : Nat
  deriving Repr, DecidableEq

/-- Whether one turn comes before another: in an earlier round, or in the same one for a group that
stands before. -/
def Turn.Before (x y : Turn) : Prop := x.round < y.round ∨ x.round = y.round ∧ x.group < y.group

theorem Turn.Before.ne {x y : Turn} (hxy : x.Before y) : x ≠ y := by
  rintro rfl
  rcases hxy with h | ⟨-,h⟩ <;> exact Nat.lt_irrefl _ h

theorem Turn.Before.asymm {x y : Turn} (hxy : x.Before y) : ¬y.Before x := by
  unfold Before at *
  omega

def groupSize (groups : List (List α)) (a : Nat) : Nat := (groups[a]?.getD []).length

def itemAt (groups : List (List α)) (t : Turn) : Option α := groups[t.group]?.bind (·[t.round]?)

/-- Whether a list is made of the items of some groups, each once, in the order of their turns. -/
structure TakesTurns (groups : List (List α)) (turns : List Turn) (merged : List α) : Prop where
  mem_iff : ∀ t, t ∈ turns ↔ t.round < groupSize groups t.group
  ordered : turns.Pairwise Turn.Before
  items : merged.map some = turns.map (itemAt groups)

/-- How many of the first turns a group has. -/
def share (turns : List Turn) (n a : Nat) : Nat := (turns.take n).countP (·.group == a)

def allTurns (groups : List (List α)) : List Turn :=
  (List.range ((groups.map List.length).foldl max 0)).flatMap fun i =>
    ((List.range groups.length).filter fun a => decide (i < groupSize groups a)).map fun a => ⟨i,a⟩

theorem le_foldl_max {n m : Nat} {sizes : List Nat} (h : n ∈ sizes ∨ n ≤ m) :
    n ≤ sizes.foldl max m := by
  induction sizes generalizing m with
  | nil => simpa using h
  | cons k sizes ih =>
    refine ih ?_
    rw [List.mem_cons] at h
    rcases h with (rfl | h) | h
    · exact .inr (Nat.le_max_right _ _)
    · exact .inl h
    · exact .inr (Nat.le_trans h (Nat.le_max_left _ _))

theorem mem_allTurns {groups : List (List α)} {t : Turn} :
    t ∈ allTurns groups ↔ t.round < groupSize groups t.group := by
  obtain ⟨i,a⟩ := t
  simp only [allTurns,List.mem_flatMap,List.mem_range,List.mem_map,List.mem_filter,
    decide_eq_true_eq,Turn.mk.injEq]
  constructor
  · rintro ⟨i,-,a,⟨-,h⟩,rfl,rfl⟩
    exact h
  · intro h
    have ha : a < groups.length := by
      by_contra hn
      simp [groupSize,Nat.le_of_not_lt hn] at h
    have hsize : groupSize groups a ∈ groups.map List.length :=
      List.mem_map.mpr ⟨groups[a],List.getElem_mem ha,by simp [groupSize,ha]⟩
    exact ⟨i,Nat.lt_of_lt_of_le h (le_foldl_max (.inl hsize)),a,⟨ha,h⟩,rfl,rfl⟩

theorem pairwise_allTurns (groups : List (List α)) : (allTurns groups).Pairwise Turn.Before := by
  unfold allTurns
  rw [List.pairwise_flatMap]
  constructor
  · intro i _
    rw [List.pairwise_map]
    exact (List.pairwise_lt_range.filter _).imp fun hab => .inr ⟨rfl,hab⟩
  · refine List.pairwise_lt_range.imp fun hij x hx y hy => ?_
    obtain ⟨a,-,rfl⟩ := List.mem_map.mp hx
    obtain ⟨b,-,rfl⟩ := List.mem_map.mp hy
    exact .inl hij

theorem round_eq (groups : List (List α)) (i : Nat) :
    (groups.filterMap fun g => g[i]?).map some =
      ((List.range groups.length).filter fun a => decide (i < groupSize groups a)).map fun a =>
        itemAt groups ⟨i,a⟩ := by
  induction groups using List.reverseRecOn with
  | nil => rfl
  | append_singleton groups g ih =>
    have hsize : ∀ a ∈ List.range groups.length,
        groupSize (groups ++ [g]) a = groupSize groups a := by
      intro a ha
      simp [groupSize,List.getElem?_append_left (List.mem_range.mp ha)]
    have hitem : ∀ a ∈ List.range groups.length,
        itemAt (groups ++ [g]) ⟨i,a⟩ = itemAt groups ⟨i,a⟩ := by
      intro a ha
      simp [itemAt,List.getElem?_append_left (List.mem_range.mp ha)]
    have hfront : ((List.range groups.length).filter fun a =>
          decide (i < groupSize (groups ++ [g]) a)).map (fun a => itemAt (groups ++ [g]) ⟨i,a⟩) =
        ((List.range groups.length).filter fun a => decide (i < groupSize groups a)).map fun a =>
          itemAt groups ⟨i,a⟩ := by
      rw [List.filter_congr fun a ha => by rw [hsize a ha]]
      exact List.map_congr_left fun a ha => hitem a (List.mem_filter.mp ha).1
    rw [List.filterMap_append,List.map_append,ih,List.length_append,List.length_singleton,
      List.range_succ,List.filter_append,List.map_append,hfront]
    congr 1
    by_cases h : i < g.length
    · simp [groupSize,itemAt,h]
    · simp [groupSize,h]

/-- Interleaving lets the groups take turns. -/
theorem takesTurns_interleave (groups : List (List α)) :
    TakesTurns groups (allTurns groups) (interleave groups) where
  mem_iff _ := mem_allTurns
  ordered := pairwise_allTurns groups
  items := by
    simp only [interleave,allTurns,List.map_flatMap,round_eq,List.map_map]
    rfl

namespace TakesTurns
variable {groups : List (List α)} {turns : List Turn} {merged : List α}

theorem nodup (h : TakesTurns groups turns merged) : turns.Nodup :=
  h.ordered.imp Turn.Before.ne

theorem before_iff (h : TakesTurns groups turns merged) {m n : Nat} (hm : m < turns.length)
    (hn : n < turns.length) : turns[m].Before turns[n] ↔ m < n := by
  have ordered := List.pairwise_iff_getElem.mp h.ordered
  constructor
  · intro hmn
    by_contra hle
    rcases Nat.lt_or_eq_of_le (Nat.le_of_not_lt hle) with hlt | rfl
    · exact hmn.asymm (ordered n m hn hm hlt)
    · exact hmn.ne rfl
  · exact ordered m n hm hn

theorem turns_of_group (h : TakesTurns groups turns merged) (a : Nat) :
    turns.filter (·.group == a) = (List.range (groupSize groups a)).map fun i => ⟨i,a⟩ := by
  have hordered : ((List.range (groupSize groups a)).map fun i => Turn.mk i a).Pairwise
      Turn.Before := by
    rw [List.pairwise_map]
    exact List.pairwise_lt_range.imp fun hij => .inl hij
  refine List.Perm.eq_of_pairwise (fun x y _ _ hxy hyx => absurd hyx hxy.asymm)
    (h.ordered.filter _) hordered ?_
  rw [List.perm_ext_iff_of_nodup (h.nodup.filter _) (hordered.imp Turn.Before.ne)]
  rintro ⟨i,b⟩
  simp only [List.mem_filter,h.mem_iff,beq_iff_eq,List.mem_map,List.mem_range,Turn.mk.injEq]
  constructor
  · rintro ⟨hi,rfl⟩
    exact ⟨i,hi,rfl,rfl⟩
  · rintro ⟨i,hi,rfl,rfl⟩
    exact ⟨hi,rfl⟩

theorem share_le (h : TakesTurns groups turns merged) (n a : Nat) :
    share turns n a ≤ groupSize groups a := by
  have := ((List.take_sublist n turns).filter (·.group == a)).length_le
  rwa [h.turns_of_group a,List.length_map,List.length_range,← List.countP_eq_length_filter] at this

/-- What a group has had after some turns are its first items. -/
theorem take_of_group (h : TakesTurns groups turns merged) (n a : Nat) :
    (turns.take n).filter (·.group == a) = (List.range (share turns n a)).map fun i => ⟨i,a⟩ := by
  have hpre := (List.take_prefix n turns).filter (·.group == a)
  rw [h.turns_of_group a,List.prefix_iff_eq_take] at hpre
  rw [hpre,← List.countP_eq_length_filter,← List.map_take,List.take_range]
  congr 2
  exact Nat.min_eq_left (h.share_le n a)

/-- A turn that comes before one that is over is over too. -/
theorem mem_take_of_before (h : TakesTurns groups turns merged) {n : Nat} {x y : Turn}
    (hx : x ∈ turns) (hy : y ∈ turns.take n) (hxy : x.Before y) : x ∈ turns.take n := by
  have hsplit := h.ordered
  rw [← List.take_append_drop n turns] at hx hsplit
  rcases List.mem_append.mp hx with hx | hx
  · exact hx
  · exact absurd ((List.pairwise_append.mp hsplit).2.2 y hy x hx) hxy.asymm

/-- After any number of turns a group is at most one item ahead of another that has items left. -/
theorem share_balanced (h : TakesTurns groups turns merged) (n a b : Nat) :
    share turns n a ≤ share turns n b + 1 ∨ share turns n b = groupSize groups b := by
  by_contra hn
  obtain ⟨hahead,hleft⟩ := not_or.mp hn
  have hsize := h.share_le n b
  -- The group ahead has had the item one round after the next one of the other group.
  have hlate : Turn.mk (share turns n b + 1) a ∈ (turns.take n).filter (·.group == a) := by
    rw [h.take_of_group,List.mem_map]
    exact ⟨_,List.mem_range.mpr (Nat.lt_of_not_le hahead),rfl⟩
  have hnext : Turn.mk (share turns n b) b ∈ turns :=
    (h.mem_iff _).mpr (Nat.lt_of_le_of_ne hsize hleft)
  have hover := h.mem_take_of_before hnext (List.mem_filter.mp hlate).1 (.inl (Nat.lt_succ_self _))
  have hcounted : Turn.mk (share turns n b) b ∈ (turns.take n).filter (·.group == b) :=
    List.mem_filter.mpr ⟨hover,beq_self_eq_true b⟩
  rw [h.take_of_group] at hcounted
  simp at hcounted

end TakesTurns

end TrackerHub
