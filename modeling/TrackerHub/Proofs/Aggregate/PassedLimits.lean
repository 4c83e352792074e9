import TrackerHub.Proofs.Aggregate.Members

/-! # Limits passed on to members

Groups that take turns give one round of items after the other. The first rounds come before all others,
and a group that has not run out gives an item to each of them, so that as many items as a limit says
come from as many rounds. A member of the aggregate that cuts its results to the limit of a query leaves
nothing out that the aggregate would give.
-/
namespace TrackerHub

section
variable {α : Type} {groups : List (List α)} {n : Nat}

def roundItems (groups : List (List α)) (i : Nat) : List α := groups.filterMap fun g => g[i]?

def firstRounds (groups : List (List α)) (n : Nat) : List α := (List.range n).flatMap (roundItems groups)

theorem firstRounds_succ (groups : List (List α)) (n : Nat) :
    firstRounds groups (n + 1) = firstRounds groups n ++ roundItems groups n := by
  rw [firstRounds,List.range_succ,List.flatMap_append,List.flatMap_singleton]
  rfl

theorem roundItems_eq_nil (h : ∀ g ∈ groups, g.length ≤ n) : roundItems groups n = [] := by
  rw [roundItems,List.filterMap_eq_nil_iff]
  exact fun g hg => List.getElem?_eq_none (h g hg)

theorem roundItems_ne_nil {g : List α} (hg : g ∈ groups) (h : n < g.length) : roundItems groups n ≠ [] :=
  List.ne_nil_of_mem (List.mem_filterMap.mpr ⟨g,hg,List.getElem?_eq_getElem h⟩)

/-- Later rounds come after earlier ones. -/
theorem firstRounds_prefix {m : Nat} (h : n ≤ m) : firstRounds groups n <+: firstRounds groups m := by
  induction h with
  | refl => exact List.prefix_rfl
  | step _ ih =>
    rw [firstRounds_succ]
    exact ih.trans (List.prefix_append _ _)

/-- All rounds are those in which some group has an item. -/
theorem firstRounds_eq_of_le {m : Nat} (h : ∀ g ∈ groups, g.length ≤ n) (hnm : n ≤ m) :
    firstRounds groups m = firstRounds groups n := by
  induction hnm with
  | refl => rfl
  | @step m hnm ih =>
    rw [firstRounds_succ,ih,roundItems_eq_nil fun g hg => Nat.le_trans (h g hg) hnm,
      List.append_nil]

/-- The number of rounds is the size of the longest group. -/
theorem interleave_eq_firstRounds (groups : List (List α)) :
    interleave groups = firstRounds groups ((groups.map List.length).foldl max 0) := rfl

theorem length_le_rounds {g : List α} (hg : g ∈ groups) :
    g.length ≤ (groups.map List.length).foldl max 0 :=
  le_foldl_max (.inl (List.mem_map_of_mem hg))

/-- A group with enough items gives one to each of the first rounds, so these have at least as many items
as there are rounds. -/
theorem le_length_firstRounds {g : List α} (hg : g ∈ groups) (h : n ≤ g.length) :
    n ≤ (firstRounds groups n).length := by
  induction n with
  | zero => exact Nat.zero_le _
  | succ n ih =>
    have hround := List.length_pos_of_ne_nil (roundItems_ne_nil hg (Nat.lt_of_succ_le h))
    have hbefore := ih (Nat.le_of_succ_le h)
    rw [firstRounds_succ,List.length_append]
    omega

/-- The first items of groups that take turns come from as many rounds. -/
theorem take_interleave (groups : List (List α)) (n : Nat) :
    (interleave groups).take n = (firstRounds groups n).take n := by
  rw [interleave_eq_firstRounds]
  by_cases hshort : ∀ g ∈ groups, g.length ≤ n
  · rcases Nat.le_total n ((groups.map List.length).foldl max 0) with hle | hle
    · rw [firstRounds_eq_of_le hshort hle]
    · rw [firstRounds_eq_of_le (fun g hg => length_le_rounds hg) hle]
  · obtain ⟨g,hg,hlong⟩ : ∃ g ∈ groups, n < g.length := by simpa using hshort
    have hn := Nat.le_of_lt hlong
    obtain ⟨rest,hrest⟩ : firstRounds groups n <+: firstRounds groups _ :=
      firstRounds_prefix (Nat.le_trans hn (length_le_rounds hg))
    rw [← hrest,List.take_append_of_le_length (le_length_firstRounds hg hn)]

theorem firstRounds_map_take (groups : List (List α)) (n : Nat) :
    firstRounds (groups.map (List.take n)) n = firstRounds groups n := by
  refine List.flatMap_congr fun i hi => ?_
  rw [roundItems,roundItems,List.filterMap_map]
  refine List.filterMap_congr fun g _ => ?_
  exact List.getElem?_take_of_lt (List.mem_range.mp hi)

/-- Groups that are cut give the same first items. -/
theorem take_interleave_map_take (groups : List (List α)) (n : Nat) :
    (interleave (groups.map (List.take n))).take n = (interleave groups).take n := by
  rw [take_interleave,take_interleave,firstRounds_map_take]

end

namespace Aggregate
variable {σ ε : Type} {makers : List (TrackerMaker σ ε)} {q : Query} {s : σ}

def unlimited (q : Query) : Query := { q with limit := 0 }

/-- A search whose limit is not passed on: the members are asked for all results, and what they give in
turn is cut. -/
def searchAll (makers : List (TrackerMaker σ ε)) (q : Query) : StateM σ (List Release) := do
  let groups ← makers.mapM (searchMember (unlimited q))
  return q.cut (interleave groups)

/-- Whether each member, asked with the limit of a query, gives the first part of what it gives when it
is asked without one. -/
def CutsResults (makers : List (TrackerMaker σ ε)) (q : Query) (s : σ) : Prop :=
  ∀ a maker all, makers[a]? = some maker →
    Contributes (unlimited q) maker (stateBefore makers (unlimited q) s a) all →
      Contributes q maker (stateBefore makers q s a) (all.take q.limit.toNat)

theorem Contributes.unique {maker : TrackerMaker σ ε} {group other : List Release}
    (h : Contributes q maker s group) (ho : Contributes q maker s other) : other = group := by
  by_cases hanswers : ∃ results, Answers q maker s results
  · obtain ⟨results,hr⟩ := hanswers
    rw [h.1 results hr,ho.1 results hr]
  · rw [h.2 hanswers,ho.2 hanswers]

/-- With members that cut their results the groups of a search are those of the search for all results,
each cut. -/
theorem CutsResults.groups_eq (h : CutsResults makers q s) :
    ((makers.mapM (searchMember q)).run s).1 =
      ((makers.mapM (searchMember (unlimited q))).run s).1.map (List.take q.limit.toNat) := by
  rw [Aggregate.groups_eq,Aggregate.groups_eq]
  refine List.ext_getElem (by simp) fun a ha _ => ?_
  rw [List.length_mapIdx] at ha
  rw [List.getElem_map,List.getElem_mapIdx,List.getElem_mapIdx]
  exact (h a makers[a] _ (List.getElem?_eq_getElem ha) contributes_found).unique contributes_found

theorem after_search (makers : List (TrackerMaker σ ε)) (q : Query) (s : σ) :
    after s ((tracker makers).search q) =
      (.ok (q.cut (interleave ((makers.mapM (searchMember q)).run s).1)),
        ((makers.mapM (searchMember q)).run s).2) := rfl

theorem searchAll_eq (makers : List (TrackerMaker σ ε)) (q : Query) (s : σ) :
    ((searchAll makers q).run s).1 =
      q.cut (interleave ((makers.mapM (searchMember (unlimited q))).run s).1) := rfl

/-- Groups that are cut to a number of items give the same first items, as many, as they do in full. So
an aggregate gives what it would give if it kept the limit of a query to itself, which is the first part
of what it gives without a limit, as long as each of its members gives the first part of what it gives
without. -/
theorem passed_limit_changes_nothing :
    (∀ (α : Type) (groups : List (List α)) (n : Nat),
      (interleave (groups.map (List.take n))).take n = (interleave groups).take n) ∧
    ∀ (σ ε : Type) (makers : List (TrackerMaker σ ε)) (q : Query) (s : σ),
      0 < q.limit → CutsResults makers q s →
      ∃ result u, after s ((tracker makers).search q) = (.ok result,u) ∧
        result = ((searchAll makers q).run s).1 ∧
        ∃ all v, after s ((tracker makers).search (unlimited q)) = (.ok all,v) ∧
          result = all.take q.limit.toNat := by
  refine ⟨fun α groups n => take_interleave_map_take groups n,fun σ ε makers q s hq h => ?_⟩
  have hcut : ∀ items : List Release, q.cut items = items.take q.limit.toNat := fun _ => if_pos hq
  refine ⟨_,_,after_search makers q s,?_,_,_,after_search makers (unlimited q) s,?_⟩
  · rw [searchAll_eq,hcut,hcut,h.groups_eq,take_interleave_map_take]
  · rw [hcut,h.groups_eq,take_interleave_map_take]
    rfl

/-- A tracker that always finds the same and cuts it to the limit of a query. -/
def finding (titles : List String) : Tracker Unit Unit := {
  info := pure info
  capabilities := pure capabilities
  search := fun q => pure (q.cut (titles.map fun title => { site := "s", title }))
  close := pure () }

/-- Three members, the second of which cannot be made. -/
def threeMembers : List (Step Unit Unit (Tracker Unit Unit)) :=
  [pure (finding ["a1","a2","a3"]),throw (),pure (finding ["b1","b2"])]

/-- The first three of five results are the same whether the members are told of the limit or not. -/
theorem three_of_five_results : (0 : Int) < 3 ∧ CutsResults threeMembers { limit := 3 } () ∧
    ∃ result u, after () ((tracker threeMembers).search { limit := 3 }) = (.ok result,u) ∧
      result = ((searchAll threeMembers { limit := 3 }).run ()).1 ∧
      result.map (·.title) = ["a1","b1","a2"] := by
  have hcuts : CutsResults threeMembers { limit := 3 } () := by
    intro a maker all ha hall
    rw [contributes_found.unique hall]
    match a with
    | 0 => exact Option.some.inj ha ▸ contributes_found
    | 1 => exact Option.some.inj ha ▸ contributes_found
    | 2 => exact Option.some.inj ha ▸ contributes_found
    | _ + 3 => cases ha
  obtain ⟨result,u,hresult,hall,-⟩ :=
    passed_limit_changes_nothing.2 Unit Unit threeMembers { limit := 3 } () (by decide) hcuts
  refine ⟨by decide,hcuts,result,u,hresult,hall,?_⟩
  rw [hall]
  decide

end Aggregate

end TrackerHub
