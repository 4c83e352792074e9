import Mathlib.Data.List.Flatten
import Mathlib.Data.List.Nodup
import TrackerHub.Proofs.Category.Families

/-! # From categories back to local ids

A local id stands for a category that is asked for if it is mapped to it. Where nothing is, the local
ids of its children stand for it, and where there are none of these either, those of its umbrella. The
local ids for a request are those that stand for one of its categories, in the order of the taxonomy
and then of the declarations.
-/
namespace TrackerHub

namespace Category

/-- No two categories of the taxonomy have the same id. -/
theorem eq_of_id {c d : Category} (hc : c ∈ taxonomy) (hd : d ∈ taxonomy) (h : c.id = d.id) :
    c = d := by
  have hids : (taxonomy.map (·.id)).Nodup := by decide
  exact List.inj_on_of_nodup_map hids hc hd h

theorem parent_mem : ∀ c ∈ taxonomy, c.parent ∈ taxonomy := by
  decide

theorem mem_withIds {ids : List Int} {c : Category} :
    c ∈ withIds ids ↔ c ∈ taxonomy ∧ c.id ∈ ids := by
  rw [withIds,List.mem_filter,List.contains_iff_mem]

/-- Only the ids of the taxonomy count, and each of them once. -/
theorem withIds_congr {ids others : List Int} (h : ∀ c ∈ taxonomy, c.id ∈ others ↔ c.id ∈ ids) :
    withIds others = withIds ids := by
  refine List.filter_congr fun c hc => ?_
  rw [Bool.eq_iff_iff,List.contains_iff_mem,List.contains_iff_mem]
  exact h c hc

theorem withIds_sublist {ids others : List Int} (h : ids ⊆ others) :
    (withIds ids).Sublist (withIds others) := by
  refine List.monotone_filter_right _ fun c hc => ?_
  rw [List.contains_iff_mem] at hc ⊢
  exact h hc

end Category

namespace CategoryMap

/-- Whether a local id stands for a category: it is mapped to it, or to one of its children if nothing
is mapped to it, or to its umbrella if nothing is mapped to a child of it either. -/
inductive StandsFor (m : CategoryMap) (c : Category) (localId : String) : Prop where
  | exactly (h : m.get? localId = some c)
  | child {d : Category} (hexact : ∀ other, m.get? other ≠ some c) (h : m.get? localId = some d)
    (hd : d.parent = c)
  | umbrella (hexact : ∀ other, m.get? other ≠ some c)
    (hchild : ∀ other d, m.get? other = some d → d.parent ≠ c) (h : m.get? localId = some c.parent)

section
variable {m : CategoryMap} {c : Category} {localId : String}

theorem known_of_get? (hm : m.IsTaxonomic) {d : Category} (h : m.get? localId = some d) :
    d ∈ Category.taxonomy :=
  hm.known _ (Named.mem_of_find? h)

theorem mem_localIds_iff (hm : m.IsTaxonomic) {p : Category → Bool} :
    localId ∈ m.localIds p ↔ ∃ d, m.get? localId = some d ∧ p d = true := by
  rw [mem_localIds]
  exact exists_congr fun d => and_congr_left fun _ => (Named.find?_eq_some_iff hm.names).symm

theorem mem_exactly_iff (hm : m.IsTaxonomic) (hc : c ∈ Category.taxonomy) :
    localId ∈ m.localIds (fun d => d.id == c.id) ↔ m.get? localId = some c := by
  rw [mem_localIds_iff hm]
  constructor
  · rintro ⟨d,hd,hid⟩
    rw [← Category.eq_of_id (known_of_get? hm hd) hc (beq_iff_eq.mp hid)]
    exact hd
  · intro h
    exact ⟨c,h,beq_self_eq_true c.id⟩

theorem mem_children_iff (hm : m.IsTaxonomic) (hc : c ∈ Category.taxonomy) :
    localId ∈ m.localIds (fun d => d.parent.id == c.id) ↔
      ∃ d, m.get? localId = some d ∧ d.parent = c := by
  rw [mem_localIds_iff hm]
  refine exists_congr fun d => and_congr_right fun hd => ?_
  rw [beq_iff_eq]
  exact ⟨Category.eq_of_id (Category.parent_mem d (known_of_get? hm hd)) hc,congrArg _⟩

theorem resolve_eq_exactly (h : m.localIds (fun d => d.id == c.id) ≠ []) :
    m.resolve c = m.localIds fun d => d.id == c.id := by
  rw [resolve,if_pos (by simpa using h)]

theorem resolve_eq_children (h : m.localIds (fun d => d.id == c.id) = [])
    (hc : m.localIds (fun d => d.parent.id == c.id) ≠ []) :
    m.resolve c = m.localIds fun d => d.parent.id == c.id := by
  rw [resolve,if_neg (by simp [h]),if_pos (by simpa using hc)]

theorem resolve_eq_umbrella (h : m.localIds (fun d => d.id == c.id) = [])
    (hc : m.localIds (fun d => d.parent.id == c.id) = []) :
    m.resolve c = m.localIds fun d => d.id == c.parent.id := by
  rw [resolve,if_neg (by simp [h]),if_neg (by simp [hc])]

/-- What a map finds for a category are the local ids that stand for it. -/
theorem mem_resolve_iff (hm : m.IsTaxonomic) (hc : c ∈ Category.taxonomy) :
    localId ∈ m.resolve c ↔ m.StandsFor c localId := by
  -- The cases are those of the search: the category itself, its children, its umbrella.
  by_cases hexact : m.localIds (fun d => d.id == c.id) = []
  · have hnone : ∀ other, m.get? other ≠ some c := by
      intro other h
      rw [← mem_exactly_iff hm hc,hexact] at h
      cases h
    by_cases hchild : m.localIds (fun d => d.parent.id == c.id) = []
    · have hnochild : ∀ other d, m.get? other = some d → d.parent ≠ c := by
        intro other d hd hp
        have hmem := (mem_children_iff hm hc).mpr ⟨d,hd,hp⟩
        rw [hchild] at hmem
        cases hmem
      rw [resolve_eq_umbrella hexact hchild,mem_exactly_iff hm (Category.parent_mem c hc)]
      constructor
      · exact .umbrella hnone hnochild
      · intro h
        cases h with
        | exactly h => exact absurd h (hnone _)
        | child _ h hd => exact absurd hd (hnochild _ _ h)
        | umbrella _ _ h => exact h
    · obtain ⟨found,hfound⟩ := List.exists_mem_of_ne_nil _ hchild
      obtain ⟨e,he,hparent⟩ := (mem_children_iff hm hc).mp hfound
      rw [resolve_eq_children hexact hchild,mem_children_iff hm hc]
      constructor
      · rintro ⟨d,hd,hp⟩
        exact .child hnone hd hp
      · intro h
        cases h with
        | exactly h => exact absurd h (hnone _)
        | child _ h hd => exact ⟨_,h,hd⟩
        | umbrella _ hnochild => exact absurd hparent (hnochild found e he)
  · obtain ⟨found,hfound⟩ := List.exists_mem_of_ne_nil _ hexact
    rw [mem_exactly_iff hm hc] at hfound
    rw [resolve_eq_exactly hexact,mem_exactly_iff hm hc]
    constructor
    · exact .exactly
    · intro h
      cases h with
      | exactly h => exact h
      | child hnone => exact absurd hfound (hnone found)
      | umbrella hnone => exact absurd hfound (hnone found)

theorem resolve_sublist (m : CategoryMap) (c : Category) :
    (m.resolve c).Sublist (m.entries.map (·.1)) := by
  have hselected (p : Category → Bool) : (m.localIds p).Sublist (m.entries.map (·.1)) :=
    List.filter_sublist.map _
  unfold resolve
  dsimp only
  split
  · exact hselected _
  · split <;> exact hselected _

/-- The local ids for a request are those that stand for one of its categories. -/
theorem mem_reverse_iff (hm : m.IsTaxonomic) {ids : List Int} :
    localId ∈ m.reverse ids ↔ ∃ c ∈ Category.taxonomy, c.id ∈ ids ∧ m.StandsFor c localId := by
  rw [reverse,resolveAll,List.mem_flatMap]
  constructor
  · rintro ⟨c,hc,h⟩
    obtain ⟨hct,hid⟩ := Category.mem_withIds.mp hc
    exact ⟨c,hct,hid,(mem_resolve_iff hm hct).mp h⟩
  · rintro ⟨c,hct,hid,h⟩
    exact ⟨c,Category.mem_withIds.mpr ⟨hct,hid⟩,(mem_resolve_iff hm hct).mpr h⟩

/-- A category that a local id of it stands for is of the same family. -/
theorem StandsFor.family (hm : m.IsTaxonomic) (hc : c ∈ Category.taxonomy) (h : m.StandsFor c localId) :
    ∃ d, m.get? localId = some d ∧ d.id / 1000 = c.id / 1000 := by
  cases h with
  | exactly h => exact ⟨c,h,rfl⟩
  | @child d _ h hd =>
    have hparent := Category.parent_id d (known_of_get? hm h)
    rw [hd] at hparent
    exact ⟨d,h,by omega⟩
  | umbrella _ _ h =>
    have hparent := Category.parent_id c hc
    exact ⟨c.parent,h,by omega⟩

end

/-- A local id is given for a request just when it stands for one of the categories of the taxonomy that
are asked for. It is then mapped to a category of the family of one, and each local id that is mapped to
a category asked for is given. Neither the order nor the repetition of the ids makes a difference, nor
do ids that are not known, and more ids only add to what is given. It comes in the order of the taxonomy
for the categories asked for, and in the order of the declarations for each of them. -/
theorem reverse_stands_for {m : CategoryMap} (hm : m.IsTaxonomic) (ids : List Int) :
    (∀ localId, localId ∈ m.reverse ids ↔
      ∃ c ∈ Category.taxonomy, c.id ∈ ids ∧ m.StandsFor c localId) ∧
    (∀ localId ∈ m.reverse ids, ∃ d, m.get? localId = some d ∧
      ∃ c ∈ Category.taxonomy, c.id ∈ ids ∧ d.id / 1000 = c.id / 1000) ∧
    (∀ c ∈ Category.taxonomy, c.id ∈ ids → ∀ localId, m.get? localId = some c →
      localId ∈ m.reverse ids) ∧
    (∀ others, (∀ c ∈ Category.taxonomy, c.id ∈ others ↔ c.id ∈ ids) →
      m.reverse others = m.reverse ids) ∧
    (∀ others, ids ⊆ others → (m.reverse ids).Sublist (m.reverse others)) ∧
    ∃ block : Category → List String,
      m.reverse ids = (Category.taxonomy.filter fun c => decide (c.id ∈ ids)).flatMap block ∧
      ∀ c ∈ Category.taxonomy, (block c).Sublist (m.entries.map (·.1)) ∧
        ∀ localId, localId ∈ block c ↔ m.StandsFor c localId := by
  refine ⟨fun _ => mem_reverse_iff hm,?_,?_,?_,?_,m.resolve,?_,?_⟩
  · intro localId h
    obtain ⟨c,hc,hid,hs⟩ := (mem_reverse_iff hm).mp h
    obtain ⟨d,hd,hfamily⟩ := hs.family hm hc
    exact ⟨d,hd,c,hc,hid,hfamily⟩
  · intro c hc hid localId h
    exact (mem_reverse_iff hm).mpr ⟨c,hc,hid,.exactly h⟩
  · intro others h
    rw [reverse,reverse,Category.withIds_congr h]
  · intro others h
    exact (Category.withIds_sublist h).flatMap _
  · simp only [reverse,resolveAll,Category.withIds,List.contains_eq_mem]
  · intro c hc
    exact ⟨m.resolve_sublist c,fun _ => mem_resolve_iff hm hc⟩

/-- A map of a site that knows films by their kind and series as such. -/
def filmsByKind : CategoryMap :=
  ⟨[("1",⟨2060,"Movies/BluRay"⟩),("2",⟨5000,"TV"⟩),("3",⟨2040,"Movies/HD"⟩),
    ("4",⟨7000,"Books"⟩)]⟩

/-- Films stand for their children there, and a kind of series for its umbrella. -/
theorem kinds_and_umbrella_found : filmsByKind.IsTaxonomic ∧
    filmsByKind.reverse [5030,42,2000,5030] = ["1","3","2"] ∧
    filmsByKind.reverse [2000,5030] = ["1","3","2"] ∧
    ∃ c ∈ Category.taxonomy, c.id = 5030 ∧ filmsByKind.StandsFor c "2" := by
  have hm : filmsByKind.IsTaxonomic := ⟨by decide,by decide⟩
  have hfound : filmsByKind.reverse [5030,42,2000,5030] = ["1","3","2"] := by decide
  obtain ⟨-,-,-,hsame,-,-⟩ := reverse_stands_for hm [5030,42,2000,5030]
  obtain ⟨c,hc,hid,hs⟩ := ((reverse_stands_for hm [5030]).1 "2").mp (by decide)
  exact ⟨hm,hfound,(hsame [2000,5030] (by decide)).trans hfound,c,hc,List.mem_singleton.mp hid,hs⟩

end CategoryMap

end TrackerHub
