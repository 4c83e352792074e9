import TrackerHub.CategoryMap
import TrackerHub.Proofs.NamedEntries

/-! # Families of categories

Categories of one thousand are a family, and the umbrella of a category is the first of its family.
The local ids for a category stay in its family, whether they are mapped to the category itself, to
a child of it or to its umbrella.
-/
namespace TrackerHub

namespace Category

/-- The umbrella of a category of the taxonomy begins its thousand. -/
theorem parent_id : ∀ c ∈ taxonomy, c.parent.id = 1000 * (c.id / 1000) := by
  decide

end Category

namespace CategoryMap

/-- The maps that say one category of the taxonomy for each of their local ids. -/
structure IsTaxonomic (m : CategoryMap) : Prop where
  names : (m.entries.map (·.1)).Nodup
  known : ∀ e ∈ m.entries, e.2 ∈ Category.taxonomy

/-- Whether a map has a local id for one of the categories: mapped to it, to a child of it or to its
umbrella. -/
def Covers (m : CategoryMap) (ids : List Int) : Prop :=
  ∃ c ∈ Category.withIds ids, ∃ e ∈ m.entries,
    e.2.id = c.id ∨ e.2.parent.id = c.id ∨ e.2.id = c.parent.id

section
variable {m : CategoryMap}

theorem mem_localIds {p : Category → Bool} {localId : String} :
    localId ∈ m.localIds p ↔ ∃ c, (localId,c) ∈ m.entries ∧ p c = true := by
  simp only [localIds,List.mem_map,List.mem_filter,Prod.exists,exists_and_right,exists_eq_right]

theorem localIds_eq_nil_iff {p : Category → Bool} :
    m.localIds p = [] ↔ ∀ e ∈ m.entries, p e.2 = false := by
  simp [localIds]

theorem mem_resolve {c : Category} {localId : String} (h : localId ∈ m.resolve c) :
    ∃ d, (localId,d) ∈ m.entries ∧ (d.id = c.id ∨ d.parent.id = c.id ∨ d.id = c.parent.id) := by
  unfold resolve at h
  dsimp only at h
  split at h
  · obtain ⟨d,hd,hp⟩ := mem_localIds.mp h
    exact ⟨d,hd,.inl (beq_iff_eq.mp hp)⟩
  · split at h
    · obtain ⟨d,hd,hp⟩ := mem_localIds.mp h
      exact ⟨d,hd,.inr (.inl (beq_iff_eq.mp hp))⟩
    · obtain ⟨d,hd,hp⟩ := mem_localIds.mp h
      exact ⟨d,hd,.inr (.inr (beq_iff_eq.mp hp))⟩

theorem resolve_eq_nil_iff {c : Category} : m.resolve c = [] ↔
    ∀ e ∈ m.entries, ¬(e.2.id = c.id ∨ e.2.parent.id = c.id ∨ e.2.id = c.parent.id) := by
  constructor
  · intro h e he
    unfold resolve at h
    dsimp only at h
    split at h
    next hexact => simp [h] at hexact
    next hexact =>
      split at h
      next hchild => simp [h] at hchild
      next hchild =>
        have h₁ := localIds_eq_nil_iff.mp (by simpa using hexact) e he
        have h₂ := localIds_eq_nil_iff.mp (by simpa using hchild) e he
        have h₃ := localIds_eq_nil_iff.mp h e he
        simp only [beq_eq_false_iff_ne] at h₁ h₂ h₃
        simp [h₁,h₂,h₃]
  · intro h
    rw [List.eq_nil_iff_forall_not_mem]
    intro localId hl
    obtain ⟨d,hd,hp⟩ := mem_resolve hl
    exact h _ hd hp

/-- A map gives no local id just when it covers none of the categories. -/
theorem reverse_eq_nil_iff {ids : List Int} : m.reverse ids = [] ↔ ¬m.Covers ids := by
  unfold reverse resolveAll Covers
  rw [List.flatMap_eq_nil_iff]
  simp only [resolve_eq_nil_iff,not_exists,not_and]

/-- The local ids for some categories stand for categories of the same families. -/
theorem get?_of_mem_reverse (hm : m.IsTaxonomic) {ids : List Int} {localId : String}
    (h : localId ∈ m.reverse ids) :
    ∃ d, m.get? localId = some d ∧ ∃ id ∈ ids, d.id / 1000 = id / 1000 := by
  obtain ⟨c,hc,hl⟩ := List.mem_flatMap.mp h
  obtain ⟨hct,hci⟩ := List.mem_filter.mp hc
  obtain ⟨d,hd,hfam⟩ := mem_resolve hl
  have hdp := Category.parent_id d (hm.known _ hd)
  have hcp := Category.parent_id c hct
  refine ⟨d,Named.find?_of_mem hm.names hd,c.id,by simpa using hci,?_⟩
  -- Each of the three ways leaves the thousand as it is.
  rcases hfam with h | h | h <;> omega

end

end CategoryMap

end TrackerHub
