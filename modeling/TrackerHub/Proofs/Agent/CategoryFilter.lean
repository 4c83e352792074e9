import TrackerHub.Proofs.Agent.Results
import TrackerHub.Proofs.Agent.RowFields
import TrackerHub.Proofs.Definition.ReadCategories

/-! # Filtering by category

A search that asks for categories takes the rows whose local category is among the local ids of what
it asks for. Where the map of the site covers what is asked for, each release is of a family asked
for. Where it does not, there are no local ids, and the search takes rows of every category.
-/
namespace TrackerHub.Agent
open Web (Session)
open Page (Place)
open Text (Chars)

section
variable {a : Agent} {q : Query} {localIds : List String} {row : Row} {release : Release}

/-- A row that is kept is of a local category asked for, if any is. -/
theorem keep_eq_some (h : a.keep localIds row = some release) :
    (localIds = [] ∨ row.localCategory ∈ localIds) ∧
      release = (row.categorized a.definition.categories).release := by
  unfold keep at h
  split at h
  · cases h
  next hl =>
    dsimp only at h
    split at h
    · cases h
      refine ⟨?_,rfl⟩
      cases localIds with
      | nil => exact .inl rfl
      | cons x rest => exact .inr (by simpa [Decidable.or_iff_not_imp_left] using hl)
    · cases h

theorem keep_of_not_mem (hne : localIds ≠ []) (h : row.localCategory ∉ localIds) :
    a.keep localIds row = none := by
  unfold keep
  apply if_pos
  simpa [hne] using h

/-- The release of a mapped row has the category that the row is mapped to. An empty local category
counts as none. -/
theorem category_of_mapped {m : CategoryMap} {c : Category}
    (h : m.get? row.localCategory = some c) : (row.categorized m).release.category =
      if row.localCategory = "" then row.release.category else c.id := by
  unfold Row.categorized
  by_cases he : row.localCategory = ""
  · simp [he]
  · simp [he,h]

/-- The local categories of a search that asks for categories are none just when the map of the site
does not cover them. -/
theorem localCategories_eq_nil_iff (hq : q.categories ≠ []) :
    a.localCategories q = [] ↔ ¬a.definition.categories.Covers q.categories := by
  unfold localCategories
  rw [if_neg (by simpa using hq)]
  exact CategoryMap.reverse_eq_nil_iff

end

/-- A search for categories that the map covers gives releases of their families alone, each with the
category that the map says for its row, and leaves mapped rows of other families out. If the map does
not cover them, the search does not filter at all: it keeps each row that it would keep without
categories. -/
theorem search_filters_covered_categories {a : Agent} {q : Query} {s t : Session} {result : List Release}
    (hq : q.categories ≠ []) (hm : a.definition.categories.IsTaxonomic)
    (h : s.run (a.search q) = (.ok result,t)) :
    let m := a.definition.categories
    let base := t.url?.getD []
    let asked := fun c : Category => ∃ id ∈ q.categories, c.id / 1000 = id / 1000
    ∃ places, s.run (a.resultRows q) = (.ok places,t) ∧
    (m.Covers q.categories →
      (∀ release ∈ result, ∃ el ∈ places, ∃ row c, Row.ofPlace a.definition base a.now el = .ok row ∧
        m.get? row.localCategory = some c ∧ asked c ∧
        release = (row.categorized m).release ∧
        release.category = if row.localCategory = "" then 0 else c.id) ∧
      ∀ row c, m.get? (Row.localCategory row) = some c → ¬asked c →
        a.keep (a.localCategories q) row = none) ∧
    (¬m.Covers q.categories →
      a.collect q [] base places [] = .ok result ∧
      ∀ row : Row, a.keep (a.localCategories q) row =
        if (row.categorized m).hasIdentity then some (row.categorized m).release else none) := by
  intro m base asked
  rw [run_search] at h
  rcases hr : s.run (a.resultRows q) with ⟨e | places,u⟩
  · rw [hr] at h; cases h
  rw [hr] at h
  obtain ⟨hcollect,rfl⟩ := Prod.mk.inj h
  refine ⟨places,rfl,fun hc => ?_,fun hc => ?_⟩
  · have hne : a.localCategories q ≠ [] := fun hn => (localCategories_eq_nil_iff hq).mp hn hc
    -- The local ids that are sent stand for categories of the families asked for.
    have hids : ∀ localId ∈ a.localCategories q, ∃ c, m.get? localId = some c ∧ asked c := by
      intro localId hl
      unfold localCategories at hl
      rw [if_neg (by simpa using hq)] at hl
      exact CategoryMap.get?_of_mem_reverse hm hl
    constructor
    · intro release hrel
      rw [collect_eq_gather] at hcollect
      rcases mem_of_gather hcollect hrel with hf | ⟨row,hrow,hk⟩
      · cases hf
      obtain ⟨el,hel,hrow⟩ := List.mem_map.mp hrow
      obtain ⟨hmem,rfl⟩ := keep_eq_some hk
      obtain ⟨c,hget,hasked⟩ := hids _ (hmem.resolve_left hne)
      obtain ⟨texts,-,hmade⟩ := RowTexts.cut_of_ofPlace hrow
      have hzero : row.release.category = 0 := by rw [hmade,RowTexts.row_category]
      refine ⟨el,hel,row,c,hrow,hget,hasked,rfl,?_⟩
      rw [category_of_mapped hget,hzero]
    · intro row c hget hnot
      apply keep_of_not_mem hne
      intro hl
      obtain ⟨d,hd,hasked⟩ := hids _ hl
      rw [hget] at hd
      cases hd
      exact hnot hasked
  · have hnil : a.localCategories q = [] := (localCategories_eq_nil_iff hq).mpr hc
    rw [hnil] at hcollect
    exact ⟨hcollect,fun row => by rw [hnil]; rfl⟩

/-- An agent of a site that knows series only, with one row on its page. -/
def series : Agent :=
  listing .category ⟨[("1",⟨5000,"TV"⟩)]⟩ "<li><a href=/t>x</a><i>1</i></li>"

set_option maxRecDepth 100000 in
/-- A search for films on a site that knows series only gives the series. -/
theorem uncovered_category_filters_nothing : ∃ (q : Query) (t : Session) (result : List Release),
    q.categories ≠ [] ∧ series.definition.categories.IsTaxonomic ∧
    ({} : Session).run (series.search q) = (.ok result,t) ∧
    ¬series.definition.categories.Covers q.categories ∧
    (∃ places, series.collect q [] (t.url?.getD []) places [] = .ok result) ∧
    ∃ release ∈ result, release.category = 5000 ∧ ∀ id ∈ q.categories, id / 1000 = 2 := by
  let films : Query := { categories := [2000] }
  have hq : films.categories ≠ [] := by decide
  have hm : series.definition.categories.IsTaxonomic := ⟨by decide,by decide⟩
  have hc : ¬series.definition.categories.Covers films.categories :=
    CategoryMap.reverse_eq_nil_iff.mp (by decide)
  have hresult : (({} : Session).run (series.search films)).1.toOption.map
      (fun found => found.map (·.category)) = some [5000] := by decide +kernel
  rcases h : ({} : Session).run (series.search films) with ⟨e | result,t⟩
  · rw [h] at hresult
    cases hresult
  · rw [h] at hresult
    obtain ⟨places,-,-,hall⟩ := search_filters_covered_categories hq hm h
    have hcats : result.map (·.category) = [5000] := Option.some.inj hresult
    obtain ⟨release,hrel,hcat⟩ := List.mem_map.mp (hcats ▸ List.mem_singleton_self (5000 : Int))
    exact ⟨films,t,result,hq,hm,h,hc,⟨places,(hall hc).1⟩,release,hrel,hcat,by decide⟩

end TrackerHub.Agent
