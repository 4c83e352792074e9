import TrackerHub.Agent.Search
import TrackerHub.Proofs.Agent.Working

/-! # Results of a search

A search opens the page of its results and takes the rows of the page one after the other. It stops
when it has enough or finds a row without a title; a row that it does not reach can do no harm.
-/
namespace TrackerHub.Agent
open Web (Session)
open Page (Place)
open Text (Chars)

/-- Opens the page of the results and gives its rows. -/
def resultRows (a : Agent) (q : Query) : Working (List Place) := do
  a.ensureLogin
  a.openResults q
  a.selectRows

/-- A search goes through the rows of the page that it opened. -/
theorem run_search (a : Agent) (q : Query) (s : Session) :
    s.run (a.search q) = match s.run (a.resultRows q) with
      | (.ok rows,t) => (a.collect q (a.localCategories q) (t.url?.getD []) rows [],t)
      | (.error e,t) => (.error e,t) := by
  simp only [search,resultRows,Session.run_bind]
  rcases s.run a.ensureLogin with ⟨e | _,s₁⟩
  · rfl
  dsimp only
  rcases s₁.run (a.openResults q) with ⟨e | _,s₂⟩
  · rfl
  dsimp only
  rcases s₂.run a.selectRows with ⟨e | rows,s₃⟩
  · rfl
  simp only [Session.run_get,run_lift]
  cases a.collect q (a.localCategories q) (s₃.url?.getD []) rows [] <;> rfl

/-- Whether a row says that there are no results. -/
def isUntitled (a : Agent) (row : Row) : Bool :=
  a.definition.search.hasField .title && row.release.title.isEmpty

/-- The release that a search keeps of a row, if any. -/
def keep (a : Agent) (localIds : List String) (row : Row) : Option Release :=
  if !localIds.isEmpty && !localIds.contains row.localCategory then none
  else
    let row := row.categorized a.definition.categories
    if row.hasIdentity then some row.release else none

/-- The releases of some rows, which follow the releases found before. -/
def harvest (a : Agent) (q : Query) (localIds : List String) : List Row → List Release → List Release
  | [], found => found
  | row :: rest, found =>
    if isEnough q found.length then found
    else if a.isUntitled row then []
    else a.harvest q localIds rest (found ++ (a.keep localIds row).toList)

/-- The releases of some rows, of which each may be at fault. -/
def gather (a : Agent) (q : Query) (localIds : List String) :
    List (Except AgentError Row) → List Release → Except AgentError (List Release)
  | [], found => .ok found
  | .error e :: _, found => if isEnough q found.length then .ok found else .error e
  | .ok row :: rest, found =>
    if isEnough q found.length then .ok found
    else if a.isUntitled row then .ok []
    else a.gather q localIds rest (found ++ (a.keep localIds row).toList)

/-- Whether a search goes on after some rows: each has a title, and they do not give enough. -/
structure GoesOn (a : Agent) (q : Query) (localIds : List String) (rows : List Row) : Prop where
  titled : ∀ row ∈ rows, a.isUntitled row = false
  wanting : isEnough q (rows.filterMap (a.keep localIds)).length = false

theorem isEnough_mono {q : Query} {m n : Nat} (hmn : m ≤ n) (h : isEnough q n = false) :
    isEnough q m = false := by
  simp only [isEnough,Bool.and_eq_false_iff,decide_eq_false_iff_not] at h ⊢
  omega

section
variable {a : Agent} {q : Query} {localIds : List String}

/-- The rows of a page are gathered as each of them comes out. -/
theorem collect_eq_gather (base : Chars) (rows : List Place) (found : List Release) :
    a.collect q localIds base rows found =
      a.gather q localIds (rows.map (Row.ofPlace a.definition base a.now)) found := by
  induction rows generalizing found with
  | nil => rfl
  | cons el rest ih =>
    rw [collect,List.map_cons]
    by_cases hn : isEnough q found.length = true
    · cases Row.ofPlace a.definition base a.now el <;> simp only [gather,hn,if_true] <;> rfl
    cases Row.ofPlace a.definition base a.now el with
    | error e =>
      simp only [gather,hn]
      rfl
    | ok row =>
      simp only [gather,hn,if_false,Bool.false_eq_true]
      change (if a.isUntitled row = true then _ else _) = _
      by_cases ht : a.isUntitled row = true
      · simp only [ht,if_true]
        rfl
      simp only [ht,if_false,Bool.false_eq_true,← ih,keep]
      split
      · simp
      · split <;> simp

/-- A search gathers the rows of the page that it opened. -/
theorem run_search_of_resultRows {s t : Session} {rows : List Place}
    (h : s.run (a.resultRows q) = (.ok rows,t)) : s.run (a.search q) =
      (a.gather q (a.localCategories q)
        (rows.map (Row.ofPlace a.definition (t.url?.getD []) a.now)) [],t) := by
  rw [run_search,h]
  simp only [collect_eq_gather]

theorem filterMap_keep_cons (row : Row) (rows : List Row) : (row :: rows).filterMap (a.keep localIds) =
    (a.keep localIds row).toList ++ rows.filterMap (a.keep localIds) := by
  rw [List.filterMap_cons]
  cases a.keep localIds row <;> rfl

theorem gather_append {rows : List Row} {found : List Release} (rest : List (Except AgentError Row))
    (ht : ∀ row ∈ rows, a.isUntitled row = false)
    (hn : isEnough q (found ++ rows.filterMap (a.keep localIds)).length = false) :
    a.gather q localIds (rows.map .ok ++ rest) found =
      a.gather q localIds rest (found ++ rows.filterMap (a.keep localIds)) := by
  induction rows generalizing found with
  | nil => simp
  | cons row more ih =>
    have hw : isEnough q found.length = false := isEnough_mono (by simp) hn
    rw [filterMap_keep_cons,← List.append_assoc] at hn ⊢
    rw [List.map_cons,List.cons_append,gather,hw,ht row List.mem_cons_self]
    exact ih (fun r hr => ht r (List.mem_cons_of_mem row hr)) hn

/-- A search fails just when it reaches a row at fault. -/
theorem gather_eq_error_iff {outs : List (Except AgentError Row)} {e : AgentError} :
    a.gather q localIds outs [] = .error e ↔ ∃ rows rest,
      outs = rows.map .ok ++ .error e :: rest ∧ a.GoesOn q localIds rows := by
  constructor
  · -- The releases found so far vary along the rows, so the induction is for all of them.
    have reached : ∀ found, a.gather q localIds outs found = .error e →
        ∃ (rows : List Row) (rest : List (Except AgentError Row)),
        outs = rows.map .ok ++ .error e :: rest ∧ (∀ row ∈ rows, a.isUntitled row = false) ∧
        isEnough q (found ++ rows.filterMap (a.keep localIds)).length = false := by
      induction outs with
      | nil => intro found h; cases h
      | cons out rest ih =>
        intro found h
        cases out with
        | error f =>
          rw [gather] at h
          split at h
          · cases h
          next hn =>
            cases h
            exact ⟨[],rest,rfl,by simp,by simpa using hn⟩
        | ok row =>
          rw [gather] at h
          split at h
          · cases h
          split at h
          · cases h
          next ht =>
            obtain ⟨rows,more,rfl,hr,hw⟩ := ih _ h
            refine ⟨row :: rows,more,rfl,?_,?_⟩
            · simpa [ht] using hr
            · rw [List.filterMap_cons]
              cases hk : a.keep localIds row <;> simpa [hk] using hw
    intro h
    obtain ⟨rows,rest,ho,ht,hn⟩ := reached [] h
    exact ⟨rows,rest,ho,ht,by simpa using hn⟩
  · rintro ⟨rows,rest,rfl,ht,hn⟩
    rw [gather_append (.error e :: rest) ht (by simpa using hn),gather,List.nil_append,hn]
    rfl

/-- What a search gathers is the harvest of its rows, whatever stands for those at fault. -/
theorem gather_eq_harvest {γ : Type} {out : γ → Except AgentError Row} {row : γ → Row}
    {xs : List γ} {found result : List Release} (hr : ∀ x r, out x = .ok r → r = row x)
    (h : a.gather q localIds (xs.map out) found = .ok result) :
    result = a.harvest q localIds (xs.map row) found := by
  induction xs generalizing found with
  | nil => cases h; rfl
  | cons x xs ih =>
    rw [List.map_cons] at h
    rw [List.map_cons,harvest]
    cases ho : out x with
    | error e =>
      rw [ho,gather] at h
      split at h
      next hn =>
        cases h
        rw [if_pos hn]
      · cases h
    | ok r =>
      obtain rfl := hr x r ho
      rw [ho,gather] at h
      split at h
      next hn =>
        cases h
        rw [if_pos hn]
      next hn =>
        rw [if_neg hn]
        split at h
        next ht =>
          cases h
          rw [if_pos ht]
        next ht =>
          rw [if_neg ht]
          exact ih h

/-- Each release of a search is the one kept of some row of the page, which has a title. -/
theorem titled_of_gather {outs : List (Except AgentError Row)} {found result : List Release}
    {release : Release} (h : a.gather q localIds outs found = .ok result) (hm : release ∈ result) :
    release ∈ found ∨
      ∃ row, .ok row ∈ outs ∧ a.isUntitled row = false ∧ a.keep localIds row = some release := by
  induction outs generalizing found with
  | nil => cases h; exact .inl hm
  | cons out rest ih =>
    cases out with
    | error e =>
      rw [gather] at h
      split at h
      · cases h; exact .inl hm
      · cases h
    | ok row =>
      rw [gather] at h
      split at h
      · cases h; exact .inl hm
      split at h
      · cases h; cases hm
      next ht =>
        rcases ih h with hf | ⟨r,hr,htitle,hk⟩
        · rcases List.mem_append.mp hf with hf | hk
          · exact .inl hf
          · exact .inr ⟨row,List.mem_cons_self,by simpa using ht,by simpa using hk⟩
        · exact .inr ⟨r,List.mem_cons_of_mem _ hr,htitle,hk⟩

theorem mem_of_gather {outs : List (Except AgentError Row)} {found result : List Release}
    {release : Release} (h : a.gather q localIds outs found = .ok result) (hm : release ∈ result) :
    release ∈ found ∨ ∃ row, .ok row ∈ outs ∧ a.keep localIds row = some release :=
  (titled_of_gather h hm).imp_right fun ⟨row,hrow,_,hk⟩ => ⟨row,hrow,hk⟩

end

/-- An agent of a site with one page, whose results are list items: a link and a text of some kind. -/
def listing (kind : FieldKind) (categories : CategoryMap) (html : String) : Agent where
  definition := {
    site := "s", links := ["https://s.org/"], categories
    search := {
      path := "/search", rows := { block := { selector := "li" } }
      fields := [
        ⟨.title,{ selector := "a" }⟩, ⟨.download,{ selector := "a", attr := "href" }⟩,
        ⟨kind,{ selector := "i" }⟩] } }
  sites := {}
  server := .ofPage html
  now := ⟨⟨2009,11,10⟩,23,0,0,0,some 0⟩

end TrackerHub.Agent
