import TrackerHub.Proofs.Agent.Results

/-! # Limits of searches

A search with a limit reads the rows of its page up to the one that makes it complete, and gives the
releases kept of them. Where the search without a limit finds anything, the one with a limit finds the
first part of it.
-/
namespace TrackerHub.Agent
open Web (Session)
open Page (Place)
open Text (Chars)

/-- Whether two queries are sent to a site in the same way: with the same path and the same inputs. -/
structure RendersAlike (a : Agent) (q r : Query) : Prop where
  path : Template.render a.definition.search.path (searchContext q (a.localCategories q)) =
    Template.render a.definition.search.path (searchContext r (a.localCategories r))
  inputs : a.searchInputs (searchContext q (a.localCategories q)) =
    a.searchInputs (searchContext r (a.localCategories r))

theorem RendersAlike.resultRows_eq {a : Agent} {q r : Query} (h : a.RendersAlike q r) :
    a.resultRows q = a.resultRows r := by
  simp only [resultRows,openResults,h.path,h.inputs]

section
variable {a : Agent} {q : Query} {localIds : List String}

theorem isEnough_of_nonpos (hq : q.limit ≤ 0) (n : Nat) : isEnough q n = false := by
  simp only [isEnough,Bool.and_eq_false_iff,decide_eq_false_iff_not]
  omega

theorem isEnough_iff (hq : 0 < q.limit) (n : Nat) : isEnough q n = true ↔ q.limit.toNat ≤ n := by
  simp only [isEnough,Bool.and_eq_true,decide_eq_true_eq]
  omega

theorem length_keep_le (a : Agent) (localIds : List String) (row : Row) : (a.keep localIds row).toList.length ≤ 1 := by
  cases a.keep localIds row <;> simp

theorem length_next_le (hq : 0 < q.limit) {found : List Release}
    (hn : ¬isEnough q found.length = true) (row : Row) :
    (found ++ (a.keep localIds row).toList).length ≤ q.limit.toNat := by
  have hroom : found.length < q.limit.toNat := by
    rwa [isEnough_iff hq,Nat.not_le] at hn
  have hone := length_keep_le a localIds row
  rw [List.length_append]
  omega

/-- A search without a limit that finds anything has read every row, and each of them has a title. -/
theorem gather_unlimited (hq : q.limit ≤ 0) {outs : List (Except AgentError Row)}
    {found result : List Release} (h : a.gather q localIds outs found = .ok result)
    (hne : result ≠ []) : ∃ rows : List Row, outs = rows.map .ok ∧ (∀ row ∈ rows, a.isUntitled row = false) ∧
      result = found ++ rows.filterMap (a.keep localIds) := by
  induction outs generalizing found with
  | nil =>
    cases h
    exact ⟨[],rfl,by simp,by simp⟩
  | cons out rest ih =>
    cases out with
    | error e =>
      rw [gather,isEnough_of_nonpos hq] at h
      cases h
    | ok row =>
      rw [gather,isEnough_of_nonpos hq,if_neg Bool.false_ne_true] at h
      split at h
      · cases h
        exact absurd rfl hne
      next ht =>
        obtain ⟨rows,rfl,hrows,rfl⟩ := ih h
        refine ⟨row :: rows,rfl,?_,?_⟩
        · simpa [ht] using hrows
        · rw [filterMap_keep_cons,List.append_assoc]

/-- Rows with titles, read up to a limit, give the first part of what they give altogether. -/
theorem gather_titled (hq : 0 < q.limit) {rows : List Row} {found : List Release}
    (ht : ∀ row ∈ rows, a.isUntitled row = false) (hf : found.length ≤ q.limit.toNat) :
    a.gather q localIds (rows.map .ok) found =
      .ok ((found ++ rows.filterMap (a.keep localIds)).take q.limit.toNat) := by
  induction rows generalizing found with
  | nil => simp [gather,List.take_of_length_le hf]
  | cons row rows ih =>
    rw [List.map_cons,gather,ht row List.mem_cons_self]
    by_cases hn : isEnough q found.length = true
    · have hfull : found.length = q.limit.toNat := Nat.le_antisymm hf ((isEnough_iff hq _).mp hn)
      rw [if_pos hn,← hfull,List.take_left]
    · rw [if_neg hn,if_neg Bool.false_ne_true,
        ih (fun r hr => ht r (List.mem_cons_of_mem row hr)) (length_next_le hq hn row),
        filterMap_keep_cons,List.append_assoc]

/-- What a search with a limit gives is nothing, or what is kept of the rows that it reads: all rows, or
those up to the one that makes it complete. -/
theorem gather_limited (hq : 0 < q.limit) {outs : List (Except AgentError Row)}
    {found result : List Release} (h : a.gather q localIds outs found = .ok result)
    (hf : found.length ≤ q.limit.toNat) : result = [] ∨ ∃ (rows : List Row) (unread : _),
      outs = rows.map .ok ++ unread ∧ result = found ++ rows.filterMap (a.keep localIds) ∧
      result.length ≤ q.limit.toNat ∧ (unread = [] ∨ result.length = q.limit.toNat) := by
  induction outs generalizing found with
  | nil =>
    cases h
    exact .inr ⟨[],[],rfl,by simp,hf,.inl rfl⟩
  | cons out rest ih =>
    -- Once there is enough, all that follows is left unread.
    have stop (hn : isEnough q found.length = true) : ∃ (rows : List Row) (unread : _),
        out :: rest = rows.map .ok ++ unread ∧ found = found ++ rows.filterMap (a.keep localIds) ∧
        found.length ≤ q.limit.toNat ∧ (unread = [] ∨ found.length = q.limit.toNat) :=
      ⟨[],out :: rest,rfl,by simp,hf,.inr (Nat.le_antisymm hf ((isEnough_iff hq _).mp hn))⟩
    cases out with
    | error e =>
      rw [gather] at h
      split at h
      next hn =>
        cases h
        exact .inr (stop hn)
      · cases h
    | ok row =>
      rw [gather] at h
      split at h
      next hn =>
        cases h
        exact .inr (stop hn)
      next hn =>
        split at h
        · cases h
          exact .inl rfl
        · rcases ih h (length_next_le hq hn row) with hr | ⟨rows,unread,rfl,rfl,hlen,hend⟩
          · exact .inl hr
          · refine .inr ⟨row :: rows,unread,rfl,?_,hlen,hend⟩
            rw [filterMap_keep_cons,List.append_assoc]

end

/-- The rows of a page that give something without a limit give the first part of it with one. -/
theorem collect_limited {a : Agent} {q r : Query} (hq : q.limit ≤ 0) (hr : 0 < r.limit)
    {localIds : List String} {base : Chars} {places : List Place} {result : List Release}
    (h : a.collect q localIds base places [] = .ok result) (hne : result ≠ []) :
    a.collect r localIds base places [] = .ok (result.take r.limit.toNat) := by
  rw [collect_eq_gather] at h ⊢
  obtain ⟨rows,hrows,ht,rfl⟩ := gather_unlimited hq h hne
  rw [hrows]
  exact gather_titled hr ht (Nat.zero_le _)

theorem run_search_eq_ok {a : Agent} {q : Query} {s t : Session} {result : List Release} :
    s.run (a.search q) = (.ok result,t) ↔ ∃ places, s.run (a.resultRows q) = (.ok places,t) ∧
      a.collect q (a.localCategories q) (t.url?.getD []) places [] = .ok result := by
  rw [run_search]
  rcases s.run (a.resultRows q) with ⟨e | places,u⟩
  · simp
  · constructor
    · intro h
      obtain ⟨hc,rfl⟩ := Prod.mk.inj h
      exact ⟨places,rfl,hc⟩
    · rintro ⟨places',heq,hc⟩
      cases heq
      exact congrArg (·,t) hc

/-- An agent of a page with three rows, the second of which is of no release. -/
def threeRows : Agent :=
  listing .seeders {} "<li><a href=/t>x</a><i>1</i></li><li><a href=''>y</a></li><li><a href=/u>z</a></li>"

end TrackerHub.Agent
