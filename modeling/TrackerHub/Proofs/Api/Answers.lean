import TrackerHub.Api
import TrackerHub.Proofs.Aggregate.Members
import TrackerHub.Proofs.Category.Families
import TrackerHub.Proofs.Feed.Faults

/-! # Answers to clients

What decides an answer, in this order: the parameters, their function, and then what the tracker gives.
Each request comes to one document. A tracker is searched for a request that names a kind of search,
once and after it has presented itself, and for no other request. The order is a relation with one rule
for each way to an answer; exactly one of the rules applies to a request.
-/
namespace TrackerHub

namespace Api
open Aggregate (after after_bind)
open Numeral (IsShort)
variable {σ ε α β : Type}

/-! ## The calls of a tracker -/

/-- A call of an operation of a tracker. -/
inductive Call where
  | info
  | capabilities
  | search (q : Query)
  | close
  deriving Repr, DecidableEq

def Call.isSearch : Call → Bool
  | search _ => true
  | _ => false

/-- A step with a log beside its state, to which it adds a call. -/
def calling (c : Call) (w : Step σ ε α) : Step (σ × List Call) ε α :=
  fun (s,log) => ((after s w).1,((after s w).2,log ++ [c]))

/-- A tracker that logs its calls. -/
def logged (t : Tracker σ ε) : Tracker (σ × List Call) ε where
  info := calling .info t.info
  capabilities := calling .capabilities t.capabilities
  search q := calling (.search q) (t.search q)
  close := calling .close t.close

/-! ## The order of decisions -/

/-- The failure in the answer to what is raised. -/
def errorOf : Raised → ApiError
  | .protocol e => e
  | .unforeseen text => ⟨.general,900,if text = "" then "Unknown error" else text⟩

/-- The document of some results that can be written. -/
def documentOf (output : Output) (i : Info) (items : List Release) : Feed.Rendered :=
  match output with
  | .xml => Feed.channel i items
  | .json => Feed.jsonList items

/-- What decides the answer to parameters: the document, the state that the tracker is left in and the
calls of the tracker, each for a tracker whose failures raise what `raised` says. -/
inductive Decided (raised : ε → Raised) (t : Tracker σ ε) (output : Output)
    (params : List (String × List String)) (s : σ) : Feed.Rendered → σ → List Call → Prop where
  | refused {e} (hq : Query.ofParams params = .error (.refused e)) :
    Decided raised t output params s (Feed.failure e) s []
  | noValue {key} (hq : Query.ofParams params = .error (.noValue key)) :
    Decided raised t output params s (Feed.failure ⟨.general,900,"list index out of range"⟩) s []
  | noFunction {q} (hq : Query.ofParams params = .ok q) (ht : q.type = "") :
    Decided raised t output params s
      (Feed.failure ⟨.missingParameter,200,"Missing parameter t"⟩) s []
  | unknownFunction {q} (hq : Query.ofParams params = .ok q) (hempty : q.type ≠ "")
    (hcaps : q.type ≠ "caps") (hkind : ∀ mode, (q.type,mode) ∉ searchKinds) :
    Decided raised t output params s
      (Feed.failure ⟨.noSuchFunction,202,s!"Unknown type {Text.quote q.type}"⟩) s []
  | noCapabilities {q e u} (hq : Query.ofParams params = .ok q) (ht : q.type = "caps")
    (hc : after s t.capabilities = (.error e,u)) :
    Decided raised t output params s (Feed.failure (errorOf (raised e))) u [.capabilities]
  | longId {q c u} (hq : Query.ofParams params = .ok q) (ht : q.type = "caps")
    (hc : after s t.capabilities = (.ok c,u)) (hids : ¬∀ k ∈ c.categories, IsShort k.id) :
    Decided raised t output params s
      (Feed.failure ⟨.general,900,Feed.Fault.longNumber.message⟩) u [.capabilities]
  | openKey {q c u} (hq : Query.ofParams params = .ok q) (ht : q.type = "caps")
    (hc : after s t.capabilities = (.ok c,u)) (hids : ∀ k ∈ c.categories, IsShort k.id)
    (hkeys : ∃ m ∈ c.modes, Feed.IsOpen m.key) :
    Decided raised t output params s
      (Feed.failure ⟨.general,900,Feed.Fault.openSpace.message⟩) u [.capabilities]
  | capabilities {q c u} (hq : Query.ofParams params = .ok q) (ht : q.type = "caps")
    (hc : after s t.capabilities = (.ok c,u)) (hids : ∀ k ∈ c.categories, IsShort k.id)
    (hkeys : ∀ m ∈ c.modes, ¬Feed.IsOpen m.key) :
    Decided raised t output params s (Feed.capabilities c) u [.capabilities]
  | noInfo {q mode e u} (hq : Query.ofParams params = .ok q) (ht : (q.type,mode) ∈ searchKinds)
    (hi : after s t.info = (.error e,u)) :
    Decided raised t output params s (Feed.failure (errorOf (raised e))) u [.info]
  | noResults {q mode i v e u} (hq : Query.ofParams params = .ok q)
    (ht : (q.type,mode) ∈ searchKinds) (hi : after s t.info = (.ok i,v))
    (hs : after v (t.search { q with type := mode }) = (.error e,u)) :
    Decided raised t output params s (Feed.failure (errorOf (raised e))) u
      [.info,.search { q with type := mode }]
  | longNumber {q mode i v items u} (hq : Query.ofParams params = .ok q)
    (ht : (q.type,mode) ∈ searchKinds) (hi : after s t.info = (.ok i,v))
    (hs : after v (t.search { q with type := mode }) = (.ok items,u))
    (hnumbers : ¬∀ r ∈ items, ∀ n ∈ r.numbers, IsShort n) :
    Decided raised t output params s
      (Feed.failure ⟨.general,900,Feed.Fault.longNumber.message⟩) u
      [.info,.search { q with type := mode }]
  | results {q mode i v items u} (hq : Query.ofParams params = .ok q)
    (ht : (q.type,mode) ∈ searchKinds) (hi : after s t.info = (.ok i,v))
    (hs : after v (t.search { q with type := mode }) = (.ok items,u))
    (hnumbers : ∀ r ∈ items, ∀ n ∈ r.numbers, IsShort n) :
    Decided raised t output params s (documentOf output i items) u
      [.info,.search { q with type := mode }]

theorem told_eq_errorOf (r : Raised) : r.told = errorOf r := by
  cases r with
  | protocol e => rfl
  | unforeseen text =>
    simp only [Raised.told,errorOf,ApiError.of,String.isEmpty_iff]
    rfl

/-! ## What a request asks for -/

section
variable {q : Query} {mode : String}

theorem find?_searchKinds {name : String} :
    Named.find? searchKinds name = some mode ↔ (name,mode) ∈ searchKinds :=
  Named.find?_eq_some_iff (by decide)

theorem ne_of_kind {name other : String} (h : (name,mode) ∈ searchKinds)
    (ho : other ∉ searchKinds.map (·.1)) : name ≠ other := by
  rintro rfl
  exact ho (List.mem_map_of_mem h)

theorem askOf_empty (h : q.type = "") :
    askOf q = .error ⟨.missingParameter,200,"Missing parameter t"⟩ := by
  rw [askOf,h]
  rfl

theorem askOf_caps (h : q.type = "caps") : askOf q = .ok .capabilities := by
  rw [askOf,h]
  rfl

theorem askOf_kind (h : (q.type,mode) ∈ searchKinds) :
    askOf q = .ok (.search { q with type := mode }) := by
  have hempty : q.type ≠ "" := ne_of_kind h (by decide)
  have hcaps : q.type ≠ "caps" := ne_of_kind h (by decide)
  rw [askOf,if_neg (by simpa using hempty),if_neg (by simpa using hcaps),find?_searchKinds.mpr h]

theorem askOf_unknown (hempty : q.type ≠ "") (hcaps : q.type ≠ "caps")
    (h : ∀ mode, (q.type,mode) ∉ searchKinds) :
    askOf q = .error ⟨.noSuchFunction,202,s!"Unknown type {Text.quote q.type}"⟩ := by
  have hnone : Named.find? searchKinds q.type = none := by
    rw [Option.eq_none_iff_forall_ne_some]
    intro mode hm
    exact h mode (find?_searchKinds.mp hm)
  have htext : s!"Unknown type {Text.quote q.type}".isEmpty = false := by
    rw [← Bool.not_eq_true,String.isEmpty_iff]
    intro h
    simp only [String.append_eq_empty_iff] at h
    exact absurd h.1 (by decide)
  rw [askOf,if_neg (by simpa using hempty),if_neg (by simpa using hcaps),hnone]
  simp only [ApiError.of,htext]
  rfl

end

/-! ## A request step by step -/

section
variable {s u v : σ} {told : ε → ApiError} {t : Tracker σ ε} {output : Output}
  {params : List (String × List String)}

theorem after_adapt (s : σ) (w : Step σ ε α) (f : ε → β) :
    after s (w.adapt f) = ((after s w).1.mapError f,(after s w).2) := rfl

theorem after_written (s : σ) (r : Except Feed.Fault Feed.Rendered) :
    after s (written r) = (r.mapError Feed.Fault.told,s) := rfl

/-- The document that comes of a result: that of a failure if it could not be written. -/
def page (r : Except Feed.Fault Feed.Rendered) : Feed.Rendered :=
  match r with
  | .ok d => d
  | .error f => Feed.failure f.told

theorem run_answer_of_error {e : ApiError} (h : ask params = .error e) :
    (answer told t output params).run s = (Feed.failure e,s) := by
  rw [answer,h]
  rfl

theorem run_answer_of_ok {a : Ask} (h : ask params = .ok a) :
    (answer told t output params).run s = match after s (documentFor told t output a) with
      | (.ok d,u) => (d,u)
      | (.error e,u) => (Feed.failure e,u) := by
  rw [answer,h]
  have hdocument : (documentFor told t output a).run.run s = after s (documentFor told t output a) :=
    rfl
  dsimp only
  rw [Aggregate.run_then,hdocument]
  rcases after s (documentFor told t output a) with ⟨e | d,u⟩ <;> rfl

theorem ask_of_error {e : Query.WireError} (h : Query.ofParams params = .error e) :
    ask params = .error e.told := by
  rw [ask,h]

theorem ask_of_ok {q : Query} (h : Query.ofParams params = .ok q) : ask params = askOf q := by
  rw [ask,h]

section
variable {q : Query} {mode : String} (hq : Query.ofParams params = .ok q)
include hq

theorem run_answer_no_capabilities {e : ε} (ht : q.type = "caps")
    (hc : after s t.capabilities = (.error e,u)) :
    (answer told t output params).run s = (Feed.failure (told e),u) := by
  rw [run_answer_of_ok ((ask_of_ok hq).trans (askOf_caps ht)),documentFor,after_bind,after_adapt,hc]
  rfl

theorem run_answer_capabilities {c : Capabilities} (ht : q.type = "caps")
    (hc : after s t.capabilities = (.ok c,u)) :
    (answer told t output params).run s = (page (Feed.writeCapabilities c),u) := by
  rw [run_answer_of_ok ((ask_of_ok hq).trans (askOf_caps ht)),documentFor,after_bind,after_adapt,hc]
  dsimp only [Except.mapError]
  rw [after_written]
  cases Feed.writeCapabilities c <;> rfl

theorem run_answer_no_info {e : ε} (ht : (q.type,mode) ∈ searchKinds)
    (hi : after s t.info = (.error e,u)) :
    (answer told t output params).run s = (Feed.failure (told e),u) := by
  rw [run_answer_of_ok ((ask_of_ok hq).trans (askOf_kind ht)),documentFor,after_bind,after_adapt,hi]
  rfl

section
variable {i : Info} (ht : (q.type,mode) ∈ searchKinds) (hi : after s t.info = (.ok i,v))
include ht hi

theorem run_answer_no_results {e : ε}
    (hs : after v (t.search { q with type := mode }) = (.error e,u)) :
    (answer told t output params).run s = (Feed.failure (told e),u) := by
  rw [run_answer_of_ok ((ask_of_ok hq).trans (askOf_kind ht)),documentFor,after_bind,after_adapt,hi]
  dsimp only [Except.mapError]
  rw [after_bind,after_adapt,hs]
  rfl

theorem run_answer_results {items : List Release}
    (hs : after v (t.search { q with type := mode }) = (.ok items,u)) :
    (answer told t output params).run s = (page (results output i items),u) := by
  rw [run_answer_of_ok ((ask_of_ok hq).trans (askOf_kind ht)),documentFor,after_bind,after_adapt,hi]
  dsimp only [Except.mapError]
  rw [after_bind,after_adapt,hs]
  dsimp only [Except.mapError]
  rw [after_written]
  cases results output i items <;> rfl

end

end

end

/-! ## Documents that cannot be written -/

theorem message_ne_empty (f : Feed.Fault) : f.message ≠ "" := by
  cases f with
  | longNumber =>
    change Feed.longNumberText ≠ ""
    unfold Feed.longNumberText
    intro h
    exact absurd (String.append_eq_empty_iff.mp h).2 (by decide)
  | openSpace => decide

theorem told_fault (f : Feed.Fault) : f.told = ⟨.general,900,f.message⟩ := by
  rw [Feed.Fault.told,told_eq_errorOf,errorOf,if_neg (message_ne_empty f)]

section
variable {c : Capabilities} {output : Output} {i : Info} {items : List Release}

theorem page_longId (hids : ¬∀ k ∈ c.categories, IsShort k.id) :
    page (Feed.writeCapabilities c) =
      Feed.failure ⟨.general,900,Feed.Fault.longNumber.message⟩ := by
  rw [Feed.writeCapabilities,Feed.checked_eq_longNumber (by simpa using hids),page,told_fault]

theorem page_openKey (hids : ∀ k ∈ c.categories, IsShort k.id)
    (hkeys : ∃ m ∈ c.modes, Feed.IsOpen m.key) :
    page (Feed.writeCapabilities c) =
      Feed.failure ⟨.general,900,Feed.Fault.openSpace.message⟩ := by
  rw [Feed.writeCapabilities,Feed.checked_eq_openSpace (by simpa using hids) (by simpa using hkeys),
    page,told_fault]

theorem page_capabilities (hids : ∀ k ∈ c.categories, IsShort k.id)
    (hkeys : ∀ m ∈ c.modes, ¬Feed.IsOpen m.key) :
    page (Feed.writeCapabilities c) = Feed.capabilities c := by
  rw [Feed.writeCapabilities,Feed.checked_eq_ok (by simpa using hids) (by simpa using hkeys),page]

theorem results_eq : results output i items =
    Feed.checked (items.flatMap Release.numbers) [] (documentOf output i items) := by
  cases output <;> rfl

theorem page_longNumber (h : ¬∀ r ∈ items, ∀ n ∈ r.numbers, IsShort n) :
    page (results output i items) =
      Feed.failure ⟨.general,900,Feed.Fault.longNumber.message⟩ := by
  have hlong : ¬∀ n ∈ items.flatMap Release.numbers, IsShort n := by
    intro hshort
    exact h fun r hr n hn => hshort n (List.mem_flatMap.mpr ⟨r,hr,hn⟩)
  rw [results_eq,Feed.checked_eq_longNumber hlong,page,told_fault]

theorem page_results (h : ∀ r ∈ items, ∀ n ∈ r.numbers, IsShort n) :
    page (results output i items) = documentOf output i items := by
  have hshort : ∀ n ∈ items.flatMap Release.numbers, IsShort n := by
    intro n hn
    obtain ⟨r,hr,hn⟩ := List.mem_flatMap.mp hn
    exact h r hr n hn
  rw [results_eq,Feed.checked_eq_ok hshort (by simp),page]

end

section
variable {raised : ε → Raised} {t : Tracker σ ε} {output : Output}
  {params : List (String × List String)} {s u : σ} {d : Feed.Rendered} {calls : List Call}

/-- The answer is the one that is decided. -/
theorem Decided.run (h : Decided raised t output params s d u calls) :
    (answer (fun e => (raised e).told) t output params).run s = (d,u) := by
  cases h with
  | refused hq => exact run_answer_of_error (ask_of_error hq)
  | noValue hq => exact run_answer_of_error (ask_of_error hq)
  | noFunction hq ht => exact run_answer_of_error ((ask_of_ok hq).trans (askOf_empty ht))
  | unknownFunction hq hempty hcaps hkind =>
    exact run_answer_of_error ((ask_of_ok hq).trans (askOf_unknown hempty hcaps hkind))
  | noCapabilities hq ht hc => rw [run_answer_no_capabilities hq ht hc,told_eq_errorOf]
  | longId hq ht hc hids => rw [run_answer_capabilities hq ht hc,page_longId hids]
  | openKey hq ht hc hids hkeys => rw [run_answer_capabilities hq ht hc,page_openKey hids hkeys]
  | capabilities hq ht hc hids hkeys =>
    rw [run_answer_capabilities hq ht hc,page_capabilities hids hkeys]
  | noInfo hq ht hi => rw [run_answer_no_info hq ht hi,told_eq_errorOf]
  | noResults hq ht hi hs => rw [run_answer_no_results hq ht hi hs,told_eq_errorOf]
  | longNumber hq ht hi hs hnumbers =>
    rw [run_answer_results hq ht hi hs,page_longNumber hnumbers]
  | results hq ht hi hs hnumbers => rw [run_answer_results hq ht hi hs,page_results hnumbers]

theorem after_calling {w : Step σ ε α} {r : Except ε α} (h : after s w = (r,u)) (c : Call)
    (log : List Call) : after (s,log) (calling c w) = (r,(u,log ++ [c])) := by
  change ((after s w).1,((after s w).2,log ++ [c])) = _
  rw [h]

/-- A log beside the state changes nothing, and the calls are written into it. -/
theorem Decided.logged (h : Decided raised t output params s d u calls) :
    Decided raised (logged t) output params (s,[]) d (u,calls) calls := by
  cases h with
  | refused hq => exact .refused hq
  | noValue hq => exact .noValue hq
  | noFunction hq ht => exact .noFunction hq ht
  | unknownFunction hq hempty hcaps hkind => exact .unknownFunction hq hempty hcaps hkind
  | noCapabilities hq ht hc => exact .noCapabilities hq ht (after_calling hc _ _)
  | longId hq ht hc hids => exact .longId hq ht (after_calling hc _ _) hids
  | openKey hq ht hc hids hkeys => exact .openKey hq ht (after_calling hc _ _) hids hkeys
  | capabilities hq ht hc hids hkeys =>
    exact .capabilities hq ht (after_calling hc _ _) hids hkeys
  | noInfo hq ht hi => exact .noInfo hq ht (after_calling hi _ _)
  | noResults hq ht hi hs =>
    exact .noResults hq ht (after_calling hi _ _) (after_calling hs _ _)
  | longNumber hq ht hi hs hnumbers =>
    exact .longNumber hq ht (after_calling hi _ _) (after_calling hs _ _) hnumbers
  | results hq ht hi hs hnumbers =>
    exact .results hq ht (after_calling hi _ _) (after_calling hs _ _) hnumbers

end

section
variable (raised : ε → Raised) (t : Tracker σ ε) (output : Output)
  (params : List (String × List String)) (s : σ)

theorem exists_decided_capabilities {q : Query} (hq : Query.ofParams params = .ok q)
    (ht : q.type = "caps") : ∃ d u calls, Decided raised t output params s d u calls := by
  rcases hc : after s t.capabilities with ⟨e | c,u⟩
  · exact ⟨_,_,_,.noCapabilities hq ht hc⟩
  by_cases hids : ∀ k ∈ c.categories, IsShort k.id
  · by_cases hkeys : ∃ m ∈ c.modes, Feed.IsOpen m.key
    · exact ⟨_,_,_,.openKey hq ht hc hids hkeys⟩
    · push Not at hkeys
      exact ⟨_,_,_,.capabilities hq ht hc hids hkeys⟩
  · exact ⟨_,_,_,.longId hq ht hc hids⟩

theorem exists_decided_search {q : Query} {mode : String} {i : Info} {v : σ}
    (hq : Query.ofParams params = .ok q) (ht : (q.type,mode) ∈ searchKinds)
    (hi : after s t.info = (.ok i,v)) :
    ∃ d u, Decided raised t output params s d u [.info,.search { q with type := mode }] := by
  rcases hs : after v (t.search { q with type := mode }) with ⟨e | items,u⟩
  · exact ⟨_,_,.noResults hq ht hi hs⟩
  by_cases hnumbers : ∀ r ∈ items, ∀ n ∈ r.numbers, IsShort n
  · exact ⟨_,_,.results hq ht hi hs hnumbers⟩
  · exact ⟨_,_,.longNumber hq ht hi hs hnumbers⟩

/-- Every request is decided. -/
theorem exists_decided : ∃ d u calls, Decided raised t output params s d u calls := by
  rcases hq : Query.ofParams params with (e | key) | q
  · exact ⟨_,_,_,.refused hq⟩
  · exact ⟨_,_,_,.noValue hq⟩
  by_cases hempty : q.type = ""
  · exact ⟨_,_,_,.noFunction hq hempty⟩
  by_cases hcaps : q.type = "caps"
  · exact exists_decided_capabilities raised t output params s hq hcaps
  by_cases hkind : ∃ mode, (q.type,mode) ∈ searchKinds
  · obtain ⟨mode,ht⟩ := hkind
    rcases hi : after s t.info with ⟨e | i,v⟩
    · exact ⟨_,_,_,.noInfo hq ht hi⟩
    · obtain ⟨d,u,h⟩ := exists_decided_search raised t output params s hq ht hi
      exact ⟨d,u,_,h⟩
  · push Not at hkind
    exact ⟨_,_,_,.unknownFunction hq hempty hcaps hkind⟩

variable {raised t output params s} {d d' : Feed.Rendered} {u u' : σ} {calls calls' : List Call}

/-- At most one of the rules applies. -/
theorem Decided.unique (h : Decided raised t output params s d u calls)
    (h' : Decided raised t output params s d' u' calls') : d' = d ∧ u' = u ∧ calls' = calls := by
  have heq : (d',u',calls') = (d,u,calls) := h'.logged.run.symm.trans h.logged.run
  simpa using heq

/-- A tracker is searched once at most. -/
theorem Decided.countP_isSearch (h : Decided raised t output params s d u calls) :
    calls.countP Call.isSearch ≤ 1 := by
  cases h <;> simp [Call.isSearch]

/-- What a tracker is searched for is the query with the name of its mode, if the tracker has presented
itself. -/
theorem Decided.search_mem_iff (h : Decided raised t output params s d u calls) {q' : Query} :
    .search q' ∈ calls ↔ ∃ q mode i v, Query.ofParams params = .ok q ∧
      (q.type,mode) ∈ searchKinds ∧ after s t.info = (.ok i,v) ∧ q' = { q with type := mode } := by
  constructor
  · intro hmem
    cases h with
    | noResults hq ht hi hs =>
      exact ⟨_,_,_,_,hq,ht,hi,by simpa using hmem⟩
    | longNumber hq ht hi hs hnumbers =>
      exact ⟨_,_,_,_,hq,ht,hi,by simpa using hmem⟩
    | results hq ht hi hs hnumbers =>
      exact ⟨_,_,_,_,hq,ht,hi,by simpa using hmem⟩
    | _ => simp at hmem
  · rintro ⟨q,mode,i,v,hq,ht,hi,rfl⟩
    obtain ⟨d',u',h'⟩ := exists_decided_search raised t output params s hq ht hi
    obtain ⟨-,-,rfl⟩ := h.unique h'
    simp

end

/-- Every request is answered, and by the one rule that applies to it: a failure of the parameters comes
first, then a missing function, then the capabilities, then an unknown function, then what the tracker
says of itself, and then its results. What is raised on the way is answered with its own number and
description, or with the number 900 and its text. The tracker is searched once at most: for the query
with the name of its mode in the place of its function, after the tracker has presented itself. -/
theorem answer_decided (raised : ε → Raised) (t : Tracker σ ε) (output : Output)
    (params : List (String × List String)) (s : σ) :
    ∃ d u calls,
      (answer (fun e => (raised e).told) t output params).run s = (d,u) ∧
      (answer (fun e => (raised e).told) (logged t) output params).run (s,[]) = (d,(u,calls)) ∧
      (∀ d' u' calls', Decided raised t output params s d' u' calls' ↔
        d' = d ∧ u' = u ∧ calls' = calls) ∧
      calls.countP Call.isSearch ≤ 1 ∧
      ∀ q', .search q' ∈ calls ↔ ∃ q mode i v, Query.ofParams params = .ok q ∧
        (q.type,mode) ∈ searchKinds ∧ after s t.info = (.ok i,v) ∧ q' = { q with type := mode } := by
  obtain ⟨d,u,calls,h⟩ := exists_decided raised t output params s
  refine ⟨d,u,calls,h.run,h.logged.run,?_,h.countP_isSearch,fun q' => h.search_mem_iff⟩
  intro d' u' calls'
  constructor
  · exact h.unique
  · rintro ⟨rfl,rfl,rfl⟩
    exact h

/-- A number that cannot be read is answered before a function that is unknown. -/
example : ask [("t",["nope"]),("limit",["x"])] =
    .error ⟨.incorrectParameter,201,"Invalid limit value 'x'"⟩ := by rfl

end Api

end TrackerHub
