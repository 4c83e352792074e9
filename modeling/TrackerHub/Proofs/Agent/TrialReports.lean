import TrackerHub.Agent.Trial
import TrackerHub.Proofs.Agent.SearchLimit
import TrackerHub.Proofs.ReadLists

/-! # Reports on trial runs

A trial run records its steps as they come and stops behind the first that fails. Its report is good just
when every step of the plan was taken and passed, and a step that passed has found what it says.
-/
namespace TrackerHub

/-- A release with all that a result of a trial needs. -/
structure Release.IsComplete (r : Release) : Prop where
  title : r.title ≠ ""
  size : r.size ≠ 0
  link : r.link ≠ ""
  site : r.site ≠ ""

theorem checkReleases_eq_ok_iff {row : Nat} {results : List Release} :
    checkReleases row results = .ok () ↔ ∀ r ∈ results, r.IsComplete := by
  induction results generalizing row with
  | nil => simp [checkReleases]
  | cons r rest ih =>
    have hcomplete : r.IsComplete ↔ ¬r.title.isEmpty = true ∧ ¬r.size = 0 ∧ ¬r.link.isEmpty = true ∧
        ¬r.site.isEmpty = true := by
      simp only [String.isEmpty_iff]
      exact ⟨fun h => ⟨h.title,h.size,h.link,h.site⟩,fun ⟨title,size,link,site⟩ => ⟨title,size,link,site⟩⟩
    have hrest : checkReleases (row + 1) rest = .ok () ↔ ∀ r ∈ rest, r.IsComplete := ih
    rw [checkReleases,List.forall_mem_cons,hcomplete,← hrest]
    by_cases htitle : r.title.isEmpty = true
    · simp [htitle]
    by_cases hsize : r.size = 0
    · simp [htitle,hsize]
    by_cases hlink : r.link.isEmpty = true
    · simp [htitle,hsize,hlink]
    by_cases hsite : r.site.isEmpty = true
    · simp [htitle,hsize,hlink,hsite]
    · simp [htitle,hsize,hlink,hsite]

theorem checkResults_eq_ok_iff {results : List Release} :
    checkResults results = .ok () ↔ results ≠ [] ∧ ∀ r ∈ results, r.IsComplete := by
  unfold checkResults
  split
  next hempty => simp [List.isEmpty_iff.mp hempty]
  next hfound =>
    rw [List.isEmpty_iff] at hfound
    rw [checkReleases_eq_ok_iff,and_iff_right hfound]

namespace Agent
open Web (Session)

/-! ## The steps that are recorded -/

/-- Steps that pass one after another: each succeeds on the session that the one before it leaves. -/
inductive Passes : List (String × Trying Unit) → Session → Session → Prop where
  | nil {s} : Passes [] s s
  | cons {name step rest s t u} (hstep : s.run step = (.ok (),t)) (h : Passes rest t u) :
      Passes ((name,step) :: rest) s u

/-- What a trial records of its steps, and the session that it leaves. -/
inductive Records : List (String × Trying Unit) → Session → List TrialStep → Session → Prop where
  | nil {s} : Records [] s [] s
  | passed {name step rest s t recorded u} (hstep : s.run step = (.ok (),t)) (h : Records rest t recorded u) :
      Records ((name,step) :: rest) s ({ name, ok := true } :: recorded) u
  | failed {name step rest s e t} (hstep : s.run step = (.error e,t)) :
      Records ((name,step) :: rest) s [{ name, ok := false, error := s!"{e.kind}: {e.message}" }] t

section
variable {steps : List (String × Trying Unit)} {s u : Session} {recorded : List TrialStep}

theorem records_runTrial (steps : List (String × Trying Unit)) (s : Session) :
    Records steps s ((runTrial steps).run s).1 ((runTrial steps).run s).2 := by
  induction steps generalizing s with
  | nil => exact .nil
  | cons head rest ih =>
    obtain ⟨name,step⟩ := head
    have hrun : (ExceptT.run step).run s = s.run step := rfl
    rcases hstep : s.run step with ⟨e | _,t⟩
    · simp only [runTrial,StateT.run_bind,hrun,hstep]
      exact .failed hstep
    · simp only [runTrial,StateT.run_bind,hrun,hstep]
      exact .passed hstep (ih t)

theorem Records.ne_nil (h : Records steps s recorded u) (hsteps : steps ≠ []) : recorded ≠ [] := by
  cases h with
  | nil => exact absurd rfl hsteps
  | passed | failed => exact List.cons_ne_nil _ _

theorem Records.names_prefix (h : Records steps s recorded u) :
    recorded.map (·.name) <+: steps.map (·.1) := by
  induction h with
  | nil => exact List.prefix_rfl
  | passed _ _ ih => exact (List.prefix_cons_inj _).mpr ih
  | failed _ => exact (List.prefix_cons_inj _).mpr List.nil_prefix

theorem Records.ok_of_mem_dropLast (h : Records steps s recorded u) :
    ∀ step ∈ recorded.dropLast, step.ok = true := by
  induction h with
  | nil | failed _ => simp
  | @passed name step rest s t recorded u _ _ ih =>
    cases recorded with
    | nil => simp
    | cons next recorded => simpa using ih

/-- No step fails just when all of them pass. -/
theorem Records.forall_ok_iff (h : Records steps s recorded u) :
    (∀ step ∈ recorded, step.ok = true) ↔ ∃ t, Passes steps s t := by
  induction h with
  | nil => simpa using ⟨_,Passes.nil⟩
  | passed hstep _ ih =>
    rw [List.forall_mem_cons,ih,and_iff_right rfl]
    constructor
    · rintro ⟨t,hpass⟩
      exact ⟨t,.cons hstep hpass⟩
    · rintro ⟨t,hpass⟩
      cases hpass with
      | cons hstep' hrest =>
        rw [hstep] at hstep'
        cases hstep'
        exact ⟨t,hrest⟩
  | failed hstep =>
    constructor
    · intro hok
      exact absurd (hok _ List.mem_cons_self) Bool.false_ne_true
    · rintro ⟨t,hpass⟩
      cases hpass with
      | cons hstep' _ =>
        rw [hstep] at hstep'
        cases hstep'

theorem Records.names_of_passes (h : Records steps s recorded u) (hok : ∀ step ∈ recorded, step.ok = true) :
    recorded.map (·.name) = steps.map (·.1) := by
  induction h with
  | nil => rfl
  | passed _ _ ih =>
    rw [List.map_cons,List.map_cons,ih fun step hstep => hok step (List.mem_cons_of_mem _ hstep)]
  | failed _ => exact absurd (hok _ List.mem_cons_self) Bool.false_ne_true

/-- A step recorded as passed has passed, on the session that the steps before it leave. -/
theorem Records.passed_at (h : Records steps s recorded u) {i : Nat} {name : String} {step : Trying Unit}
    {r : TrialStep} (hstep : steps[i]? = some (name,step)) (hr : recorded[i]? = some r) (hok : r.ok = true) :
    ∃ t v, Passes (steps.take i) s t ∧ t.run step = (.ok (),v) := by
  induction h generalizing i with
  | nil => cases hstep
  | passed hfirst hrest ih =>
    cases i with
    | zero =>
      cases hstep
      exact ⟨_,_,.nil,hfirst⟩
    | succ i =>
      obtain ⟨t,v,hpass,hrun⟩ := ih (by simpa using hstep) (by simpa using hr)
      exact ⟨t,v,.cons hfirst hpass,hrun⟩
  | failed _ =>
    cases i with
    | zero =>
      cases hr
      cases hok
    | succ i => simp at hr

end

/-! ## What the steps find -/

section
variable {a : Agent} {plan : TrialPlan} {m : SearchMode} {s u : Session}

theorem run_trying {α : Type} (w : Working α) (s : Session) :
    s.run (trying w) = ((s.run w).1.mapError .agent,(s.run w).2) := by
  change trying w s = ((w s).1.mapError .agent,(w s).2)
  unfold trying
  rcases w s with ⟨e | x,t⟩ <;> rfl

theorem run_trying_eq_ok {α : Type} {w : Working α} {x : α} :
    s.run (trying w) = (.ok x,u) ↔ s.run w = (.ok x,u) := by
  rw [run_trying,Prod.mk.injEq,mapError_eq_ok,Prod.ext_iff]

/-- A search with a limit gives no more than the limit says. -/
theorem length_le_of_search {q : Query} {results : List Release} (hq : 0 < q.limit)
    (h : s.run (a.search q) = (.ok results,u)) : results.length ≤ q.limit.toNat := by
  obtain ⟨places,-,hcollect⟩ := run_search_eq_ok.mp h
  rw [collect_eq_gather] at hcollect
  rcases gather_limited hq hcollect (Nat.zero_le _) with rfl | ⟨_,_,-,-,hlength,-⟩
  · exact Nat.zero_le _
  · exact hlength

theorem search_of_tryMode (h : s.run (a.tryMode plan m) = (.ok (),u)) : ∃ results t,
    s.run (a.search (trialQuery plan m)) = (.ok results,t) ∧ results ≠ [] ∧ ∀ r ∈ results, r.IsComplete := by
  rw [tryMode,Session.run_bind_eq_ok] at h
  obtain ⟨results,t,hsearch,hrest⟩ := h
  refine ⟨results,t,run_trying_eq_ok.mp hsearch,?_⟩
  rw [← checkResults_eq_ok_iff]
  cases hcheck : checkResults results with
  | ok _ => rfl
  | error e =>
    rw [hcheck] at hrest
    cases hrest

theorem search_of_tryNothing (h : s.run a.tryNothing = (.ok (),u)) : ∃ t,
    s.run (a.search { q := "nothingshouldmatchtheseresults" }) = (.ok [],t) := by
  rw [tryNothing,Session.run_bind_eq_ok] at h
  obtain ⟨results,t,hsearch,hrest⟩ := h
  cases results with
  | nil => exact ⟨t,run_trying_eq_ok.mp hsearch⟩
  | cons r results => cases hrest

end

def plannedNames (a : Agent) : List String :=
  "Testing login with valid credentials" :: a.capabilities.modes.map (fun m => s!"Testing search mode {m.key}")
    ++ ["Testing empty results are handled","Testing ratio"]

theorem map_fst_trialSteps (a : Agent) (plan : TrialPlan) : (a.trialSteps plan).map (·.1) = a.plannedNames := by
  simp [trialSteps,plannedNames,Function.comp_def]

theorem getElem?_trialSteps_mode {a : Agent} {plan : TrialPlan} {i : Nat} {m : SearchMode}
    (h : a.capabilities.modes[i]? = some m) :
    (a.trialSteps plan)[i + 1]? = some (s!"Testing search mode {m.key}",a.tryMode plan m) := by
  have hi : i < a.capabilities.modes.length := (List.getElem?_eq_some_iff.mp h).1
  rw [trialSteps,List.append_assoc,List.singleton_append,List.getElem?_cons_succ,
    List.getElem?_append_left (by rwa [List.length_map]),List.getElem?_map,h]
  rfl

theorem getElem?_trialSteps_nothing (a : Agent) (plan : TrialPlan) :
    (a.trialSteps plan)[a.capabilities.modes.length + 1]? =
      some ("Testing empty results are handled",a.tryNothing) := by
  rw [trialSteps,List.append_assoc,List.singleton_append,List.getElem?_cons_succ,
    List.getElem?_append_right (Nat.le_of_eq (List.length_map _)),List.length_map,Nat.sub_self]
  rfl

/-- The report on a trial tells the truth. Whatever the steps come to, there is a report. It names the steps
of the plan up to the first that fails, and is good just when all of them were taken and passed. A mode that
passed was searched on the session that the steps before it leave, and the search gave complete releases, at
least one and no more than the plan allows; the search for nothing, if it passed, gave none. -/
theorem trial_report_sound (a : Agent) (plan : TrialPlan) (hlimit : 1 ≤ plan.searchLimit) (s : Session) :
    ∃ report u, (a.trial plan).run s = (report,u) ∧
      report.steps ≠ [] ∧ report.steps.map (·.name) <+: a.plannedNames ∧
      (∀ step ∈ report.steps.dropLast, step.ok = true) ∧
      (report.ok = true ↔ report.steps.map (·.name) = a.plannedNames ∧ ∀ step ∈ report.steps, step.ok = true) ∧
      (report.ok = true ↔ ∃ t, Passes (a.trialSteps plan) s t) ∧
      (∀ i m step, a.capabilities.modes[i]? = some m → report.steps[i + 1]? = some step → step.ok = true →
        ∃ t v results, Passes ((a.trialSteps plan).take (i + 1)) s t ∧
          t.run (a.search (trialQuery plan m)) = (.ok results,v) ∧
          1 ≤ results.length ∧ (results.length : Int) ≤ plan.searchLimit ∧ ∀ r ∈ results, r.IsComplete) ∧
      (∀ step, report.steps[a.capabilities.modes.length + 1]? = some step → step.ok = true →
        ∃ t v, Passes ((a.trialSteps plan).take (a.capabilities.modes.length + 1)) s t ∧
          t.run (a.search { q := "nothingshouldmatchtheseresults" }) = (.ok [],v)) := by
  have hrecords := records_runTrial (a.trialSteps plan) s
  refine ⟨_,_,rfl,hrecords.ne_nil (List.cons_ne_nil _ _),?_,hrecords.ok_of_mem_dropLast,?_,?_,?_,?_⟩
  · rw [← map_fst_trialSteps a plan]
    exact hrecords.names_prefix
  · rw [TrialReport.ok,List.all_eq_true,← map_fst_trialSteps a plan]
    exact ⟨fun h => ⟨hrecords.names_of_passes h,h⟩,And.right⟩
  · rw [TrialReport.ok,List.all_eq_true]
    exact hrecords.forall_ok_iff
  · intro i m step hm hstep hpassed
    obtain ⟨t,v,hpass,hrun⟩ := hrecords.passed_at (getElem?_trialSteps_mode hm) hstep hpassed
    obtain ⟨results,w,hsearch,hfound,hcomplete⟩ := search_of_tryMode hrun
    have hlength : results.length ≤ plan.searchLimit.toNat := length_le_of_search (by exact hlimit) hsearch
    exact ⟨t,w,results,hpass,hsearch,List.length_pos_iff.mpr hfound,by omega,hcomplete⟩
  · intro step hstep hpassed
    obtain ⟨t,v,hpass,hrun⟩ := hrecords.passed_at (getElem?_trialSteps_nothing a plan) hstep hpassed
    obtain ⟨w,hsearch⟩ := search_of_tryNothing hrun
    exact ⟨t,w,hpass,hsearch⟩

/-- A site that answers every search with the same release. -/
def careless : Agent :=
  let site := listing .size {} "<li><a href=/t>x</a><i>1 GB</i></li>"
  { site with definition := { site.definition with modes := [{ key := "search" }] } }

set_option maxRecDepth 100000 in
/-- The trial of the site finds the release in its one mode and fails where it should find nothing. -/
theorem trial_report_of_careless : ∃ report u, (careless.trial {}).run {} = (report,u) ∧
    report.steps.map (fun step => (step.name,step.ok)) = [("Testing login with valid credentials",true),
      ("Testing search mode search",true),("Testing empty results are handled",false)] ∧
    ¬report.ok = true ∧ ∃ (s t : Session) (results : List Release),
      s.run (careless.search (trialQuery {} { key := "search" })) = (.ok results,t) ∧ 1 ≤ results.length ∧
      (results.length : Int) ≤ 3 ∧ ∀ r ∈ results, r.IsComplete := by
  have hsteps : ((careless.trial {}).run {}).1.steps.map (fun step => (step.name,step.ok)) =
      [("Testing login with valid credentials",true),("Testing search mode search",true),
        ("Testing empty results are handled",false)] := by decide +kernel
  obtain ⟨report,u,hrun,-,-,-,hok,-,hmode,-⟩ := trial_report_sound careless {} (by decide) {}
  rw [hrun] at hsteps
  refine ⟨report,u,hrun,hsteps,?_,?_⟩
  · rw [hok]
    rintro ⟨hnames,-⟩
    have hlength := congrArg List.length hsteps
    have hlength' := congrArg List.length hnames
    rw [List.length_map] at hlength hlength'
    exact absurd (hlength.symm.trans hlength') (by decide)
  · have hsecond := congrArg (fun steps => steps[1]?) hsteps
    rw [List.getElem?_map] at hsecond
    obtain ⟨step,hstep,hnamed⟩ := Option.map_eq_some_iff.mp hsecond
    obtain ⟨-,hpassed⟩ := Prod.mk.inj hnamed
    obtain ⟨s,t,results,-,hfound⟩ := hmode 0 _ step rfl hstep hpassed
    exact ⟨s,t,results,hfound⟩

end Agent

end TrackerHub
