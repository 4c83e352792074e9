import Mathlib.Data.List.Basic
import TrackerHub.Proofs.Aggregate.FairTurns

/-! # Members of the aggregate

What the members of the aggregate give to a search. A member that is made, presents itself and answers
gives its results, and any other one gives none; whether it can be closed makes no difference. The
members begin one after the other, each with the state that the one before it leaves.
-/
namespace TrackerHub.Aggregate
variable {σ ε α β : Type}

/-- The outcome of a step and the state that it leaves. -/
def after (s : σ) (w : Step σ ε α) : Except ε α × σ := w.run.run s

theorem after_bind (s : σ) (w : Step σ ε α) (f : α → Step σ ε β) :
    after s (w >>= f) = match after s w with
      | (.ok x,t) => after t (f x)
      | (.error e,t) => (.error e,t) := by
  change ExceptT.bindCont f (after s w).1 (after s w).2 = _
  rcases after s w with ⟨_ | _,_⟩ <;> rfl

theorem run_then (s : σ) (x : StateM σ α) (f : α → StateM σ β) :
    (x >>= f).run s = (f (x.run s).1).run (x.run s).2 := rfl

theorem run_mapM_concat (s : σ) (f : α → StateM σ β) (xs : List α) (x : α) :
    ((xs ++ [x]).mapM f).run s =
      let before := (xs.mapM f).run s
      let last := (f x).run before.2
      (before.1 ++ [last.1],last.2) := by
  rw [List.mapM_append,List.mapM_cons]
  rfl

/-- The results of a tracker that presents itself first. -/
def resultsOf (t : Tracker σ ε) (q : Query) : Step σ ε (List Release) := do
  let _ ← t.info
  t.search q

/-- Whether a member is made, presents itself and then answers with these results. -/
def Answers (q : Query) (maker : TrackerMaker σ ε) (s : σ) (results : List Release) : Prop :=
  ∃ t s₁ i s₂ s₃, after s maker = (.ok t,s₁) ∧ after s₁ t.info = (.ok i,s₂) ∧
    after s₂ (t.search q) = (.ok results,s₃)

/-- Whether a group is what a member gives: its results if it answers, and nothing if it does not. -/
def Contributes (q : Query) (maker : TrackerMaker σ ε) (s : σ) (group : List Release) : Prop :=
  (∀ results, Answers q maker s results → group = results) ∧
    ((¬∃ results, Answers q maker s results) → group = [])

def isMade (maker : TrackerMaker σ ε) (s : σ) : Bool := (after s maker).1.isOk

/-- The state that a member begins with: that which the members before it leave. -/
def stateBefore (makers : List (TrackerMaker σ ε)) (q : Query) (s : σ) (a : Nat) : σ :=
  (((makers.take a).mapM (searchMember q)).run s).2

section
variable {q : Query} {maker : TrackerMaker σ ε} {s : σ}

/-- A member that is made is asked for its results, and then it is closed whatever they are. -/
theorem run_searchMember : (searchMember q maker).run s =
    match after s maker with
    | (.error _,s₁) => ([],s₁)
    | (.ok t,s₁) =>
      let found := after s₁ (resultsOf t q)
      (found.1.toOption.getD [],(after found.2 t.close).2) := by
  unfold searchMember
  rw [run_then]
  have hmade : maker.run.run s = after s maker := rfl
  rw [hmade]
  rcases after s maker with ⟨e | t,s₁⟩
  · rfl
  dsimp only
  rw [run_then,run_then]
  have hfound : (do let _ ← t.info; t.search q : Step σ ε (List Release)).run.run s₁ =
      after s₁ (resultsOf t q) := rfl
  rw [hfound]
  rcases after s₁ (resultsOf t q) with ⟨e | results,s₂⟩ <;> rfl

theorem after_resultsOf_eq_ok {t : Tracker σ ε} {results : List Release} {u : σ} :
    after s (resultsOf t q) = (.ok results,u) ↔
      ∃ i s₁, after s t.info = (.ok i,s₁) ∧ after s₁ (t.search q) = (.ok results,u) := by
  unfold resultsOf
  rw [after_bind]
  rcases after s t.info with ⟨e | i,s₁⟩
  · simp
  · constructor
    · intro h
      exact ⟨i,s₁,rfl,h⟩
    · rintro ⟨j,s₂,heq,h⟩
      cases heq
      exact h

theorem answers_iff {results : List Release} : Answers q maker s results ↔
    ∃ t s₁ s₂, after s maker = (.ok t,s₁) ∧ after s₁ (resultsOf t q) = (.ok results,s₂) := by
  constructor
  · rintro ⟨t,s₁,i,s₂,s₃,hm,hi,hr⟩
    exact ⟨t,s₁,s₃,hm,after_resultsOf_eq_ok.mpr ⟨i,s₂,hi,hr⟩⟩
  · rintro ⟨t,s₁,s₃,hm,hr⟩
    obtain ⟨i,s₂,hi,hr⟩ := after_resultsOf_eq_ok.mp hr
    exact ⟨t,s₁,i,s₂,s₃,hm,hi,hr⟩

/-- Where a member fails makes no difference, and whether it can be closed makes none either. -/
theorem contributes_found : Contributes q maker s ((searchMember q maker).run s).1 := by
  constructor
  · intro results h
    obtain ⟨t,s₁,s₂,hm,hr⟩ := answers_iff.mp h
    simp only [run_searchMember,hm,hr]
    rfl
  · intro h
    rw [run_searchMember]
    rcases hm : after s maker with ⟨e | t,s₁⟩
    · rfl
    · rcases hr : after s₁ (resultsOf t q) with ⟨e | results,s₂⟩
      · simp only [hr]
        rfl
      · exact absurd ⟨results,answers_iff.mpr ⟨t,s₁,s₂,hm,hr⟩⟩ h

end

section
variable (makers : List (TrackerMaker σ ε)) (q : Query) (s : σ)

theorem stateBefore_concat (maker : TrackerMaker σ ε) {a : Nat} (ha : a ≤ makers.length) :
    stateBefore (makers ++ [maker]) q s a = stateBefore makers q s a := by
  simp only [stateBefore,List.take_append_of_le_length ha]

theorem stateBefore_length :
    stateBefore makers q s makers.length = ((makers.mapM (searchMember q)).run s).2 := by
  rw [stateBefore,List.take_length]

/-- The groups of a search are what each member gives in the state that it begins with. -/
theorem groups_eq : ((makers.mapM (searchMember q)).run s).1 =
    makers.mapIdx fun a maker => ((searchMember q maker).run (stateBefore makers q s a)).1 := by
  induction makers using List.reverseRecOn with
  | nil => rfl
  | append_singleton makers maker ih =>
    rw [run_mapM_concat,List.mapIdx_append]
    dsimp only
    rw [ih]
    congr 1
    · refine List.ext_getElem (by simp) fun a ha hb => ?_
      rw [List.length_mapIdx] at ha
      simp only [List.getElem_mapIdx,stateBefore_concat makers q s maker (Nat.le_of_lt ha)]
    · rw [List.mapIdx_singleton,Nat.zero_add,stateBefore_concat makers q s maker (Nat.le_refl _),
        stateBefore_length]

end

/-- What happens to the tracker of a member. -/
inductive Event where
  | made (member : Nat)
  | closed (member : Nat)
  deriving Repr, DecidableEq

/-- A step with a log beside its state, to which it adds some events. -/
def logging (events : List Event) (w : Step σ ε α) : Step (σ × List Event) ε α :=
  fun (s,log) => ((after s w).1,((after s w).2,log ++ events))

/-- A tracker that logs when it is closed. -/
def watched (a : Nat) (t : Tracker σ ε) : Tracker (σ × List Event) ε where
  info := logging [] t.info
  capabilities := logging [] t.capabilities
  search q := logging [] (t.search q)
  close := logging [.closed a] t.close

/-- A maker that logs when its tracker is made and when it is closed. -/
def watchedMaker (a : Nat) (maker : TrackerMaker σ ε) : TrackerMaker (σ × List Event) ε :=
  fun (s,log) =>
    match after s maker with
    | (.ok t,s₁) => (.ok (watched a t),(s₁,log ++ [.made a]))
    | (.error e,s₁) => (.error e,(s₁,log))

/-- What happens to the tracker of a member in a search. -/
def lifeOf (makers : List (TrackerMaker σ ε)) (q : Query) (s : σ) (a : Nat) : List Event :=
  if makers[a]?.any (isMade · (stateBefore makers q s a)) then [.made a,.closed a] else []

section
variable {q : Query} {s : σ} {log : List Event}

theorem after_resultsOf_watched (a : Nat) (t : Tracker σ ε) :
    after (s,log) (resultsOf (watched a t) q) =
      ((after s (resultsOf t q)).1,((after s (resultsOf t q)).2,log)) := by
  have hinfo : after (s,log) (watched a t).info =
      ((after s t.info).1,((after s t.info).2,log ++ [])) := rfl
  rw [resultsOf,resultsOf,after_bind,after_bind,hinfo,List.append_nil]
  rcases after s t.info with ⟨e | i,s₁⟩
  · rfl
  · change ((after s₁ (t.search q)).1,((after s₁ (t.search q)).2,log ++ [])) = _
    rw [List.append_nil]

/-- Watching a member changes nothing, and the log has it made and closed once, or not at all. -/
theorem run_searchMember_watched (a : Nat) (maker : TrackerMaker σ ε) :
    (searchMember q (watchedMaker a maker)).run (s,log) =
      (((searchMember q maker).run s).1,(((searchMember q maker).run s).2,
        log ++ if isMade maker s then [.made a,.closed a] else [])) := by
  have hmade : after (s,log) (watchedMaker a maker) = match after s maker with
      | (.ok t,s₁) => (.ok (watched a t),(s₁,log ++ [.made a]))
      | (.error e,s₁) => (.error e,(s₁,log)) := rfl
  rw [run_searchMember,run_searchMember,hmade,isMade]
  rcases hm : after s maker with ⟨e | t,s₁⟩
  · simp [Except.isOk,Except.toBool]
  · simp only [after_resultsOf_watched,Except.isOk,Except.toBool,if_true]
    rw [show [Event.made a,.closed a] = [.made a] ++ [.closed a] from rfl,← List.append_assoc]
    rfl

theorem run_mapM_watched (makers : List (TrackerMaker σ ε)) (q : Query) (s : σ) :
    ((makers.mapIdx watchedMaker).mapM (searchMember q)).run (s,[]) =
      (((makers.mapM (searchMember q)).run s).1,(((makers.mapM (searchMember q)).run s).2,
        (List.range makers.length).flatMap (lifeOf makers q s))) := by
  induction makers using List.reverseRecOn with
  | nil => rfl
  | append_singleton makers maker ih =>
    have hlives : (List.range makers.length).flatMap (lifeOf (makers ++ [maker]) q s) =
        (List.range makers.length).flatMap (lifeOf makers q s) := by
      refine List.flatMap_congr fun a ha => ?_
      rw [List.mem_range] at ha
      rw [lifeOf,lifeOf,stateBefore_concat makers q s maker (Nat.le_of_lt ha),
        List.getElem?_append_left ha]
    rw [List.mapIdx_append,List.mapIdx_singleton,Nat.zero_add,run_mapM_concat,run_mapM_concat,ih]
    dsimp only
    rw [run_searchMember_watched,List.length_append,List.length_singleton,List.range_succ,
      List.flatMap_append,hlives,List.flatMap_singleton,lifeOf,
      stateBefore_concat makers q s maker (Nat.le_refl _),stateBefore_length]
    simp

end

/-- What happens to the trackers of the first members of an aggregate is that each of them that is made
is made once and closed once. -/
theorem count_lives (makers : List (TrackerMaker σ ε)) (q : Query) (s : σ) (n a : Nat) {e : Event}
    (he : e = .made a ∨ e = .closed a) :
    ((List.range n).flatMap (lifeOf makers q s)).count e =
      if a < n ∧ makers[a]?.any (isMade · (stateBefore makers q s a)) then 1 else 0 := by
  have hlife : ∀ b, (lifeOf makers q s b).count e =
      if b = a ∧ makers[a]?.any (isMade · (stateBefore makers q s a)) then 1 else 0 := by
    intro b
    by_cases hb : b = a
    · subst hb
      unfold lifeOf
      rcases he with rfl | rfl <;> split <;> simp_all
    · have hne : ¬a = b := fun h => hb h.symm
      unfold lifeOf
      rcases he with rfl | rfl <;> split <;> simp [hb]
  induction n with
  | zero => simp
  | succ n ih =>
    rw [List.range_succ,List.flatMap_append,List.count_append,ih,List.flatMap_singleton,hlife]
    by_cases hn : n = a
    · simp [hn]
    · by_cases hlt : a < n
      · simp [hn,hlt,Nat.lt_succ_of_lt hlt]
      · have hge : ¬a < n + 1 := by omega
        simp [hn,hlt,hge]

/-- A search of the aggregate never fails. It takes the results of its members in turn: those of a
member that is made, presents itself and answers, and nothing of any other. Each result comes once, in
the order of rounds and then of members, so that at any point no member is ahead of another that has
results left by more than one. Each member that is made is closed once. -/
theorem search_merges_fairly (makers : List (TrackerMaker σ ε)) (q : Query) (s : σ) :
    ∃ (groups : List (List Release)) (turns : List Turn) (merged result : List Release) (u : σ)
      (log : List Event),
    after s ((tracker makers).search q) = (.ok result,u) ∧
    result = (if 0 < q.limit then merged.take q.limit.toNat else merged) ∧
    groups.length = makers.length ∧
    (∀ a maker, makers[a]? = some maker → ∃ group, groups[a]? = some group ∧
      Contributes q maker (stateBefore makers q s a) group) ∧
    TakesTurns groups turns merged ∧ turns.Nodup ∧
    (∀ m n (hm : m < turns.length) (hn : n < turns.length), turns[m].Before turns[n] ↔ m < n) ∧
    (∀ a, turns.filter (·.group == a) = (List.range (groupSize groups a)).map fun i => ⟨i,a⟩) ∧
    (∀ n a b, share turns n a ≤ share turns n b + 1 ∨
      share turns n b = groupSize groups b) ∧
    after (s,[]) ((tracker (makers.mapIdx watchedMaker)).search q) = (.ok result,(u,log)) ∧
    (∀ a, log.count (.made a) =
      if makers[a]?.any (isMade · (stateBefore makers q s a)) then 1 else 0) ∧
    ∀ a, log.count (.closed a) = log.count (.made a) := by
  have hgroups := groups_eq makers q s
  have hwatched := run_mapM_watched makers q s
  generalize hrun : (makers.mapM (searchMember q)).run s = run at hgroups hwatched
  obtain ⟨groups,u⟩ := run
  dsimp only at hgroups hwatched
  have hmerge := takesTurns_interleave groups
  -- Each member that is made is logged as made once and as closed once.
  have hcount : ∀ a e, e = .made a ∨ e = .closed a →
      ((List.range makers.length).flatMap (lifeOf makers q s)).count e =
        if makers[a]?.any (isMade · (stateBefore makers q s a)) then 1 else 0 := by
    intro a e he
    rw [count_lives makers q s makers.length a he]
    by_cases ha : a < makers.length
    · simp [ha]
    · simp [ha]
  refine ⟨groups,allTurns groups,interleave groups,q.cut (interleave groups),u,
    (List.range makers.length).flatMap (lifeOf makers q s),?_,rfl,?_,?_,hmerge,hmerge.nodup,
    fun m n hm hn => hmerge.before_iff hm hn,hmerge.turns_of_group,hmerge.share_balanced,?_,
    fun a => hcount a _ (.inl rfl),fun a => (hcount a _ (.inr rfl)).trans (hcount a _ (.inl rfl)).symm⟩
  · change (Except.ok (q.cut (interleave ((makers.mapM (searchMember q)).run s).1)),
      ((makers.mapM (searchMember q)).run s).2) = _
    rw [hrun]
  · rw [hgroups,List.length_mapIdx]
  · intro a maker ha
    refine ⟨((searchMember q maker).run (stateBefore makers q s a)).1,?_,contributes_found⟩
    rw [hgroups,List.getElem?_mapIdx,ha]
    rfl
  · change (Except.ok (q.cut (interleave (((makers.mapIdx watchedMaker).mapM
      (searchMember q)).run (s,[])).1)),(((makers.mapIdx watchedMaker).mapM
      (searchMember q)).run (s,[])).2) = _
    rw [hwatched]

end TrackerHub.Aggregate
