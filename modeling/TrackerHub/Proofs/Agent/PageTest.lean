import TrackerHub.Proofs.Web.SentRequests

/-! # Tests of pages

What it takes for a page to pass a test or to show an error. A test may open its page first: then
the page that is there afterwards must be the one asked for, and the browser must have reported no
failure.
-/
namespace TrackerHub.Agent
open Web (Session)
open Web.Session (KeepsSent)

/-- Opens the first page of a session if a test needs one. -/
def settle (a : Agent) (t : PageTest) : Working Unit := do
  if (← session).url?.isNone && t.path.isEmpty then
    let _ ← a.currentUrl

/-- Whether the page at a path is there once it is opened. -/
def reaches (a : Agent) (path : String) : Working Bool := do
  if path.isEmpty then return true
  let url ← a.resolve path
  if !(← a.tryOpen url) then return false
  return (← get).url? == some url.toList

/-- Whether the page has what a selector looks for. -/
def hasMark (selector : String) : Working Bool := do
  if selector.isEmpty then return true
  pageHas selector

section
variable (a : Agent) {t : PageTest} {s u : Session}

theorem passesTest_of_isEmpty (h : t.isEmpty = true) : a.passesTest t = pure true := by
  unfold passesTest
  rw [if_pos h]

/-- A test settles on a page, goes to its own and looks for its mark. -/
theorem passesTest_eq (h : t.isEmpty = false) : a.passesTest t = do
    a.settle t
    if ← a.reaches t.path then hasMark t.selector else return false := by
  unfold passesTest settle reaches hasMark
  cases hp : t.path.isEmpty with
  | true =>
    simp only [h,Bool.false_eq_true,if_false,Bool.and_true,Bool.not_true,bind_assoc,if_true,pure_bind]
    refine bind_congr fun x => ?_
    split <;> simp
  | false =>
    simp only [h,Bool.false_eq_true,if_false,Bool.and_false,Bool.not_false,bind_assoc,if_true,pure_bind]
    refine bind_congr fun _ => bind_congr fun url => bind_congr fun opened => ?_
    cases opened with
    | false => simp
    | true => simp [bne]

theorem run_reaches_true {path : String} (hp : path.isEmpty = false)
    (h : s.run (a.reaches path) = (.ok true,u)) :
    ∃ url v, s.run (a.resolve path) = (.ok url,v) ∧ v.run (a.tryOpen url) = (.ok true,u) ∧
      u.url? = some url.toList := by
  unfold reaches at h
  rw [if_neg (by simp [hp])] at h
  obtain ⟨url,v,hurl,h⟩ := Session.run_bind_eq_ok.mp h
  obtain ⟨opened,w,hopen,h⟩ := Session.run_bind_eq_ok.mp h
  cases opened with
  | false => cases h
  | true =>
    obtain ⟨x,y,hget,h⟩ := Session.run_bind_eq_ok.mp h
    cases hget
    rw [Session.run_pure,Prod.mk.injEq,Except.ok.injEq,beq_iff_eq] at h
    obtain ⟨hu,rfl⟩ := h
    exact ⟨url,v,hurl,hopen,hu⟩

theorem run_pageHas (selector : String) : s.run (pageHas selector) =
    (((readSelectors selector).mapError .extract).map fun l => (s.place.selectOne? l).isSome,s) := by
  unfold pageHas
  rw [Session.run_bind,run_lift]
  cases readSelectors selector <;> rfl

/-- Whether something that a selector matches stands on the page of a session. -/
def Marked (s : Session) (selector : String) : Prop :=
  ∃ l, readSelectors selector = .ok l ∧ (s.place.selectOne? l).isSome = true

theorem run_pageHas_eq_ok {selector : String} {b : Bool} (h : s.run (pageHas selector) = (.ok b,u)) :
    u = s ∧ (b = true ↔ Marked s selector) := by
  rw [run_pageHas] at h
  unfold Marked
  cases hl : readSelectors selector with
  | error e => rw [hl] at h; cases h
  | ok l =>
    rw [hl] at h
    cases h
    exact ⟨rfl,by simp⟩

theorem run_hasMark_eq_ok {selector : String} {b : Bool} (h : s.run (hasMark selector) = (.ok b,u)) :
    u = s ∧ (b = true ↔ (selector.isEmpty = false → Marked s selector)) := by
  unfold hasMark at h
  split at h
  next he =>
    cases h
    exact ⟨rfl,by simp [he]⟩
  next he =>
    obtain ⟨hu,hm⟩ := run_pageHas_eq_ok h
    exact ⟨hu,by simpa [he] using hm⟩

theorem run_settle_of_path (hp : t.path.isEmpty = false) {x : Unit}
    (h : s.run (a.settle t) = (.ok x,u)) : u = s := by
  unfold settle at h
  obtain ⟨v,w,hs,h⟩ := Session.run_bind_eq_ok.mp h
  rw [run_session] at hs
  rw [if_neg (by simp [hp])] at h
  cases h
  exact (Prod.mk.inj hs).2.symm

end

/-- Whether a test that asks for something was evaluated from one session to another and passed:
its page was opened and is the one asked for, and its mark stands on it. -/
structure TestMatched (a : Agent) (t : PageTest) (s u : Session) : Prop where
  asks : t.isEmpty = false
  passed : s.run (a.passesTest t) = (.ok true,u)
  page : t.path.isEmpty = false → ∃ (url : String) (v : Session),
    s.run (a.resolve t.path) = (.ok url,v) ∧ v.run (a.tryOpen url) = (.ok true,u) ∧
      u.url? = some url.toList
  mark : t.selector.isEmpty = false → Marked u t.selector

section
variable {a : Agent} {t : PageTest} {s u : Session}

/-- A test that passes has found the page and the mark that it asks for. -/
theorem testMatched_iff (h : t.isEmpty = false) :
    a.TestMatched t s u ↔ s.run (a.passesTest t) = (.ok true,u) := by
  refine ⟨fun m => m.passed,fun hpass => ?_⟩
  -- The three parts of the test have passed in turn, and the last two leave the page as it is.
  have hr := hpass
  rw [passesTest_eq a h] at hr
  obtain ⟨_,v,hsettle,hr⟩ := Session.run_bind_eq_ok.mp hr
  obtain ⟨found,w,hreach,hr⟩ := Session.run_bind_eq_ok.mp hr
  cases found with
  | false => cases hr
  | true =>
    obtain ⟨rfl,hmark⟩ := run_hasMark_eq_ok hr
    refine ⟨h,hpass,fun hp => ?_,hmark.mp rfl⟩
    obtain rfl := run_settle_of_path a hp hsettle
    exact run_reaches_true a hp hreach

/-- Whether the page of a session shows an error: it stands at the path of the error, and has its
mark. -/
structure ErrorShown (e : ErrorBlock) (s : Session) : Prop where
  asks : e.path.isEmpty = false ∨ e.selector.isEmpty = false
  page : e.path.isEmpty = false → ∃ url, Web.Url.parse (s.url?.getD []) = .ok url ∧
    url.path = e.path.toList
  mark : e.selector.isEmpty = false → Marked s e.selector

/-- Looking for an error leaves the session as it is and finds out whether the error is shown. -/
theorem run_showsError_eq_ok {e : ErrorBlock} {b : Bool} (h : s.run (showsError e) = (.ok b,u)) :
    u = s ∧ (b = true ↔ ErrorShown e s) := by
  unfold showsError at h
  cases hp : e.path.isEmpty with
  | true =>
    cases hs : e.selector.isEmpty with
    | true =>
      simp only [hp,hs,Bool.and_self,if_true] at h
      cases h
      exact ⟨rfl,by simp,fun hx => by simpa [hp,hs] using hx.asks⟩
    | false =>
      simp only [hp,hs,Bool.and_false,Bool.not_true,Bool.false_eq_true,if_false] at h
      obtain ⟨rfl,hm⟩ := run_pageHas_eq_ok h
      exact ⟨rfl,hm.trans ⟨fun m => ⟨.inr hs,by simp [hp],fun _ => m⟩,fun hx => hx.mark hs⟩⟩
  | false =>
    simp only [hp,Bool.false_and,Bool.not_false,Bool.false_eq_true,if_false,if_true] at h
    rw [Session.run_bind_of_ok (Session.run_get s)] at h
    cases hu : Web.Url.parse (s.url?.getD []) with
    | error f => rw [hu] at h; cases h
    | ok url =>
      rw [hu,Session.run_bind_of_ok (run_lift s AgentError.url (.ok url))] at h
      -- Only on the path of the error is the mark looked for.
      by_cases hpath : url.path = e.path.toList
      · rw [if_neg (by simp [hpath])] at h
        obtain ⟨rfl,hm⟩ := run_hasMark_eq_ok h
        exact ⟨rfl,hm.trans ⟨fun m => ⟨.inl hp,fun _ => ⟨url,hu,hpath⟩,m⟩,fun hx => hx.mark⟩⟩
      · rw [if_pos (by simpa [bne_iff_ne] using hpath)] at h
        cases h
        refine ⟨rfl,by simp,fun hx => ?_⟩
        obtain ⟨other,ho,hpo⟩ := hx.page hp
        rw [hu,Except.ok.injEq] at ho
        rw [← ho] at hpo
        exact absurd hpo hpath

/-- Errors are looked for one after the other, and a page that passes shows none of them. -/
theorem run_checkErrors_eq_ok {errors : List ErrorBlock} {x : Unit}
    (h : s.run (a.checkErrors errors) = (.ok x,u)) : u = s ∧ ∀ e ∈ errors, ¬ErrorShown e s := by
  induction errors with
  | nil => cases h; simp
  | cons e rest ih =>
    rw [checkErrors] at h
    obtain ⟨shown,v,hshown,h⟩ := Session.run_bind_eq_ok.mp h
    obtain ⟨rfl,he⟩ := run_showsError_eq_ok hshown
    cases shown with
    | true =>
      obtain ⟨text,w,-,h⟩ := Session.run_bind_eq_ok.mp h
      cases h
    | false =>
      obtain ⟨hu,hrest⟩ := ih h
      exact ⟨hu,List.forall_mem_cons.mpr ⟨by simpa using he,hrest⟩⟩

theorem keepsSent_passesTest (a : Agent) (t : PageTest) : KeepsSent (a.passesTest t) := by
  cases h : t.isEmpty with
  | true =>
    rw [passesTest_of_isEmpty a h]
    exact KeepsSent.pure _
  | false =>
    have settles : KeepsSent (a.settle t) :=
      KeepsSent.bind keepsSent_session fun _ => KeepsSent.ite
        (KeepsSent.bind a.keepsSent_currentUrl fun _ => KeepsSent.pure _) (KeepsSent.pure _)
    have finds : KeepsSent (a.reaches t.path) :=
      KeepsSent.ite (KeepsSent.pure _) <| KeepsSent.bind (a.keepsSent_resolve t.path) fun _ =>
        KeepsSent.bind (a.keepsSent_tryOpen _) fun _ => KeepsSent.ite (KeepsSent.pure _) <|
          KeepsSent.bind KeepsSent.get fun _ => KeepsSent.pure _
    have marks : KeepsSent (hasMark t.selector) :=
      KeepsSent.ite (KeepsSent.pure _) (keepsSent_pageHas _)
    rw [passesTest_eq a h]
    exact KeepsSent.bind settles fun _ => KeepsSent.bind finds fun _ =>
      KeepsSent.ite marks (KeepsSent.pure _)

theorem keepsSent_checkErrors (a : Agent) (errors : List ErrorBlock) :
    KeepsSent (a.checkErrors errors) := by
  have shows (e : ErrorBlock) : KeepsSent (showsError e) := by
    have marks : KeepsSent (hasMark e.selector) :=
      KeepsSent.ite (KeepsSent.pure _) (keepsSent_pageHas _)
    exact KeepsSent.ite (KeepsSent.pure _) <| KeepsSent.ite
      (KeepsSent.bind KeepsSent.get fun _ => KeepsSent.bind (keepsSent_lift _ _) fun _ =>
        KeepsSent.ite (KeepsSent.pure _) marks) marks
  have texts (e : ErrorBlock) : KeepsSent (a.errorText e) :=
    KeepsSent.bind KeepsSent.get fun _ => KeepsSent.ite (keepsSent_lift _ _) <|
      KeepsSent.ite (KeepsSent.pure _) <| KeepsSent.bind (keepsSent_lift _ _) fun _ =>
        KeepsSent.pure _
  induction errors with
  | nil => exact KeepsSent.pure _
  | cons e rest ih =>
    exact KeepsSent.bind (shows e) fun _ => KeepsSent.ite
      (KeepsSent.bind (texts e) fun _ => KeepsSent.bind (KeepsSent.throw _) fun _ => ih) ih

end

end TrackerHub.Agent
