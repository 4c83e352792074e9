import TrackerHub.Proofs.Agent.PageTest

/-! # Authentication

A login is a row of steps that ends with the first one that fails. An agent with a login is
authenticated once the test of the login passes, or once it has taken all the steps.
-/
namespace TrackerHub.Agent
open Web (Session)
open Web.Session (KeepsSent)

def submitCredentials (a : Agent) : Working Unit := do
  let login := a.definition.login
  let url ← a.resolve login.path
  let inputs ← lift .template a.loginInputs
  match login.method with
  | .post => browse (Session.postForm a.server url inputs)
  | .cookie => browse (Session.setCookies url ((inputs.find? "cookie").getD ""))
  | .form => a.loginByForm url login.form inputs

def confirmLogin (a : Agent) : Working Unit := do
  if !(← a.passesTest a.definition.login.test) then throw (.login "Login check after login failed")

def loginSteps (a : Agent) : List (Working Unit) := [
  a.checkSettings a.definition.settings, a.submitCredentials,
  a.checkErrors a.definition.login.errors, a.confirmLogin]

def runSteps : List (Working Unit) → Working Unit
  | [] => return
  | step :: rest => do
    step
    runSteps rest

section
variable {a : Agent} {s u : Session} {e : AgentError}

/-- Steps fail with the first of them that fails, where that one leaves off. -/
theorem runSteps_eq_error_iff {steps : List (Working Unit)} :
    s.run (runSteps steps) = (.error e,u) ↔ ∃ before step after v,
      steps = before ++ step :: after ∧ s.run (runSteps before) = (.ok (),v) ∧
      v.run step = (.error e,u) := by
  constructor
  · intro h
    induction steps generalizing s with
    | nil => cases h
    | cons step rest ih =>
      rcases hr : s.run step with ⟨f | _,v⟩
      · rw [runSteps,Session.run_bind_of_error hr] at h
        cases h
        exact ⟨[],step,rest,s,rfl,rfl,hr⟩
      · rw [runSteps,Session.run_bind_of_ok hr] at h
        obtain ⟨before,next,after,w,rfl,hw,hnext⟩ := ih h
        refine ⟨step :: before,next,after,w,rfl,?_,hnext⟩
        rw [runSteps,Session.run_bind_of_ok hr]
        exact hw
  · rintro ⟨before,step,after,v,rfl,hb,hs⟩
    induction before generalizing s with
    | nil =>
      cases hb
      exact Session.run_bind_of_error hs
    | cons first before ih =>
      obtain ⟨_,w,hw,hb⟩ := Session.run_bind_eq_ok.mp hb
      rw [List.cons_append,runSteps,Session.run_bind_of_ok hw]
      exact ih hb

theorem keepsSent_runSteps {steps : List (Working Unit)} (h : ∀ step ∈ steps, KeepsSent step) :
    KeepsSent (runSteps steps) := by
  induction steps with
  | nil => exact KeepsSent.pure _
  | cons step rest ih =>
    exact KeepsSent.bind (h step List.mem_cons_self) fun _ =>
      ih fun next hn => h next (List.mem_cons_of_mem step hn)

theorem login_eq (h : a.definition.login.declared = true) : a.login = runSteps a.loginSteps := by
  unfold login loginSteps submitCredentials confirmLogin
  simp only [runSteps,h,Bool.not_true,Bool.false_eq_true,if_false,bind_assoc]
  refine bind_congr fun _ => bind_congr fun url => bind_congr fun inputs => ?_
  cases a.definition.login.method <;> simp only [bind_pure_unit]

/-- The first setting without a value stops a login before anything is sent. -/
theorem run_checkSettings (settings : List Setting) : s.run (a.checkSettings settings) =
    (match settings.find? fun x => (a.sites.get? a.definition.site x.name).isNone with
      | none => .ok ()
      | some x => .error (.noSetting a.definition.site x.name),s) := by
  induction settings with
  | nil => rfl
  | cons x rest ih =>
    rw [checkSettings,List.find?_cons]
    cases (a.sites.get? a.definition.site x.name).isNone with
    | true => rfl
    | false => simpa using ih

end

/-- Whether the agent was logged in from one session to another: each setting has a value, the page
after the credentials were handed over shows no error, and the test then passed, if there is one. -/
structure LoggedIn (a : Agent) (s u : Session) : Prop where
  returned : s.run a.login = (.ok (),u)
  settings : ∀ x ∈ a.definition.settings, (a.sites.get? a.definition.site x.name).isSome = true
  submitted : ∃ v : Session, s.run a.submitCredentials = (.ok (),v) ∧
    (∀ e ∈ a.definition.login.errors, ¬ErrorShown e v) ∧
    (a.definition.login.test.isEmpty = true ∧ u = v ∨ a.TestMatched a.definition.login.test v u)

/-- Whether the agent found that it has to log in: it cannot test, or the test did not pass. -/
def NeedsLogin (a : Agent) (s u : Session) : Prop :=
  a.definition.login.test.isEmpty = true ∧ u = s ∨
    a.definition.login.test.isEmpty = false ∧
      s.run (a.passesTest a.definition.login.test) = (.ok false,u)

/-- Whether the agent was authenticated from one session to another: the test of the login passed,
or it logged in. -/
def Authenticated (a : Agent) (s u : Session) : Prop :=
  a.TestMatched a.definition.login.test s u ∨ ∃ v, a.NeedsLogin s v ∧ a.LoggedIn v u

/-- Whether the authentication failed: the test of the login failed, or a step of the login did. -/
def Blocked (a : Agent) (s : Session) (e : AgentError) (u : Session) : Prop :=
  a.definition.login.test.isEmpty = false ∧
      s.run (a.passesTest a.definition.login.test) = (.error e,u) ∨
    ∃ v before step after w, a.NeedsLogin s v ∧ a.loginSteps = before ++ step :: after ∧
      v.run (runSteps before) = (.ok (),w) ∧ w.run step = (.error e,u)

section
variable {a : Agent} {s u : Session} {e : AgentError}

/-- A login that returns has done all its steps. -/
theorem loggedIn_iff (hd : a.definition.login.declared = true) :
    a.LoggedIn s u ↔ s.run a.login = (.ok (),u) := by
  refine ⟨fun h => h.returned,fun hr => ?_⟩
  have h := hr
  rw [login_eq hd] at h
  simp only [loginSteps,runSteps] at h
  -- The session after each of the four steps.
  obtain ⟨_,v₁,hset,h⟩ := Session.run_bind_eq_ok.mp h
  obtain ⟨_,v₂,hsub,h⟩ := Session.run_bind_eq_ok.mp h
  obtain ⟨_,v₃,herr,h⟩ := Session.run_bind_eq_ok.mp h
  obtain ⟨_,v₄,htest,h⟩ := Session.run_bind_eq_ok.mp h
  cases h
  obtain ⟨rfl,hnone⟩ := run_checkErrors_eq_ok herr
  rw [run_checkSettings] at hset
  have hsettings : ∀ x ∈ a.definition.settings,
      (a.sites.get? a.definition.site x.name).isSome = true := by
    cases hf : a.definition.settings.find? fun x =>
        (a.sites.get? a.definition.site x.name).isNone with
    | some x => rw [hf] at hset; cases hset
    | none => simpa [Option.isSome_iff_ne_none] using hf
  obtain rfl : s = v₁ := (Prod.mk.inj hset).2
  refine ⟨hr,hsettings,v₃,hsub,hnone,?_⟩
  unfold confirmLogin at htest
  obtain ⟨passed,w,hp,htest⟩ := Session.run_bind_eq_ok.mp htest
  cases passed with
  | false => cases htest
  | true =>
    cases htest
    cases ht : a.definition.login.test.isEmpty with
    | true =>
      rw [passesTest_of_isEmpty a ht] at hp
      cases hp
      exact .inl ⟨rfl,rfl⟩
    | false => exact .inr ((testMatched_iff ht).mpr hp)

theorem keepsSent_login (hd : a.definition.login.declared = true) : KeepsSent a.login := by
  rw [login_eq hd]
  apply keepsSent_runSteps
  intro step hs
  simp only [loginSteps,List.mem_cons,List.not_mem_nil,or_false] at hs
  rcases hs with rfl | rfl | rfl | rfl
  · exact KeepsSent.of_eq fun t => by rw [run_checkSettings]
  · refine KeepsSent.bind (a.keepsSent_resolve _) fun url =>
      KeepsSent.bind (keepsSent_lift _ _) fun inputs => ?_
    cases a.definition.login.method with
    | post => exact keepsSent_browse (Session.keepsSent_load a.server _ _ _)
    | cookie => exact keepsSent_browse (Session.keepsSent_setCookies _ _)
    | form =>
      exact KeepsSent.bind (keepsSent_browse (Session.keepsSent_load a.server _ _ _)) fun _ =>
        KeepsSent.bind KeepsSent.get fun _ => KeepsSent.bind (keepsSent_lift _ _) fun _ =>
          KeepsSent.bind (keepsSent_lift _ _) fun form =>
            keepsSent_browse (Session.keepsSent_submit a.server form)
  · exact keepsSent_checkErrors a _
  · exact KeepsSent.bind (keepsSent_passesTest a _) fun _ =>
      KeepsSent.ite (KeepsSent.throw _) (KeepsSent.pure _)

section
variable (hd : a.definition.login.declared = true)
include hd

theorem run_needsLogin : s.run a.needsLogin =
    if a.definition.login.test.isEmpty then (.ok true,s)
    else ((s.run (a.passesTest a.definition.login.test)).1.map (!·),
      (s.run (a.passesTest a.definition.login.test)).2) := by
  unfold needsLogin
  simp only [hd,Bool.not_true,Bool.false_eq_true,if_false]
  split
  · rfl
  · rw [Session.run_bind]
    rcases s.run (a.passesTest a.definition.login.test) with ⟨_ | _,_⟩ <;> rfl

theorem needsLogin_eq_true_iff : s.run a.needsLogin = (.ok true,u) ↔ a.NeedsLogin s u := by
  rw [run_needsLogin hd,NeedsLogin]
  cases a.definition.login.test.isEmpty with
  | true => simp [eq_comm]
  | false =>
    rcases s.run (a.passesTest a.definition.login.test) with ⟨_ | passed,v⟩
    · simp [Except.map]
    · simp [Except.map]

theorem needsLogin_eq_false_iff :
    s.run a.needsLogin = (.ok false,u) ↔ a.TestMatched a.definition.login.test s u := by
  rw [run_needsLogin hd]
  cases ht : a.definition.login.test.isEmpty with
  | true => simpa using fun h : a.TestMatched _ s u => by simpa [ht] using h.asks
  | false =>
    rw [testMatched_iff ht]
    rcases s.run (a.passesTest a.definition.login.test) with ⟨_ | passed,v⟩
    · simp [Except.map]
    · simp [Except.map]

theorem needsLogin_eq_error_iff : s.run a.needsLogin = (.error e,u) ↔
    a.definition.login.test.isEmpty = false ∧
      s.run (a.passesTest a.definition.login.test) = (.error e,u) := by
  rw [run_needsLogin hd]
  cases a.definition.login.test.isEmpty with
  | true => simp
  | false =>
    rcases s.run (a.passesTest a.definition.login.test) with ⟨_ | passed,v⟩
    · simp [Except.map]
    · simp [Except.map]

/-- A call goes on from the login just when the agent is authenticated. -/
theorem ensureLogin_eq_ok_iff : s.run a.ensureLogin = (.ok (),u) ↔ a.Authenticated s u := by
  rw [ensureLogin,Session.run_bind_eq_ok,Authenticated]
  constructor
  · rintro ⟨needed,v,hn,h⟩
    cases needed with
    | false =>
      cases h
      exact .inl ((needsLogin_eq_false_iff hd).mp hn)
    | true => exact .inr ⟨v,(needsLogin_eq_true_iff hd).mp hn,(loggedIn_iff hd).mpr h⟩
  · rintro (h | ⟨v,hn,h⟩)
    · exact ⟨false,u,(needsLogin_eq_false_iff hd).mpr h,rfl⟩
    · exact ⟨true,v,(needsLogin_eq_true_iff hd).mpr hn,h.returned⟩

/-- A call ends at the login just when the authentication failed. -/
theorem ensureLogin_eq_error_iff : s.run a.ensureLogin = (.error e,u) ↔ a.Blocked s e u := by
  rw [ensureLogin,Session.run_bind_eq_error,needsLogin_eq_error_iff hd,Blocked]
  refine or_congr_right ⟨?_,?_⟩
  · rintro ⟨needed,v,hn,h⟩
    cases needed with
    | false => cases h
    | true =>
      rw [if_pos rfl,login_eq hd] at h
      obtain ⟨before,step,after,w,heq,hb,hs⟩ := runSteps_eq_error_iff.mp h
      exact ⟨v,before,step,after,w,(needsLogin_eq_true_iff hd).mp hn,heq,hb,hs⟩
  · rintro ⟨v,before,step,after,w,hn,heq,hb,hs⟩
    refine ⟨true,v,(needsLogin_eq_true_iff hd).mpr hn,?_⟩
    rw [if_pos rfl,login_eq hd]
    exact runSteps_eq_error_iff.mpr ⟨before,step,after,w,heq,hb,hs⟩

theorem keepsSent_ensureLogin : KeepsSent a.ensureLogin := by
  have needs : KeepsSent a.needsLogin := by
    intro t
    have ht := keepsSent_passesTest a a.definition.login.test t
    rw [run_needsLogin hd]
    split
    · exact List.prefix_refl t.sent
    · exact ht
  exact KeepsSent.bind needs fun _ => KeepsSent.ite (keepsSent_login hd) (KeepsSent.pure _)

end

end

end TrackerHub.Agent
