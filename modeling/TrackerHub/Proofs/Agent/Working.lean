import TrackerHub.Agent.Basic

/-! # Steps over sessions

What a step makes of the session it is given. Steps follow one another until one fails; what they
did up to there stays.
-/
namespace TrackerHub.Web.Session
variable {ε α β : Type}

/-- What a step gives on a session, and the session that it leaves. -/
def run (s : Session) (w : ExceptT ε (StateM Session) α) : Except ε α × Session := w s

@[simp] theorem run_pure (s : Session) (x : α) :
    s.run (pure x : ExceptT ε (StateM Session) α) = (.ok x,s) := rfl

@[simp] theorem run_throw (s : Session) (e : ε) :
    s.run (throw e : ExceptT ε (StateM Session) α) = (.error e,s) := rfl

@[simp] theorem run_get (s : Session) :
    s.run (get : ExceptT ε (StateM Session) Session) = (.ok s,s) := rfl

@[simp] theorem run_set (s t : Session) :
    s.run (set t : ExceptT ε (StateM Session) PUnit) = (.ok ⟨⟩,t) := rfl

@[simp] theorem run_modify (s : Session) (f : Session → Session) :
    s.run (modify f : ExceptT ε (StateM Session) PUnit) = (.ok ⟨⟩,f s) := rfl

/-- A step that follows another works on the session that the first one leaves. -/
theorem run_bind (s : Session) (w : ExceptT ε (StateM Session) α)
    (f : α → ExceptT ε (StateM Session) β) :
    s.run (w >>= f) = match s.run w with
      | (.ok x,t) => t.run (f x)
      | (.error e,t) => (.error e,t) := by
  change ExceptT.bindCont f (w s).1 (w s).2 = match w s with
      | (.ok x,t) => t.run (f x)
      | (.error e,t) => (.error e,t)
  rcases w s with ⟨_ | _,_⟩ <;> rfl

theorem run_bind_of_ok {s t : Session} {w : ExceptT ε (StateM Session) α}
    {f : α → ExceptT ε (StateM Session) β} {x : α} (h : s.run w = (.ok x,t)) :
    s.run (w >>= f) = t.run (f x) := by
  rw [run_bind,h]

theorem run_bind_of_error {s t : Session} {w : ExceptT ε (StateM Session) α}
    {f : α → ExceptT ε (StateM Session) β} {e : ε} (h : s.run w = (.error e,t)) :
    s.run (w >>= f) = (.error e,t) := by
  rw [run_bind,h]

theorem run_bind_eq_ok {s u : Session} {w : ExceptT ε (StateM Session) α}
    {f : α → ExceptT ε (StateM Session) β} {y : β} :
    s.run (w >>= f) = (.ok y,u) ↔ ∃ x t, s.run w = (.ok x,t) ∧ t.run (f x) = (.ok y,u) := by
  rw [run_bind]
  rcases s.run w with ⟨e | x,t⟩
  · simp
  · constructor
    · intro h
      exact ⟨x,t,rfl,h⟩
    · rintro ⟨x',t',heq,h⟩
      cases heq
      exact h

theorem run_bind_eq_error {s u : Session} {w : ExceptT ε (StateM Session) α}
    {f : α → ExceptT ε (StateM Session) β} {e : ε} :
    s.run (w >>= f) = (.error e,u) ↔ s.run w = (.error e,u) ∨
      ∃ x t, s.run w = (.ok x,t) ∧ t.run (f x) = (.error e,u) := by
  rw [run_bind]
  rcases s.run w with ⟨f | x,t⟩
  · simp
  · constructor
    · intro h
      exact .inr ⟨x,t,rfl,h⟩
    · rintro (h | ⟨x',t',heq,h⟩)
      · cases h
      · cases heq
        exact h

/-- Steps that give the same and are followed by such steps give the same together. -/
theorem run_bind_fst_congr {s s' : Session} {w w' : ExceptT ε (StateM Session) α}
    {f f' : α → ExceptT ε (StateM Session) β} (h : (s.run w).1 = (s'.run w').1)
    (hf : ∀ x t t', s.run w = (.ok x,t) → s'.run w' = (.ok x,t') → (t.run (f x)).1 = (t'.run (f' x)).1) :
    (s.run (w >>= f)).1 = (s'.run (w' >>= f')).1 := by
  rw [run_bind,run_bind]
  generalize s.run w = r at h hf ⊢
  generalize s'.run w' = r' at h hf ⊢
  obtain ⟨out,t⟩ := r
  obtain ⟨out',t'⟩ := r'
  cases h
  cases out with
  | error e => rfl
  | ok x => exact hf x t t' rfl rfl

end TrackerHub.Web.Session

namespace TrackerHub.Agent
open Web (Session)
variable {ε α : Type}

@[simp] theorem run_lift (s : Session) (f : ε → AgentError) (r : Except ε α) :
    s.run (lift f r) = (r.mapError f,s) := by
  cases r <;> rfl

theorem run_lift_eq_ok {s t : Session} {f : ε → AgentError} {r : Except ε α} {x : α} :
    s.run (lift f r) = (.ok x,t) ↔ r = .ok x ∧ t = s := by
  rw [run_lift]
  constructor
  · intro h
    cases r <;> cases h
    exact ⟨rfl,rfl⟩
  · rintro ⟨rfl,rfl⟩
    rfl

theorem run_session (s : Session) : s.run session =
    (if s.settings.isUsable then .ok s
      else .error (.session (.send (.unsendable s.settings.userAgent.toList))),s) := by
  unfold session
  rw [Session.run_bind,Session.run_get]
  cases h : s.settings.isUsable <;> simp [h]

/-- A step of the session is one of the agent, which gives up if the settings cannot be sent. -/
theorem run_browse (s : Session) (b : Web.Browsing α) : s.run (browse b) =
    if s.settings.isUsable then ((s.run b).1.mapError .session,(s.run b).2)
    else (.error (.session (.send (.unsendable s.settings.userAgent.toList))),s) := by
  unfold browse
  rw [Session.run_bind,run_session]
  cases s.settings.isUsable with
  | false => rfl
  | true =>
    change Session.run s (match s.run b with
      | (.ok x,t) => (do set t; return x : Working α)
      | (.error e,t) => (do set t; throw (AgentError.session e) : Working α)) = _
    rcases s.run b with ⟨_ | _,_⟩ <;> rfl

theorem run_browse_eq_ok {s t : Session} {b : Web.Browsing α} {x : α}
    (h : s.run (browse b) = (.ok x,t)) : s.run b = (.ok x,t) := by
  rw [run_browse] at h
  split at h
  · rcases hb : s.run b with ⟨e | y,u⟩
    · rw [hb] at h
      cases h
    · rw [hb] at h
      cases h
      rfl
  · cases h

theorem usable_of_browse {s t : Session} {b : Web.Browsing α} {x : α} (h : s.run (browse b) = (.ok x,t)) :
    s.settings.isUsable = true := by
  cases hu : s.settings.isUsable with
  | true => rfl
  | false =>
    rw [run_browse,hu] at h
    cases h

/-- An address is open, or the browser reports why it is not. -/
theorem run_tryOpen (a : Agent) (url : String) (s : Session) : s.run (a.tryOpen url) =
    if s.settings.isUsable then
      let r := s.run (Session.open a.server url)
      (match r.1 with
        | .ok _ => .ok true
        | .error e => if e.isReported then .ok false else .error (.session e),r.2)
    else (.error (.session (.send (.unsendable s.settings.userAgent.toList))),s) := by
  unfold tryOpen
  rw [Session.run_bind,run_session]
  cases s.settings.isUsable with
  | false => rfl
  | true =>
    change Session.run s (match s.run (Session.open a.server url) with
      | (.ok _,t) => (do set t; return true : Working Bool)
      | (.error e,t) =>
        (do set t; if e.isReported then return false else throw (AgentError.session e) :
          Working Bool)) = _
    rcases s.run (Session.open a.server url) with ⟨e | _,t⟩
    · cases h : e.isReported <;> simp only [h] <;> rfl
    · rfl

end TrackerHub.Agent

namespace TrackerHub.Web

/-- A server that answers every request with the same page. -/
def Server.ofPage (html : String) : Server := fun _ _ => .ok {
  status := 200, headers := [("content-type","text/html; charset=utf-8")]
  body := Text.encodeUtf8 html.toList }

end TrackerHub.Web
