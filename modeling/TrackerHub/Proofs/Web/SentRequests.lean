import TrackerHub.Agent.Fetch
import TrackerHub.Proofs.Web.Kept

/-! # Requests that were sent

A session remembers every request. No step of a session or of an agent takes one back: whatever it
sends comes behind what was sent before it.
-/
namespace TrackerHub.Web.Session
open Text (Chars)
variable {ε α β : Type}

/-- Whether a step keeps the requests that were sent before it. -/
def KeepsSent (w : ExceptT ε (StateM Session) α) : Prop :=
  ∀ s : Session, s.sent <+: (s.run w).2.sent

/-- Requests come behind those that were sent before. -/
theorem chained_sent : Chained fun s t : Session => s.sent <+: t.sent where
  refl s := List.prefix_refl s.sent
  trans := List.IsPrefix.trans

namespace KeepsSent

theorem of_eq {w : ExceptT ε (StateM Session) α} (h : ∀ s : Session, (s.run w).2.sent = s.sent) :
    KeepsSent w :=
  fun s => h s ▸ List.prefix_refl s.sent

protected theorem pure (x : α) : KeepsSent (pure x : ExceptT ε (StateM Session) α) :=
  Keeps.pure chained_sent x

protected theorem throw (e : ε) : KeepsSent (throw e : ExceptT ε (StateM Session) α) :=
  Keeps.throw chained_sent e

protected theorem get : KeepsSent (get : ExceptT ε (StateM Session) Session) :=
  Keeps.get chained_sent

protected theorem modify {f : Session → Session} (h : ∀ s, (f s).sent = s.sent) :
    KeepsSent (modify f : ExceptT ε (StateM Session) PUnit) :=
  of_eq h

protected theorem bind {w : ExceptT ε (StateM Session) α} {f : α → ExceptT ε (StateM Session) β}
    (hw : KeepsSent w) (hf : ∀ x, KeepsSent (f x)) : KeepsSent (w >>= f) :=
  Keeps.bind chained_sent hw hf

protected theorem ite {c : Prop} [Decidable c] {w v : ExceptT ε (StateM Session) α}
    (hw : KeepsSent w) (hv : KeepsSent v) : KeepsSent (if c then w else v) :=
  Keeps.ite (R := fun s t => s.sent <+: t.sent) hw hv

end KeepsSent

/-- A request that is sent goes to the end. -/
theorem keepsSent_exchange (server : Server) (r : Request) : KeepsSent (exchange server r) := by
  intro s
  unfold exchange
  cases unsendable? r.url with
  | some m => exact List.prefix_refl s.sent
  | none =>
    simp only [run_bind,run_get,run_set]
    cases server s.sent r with
    | error m => exact List.prefix_append _ _
    | ok a => exact List.prefix_append _ _

theorem lasting_sent (server : Server) : Lasting server fun s t => s.sent <+: t.sent where
  toChained := chained_sent
  sends := keepsSent_exchange server
  turns s _ := List.prefix_refl s.sent

section
variable (server : Server) (method : String) (url : Chars) (payload : Payload)

theorem keepsSent_load : KeepsSent (load server method url payload) :=
  keeps_load (lasting_sent server) method url payload

theorem keepsSent_submit (f : Form) : KeepsSent (submit server f) :=
  KeepsSent.ite (keepsSent_load server _ _ _) (keepsSent_load server _ _ _)

theorem keepsSent_setCookies (url line : String) : KeepsSent (setCookies url line) := by
  unfold setCookies
  cases Url.parse url.toList with
  | error e => exact KeepsSent.throw _
  | ok u => exact KeepsSent.modify fun s => rfl

end

end TrackerHub.Web.Session

namespace TrackerHub.Agent
open Web (Session)
open Web.Session (KeepsSent)
variable {ε α : Type}

theorem keepsSent_lift (f : ε → AgentError) (r : Except ε α) : KeepsSent (lift f r) :=
  keeps_lift Session.chained_sent f r

theorem keepsSent_session : KeepsSent session :=
  keeps_session Session.chained_sent

theorem keepsSent_browse {b : Web.Browsing α} (h : KeepsSent b) : KeepsSent (browse b) :=
  keeps_browse Session.chained_sent h

section
variable (a : Agent)

theorem keepsSent_tryOpen (url : String) : KeepsSent (a.tryOpen url) :=
  keeps_tryOpen (Session.lasting_sent a.server) url

theorem keepsSent_currentUrl : KeepsSent a.currentUrl :=
  keeps_currentUrl (Session.lasting_sent a.server)

theorem keepsSent_resolve (path : String) : KeepsSent (a.resolve path) :=
  keeps_resolve (Session.lasting_sent a.server) path

theorem keepsSent_pageHas (selector : String) : KeepsSent (pageHas selector) := by
  refine KeepsSent.bind (keepsSent_lift _ _) fun l => ?_
  exact KeepsSent.bind KeepsSent.get fun s => KeepsSent.pure _

end

end TrackerHub.Agent
