import TrackerHub.Agent.Search
import TrackerHub.Proofs.Agent.Working

/-! # What steps keep

A relation that holds from a session to the one after each request and each page holds along every step
that is made of them.
-/
namespace TrackerHub.Web.Session
open Text (Chars)
variable {ε α β : Type} {R : Session → Session → Prop}

/-- Whether the session that a step leaves stands in a relation to the one that it is given. -/
def Keeps (R : Session → Session → Prop) (w : ExceptT ε (StateM Session) α) : Prop :=
  ∀ s : Session, R s (s.run w).2

/-- Whether a relation can be followed from step to step. -/
structure Chained (R : Session → Session → Prop) : Prop where
  refl : ∀ s, R s s
  trans : ∀ {s t u}, R s t → R t u → R s u

namespace Keeps

theorem of_eq (hR : Chained R) {w : ExceptT ε (StateM Session) α} (h : ∀ s : Session, (s.run w).2 = s) :
    Keeps R w :=
  fun s => by rw [h s]; exact hR.refl s

protected theorem pure (hR : Chained R) (x : α) : Keeps R (pure x : ExceptT ε (StateM Session) α) :=
  of_eq hR fun _ => rfl

protected theorem throw (hR : Chained R) (e : ε) :
    Keeps R (throw e : ExceptT ε (StateM Session) α) :=
  of_eq hR fun _ => rfl

protected theorem get (hR : Chained R) : Keeps R (get : ExceptT ε (StateM Session) Session) :=
  of_eq hR fun _ => rfl

protected theorem modify {f : Session → Session} (h : ∀ s, R s (f s)) :
    Keeps R (modify f : ExceptT ε (StateM Session) PUnit) :=
  h

protected theorem liftExcept (hR : Chained R) (r : Except ε α) :
    Keeps R (liftM r : ExceptT ε (StateM Session) α) :=
  of_eq hR fun _ => rfl

protected theorem bind (hR : Chained R) {w : ExceptT ε (StateM Session) α}
    {f : α → ExceptT ε (StateM Session) β} (hw : Keeps R w) (hf : ∀ x, Keeps R (f x)) :
    Keeps R (w >>= f) := by
  intro s
  have hs := hw s
  rw [run_bind]
  rcases hr : s.run w with ⟨e | x,t⟩
  · simpa [hr] using hs
  · rw [hr] at hs
    exact hR.trans hs (hf x t)

protected theorem ite {c : Prop} [Decidable c] {w v : ExceptT ε (StateM Session) α}
    (hw : Keeps R w) (hv : Keeps R v) : Keeps R (if c then w else v) := by
  split
  · exact hw
  · exact hv

end Keeps

/-- How a session reports that no response came back. -/
def reported (method : String) (url : Chars) : SendError → SessionError
  | .failed cause => .failed method (String.ofList url) cause
  | e => .send e

/-- The response to the request for an address. -/
def fetching (s : Session) (server : Server) (method : String) (url : Chars) (payload : Payload) :
    Sending Response := do
  let r ← s.request method url payload
  follow server maxRequests r

/-- A visit leaves the page of the response, or the page that was there before. -/
theorem run_visit (server : Server) (method : String) (url : Chars) (payload : Payload) (s : Session) :
    s.run (visit server method url payload) = match s.run (s.fetching server method url payload) with
      | (.ok response,t) => (.ok (),{ t with page := some (.ofResponse response) })
      | (.error e,t) => (.error (reported method url e),t) := by
  have hsending : (do
      let r ← s.request method url payload
      follow server maxRequests r : Sending Response) s =
      s.run (s.fetching server method url payload) := rfl
  change visit server method url payload s = _
  unfold visit
  dsimp only
  rw [hsending]
  rcases s.run (s.fetching server method url payload) with ⟨e | response,t⟩
  · cases e <;> rfl
  · rfl

/-- Goes on to where the page asks to. -/
def refreshing (server : Server) : Browsing Unit := do
  let s ← get
  match s.refresh? with
  | none => return
  | some target =>
    match Url.join (s.url?.getD []) target with
    | .error e => throw (.send (.url e))
    | .ok next => visit server "GET" next .nothing

theorem load_eq (server : Server) (method : String) (url : Chars) (payload : Payload) :
    load server method url payload = (do visit server method url payload; refreshing server) := rfl

/-- Whether a relation holds from each session to all that requests to a server and pages make of it. -/
structure Lasting (server : Server) (R : Session → Session → Prop) : Prop extends Chained R where
  sends : ∀ r, Keeps R (exchange server r)
  turns : ∀ (s : Session) (page : Option LoadedPage), R s { s with page }

/-- Goes on from a response to the request that its redirect asks for. -/
def redirecting (server : Server) (n : Nat) (r : Request) (response : Response) : Sending Response := do
  match response.location? with
  | none => return response
  | some location =>
    let s ← get
    let next ← redirected s r response.status location
    if s.settings.followRedirects then follow server n next else return response

theorem follow_succ (server : Server) (n : Nat) (r : Request) : follow server (n + 1) r = (do
    let response ← exchange server r
    redirecting server n r response) := rfl

theorem keeps_redirecting {server : Server} (hR : Chained R) {n : Nat} (hn : ∀ r, Keeps R (follow server n r))
    (r : Request) (response : Response) : Keeps R (redirecting server n r response) := by
  unfold redirecting
  cases response.location? with
  | none => exact Keeps.pure hR _
  | some location =>
    refine Keeps.bind hR (Keeps.get hR) fun s => ?_
    refine Keeps.bind hR (Keeps.liftExcept hR _) fun next => ?_
    exact Keeps.ite (hn next) (Keeps.pure hR _)

theorem keeps_follow {server : Server} (hR : Chained R) (hx : ∀ r, Keeps R (exchange server r)) (n : Nat)
    (r : Request) : Keeps R (follow server n r) := by
  induction n generalizing r with
  | zero => exact Keeps.throw hR _
  | succ n ih =>
    rw [follow_succ]
    exact Keeps.bind hR (hx r) fun response => keeps_redirecting hR ih r response

theorem keeps_fetching {server : Server} (hR : Chained R) (hx : ∀ r, Keeps R (exchange server r))
    (s : Session) (method : String) (url : Chars) (payload : Payload) :
    Keeps R (s.fetching server method url payload) :=
  Keeps.bind hR (Keeps.liftExcept hR _) fun r => keeps_follow hR hx maxRequests r

section
variable {server : Server} (hR : Lasting server R)
include hR

variable (method : String) (url : Chars) (payload : Payload)

theorem keeps_visit : Keeps R (visit server method url payload) := by
  intro s
  have h := keeps_fetching hR.toChained hR.sends s method url payload s
  rw [run_visit]
  rcases hr : s.run (s.fetching server method url payload) with ⟨e | response,t⟩
  · rwa [hr] at h
  · rw [hr] at h
    exact hR.trans h (hR.turns t _)

theorem keeps_refreshing : Keeps R (refreshing server) := by
  refine Keeps.bind hR.toChained (Keeps.get hR.toChained) fun s => ?_
  cases s.refresh? with
  | none => exact Keeps.pure hR.toChained _
  | some target =>
    dsimp only
    cases Url.join (s.url?.getD []) target with
    | error e => exact Keeps.throw hR.toChained _
    | ok next => exact keeps_visit hR "GET" next .nothing

theorem keeps_load : Keeps R (load server method url payload) :=
  Keeps.bind hR.toChained (keeps_visit hR method url payload) fun _ => keeps_refreshing hR

end

/-- A session works by the same settings all along. -/
theorem lasting_settings (server : Server) : Lasting server fun s t => t.settings = s.settings where
  refl _ := rfl
  trans h h' := h'.trans h
  sends r s := by
    unfold exchange
    cases unsendable? r.url with
    | some m => rfl
    | none =>
      simp only [run_bind,run_get,run_set]
      cases server s.sent r <;> rfl
  turns _ _ := rfl

end TrackerHub.Web.Session

namespace TrackerHub.Agent
open Web (Session)
open Web.Session (Keeps Chained Lasting)
variable {ε α : Type} {R : Session → Session → Prop}

theorem keeps_lift (hR : Chained R) (f : ε → AgentError) (r : Except ε α) : Keeps R (lift f r) :=
  Keeps.of_eq hR fun s => by rw [run_lift]

theorem keeps_session (hR : Chained R) : Keeps R session :=
  Keeps.of_eq hR fun s => by rw [run_session]

theorem keeps_browse (hR : Chained R) {b : Web.Browsing α} (h : Keeps R b) : Keeps R (browse b) := by
  intro s
  have hs := h s
  rw [run_browse]
  split
  · exact hs
  · exact hR.refl s

section
variable {a : Agent} (hR : Lasting a.server R)
include hR

theorem keeps_tryOpen (url : String) : Keeps R (a.tryOpen url) := by
  intro s
  have hs := Session.keeps_load hR "GET" url.toList .nothing s
  rw [run_tryOpen]
  split
  · exact hs
  · exact hR.refl s

theorem keeps_urlWorks (url : String) : Keeps R (a.urlWorks url) := by
  refine Keeps.bind hR.toChained (keeps_tryOpen hR url) fun b => ?_
  cases b with
  | false => exact Keeps.pure hR.toChained _
  | true =>
    exact Keeps.bind hR.toChained (Keeps.get hR.toChained) fun s => Keeps.pure hR.toChained _

theorem keeps_firstWorking (urls : List String) : Keeps R (a.firstWorking urls) := by
  induction urls with
  | nil => exact Keeps.pure hR.toChained _
  | cons url rest ih =>
    exact Keeps.bind hR.toChained (keeps_urlWorks hR url) fun b =>
      Keeps.ite (Keeps.pure hR.toChained _) ih

theorem keeps_currentUrl : Keeps R a.currentUrl := by
  refine Keeps.bind hR.toChained (keeps_session hR.toChained) fun s => ?_
  cases s.url? with
  | some url => exact Keeps.pure hR.toChained _
  | none =>
    refine Keeps.bind hR.toChained (keeps_firstWorking hR a.candidateUrls) fun found => ?_
    cases found with
    | some url => exact Keeps.pure hR.toChained _
    | none => exact Keeps.throw hR.toChained _

theorem keeps_resolve (path : String) : Keeps R (a.resolve path) := by
  refine Keeps.ite (Keeps.pure hR.toChained _) ?_
  refine Keeps.bind hR.toChained (keeps_currentUrl hR) fun base => ?_
  exact Keeps.bind hR.toChained (keeps_lift hR.toChained _ _) fun url => Keeps.pure hR.toChained _

end

def pageRows (a : Agent) : Working (List Page.Place) := do
  let l ← lift .extract (readSelectors a.definition.search.rows.block.selector)
  return (← get).place.select l

/-- Takes out the rows that are left out, and gives the other rows of the page. -/
def remainingRows (a : Agent) : Working (List Page.Place) := do
  let rows := a.definition.search.rows
  if !rows.remove.isEmpty then
    let found ← a.pageRows
    if !found.isEmpty then
      let l ← lift .extract (readSelectors rows.remove)
      let gone := (found.filter fun p => p.isMatch l).map fun p => p.tag.id
      modify fun s => s.withDocument (Page.Node.withoutOf (fun id => gone.contains id) s.document)
  a.pageRows

theorem selectRows_eq (a : Agent) : a.selectRows = (do
    let rows := a.definition.search.rows
    if 0 < rows.after then
      let found ← a.pageRows
      modify fun s => s.withDocument
        (Page.mergeRows rows.after (found.map fun p => p.tag.id) s.document)
    a.remainingRows) := rfl

/-- Picking the rows of a page out may change the tree of the page, and nothing else. -/
theorem keeps_selectRows (hR : Chained R) (hd : ∀ (s : Session) nodes, R s (s.withDocument nodes))
    (a : Agent) : Keeps R a.selectRows := by
  have rows : Keeps R a.pageRows :=
    Keeps.bind hR (keeps_lift hR _ _) fun _ => Keeps.bind hR (Keeps.get hR) fun _ => Keeps.pure hR _
  have remaining : Keeps R a.remainingRows :=
    Keeps.ite (Keeps.bind hR rows fun _ => Keeps.ite (Keeps.bind hR (keeps_lift hR _ _) fun _ =>
      Keeps.bind hR (Keeps.modify fun s => hd s _) fun _ => rows) rows) rows
  rw [selectRows_eq]
  exact Keeps.ite (Keeps.bind hR rows fun _ => Keeps.bind hR (Keeps.modify fun s => hd s _) fun _ =>
    remaining) remaining

end TrackerHub.Agent
