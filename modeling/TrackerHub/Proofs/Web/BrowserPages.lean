import TrackerHub.Proofs.Web.FormRequests
import TrackerHub.Proofs.Web.Kept

/-! # Pages of a browser

Whatever a browser is asked to do, and whatever of it fails, all that it shows is of the response that it
received last. An operation makes one request, and a second one if the page that the first brings refreshes
to another address; the page of the second is not asked again. Redirects are followed below that: they
belong to the request that they came of.
-/
namespace TrackerHub.Web
open Text (Chars)

/-- What a browser is asked to do. -/
inductive Operation where
  | «open» (url : String)
  | openForm (url : String) (values : List (String × String))
  | postForm (url : String) (values : List (String × String))
  | submit (form : Form)

namespace Operation

def perform (server : Server) : Operation → Browsing Unit
  | .open url => Session.open server url
  | .openForm url values => Session.openForm server url values
  | .postForm url values => Session.postForm server url values
  | .submit form => Session.submit server form

def verb : Operation → String
  | .open _ | .openForm _ _ => "GET"
  | .postForm _ _ => "POST"
  | .submit form => form.verb

def url : Operation → Chars
  | .open url | .openForm url _ | .postForm url _ => url.toList
  | .submit form => form.action.toList

def payload : Operation → Session.Payload
  | .open _ => .nothing
  | .openForm _ values => .query values
  | .postForm _ values => .form values
  | .submit form => form.payload

theorem perform_eq (server : Server) (op : Operation) :
    op.perform server = Session.load server op.verb op.url op.payload := by
  cases op with
  | «open» | openForm | postForm => rfl
  | submit form => exact Session.submit_eq server form

end Operation

/-! ## Requests with their redirects -/

/-- An answer as the response to a request. -/
def Answer.response (a : Answer) (r : Request) : Response :=
  { url := r.url, status := a.status, headers := a.headers, body := a.body }

/-- What goes over the wire for a request, behind what was sent before, and what comes of it: the request
itself, if it can be sent, and behind it the request that the redirect of its answer asks for. -/
inductive Wire (server : Server) : List Request → Request → List Request → Except SendError Response → Prop where
  | unsent {sent r e} : Wire server sent r [] (.error e)
  | failed {sent r e} : Wire server sent r [r] (.error e)
  | answered {sent r answer} (h : server sent r = .ok answer) : Wire server sent r [r] (.ok (answer.response r))
  | redirected {sent r answer location next wire out} (h : server sent r = .ok answer)
      (hlocation : (answer.response r).location? = some location)
      (hurl : Session.redirectUrl r.url location = .ok next.url)
      (hmethod : next.method = Session.redirectMethod r.method answer.status)
      (hnext : Wire server (sent ++ [r]) next wire out) : Wire server sent r (r :: wire) out

namespace Session
variable {server : Server} {s t : Session}

theorem redirected_eq_ok {r next : Request} {status : Nat} {location : String}
    (h : redirected s r status location = .ok next) :
    redirectUrl r.url location = .ok next.url ∧ next.method = redirectMethod r.method status := by
  obtain ⟨url,hurl,h⟩ := bind_eq_ok.mp h
  obtain ⟨cookie,-,h⟩ := bind_eq_ok.mp h
  cases h
  exact ⟨hurl,rfl⟩

theorem exchange_cases (server : Server) (r : Request) (s : Session) :
    (∃ e, (s.run (exchange server r)).1 = .error e ∧ ((s.run (exchange server r)).2.sent = s.sent ∨
      (s.run (exchange server r)).2.sent = s.sent ++ [r])) ∨
    ∃ answer t, server s.sent r = .ok answer ∧ s.run (exchange server r) = (.ok (answer.response r),t) ∧
      t.sent = s.sent ++ [r] := by
  unfold exchange
  cases hsend : unsendable? r.url with
  | some m => exact .inl ⟨_,rfl,.inl rfl⟩
  | none =>
    simp only [run_bind,run_get,run_set]
    cases hanswer : server s.sent r with
    | error m => exact .inl ⟨_,rfl,.inr rfl⟩
    | ok answer => exact .inr ⟨answer,_,rfl,rfl,rfl⟩

theorem wire_follow (server : Server) (n : Nat) (r : Request) (s : Session) : ∃ wire,
    (s.run (follow server n r)).2.sent = s.sent ++ wire ∧
      Wire server s.sent r wire (s.run (follow server n r)).1 := by
  induction n generalizing r s with
  | zero => exact ⟨[],(List.append_nil _).symm,.unsent⟩
  | succ n ih =>
    rw [follow_succ,run_bind]
    -- The request fails; or its answer stands, or asks for a redirect, which is refused or followed.
    rcases exchange_cases server r s with ⟨e,he,hsent⟩ | ⟨answer,t,hanswer,hrun,hsent⟩
    · generalize s.run (exchange server r) = run at he hsent
      obtain ⟨out,t⟩ := run
      cases he
      rcases hsent with hsent | hsent
      · exact ⟨[],by rw [List.append_nil]; exact hsent,.unsent⟩
      · exact ⟨[r],hsent,.failed⟩
    · rw [hrun]
      dsimp only
      have hstop : t.sent = s.sent ++ [r] ∧ Wire server s.sent r [r] (.ok (answer.response r)) :=
        ⟨hsent,.answered hanswer⟩
      unfold redirecting
      cases hlocation : (answer.response r).location? with
      | none => exact ⟨[r],hstop⟩
      | some location =>
        simp only [run_bind,run_get]
        cases hnext : redirected t r (answer.response r).status location with
        | error e => exact ⟨[r],hsent,.failed⟩
        | ok next =>
          obtain ⟨hurl,hmethod⟩ := redirected_eq_ok hnext
          cases t.settings.followRedirects with
          | false =>
            rw [show (liftM (Except.ok next : Except SendError Request) : Sending Request) = pure next from rfl]
            simpa only [run_pure] using ⟨[r],hstop⟩
          | true =>
            obtain ⟨wire,hrest,hwire⟩ := ih next t
            rw [show (liftM (Except.ok next : Except SendError Request) : Sending Request) = pure next from rfl]
            simp only [run_pure,if_true]
            refine ⟨r :: wire,?_,.redirected hanswer hlocation hurl hmethod (hsent ▸ hwire)⟩
            rw [hrest,hsent,List.append_assoc]
            rfl

/-- Sending changes the cookies and the record of what was sent, but not the page. -/
theorem page_fetching (server : Server) (method : String) (url : Chars) (payload : Payload) (s : Session) :
    (s.run (s.fetching server method url payload)).2.page = s.page := by
  have hchained : Chained fun s t : Session => t.page = s.page := ⟨fun _ => rfl,fun h h' => h'.trans h⟩
  refine keeps_fetching hchained (fun r s => ?_) s method url payload s
  unfold exchange
  cases unsendable? r.url with
  | some m => rfl
  | none =>
    simp only [run_bind,run_get,run_set]
    cases server s.sent r <;> rfl

end Session

/-! ## Requests of the browser -/

/-- A request of the browser: what it asks for, what went over the wire for it, and what came of it. -/
structure Attempt where
  verb : String
  url : Chars
  payload : Session.Payload
  wire : List Request
  outcome : Except SendError Response

/-- Whether a session makes the request of an attempt, which may not even give something to send. -/
def Attempt.IsMade (server : Server) (s : Session) (a : Attempt) : Prop :=
  (∃ e, s.request a.verb a.url a.payload = .error e ∧ a.wire = [] ∧ a.outcome = .error e) ∨
    ∃ r, s.request a.verb a.url a.payload = .ok r ∧ Wire server s.sent r a.wire a.outcome

/-- The page behind an attempt: that of its response, or the one before. -/
def Attempt.page (a : Attempt) (before : Option LoadedPage) : Option LoadedPage :=
  match a.outcome with
  | .ok response => some (.ofResponse response)
  | .error _ => before

/-- What the browser reports of an attempt. -/
def Attempt.result (a : Attempt) : Except SessionError Unit :=
  match a.outcome with
  | .ok _ => .ok ()
  | .error e => .error (Session.reported a.verb a.url e)

namespace Session
variable {server : Server} {s t : Session}

/-- The request of the browser for an address. -/
def attempt (server : Server) (s : Session) (verb : String) (url : Chars) (payload : Payload) : Attempt :=
  let r := s.run (s.fetching server verb url payload)
  { verb, url, payload, wire := r.2.sent.drop s.sent.length, outcome := r.1 }

section
variable (server : Server) (s : Session) (verb : String) (url : Chars) (payload : Payload)

theorem sent_visit_eq : (s.run (visit server verb url payload)).2.sent =
    s.sent ++ (s.attempt server verb url payload).wire := by
  have hsent : (s.run (visit server verb url payload)).2.sent =
      (s.run (s.fetching server verb url payload)).2.sent := by
    rw [run_visit]
    rcases s.run (s.fetching server verb url payload) with ⟨e | response,t⟩ <;> rfl
  have hprefix : s.sent <+: (s.run (s.fetching server verb url payload)).2.sent :=
    keeps_fetching chained_sent (keepsSent_exchange server) s verb url payload s
  rw [hsent]
  exact (List.prefix_iff_eq_append.mp hprefix).symm

theorem isMade_attempt : (s.attempt server verb url payload).IsMade server s := by
  cases hrequest : s.request verb url payload with
  | error e =>
    have hrun : s.run (s.fetching server verb url payload) = (.error e,s) := by
      rw [fetching,hrequest]
      rfl
    refine .inl ⟨e,hrequest,?_,?_⟩
    · simp only [attempt,hrun,List.drop_length]
    · simp only [attempt,hrun]
  | ok r =>
    have hrun : s.run (s.fetching server verb url payload) = s.run (follow server maxRequests r) := by
      rw [fetching,hrequest]
      rfl
    obtain ⟨wire,hsent,hwire⟩ := wire_follow server maxRequests r s
    refine .inr ⟨r,hrequest,?_⟩
    simpa only [attempt,hrun,hsent,List.drop_left] using hwire

theorem page_visit : (s.run (visit server verb url payload)).2.page =
    (s.attempt server verb url payload).page s.page := by
  have hpage := page_fetching server verb url payload s
  rw [run_visit,Attempt.page,attempt]
  rcases hrun : s.run (s.fetching server verb url payload) with ⟨e | response,t⟩
  · rwa [hrun] at hpage
  · rfl

theorem result_visit : (s.run (visit server verb url payload)).1 =
    (s.attempt server verb url payload).result := by
  rw [run_visit,Attempt.result,attempt]
  rcases s.run (s.fetching server verb url payload) with ⟨e | response,t⟩ <;> rfl

end

/-- The address that the page refreshes to. -/
def next? (s : Session) : Option Chars := s.refresh?.bind fun target => (Url.join (s.url?.getD []) target).toOption

theorem run_refreshing (server : Server) (s : Session) : s.run (refreshing server) = match s.refresh? with
    | none => (.ok (),s)
    | some target =>
      match Url.join (s.url?.getD []) target with
      | .error e => (.error (.send (.url e)),s)
      | .ok next => s.run (visit server "GET" next .nothing) := by
  unfold refreshing
  rw [run_bind,run_get]
  dsimp only
  cases s.refresh? with
  | none => rfl
  | some target =>
    dsimp only
    cases Url.join (s.url?.getD []) target <;> rfl

end Session

/-! ## Operations one after another -/

namespace Operation
open Session (visit reported)

/-- The first request for an operation. -/
def own (server : Server) (op : Operation) (s : Session) : Attempt :=
  s.attempt server op.verb op.url op.payload

/-- The session behind the first request for an operation. -/
def behindOwn (server : Server) (op : Operation) (s : Session) : Session :=
  (s.run (visit server op.verb op.url op.payload)).2

/-- The requests of the browser for an operation. -/
def attempts (server : Server) (op : Operation) (s : Session) : List Attempt :=
  match (op.own server s).outcome with
  | .error _ => [op.own server s]
  | .ok _ =>
    let t := op.behindOwn server s
    op.own server s :: t.next?.toList.map fun url => t.attempt server "GET" url .nothing

section
variable (server : Server) (op : Operation) (s : Session)

theorem run_perform : s.run (op.perform server) = match (op.own server s).result with
    | .ok _ => (op.behindOwn server s).run (Session.refreshing server)
    | .error e => (.error e,op.behindOwn server s) := by
  rw [perform_eq,Session.load_eq,Session.run_bind,own,← Session.result_visit,behindOwn]
  rcases s.run (visit server op.verb op.url op.payload) with ⟨e | _,t⟩ <;> rfl

/-- How an operation goes: its own request fails, or brings a page that refreshes to no address, or one
that refreshes to an address, which is then visited. -/
theorem perform_cases : let t := op.behindOwn server s
    (∃ e, (op.own server s).outcome = .error e ∧ op.attempts server s = [op.own server s] ∧
      s.run (op.perform server) = (.error (reported op.verb op.url e),t) ∧ t.page = s.page) ∨
    ∃ response, (op.own server s).outcome = .ok response ∧ t.page = some (.ofResponse response) ∧
      ((op.attempts server s = [op.own server s] ∧ ∃ out, s.run (op.perform server) = (out,t) ∧
        ∀ e, out = .error e → e.isReported = false) ∨
      ∃ target next, t.refresh? = some target ∧ Url.join (t.url?.getD []) target = .ok next ∧
        op.attempts server s = [op.own server s,t.attempt server "GET" next .nothing] ∧
        s.run (op.perform server) = t.run (visit server "GET" next .nothing)) := by
  intro t
  have hpage : t.page = (op.own server s).page s.page := Session.page_visit server s op.verb op.url op.payload
  have hrun := run_perform server op s
  have hattempts := attempts.eq_1 server op s
  rw [Attempt.page] at hpage
  rw [Attempt.result] at hrun
  cases hown : (op.own server s).outcome with
  | error e =>
    rw [hown] at hpage hrun hattempts
    exact .inl ⟨e,rfl,hattempts,hrun,hpage⟩
  | ok response =>
    rw [hown] at hpage hrun hattempts
    refine .inr ⟨response,rfl,hpage,?_⟩
    dsimp only at hrun hattempts
    rw [Session.run_refreshing] at hrun
    rw [Session.next?] at hattempts
    change op.attempts server s = op.own server s :: (t.refresh?.bind _).toList.map _ at hattempts
    change _ = match t.refresh? with
      | none => _
      | some target => _ at hrun
    cases hrefresh : t.refresh? with
    | none =>
      rw [hrefresh] at hrun hattempts
      exact .inl ⟨hattempts,_,hrun,by simp⟩
    | some target =>
      rw [hrefresh] at hrun hattempts
      dsimp only [Option.bind_some] at hrun hattempts
      cases hjoin : Url.join (t.url?.getD []) target with
      | error e =>
        rw [hjoin] at hrun hattempts
        refine .inl ⟨hattempts,_,hrun,?_⟩
        rintro e ⟨⟩
        rfl
      | ok next =>
        rw [hjoin] at hrun hattempts
        exact .inr ⟨target,next,rfl,hjoin,hattempts,hrun⟩

theorem attempts_eq_cons : ∃ more, op.attempts server s = op.own server s :: more := by
  unfold attempts
  split
  · exact ⟨_,rfl⟩
  · exact ⟨_,rfl⟩

/-- An operation makes at most one attempt more than its own, for the address that the page refreshes to. -/
theorem attempts_cases : let t := op.behindOwn server s
    op.attempts server s = [op.own server s] ∨
    ∃ again response target, op.attempts server s = [op.own server s,again] ∧
      (op.own server s).outcome = .ok response ∧ t.page = some (.ofResponse response) ∧
      t.refresh? = some target ∧ Url.join response.url.toText target = .ok again.url ∧ again.verb = "GET" ∧
      again.payload = .nothing ∧ again.IsMade server t := by
  intro t
  rcases op.perform_cases server s with ⟨e,-,hattempts,-,-⟩ |
    ⟨response,hown,hpage,⟨hattempts,-⟩ | ⟨target,next,hrefresh,hjoin,hattempts,-⟩⟩
  · exact .inl hattempts
  · exact .inl hattempts
  · have hurl : t.url? = some response.url.toText := by
      rw [Session.url?,show t.page = _ from hpage]
      rfl
    rw [show (op.behindOwn server s).url? = _ from hurl] at hjoin
    have hmade : (t.attempt server "GET" next .nothing).IsMade server t := Session.isMade_attempt ..
    exact .inr ⟨_,response,target,hattempts,hown,hpage,hrefresh,hjoin,rfl,rfl,hmade⟩

/-- An operation that is reported to have failed leaves the page from before, or the one of its own attempt
if it was the other one that failed. -/
theorem page_of_reported {e : SessionError} (he : (s.run (op.perform server)).1 = .error e)
    (hreported : e.isReported = true) :
    (op.attempts server s = [op.own server s] ∧ (∃ cause, (op.own server s).outcome = .error cause) ∧
      (s.run (op.perform server)).2.page = s.page) ∨
    ∃ again response cause, op.attempts server s = [op.own server s,again] ∧
      (op.own server s).outcome = .ok response ∧ again.outcome = .error cause ∧
      (s.run (op.perform server)).2.page = some (.ofResponse response) := by
  rcases op.perform_cases server s with ⟨cause,hown,hattempts,hrun,hpage⟩ |
    ⟨response,hown,hpage,⟨hattempts,out,hrun,hunreported⟩ | ⟨target,next,-,-,hattempts,hrun⟩⟩
  · refine .inl ⟨hattempts,⟨cause,hown⟩,?_⟩
    rw [hrun]
    exact hpage
  · rw [hrun] at he
    have hsilent : e.isReported = false := hunreported e he
    rw [hsilent] at hreported
    cases hreported
  · rw [hrun,Session.result_visit,Attempt.result] at he
    rw [hrun,Session.page_visit,Attempt.page,hpage]
    cases hagain : ((op.behindOwn server s).attempt server "GET" next .nothing).outcome with
    | ok last =>
      rw [hagain] at he
      cases he
    | error cause => exact .inr ⟨_,response,cause,hattempts,hown,hagain,rfl⟩

end

end Operation

/-- The session that operations leave. One that fails does not keep the others from being performed. -/
def performAll (server : Server) (ops : List Operation) (s : Session) : Session :=
  ops.foldl (fun s op => (s.run (op.perform server)).2) s

/-- The requests of the browser for operations one after another. -/
def journal (server : Server) : List Operation → Session → List Attempt
  | [], _ => []
  | op :: ops, s => op.attempts server s ++ journal server ops (s.run (op.perform server)).2

/-- The response that was received last. -/
def lastReceived (attempts : List Attempt) : Option Response :=
  (attempts.filterMap (·.outcome.toOption)).getLast?

theorem lastReceived_append (before after : List Attempt) :
    lastReceived (before ++ after) = (lastReceived after).or (lastReceived before) := by
  rw [lastReceived,List.filterMap_append,List.getLast?_append]
  rfl

theorem lastReceived_singleton (a : Attempt) : lastReceived [a] = a.outcome.toOption := by
  cases h : a.outcome <;> simp [lastReceived,h,Except.toOption]

theorem Attempt.page_eq (a : Attempt) (before : Option LoadedPage) :
    a.page before = ((lastReceived [a]).map .ofResponse).or before := by
  rw [lastReceived_singleton,Attempt.page]
  cases a.outcome <;> rfl

/-- Whether all that a browser shows is of one response, or of none. -/
structure Session.Shows (s : Session) (r? : Option Response) : Prop where
  url : s.url? = r?.map (·.url.toText)
  status : s.status = (r?.map (·.status)).getD 0
  headers : s.headers = (r?.map (·.headers)).getD []
  body : s.body = (r?.map (·.text)).getD []
  document : s.document = Page.parse s.body

theorem Session.shows_of_page {s : Session} {r? : Option Response} (h : s.page = r?.map .ofResponse) :
    s.Shows r? := by
  cases r? with
  | none => constructor <;> simp [url?,status,headers,body,document,h]
  | some r => constructor <;> simp [url?,status,headers,body,document,h,LoadedPage.ofResponse]

section
variable (server : Server) (ops : List Operation) (op : Operation) (s : Session)

theorem page_perform : (s.run (op.perform server)).2.page =
    ((lastReceived (op.attempts server s)).map .ofResponse).or s.page := by
  have hown : (op.behindOwn server s).page = (op.own server s).page s.page :=
    Session.page_visit server s op.verb op.url op.payload
  rw [Attempt.page_eq] at hown
  rcases op.perform_cases server s with ⟨e,-,hattempts,hrun,-⟩ |
    ⟨response,-,-,⟨hattempts,out,hrun,-⟩ | ⟨target,next,-,-,hattempts,hrun⟩⟩
  · rw [hrun,hattempts,hown]
  · rw [hrun,hattempts,hown]
  · rw [hrun,hattempts,Session.page_visit,Attempt.page_eq,hown,← Option.or_assoc,← Option.map_or,
      ← lastReceived_append]
    rfl

theorem sent_perform : (s.run (op.perform server)).2.sent =
    s.sent ++ (op.attempts server s).flatMap (·.wire) := by
  have hown : (op.behindOwn server s).sent = s.sent ++ (op.own server s).wire :=
    Session.sent_visit_eq server s op.verb op.url op.payload
  rcases op.perform_cases server s with ⟨e,-,hattempts,hrun,-⟩ |
    ⟨response,-,-,⟨hattempts,out,hrun,-⟩ | ⟨target,next,-,-,hattempts,hrun⟩⟩
  · rw [hrun,hattempts,hown,List.flatMap_singleton]
  · rw [hrun,hattempts,hown,List.flatMap_singleton]
  · rw [hrun,hattempts,Session.sent_visit_eq,hown,List.append_assoc]
    simp

theorem page_performAll : (performAll server ops s).page =
    ((lastReceived (journal server ops s)).map .ofResponse).or s.page := by
  induction ops generalizing s with
  | nil => rfl
  | cons op ops ih =>
    change (performAll server ops (s.run (op.perform server)).2).page = _
    rw [ih,page_perform,journal,lastReceived_append,← Option.or_assoc,← Option.map_or]

theorem sent_performAll : (performAll server ops s).sent = s.sent ++ (journal server ops s).flatMap (·.wire) := by
  induction ops generalizing s with
  | nil => exact (List.append_nil _).symm
  | cons op ops ih =>
    change (performAll server ops (s.run (op.perform server)).2).sent = _
    rw [ih,sent_perform,journal,List.flatMap_append,List.append_assoc]

theorem journal_append : journal server (ops ++ [op]) s =
    journal server ops s ++ op.attempts server (performAll server ops s) := by
  induction ops generalizing s with
  | nil => exact List.append_nil _
  | cons first ops ih =>
    rw [List.cons_append,journal,ih,journal,List.append_assoc]
    rfl

end

/-- A page that refreshes to itself is asked for twice, not for ever. -/
example : let server : Server := fun _ _ => .ok { headers := [("refresh","0; url=/")] }
    (({} : Session).run ((Operation.open "https://s.org/").perform server)).2.sent.length = 2 := by
  decide +kernel

end TrackerHub.Web
