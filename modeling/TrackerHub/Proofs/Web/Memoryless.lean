import TrackerHub.Proofs.Web.Kept

/-! # Servers without memory

A server without memory answers to the method, the address and the body of a request, whatever was sent
before and whatever comes along with the request. Two sessions that open the same address of such a
server send the same requests and come to the same page. Only the cookies that they have can part them,
where these cannot be sent.
-/
namespace TrackerHub.Web
open Text (Chars)

/-- What a request says without regard to the session that sends it. -/
def Request.core (r : Request) : String × Address × Option String := (r.method,r.url,r.body)

/-- Whether the answers of a server depend on nothing but what the requests themselves say. -/
def Server.IsMemoryless (server : Server) : Prop :=
  ∀ earlier earlier' r r', r.core = r'.core → server earlier r = server earlier' r'

/-- Whether a request was not sent on account of the cookies for it. -/
def SendError.isOfCookies : SendError → Bool
  | .unsendable _ | .unknownType _ => true
  | _ => false

def SessionError.isOfCookies : SessionError → Bool
  | .send e => e.isOfCookies
  | _ => false

namespace Session
variable {ε α β : Type} {refused : ε → Bool} {R : Session → Session → Prop}
  {S : α → α → Session → Session → Prop} {T : β → β → Session → Session → Prop}

/-- Two runs that end in the same way: with related results, or with the same error. A run that is
refused agrees with any other. -/
inductive Agree (refused : ε → Bool) (R : Session → Session → Prop)
    (S : α → α → Session → Session → Prop) : Except ε α × Session → Except ε α × Session → Prop where
  | ok {x x' : α} {t t' : Session} : S x x' t t' → Agree refused R S (.ok x,t) (.ok x',t')
  | error {e : ε} {t t' : Session} : R t t' → Agree refused R S (.error e,t) (.error e,t')
  | left {e : ε} {t : Session} {r : Except ε α × Session} : refused e → Agree refused R S (.error e,t) r
  | right {e : ε} {t : Session} {r : Except ε α × Session} : refused e → Agree refused R S r (.error e,t)

/-- Results that are equal, on sessions in a relation. -/
structure Equally {α : Type} (R : Session → Session → Prop) (x x' : α) (t t' : Session) : Prop where
  eq : x = x'
  rest : R t t'

theorem Agree.bind {s s' : Session} {w w' : ExceptT ε (StateM Session) α}
    {f f' : α → ExceptT ε (StateM Session) β} (h : Agree refused R S (s.run w) (s'.run w'))
    (hf : ∀ x x' t t', S x x' t t' → Agree refused R T (t.run (f x)) (t'.run (f' x'))) :
    Agree refused R T (s.run (w >>= f)) (s'.run (w' >>= f')) := by
  rw [run_bind,run_bind]
  generalize s.run w = r at h ⊢
  generalize s'.run w' = r' at h ⊢
  cases h with
  | ok h => exact hf _ _ _ _ h
  | error h => exact .error h
  | left h => exact .left h
  | right h => exact .right h

theorem Agree.ite {c : Prop} [Decidable c] {s s' : Session} {w w' v v' : ExceptT ε (StateM Session) α}
    (hw : Agree refused R S (s.run w) (s'.run w')) (hv : Agree refused R S (s.run v) (s'.run v')) :
    Agree refused R S (s.run (if c then w else v)) (s'.run (if c then w' else v')) := by
  split
  · exact hw
  · exact hv

/-- Two sessions of the same settings that sent the same requests since two moments. -/
structure Alike (before before' : List Request) (s s' : Session) : Prop where
  settings : s.settings = s'.settings
  sent : ∃ since since', s.sent = before ++ since ∧ s'.sent = before' ++ since' ∧
    since.map Request.core = since'.map Request.core

/-- Two sessions that are alike and stand on the same page. -/
structure Together (before before' : List Request) (s s' : Session) : Prop
    extends Alike before before' s s' where
  page : s.page = s'.page

namespace Together
variable {before before' : List Request} {s s' : Session} (h : Together before before' s s')
include h

theorem url? : s.url? = s'.url? := by
  rw [Session.url?,Session.url?,h.page]

theorem document : s.document = s'.document := by
  rw [Session.document,Session.document,h.page]

theorem place : s.place = s'.place := by
  rw [Session.place,Session.place,h.document]

theorem withDocument (nodes : Page.Document) :
    Together before before' (s.withDocument nodes) (s'.withDocument nodes) :=
  ⟨⟨h.settings,h.sent⟩,congrArg (Option.map _) h.page⟩

end Together

theorem isOfCookies_of_cookieFor {s : Session} {a : Address} {e : SendError}
    (h : s.cookieFor a = .error e) : e.isOfCookies := by
  unfold cookieFor at h
  split at h
  · cases h
  split at h
  · cases h
    rfl
  split at h
  · cases h
  · split at h
    · cases h
    · cases h
      rfl

/-- Two requests to the same address, each with the cookies of its session. -/
theorem agree_addressed {s s' t t' : Session} (address : Except SendError Address)
    {make make' : Address → Option String → Request}
    (hmake : ∀ a cookie cookie', (make a cookie).core = (make' a cookie').core) (h : R t t') :
    Agree SendError.isOfCookies R (fun r r' u u' => r.core = r'.core ∧ R u u')
      (t.run (liftM (do
        let a ← address
        let cookie ← s.cookieFor a
        return make a cookie : Except SendError Request) : Sending Request))
      (t'.run (liftM (do
        let a ← address
        let cookie ← s'.cookieFor a
        return make' a cookie : Except SendError Request) : Sending Request)) := by
  cases address with
  | error e => exact .error h
  | ok a =>
    cases hc : s.cookieFor a with
    | error e =>
      dsimp only [bind,Except.bind]
      rw [hc]
      exact .left (isOfCookies_of_cookieFor hc)
    | ok cookie =>
      cases hc' : s'.cookieFor a with
      | error e =>
        dsimp only [bind,Except.bind]
        rw [hc']
        exact .right (isOfCookies_of_cookieFor hc')
      | ok cookie' =>
        dsimp only [bind,Except.bind]
        rw [hc,hc']
        exact .ok ⟨hmake a cookie cookie',h⟩

def Payload.address (payload : Payload) (url : Chars) : Except SendError Address := do
  let a ← (Address.read url).mapError .address
  let a := if a.isAbsolute then a else a.rooted
  match payload with
  | .query values =>
    (a.withQuery (if values.isEmpty then none else some (encodeForm (grouped values)).toList)).mapError
      .address
  | _ => pure a

def Payload.body? : Payload → Option String
  | .form (v :: vs) => some (encodeForm (grouped (v :: vs)))
  | _ => none

theorem request_eq (s : Session) (method : String) (url : Chars) (payload : Payload) :
    s.request method url payload = do
      let a ← payload.address url
      let cookie ← s.cookieFor a
      return {
        method, url := a, cookie, body := payload.body?, referer := s.url?.map String.ofList
        userAgent := s.settings.userAgent
        contentType := payload.body?.map fun _ => "application/x-www-form-urlencoded" } := by
  unfold request Payload.address
  simp only [bind_assoc]
  refine bind_congr fun a => ?_
  cases payload with
  | nothing => rfl
  | query values => rfl
  | form values => cases values <;> rfl

section
variable {server : Server} (hm : server.IsMemoryless) {before before' : List Request}
  {s s' : Session} (h : Alike before before' s s')
include hm h

theorem agree_exchange {r r' : Request} (hr : r.core = r'.core) :
    Agree SendError.isOfCookies (Alike before before') (Equally (Alike before before'))
      (s.run (exchange server r)) (s'.run (exchange server r')) := by
  have hurl : r.url = r'.url := congrArg (·.2.1) hr
  obtain ⟨since,since',hs,hs',hsince⟩ := h.sent
  have hsent : ∃ more more', s.sent ++ [r] = before ++ more ∧ s'.sent ++ [r'] = before' ++ more' ∧
      more.map Request.core = more'.map Request.core := by
    refine ⟨since ++ [r],since' ++ [r'],?_,?_,?_⟩
    · rw [hs,List.append_assoc]
    · rw [hs',List.append_assoc]
    · rw [List.map_append,List.map_append,hsince,List.map_singleton,List.map_singleton,hr]
  unfold exchange
  rw [hurl]
  cases unsendable? r'.url with
  | some m => exact .error h
  | none =>
    simp only [run_bind,run_get,run_set]
    rw [hm s.sent s'.sent r r' hr]
    cases server s'.sent r' with
    | error m => exact .error ⟨h.settings,hsent⟩
    | ok answer => exact .ok ⟨rfl,⟨h.settings,hsent⟩⟩

/-- The redirects of the same request lead to the same response. -/
theorem agree_follow (n : Nat) {r r' : Request} (hr : r.core = r'.core) :
    Agree SendError.isOfCookies (Alike before before') (Equally (Alike before before'))
      (s.run (follow server n r)) (s'.run (follow server n r')) := by
  -- Each redirect is followed from other sessions, with requests that say the same again.
  induction n generalizing s s' r r' with
  | zero => exact .error h
  | succ n ih =>
    rw [follow,follow]
    refine .bind (agree_exchange hm h hr) ?_
    rintro response _ t t' ⟨rfl,ht⟩
    cases response.location? with
    | none => exact .ok ⟨rfl,ht⟩
    | some location =>
      rw [run_bind_of_ok (run_get t),run_bind_of_ok (run_get t')]
      have hnext : Agree SendError.isOfCookies (Alike before before')
          (fun x x' u u' => x.core = x'.core ∧ Alike before before' u u')
          (t.run (liftM (redirected t r response.status location) : Sending Request))
          (t'.run (liftM (redirected t' r' response.status location) : Sending Request)) := by
        obtain ⟨hmethod,hr⟩ := Prod.mk.inj hr
        obtain ⟨hurl,hbody⟩ := Prod.mk.inj hr
        unfold redirected
        rw [hmethod,hurl,hbody]
        exact agree_addressed (redirectUrl r'.url location) (fun _ _ _ => rfl) ht
      refine .bind hnext ?_
      rintro next next' u u' ⟨hcore,hu⟩
      rw [ht.settings]
      split
      · exact ih hu hcore
      · exact .ok ⟨rfl,hu⟩

variable (method : String) (url : Chars) (payload : Payload)

theorem agree_visit : Agree SessionError.isOfCookies (Alike before before')
    (Equally (Together before before'))
    (s.run (visit server method url payload)) (s'.run (visit server method url payload)) := by
  have hf : Agree SendError.isOfCookies (Alike before before') (Equally (Alike before before'))
      (s.run (s.fetching server method url payload))
      (s'.run (s'.fetching server method url payload)) := by
    unfold fetching
    rw [request_eq,request_eq]
    refine .bind (agree_addressed (payload.address url) (fun _ _ _ => rfl) h) ?_
    rintro r r' t t' ⟨hr,ht⟩
    exact agree_follow hm ht maxRequests hr
  have hreported {e : SendError} (he : e.isOfCookies) : (reported method url e).isOfCookies := by
    cases e with
    | failed cause => cases he
    | _ => exact he
  rw [run_visit,run_visit]
  generalize s.run (s.fetching server method url payload) = r at hf ⊢
  generalize s'.run (s'.fetching server method url payload) = r' at hf ⊢
  cases hf with
  | ok ht =>
    obtain ⟨rfl,ht⟩ := ht
    exact .ok ⟨rfl,⟨⟨ht.settings,ht.sent⟩,rfl⟩⟩
  | error ht => exact .error ht
  | left he => exact .left (hreported he)
  | right he => exact .right (hreported he)

/-- The same address leads to the same page, with all refreshes on the way. -/
theorem agree_load : Agree SessionError.isOfCookies (Alike before before')
    (Equally (Together before before'))
    (s.run (load server method url payload)) (s'.run (load server method url payload)) := by
  refine .bind (agree_visit hm h method url payload) ?_
  rintro _ _ t t' ⟨rfl,ht⟩
  have hrefresh : t.refresh? = t'.refresh? := by rw [refresh?,refresh?,ht.page,ht.place]
  rw [run_bind_of_ok (run_get t),run_bind_of_ok (run_get t'),hrefresh,ht.url?]
  cases t'.refresh? with
  | none => exact .ok ⟨rfl,ht⟩
  | some target =>
    dsimp only
    cases Url.join (t'.url?.getD []) target with
    | error e => exact .error ht.toAlike
    | ok next => exact agree_visit hm ht.toAlike "GET" next .nothing

end

end Session

end TrackerHub.Web
