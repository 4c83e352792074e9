import TrackerHub.Proofs.Agent.Authentication

/-! # Calls behind a login

A search, a download and a look at the ratio each send a request of their own. With a login, a call
either sends it after the agent was authenticated, or fails with the error of the authentication and
does not send it at all.
-/
namespace TrackerHub.Agent
open Web (Session)
open Web.Session (Keeps KeepsSent Lasting)

/-- Whether a call that works out a request and then goes on with it is kept behind the login. It
ends with the error of the authentication, and then its own request is not sent; or it is authenticated
first, then works out its request, and only then sends it. -/
structure Guarded {α β : Type} (a : Agent) (call : Working α) (prepare : Working β)
    (request : β → Working α) : Prop where
  blocked : ∀ {s e u}, a.Blocked s e u → s.run call = (.error e,u) ∧ s.sent <+: u.sent
  reached : ∀ s : Session, (∃ e u, a.Blocked s e u) ∨
    ∃ u : Session, a.Authenticated s u ∧ s.sent <+: u.sent ∧
      ((∃ (e : AgentError) (v : Session), u.run prepare = (.error e,v) ∧
          s.run call = (.error e,v) ∧ u.sent <+: v.sent) ∨
        ∃ (x : β) (v : Session), u.run prepare = (.ok x,v) ∧ u.sent <+: v.sent ∧
          s.run call = v.run (request x) ∧ v.sent <+: (v.run (request x)).2.sent)

theorem guarded_of_eq {α β : Type} {a : Agent} {call : Working α} {prepare : Working β}
    {request : β → Working α} (hd : a.definition.login.declared = true)
    (hc : call = do a.ensureLogin; let x ← prepare; request x) (hp : KeepsSent prepare)
    (hr : ∀ x, KeepsSent (request x)) : a.Guarded call prepare request := by
  have hl (s : Session) : s.sent <+: (s.run a.ensureLogin).2.sent := keepsSent_ensureLogin hd s
  subst hc
  constructor
  · intro s e u hb
    have he := (ensureLogin_eq_error_iff hd).mpr hb
    have hs := hl s
    rw [he] at hs
    exact ⟨Session.run_bind_of_error he,hs⟩
  · intro s
    have hs := hl s
    rcases he : s.run a.ensureLogin with ⟨e | _,u⟩
    · exact .inl ⟨e,u,(ensureLogin_eq_error_iff hd).mp he⟩
    · rw [he] at hs
      rw [Session.run_bind_of_ok he]
      refine .inr ⟨u,(ensureLogin_eq_ok_iff hd).mp he,hs,?_⟩
      have hu := hp u
      rcases hv : u.run prepare with ⟨e | x,v⟩
      · rw [hv] at hu
        exact .inl ⟨e,v,rfl,Session.run_bind_of_error hv,hu⟩
      · rw [hv] at hu
        exact .inr ⟨x,v,rfl,hu,Session.run_bind_of_ok hv,hr x v⟩

/-- Works out the address and the values of a search. -/
def searchRequest (a : Agent) (q : Query) : Working (String × List (String × String)) := do
  let context := searchContext q (a.localCategories q)
  let path ← lift .template (Template.render a.definition.search.path context)
  let url ← a.resolve path
  let values ← lift .template (a.searchInputs context)
  return (url,values)

/-- Sends a search and reads its results. -/
def submitSearch (a : Agent) (q : Query) (request : String × List (String × String)) :
    Working (List Release) := do
  if a.definition.search.post then browse (Session.postForm a.server request.1 request.2)
  else browse (Session.openForm a.server request.1 request.2)
  let rows ← a.selectRows
  let base := (← get).url?.getD []
  lift id (a.collect q (a.localCategories q) base rows [])

/-- Works out the address of a download. -/
def downloadAddress (a : Agent) (url : String) : Working String := do
  let full ← a.resolve url
  if isMagnet full then throw .magnet
  return full

/-- Fetches the contents at a full address. -/
def fetch (a : Agent) (full : String) : Working (Text.Bytes × Web.Headers) := fun s =>
  match Session.open a.server full s with
  | (.error e,s) => (.error (if e.isReported then .fetch full e else .session e),s)
  | (.ok _,s) =>
    if 400 ≤ s.status then (.error (.fetchStatus full s.status),s)
    else
      match s.download with
      | .ok b => (.ok (b,s.headers),s)
      | .error e => (.error (.session e),s)

/-- Reads the ratio off the page at a full address. -/
def readRatio (a : Agent) (url : String) : Working String := do
  if !(← a.tryOpen url) then return "error"
  let value ← lift .extract (a.definition.ratio.block.find (← get).place a.now)
  return String.ofList (Text.trimBy (fun c => c == '-' || c == ' ') value.toList)

section
variable (a : Agent)

theorem search_eq (q : Query) : a.search q = (do
    a.ensureLogin
    let request ← a.searchRequest q
    a.submitSearch q request) := by
  unfold search openResults searchRequest submitSearch
  simp only [bind_assoc,pure_bind]
  cases a.definition.search.post <;> rfl

theorem download_eq (url : String) : a.download url = (do
    a.ensureLogin
    let full ← a.downloadAddress url
    a.fetch full) := by
  unfold download downloadAddress fetch
  simp only [bind_assoc]
  refine bind_congr fun _ => bind_congr fun full => ?_
  cases isMagnet full <;> rfl

theorem ratio_eq (ht : a.definition.ratio.block.text.isEmpty = true)
    (hp : a.definition.ratio.path.isEmpty = false) : a.ratio = (do
    a.ensureLogin
    let url ← a.resolve a.definition.ratio.path
    a.readRatio url) := by
  unfold ratio readRatio
  simp only [ht,hp,Bool.not_true,Bool.false_eq_true,if_false]

theorem keeps_searchRequest {R : Session → Session → Prop} (hR : Lasting a.server R) (q : Query) :
    Keeps R (a.searchRequest q) :=
  Keeps.bind hR.toChained (keeps_lift hR.toChained _ _) fun _ =>
    Keeps.bind hR.toChained (keeps_resolve hR _) fun _ =>
      Keeps.bind hR.toChained (keeps_lift hR.toChained _ _) fun _ => Keeps.pure hR.toChained _

theorem keeps_submitSearch {R : Session → Session → Prop} (hR : Lasting a.server R) (q : Query)
    (request : String × List (String × String)) : Keeps R (a.submitSearch q request) := by
  have results : Keeps R (do
      let rows ← a.selectRows
      let base := (← get).url?.getD []
      lift id (a.collect q (a.localCategories q) base rows []) : Working (List Release)) :=
    Keeps.bind hR.toChained (keeps_selectRows hR.toChained (fun s nodes => hR.turns s _) a) fun _ =>
      Keeps.bind hR.toChained (Keeps.get hR.toChained) fun _ => keeps_lift hR.toChained _ _
  have sending {b : Web.Browsing Unit} (hb : Keeps R b) : Keeps R (browse b) :=
    keeps_browse hR.toChained hb
  exact Keeps.ite
    (Keeps.bind hR.toChained (sending (Session.keeps_load hR _ _ _)) fun _ => results)
    (Keeps.bind hR.toChained (sending (Session.keeps_load hR _ _ _)) fun _ => results)

theorem keepsSent_submitSearch (q : Query) (request : String × List (String × String)) :
    KeepsSent (a.submitSearch q request) :=
  a.keeps_submitSearch (Session.lasting_sent a.server) q request

theorem run_fetch_sent (full : String) (s : Session) :
    (s.run (a.fetch full)).2 = (s.run (Session.open a.server full)).2 := by
  change (match s.run (Session.open a.server full) with
    | (.error e,t) => (.error (if e.isReported then .fetch full e else .session e),t)
    | (.ok _,t) =>
      if 400 ≤ t.status then (.error (.fetchStatus full t.status),t)
      else
        match t.download with
        | .ok b => (.ok (b,t.headers),t)
        | .error e => (.error (.session e),t) :
      Except AgentError (Text.Bytes × Web.Headers) × Session).2 = _
  rcases s.run (Session.open a.server full) with ⟨e | _,t⟩
  · rfl
  · dsimp only
    split
    · rfl
    · cases t.download <;> rfl

theorem keepsSent_fetch (full : String) : KeepsSent (a.fetch full) := by
  intro s
  rw [run_fetch_sent]
  exact Session.keepsSent_load a.server "GET" full.toList .nothing s

theorem keepsSent_readRatio (url : String) : KeepsSent (a.readRatio url) :=
  KeepsSent.bind (a.keepsSent_tryOpen url) fun _ => KeepsSent.ite (KeepsSent.pure _) <|
    KeepsSent.bind KeepsSent.get fun _ => KeepsSent.bind (keepsSent_lift _ _) fun _ =>
      KeepsSent.pure _

theorem keepsSent_searchRequest (q : Query) : KeepsSent (a.searchRequest q) :=
  a.keeps_searchRequest (Session.lasting_sent a.server) q

theorem keepsSent_downloadAddress (url : String) : KeepsSent (a.downloadAddress url) :=
  KeepsSent.bind (a.keepsSent_resolve url) fun _ =>
    KeepsSent.ite (KeepsSent.bind (KeepsSent.throw _) fun _ => KeepsSent.pure _) (KeepsSent.pure _)

end

/-- Every call of an agent with a login is kept behind the login. -/
theorem calls_guarded {a : Agent} (hd : a.definition.login.declared = true) :
    (∀ q, a.Guarded (a.search q) (a.searchRequest q) (a.submitSearch q)) ∧
    (∀ url, a.Guarded (a.download url) (a.downloadAddress url) a.fetch) ∧
    (a.definition.ratio.block.text.isEmpty = true → a.definition.ratio.path.isEmpty = false →
      a.Guarded a.ratio (a.resolve a.definition.ratio.path) a.readRatio) := by
  refine ⟨fun q => ?_,fun url => ?_,fun ht hp => ?_⟩
  · exact guarded_of_eq hd (a.search_eq q) (a.keepsSent_searchRequest q) (a.keepsSent_submitSearch q)
  · exact guarded_of_eq hd (a.download_eq url) (a.keepsSent_downloadAddress url) a.keepsSent_fetch
  · exact guarded_of_eq hd (a.ratio_eq ht hp) (a.keepsSent_resolve _) a.keepsSent_readRatio

/-- An agent whose site turns its credentials down. -/
def guest : Agent where
  definition := {
    site := "s", links := ["https://s.org/"], settings := [⟨"user","text","User"⟩]
    login := {
      path := "/login", method := .post, inputs := [("name","{{ .Config.user }}")]
      test := { selector := ".member" }, declared := true }
    search := { path := "/search" } }
  sites := ⟨[("s",[("user","ann")])]⟩
  server := .ofPage "<p>Welcome</p>"
  now := ⟨⟨2009,11,10⟩,23,0,0,0,some 0⟩

set_option maxRecDepth 100000 in
/-- A site that turns the credentials down is not asked for a search. -/
theorem refused_login_sends_no_search : guest.definition.login.declared = true ∧
    ∃ e u, guest.Blocked {} e u ∧ ({} : Session).run (guest.search {}) = (.error e,u) ∧
      u.sent.map (fun r => (r.method,String.ofList r.url.toText)) =
        [("GET","https://s.org/"),("POST","https://s.org/login")] := by
  have hd : guest.definition.login.declared = true := rfl
  have hsent : (({} : Session).run guest.ensureLogin).2.sent.map
      (fun r => (r.method,String.ofList r.url.toText)) =
        [("GET","https://s.org/"),("POST","https://s.org/login")] := by decide +kernel
  have hfail : (({} : Session).run guest.ensureLogin).1.isOk = false := by decide +kernel
  rcases he : ({} : Session).run guest.ensureLogin with ⟨e | x,u⟩
  · have hb : guest.Blocked {} e u := (ensureLogin_eq_error_iff hd).mp he
    rw [he] at hsent
    exact ⟨hd,e,u,hb,(((calls_guarded hd).1 {}).blocked hb).1,hsent⟩
  · rw [he] at hfail
    cases hfail

end TrackerHub.Agent
