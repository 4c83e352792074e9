import TrackerHub.Proofs.Agent.BaseUrl
import TrackerHub.Proofs.Agent.PageTest
import TrackerHub.Proofs.Web.Memoryless
import TrackerHub.Proofs.Web.PlainAddress

/-! # The page that was asked for

A test of a path compares the text that the path was resolved to with the address of the page that
is there afterwards. The browser brings an address in normal form before it asks for it. A page that comes
back at once passes the test just if the text was in normal form already.
-/
namespace TrackerHub.Web.Session
open Text (Chars)

/-- Whether the request for an address is answered at once: it can be sent, there is an answer, it is no
redirect, and its page does not ask for another one. -/
structure AnsweredDirectly (server : Server) (url : String) (s t : Session) : Prop where
  usable : s.settings.isUsable = true
  answered : ∃ (r : Request) (response : Response) (u : Session),
    s.request "GET" url.toList .nothing = .ok r ∧ s.run (exchange server r) = (.ok response,u) ∧
      response.location? = none ∧ t = { u with page := some (.ofResponse response) }
  settled : t.refresh? = none

section
variable {server : Server} {url : String} {s t : Session}

theorem url_eq_of_exchange {r : Request} {response : Response} (h : s.run (exchange server r) = (.ok response,t)) :
    response.url = r.url := by
  unfold exchange at h
  cases hu : unsendable? r.url with
  | some m =>
    rw [hu] at h
    cases h
  | none =>
    simp only [hu,run_bind,run_get,run_set] at h
    cases ha : server s.sent r with
    | error m =>
      rw [ha] at h
      cases h
    | ok answer =>
      rw [ha] at h
      cases h
      rfl

/-- A request that is sent for an address goes to the address in normal form. -/
theorem read_of_exchange {r : Request} {response : Response}
    (hr : s.request "GET" url.toList .nothing = .ok r) (hx : s.run (exchange server r) = (.ok response,t)) :
    Address.read url.toList = .ok response.url := by
  have hweb := url_of_exchange hx
  rw [url_eq_of_exchange hx] at hweb ⊢
  rw [request_eq,Payload.address] at hr
  cases ha : Address.read url.toList with
  | error e =>
    rw [ha] at hr
    cases hr
  | ok b =>
    rw [ha] at hr
    change (do
      let cookie ← s.cookieFor (if b.isAbsolute then b else b.rooted)
      return _ : Except SendError Request) = .ok r at hr
    cases hc : s.cookieFor (if b.isAbsolute then b else b.rooted) with
    | error e =>
      rw [hc] at hr
      cases hr
    | ok cookie =>
      rw [hc] at hr
      cases hr
      by_cases habs : b.isAbsolute = true
      · simp only [habs,if_true]
      · simp only [habs] at hweb
        rcases hweb with h | h <;> cases h

theorem AnsweredDirectly.run_open (h : AnsweredDirectly server url s t) :
    s.run (Session.open server url) = (.ok (),t) := by
  obtain ⟨-,⟨r,response,u,hr,hx,hdirect,rfl⟩,hsettled⟩ := h
  have hfetch : s.run (s.fetching server "GET" url.toList .nothing) = (.ok response,u) := by
    have hlift : s.run (liftM (s.request "GET" url.toList .nothing) : Sending Request) = (.ok r,s) := by
      rw [hr]
      rfl
    unfold fetching maxRequests
    rw [run_bind_of_ok hlift,follow,run_bind_of_ok hx,hdirect]
    rfl
  have hvisit := run_visit server "GET" url.toList .nothing s
  rw [hfetch] at hvisit
  unfold Session.open load
  rw [run_bind_of_ok hvisit,run_bind_of_ok (run_get _),hsettled]
  rfl

/-- The page that is there afterwards stands at the address in normal form. -/
theorem AnsweredDirectly.url_eq (h : AnsweredDirectly server url s t) :
    ∃ b, Address.read url.toList = .ok b ∧ t.url? = some b.toText := by
  obtain ⟨-,⟨r,response,u,hr,hx,-,rfl⟩,-⟩ := h
  exact ⟨response.url,read_of_exchange hr hx,rfl⟩

end

end TrackerHub.Web.Session

namespace TrackerHub.Agent
open Web (Session Address)
open Web.Session (AnsweredDirectly)

section
variable {a : Agent} {t : PageTest} {s v w : Session} {url : String}

theorem settings_of_resolve {path : String} (h : s.run (a.resolve path) = (.ok url,v)) :
    v.settings = s.settings := by
  have hkept := keeps_resolve (Session.lasting_settings a.server) path s
  rwa [h] at hkept

theorem usable_of_tryOpen {opened : Bool} (h : s.run (a.tryOpen url) = (.ok opened,w)) :
    s.settings.isUsable = true := by
  cases hu : s.settings.isUsable with
  | true => rfl
  | false =>
    rw [run_tryOpen,hu] at h
    cases h

theorem run_hasMark_of_marked {selector : String} (h : selector.isEmpty = false → Marked w selector) :
    w.run (hasMark selector) = (.ok true,w) := by
  unfold hasMark
  cases he : selector.isEmpty with
  | true => rfl
  | false =>
    obtain ⟨l,hl,hfound⟩ := h he
    simp only [Bool.false_eq_true,if_false]
    rw [run_pageHas,hl]
    exact congrArg (fun found => (Except.ok found,w)) hfound

/-- A test of a path that was resolved and opened depends on where that led, and on the mark there. -/
theorem run_passesTest_of_path (hp : t.path.isEmpty = false) (hurl : s.run (a.resolve t.path) = (.ok url,v))
    {opened : Bool} (hopen : v.run (a.tryOpen url) = (.ok opened,w)) :
    s.run (a.passesTest t) =
      if opened && w.url? == some url.toList then w.run (hasMark t.selector) else (.ok false,w) := by
  have hsettle : s.run (a.settle t) = (.ok (),s) := by
    unfold settle
    rw [Session.run_bind,run_session,← settings_of_resolve hurl,usable_of_tryOpen hopen]
    simp [hp]
  have hreach : s.run (a.reaches t.path) = (.ok (opened && w.url? == some url.toList),w) := by
    unfold reaches
    rw [if_neg (by simp [hp]),Session.run_bind_of_ok hurl,Session.run_bind_of_ok hopen]
    cases opened <;> rfl
  rw [passesTest_eq a (by simp [PageTest.isEmpty,hp]),Session.run_bind_of_ok hsettle,
    Session.run_bind_of_ok hreach]
  split <;> rfl

/-- What a test of a path finds. If the request for the path is answered at once and the mark stands on the
page, the test passes just if the path was resolved to an address in normal form, as it is if the address is
plain. Wherever opening the path led to, the test fails if it is not the address that was asked for. -/
theorem path_test_decided (hp : t.path.isEmpty = false) (hurl : s.run (a.resolve t.path) = (.ok url,v)) :
    (∀ w, AnsweredDirectly a.server url v w → (t.selector.isEmpty = false → Marked w t.selector) →
      (∃ b, Address.read url.toList = .ok b ∧ w.url? = some b.toText ∧
        s.run (a.passesTest t) = (.ok (b.toText == url.toList),w)) ∧
      ∀ b : Address, b.IsPlain → url.toList = b.toText → s.run (a.passesTest t) = (.ok true,w)) ∧
    ∀ opened w, v.run (a.tryOpen url) = (.ok opened,w) → w.url? ≠ some url.toList →
      s.run (a.passesTest t) = (.ok false,w) := by
  constructor
  · intro w hanswered hmark
    obtain ⟨b,hb,hw⟩ := hanswered.url_eq
    have hopen : v.run (a.tryOpen url) = (.ok true,w) := by
      rw [run_tryOpen,hanswered.usable,hanswered.run_open]
      rfl
    have hmarked := run_hasMark_of_marked hmark
    have hrun : s.run (a.passesTest t) = (.ok (b.toText == url.toList),w) := by
      rw [run_passesTest_of_path hp hurl hopen,hw,hmarked,Bool.true_and]
      cases h : b.toText == url.toList <;> simp [h]
    refine ⟨⟨b,hb,hw,hrun⟩,fun plain hplain hspelt => ?_⟩
    rw [hspelt,hplain.read_toText] at hb
    cases hb
    rw [hrun,hspelt,beq_self_eq_true]
  · intro opened w hopen hne
    rw [run_passesTest_of_path hp hurl hopen,if_neg (by simp [hne])]

end

/-- An agent whose server answers every request with the same page. -/
def welcoming : Agent where
  definition := { site := "s", links := ["https://s.org/"] }
  sites := {}
  server := .ofPage "<p>me</p>"
  now := { date := ⟨2009,11,10⟩, offset := some 0 }

/-- A session that stands on the start page of the site. -/
def started : Session where
  page := some (.ofResponse {
    url := { scheme := "https".toList, host := "s.org".toList, path := "/".toList }
    status := 200, headers := [], body := [] })

/-- The response of its server from an address. -/
def welcome (url : Address) : Web.Response where
  url
  status := 200
  headers := [("content-type","text/html; charset=utf-8")]
  body := Text.encodeUtf8 "<p>me</p>".toList

theorem welcoming_answers (url : String) {b : Address}
    (hr : (started.request "GET" url.toList .nothing).toOption.map (·.url) = some b)
    (hb : Session.unsendable? b = none)
    (hsettled : ({ page := some (.ofResponse (welcome b)) } : Session).refresh? = none) :
    ∃ w, AnsweredDirectly welcoming.server url started w := by
  cases hrequest : started.request "GET" url.toList .nothing with
  | error e =>
    rw [hrequest] at hr
    cases hr
  | ok r =>
    rw [hrequest] at hr
    cases hr
    have hx : ∃ u, started.run (Session.exchange welcoming.server r) = (.ok (welcome r.url),u) := by
      unfold Session.exchange
      simp only [hb]
      exact ⟨_,rfl⟩
    obtain ⟨u,hx⟩ := hx
    exact ⟨_,⟨by decide,⟨r,_,u,hrequest,hx,rfl,rfl⟩,(Session.refresh?_congr rfl).trans hsettled⟩⟩

set_option maxRecDepth 100000 in
/-- A path with a space fails its test where one without passes. -/
theorem spaced_path_fails_test : ∃ w w',
    AnsweredDirectly welcoming.server "https://s.org/my/page" started w ∧
    started.run (welcoming.passesTest { path := "/my/page" }) = (.ok true,w) ∧
    AnsweredDirectly welcoming.server "https://s.org/my page" started w' ∧
    started.run (welcoming.passesTest { path := "/my page" }) = (.ok false,w') := by
  have hplain : started.run (welcoming.resolve "/my/page") = (.ok "https://s.org/my/page",started) := rfl
  have hspaced : started.run (welcoming.resolve "/my page") = (.ok "https://s.org/my page",started) := rfl
  obtain ⟨w,hw⟩ := welcoming_answers "https://s.org/my/page" (b := {
    scheme := "https".toList, host := "s.org".toList, path := "/my/page".toList })
    (by decide +kernel) (by decide) (by decide +kernel)
  obtain ⟨w',hw'⟩ := welcoming_answers "https://s.org/my page" (b := {
    scheme := "https".toList, host := "s.org".toList, path := "/my%20page".toList })
    (by decide +kernel) (by decide) (by decide +kernel)
  obtain ⟨⟨b,hb,-,hrun⟩,-⟩ :=
    (path_test_decided (t := { path := "/my/page" }) (by decide) hplain).1 w hw nofun
  obtain ⟨⟨b',hb',-,hrun'⟩,-⟩ :=
    (path_test_decided (t := { path := "/my page" }) (by decide) hspaced).1 w' hw' nofun
  obtain ⟨hsame,hother⟩ : (Address.read "https://s.org/my/page".toList).toOption.map (·.toText) =
        some "https://s.org/my/page".toList ∧
      (Address.read "https://s.org/my page".toList).toOption.map (·.toText) =
        some "https://s.org/my%20page".toList := by decide +kernel
  rw [hb] at hsame
  rw [hb'] at hother
  rw [show b.toText = _ from Option.some.inj hsame,beq_self_eq_true] at hrun
  rw [show b'.toText = _ from Option.some.inj hother] at hrun'
  exact ⟨w,w',hw,hrun,hw',hrun'⟩

end TrackerHub.Agent
