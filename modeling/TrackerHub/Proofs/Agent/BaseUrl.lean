import TrackerHub.Proofs.Web.LoadedPage

/-! # The base address of a site

Without a page, relative addresses are resolved against the first candidate that answers with status
200. The candidates are opened one after another, and each leaves in the session what the next one
finds there. A failure that the browser does not report ends the search for an address, and so does a
page that a useless candidate has left open: from then on it is the base itself.
-/
namespace TrackerHub.Web.Session
open Text (Chars)
variable {server : Server}

theorem keepsPage_exchange (r : Request) :
    Keeps (fun s t => t.page = s.page) (exchange server r) := by
  intro s
  unfold exchange
  cases unsendable? r.url with
  | some m => rfl
  | none =>
    simp only [run_bind,run_get,run_set]
    cases server s.sent r <;> rfl

theorem chained_page : Chained fun s t : Session => t.page = s.page where
  refl _ := rfl
  trans h h' := h'.trans h

/-- A visit that fails leaves the page that was there before. -/
theorem page_of_visit_error {s t : Session} {method : String} {url : Chars} {payload : Payload}
    {e : SessionError} (h : s.run (visit server method url payload) = (.error e,t)) :
    t.page = s.page := by
  have hkept : Keeps (fun s t => t.page = s.page) (s.fetching server method url payload) :=
    keeps_fetching chained_page keepsPage_exchange s method url payload
  have hkept := hkept s
  rw [run_visit] at h
  rcases hf : s.run (s.fetching server method url payload) with ⟨cause | response,u⟩
  · rw [hf] at h hkept
    cases h
    exact hkept
  · rw [hf] at h
    cases h

theorem refresh?_congr {s t : Session} (h : t.page = s.page) : t.refresh? = s.refresh? := by
  unfold refresh? place document
  rw [h]

/-- Either no answer came for an address, or the page of an answer is left; it has the status of
success and yet was not opened only if the address that it refreshes to could not be opened. -/
theorem page_of_open {s t : Session} {url : String} {out : Except SessionError Unit}
    (h : s.run (Session.open server url) = (out,t)) :
    (∃ e, out = .error e ∧ s.run (visit server "GET" url.toList .nothing) = (.error e,t)) ∨
    ∃ p, t.page = some p ∧ (p.response.status = 200 → out = .ok () ∨ t.refresh?.isSome) := by
  change s.run (load server "GET" url.toList .nothing) = (out,t) at h
  unfold load at h
  rcases hv : s.run (visit server "GET" url.toList .nothing) with ⟨e | x,u⟩
  · rw [run_bind_of_error hv] at h
    cases h
    exact .inl ⟨e,rfl,rfl⟩
  right
  rw [run_bind_of_ok hv,run_bind_of_ok (run_get u)] at h
  obtain ⟨p,hp,-⟩ := hasPage_of_visit hv
  cases hr : u.refresh? with
  | none =>
    rw [hr] at h
    cases h
    exact ⟨p,hp,fun _ => .inl rfl⟩
  | some target =>
    -- The page that asked for the refresh stays if the refresh fails.
    have stays {e : SessionError} {w : Session} (hw : w.page = u.page) :
        ∃ p, w.page = some p ∧ (p.response.status = 200 → (.error e : Except SessionError Unit) = .ok () ∨
          w.refresh?.isSome) := by
      refine ⟨p,hw.trans hp,fun _ => .inr ?_⟩
      rw [refresh?_congr hw,hr]
      rfl
    rw [hr] at h
    dsimp only at h
    cases hj : Url.join (u.url?.getD []) target with
    | error e =>
      rw [hj] at h
      cases h
      exact stays rfl
    | ok next =>
      rw [hj] at h
      dsimp only at h
      cases out with
      | error e => exact stays (page_of_visit_error h)
      | ok x =>
        obtain ⟨p',hp',-⟩ := hasPage_of_visit h
        exact ⟨p',hp',fun _ => .inl rfl⟩

end TrackerHub.Web.Session

namespace TrackerHub.Agent
open Web (Session)
variable (a : Agent)

/-- Whether an address answers with status 200 when it is opened. -/
def Works (url : String) (s t : Session) : Prop :=
  s.run (Session.open a.server url) = (.ok (),t) ∧ t.status = 200

/-- Whether an address cannot be opened for a cause that the browser does not report. -/
def Breaks (url : String) (cause : Web.SessionError) (s t : Session) : Prop :=
  s.run (Session.open a.server url) = (.error cause,t) ∧ cause.isReported = false

/-- Whether the agent turns to the next address after it has opened one: it got an answer with another
status than 200, or the browser reports a failure. -/
def MovesOn (url : String) (s t : Session) : Prop :=
  (s.run (Session.open a.server url) = (.ok (),t) ∧ t.status ≠ 200) ∨
  ∃ e, e.isReported = true ∧ s.run (Session.open a.server url) = (.error e,t)

/-- Addresses that are opened one after another, none of which works. -/
inductive Passed : List String → Session → Session → Prop where
  | nil (s : Session) : Passed [] s s
  | cons {url : String} {rest : List String} {s t u : Session} :
    a.MovesOn url s t → Passed rest t u → Passed (url :: rest) s u

/-- One of some addresses whose turn comes: none of those before it works. -/
def Reached (urls : List String) (url : String) (s t : Session) : Prop :=
  ∃ before after, urls = before ++ url :: after ∧ a.Passed before s t

/-- Addresses that are asked one after another, none of which gives an answer. -/
inductive Unanswered : List String → Session → Session → Prop where
  | nil (s : Session) : Unanswered [] s s
  | cons {url : String} {rest : List String} {s t u : Session} {e : Web.SessionError} :
    s.run (Session.visit a.server "GET" url.toList .nothing) = (.error e,t) →
    Unanswered rest t u → Unanswered (url :: rest) s u

section
variable {a : Agent} {url : String} {urls : List String} {s t u : Session}

theorem passed_cons : a.Passed (url :: urls) s u ↔ ∃ t, a.MovesOn url s t ∧ a.Passed urls t u := by
  constructor
  · intro h
    cases h with
    | cons hm hr => exact ⟨_,hm,hr⟩
  · rintro ⟨t,hm,hr⟩
    exact .cons hm hr

theorem reached_cons {first : String} : a.Reached (first :: urls) url s u ↔
    (url = first ∧ u = s) ∨ ∃ t, a.MovesOn first s t ∧ a.Reached urls url t u := by
  constructor
  · rintro ⟨before,after,heq,hp⟩
    cases hp with
    | nil =>
      cases heq
      exact .inl ⟨rfl,rfl⟩
    | cons hm hr =>
      cases heq
      exact .inr ⟨_,hm,_,_,rfl,hr⟩
  · rintro (⟨rfl,rfl⟩ | ⟨t,hm,before,after,rfl,hp⟩)
    · exact ⟨[],urls,rfl,.nil _⟩
    · exact ⟨first :: before,after,rfl,.cons hm hp⟩

theorem not_reached_nil : ¬ a.Reached [] url s u := by
  rintro ⟨before,after,heq,-⟩
  cases before <;> cases heq

theorem run_urlWorks (hs : s.settings.isUsable = true) :
    s.run (a.urlWorks url) = match s.run (Session.open a.server url) with
      | (.ok _,t) => (.ok (t.status == 200),t)
      | (.error e,t) => (if e.isReported then .ok false else .error (.session e),t) := by
  rw [urlWorks,Session.run_bind,run_tryOpen,if_pos hs]
  rcases s.run (Session.open a.server url) with ⟨e | x,t⟩
  · cases he : e.isReported <;> simp [he]
  · rfl

/-- An address that is opened works, or the next one is tried, or the agent gives up. -/
theorem run_firstWorking_cons {r : Except AgentError (Option String) × Session}
    (hs : s.settings.isUsable = true) : s.run (a.firstWorking (url :: urls)) = r ↔
      (∃ t, a.Works url s t ∧ (.ok (some url),t) = r) ∨
      (∃ cause t, a.Breaks url cause s t ∧ (.error (.session cause),t) = r) ∨
      ∃ t, a.MovesOn url s t ∧ t.run (a.firstWorking urls) = r := by
  rw [firstWorking,Session.run_bind,run_urlWorks hs]
  unfold Works Breaks MovesOn
  rcases s.run (Session.open a.server url) with ⟨e | x,t⟩
  · cases he : e.isReported with
    | false =>
      simp only [he,Bool.false_eq_true,if_false]
      constructor
      · exact fun h => .inr (.inl ⟨e,t,⟨rfl,he⟩,h⟩)
      · rintro (⟨_,⟨⟨⟩,_⟩,_⟩ | ⟨_,_,⟨⟨⟩,_⟩,h⟩ | ⟨_,⟨⟨⟩,_⟩ | ⟨_,he',⟨⟩⟩,_⟩)
        · exact h
        · exact absurd he' (by simp [he])
    | true =>
      simp only [he,if_true]
      constructor
      · exact fun h => .inr (.inr ⟨t,.inr ⟨e,he,rfl⟩,h⟩)
      · rintro (⟨_,⟨⟨⟩,_⟩,_⟩ | ⟨_,_,⟨⟨⟩,he'⟩,_⟩ | ⟨_,⟨⟨⟩,_⟩ | ⟨_,_,⟨⟩⟩,h⟩)
        · exact absurd he' (by simp [he])
        · exact h
  · by_cases ht : t.status = 200
    · simp only [ht,beq_self_eq_true]
      constructor
      · exact fun h => .inl ⟨t,⟨rfl,ht⟩,h⟩
      · rintro (⟨_,⟨⟨⟩,_⟩,h⟩ | ⟨_,_,⟨⟨⟩,_⟩,_⟩ | ⟨_,⟨⟨⟩,hne⟩ | ⟨_,_,⟨⟩⟩,_⟩)
        · exact h
        · exact absurd ht hne
    · simp only [beq_eq_false_iff_ne.mpr ht]
      constructor
      · exact fun h => .inr (.inr ⟨t,.inl ⟨rfl,ht⟩,h⟩)
      · rintro (⟨_,⟨⟨⟩,hok⟩,_⟩ | ⟨_,_,⟨⟨⟩,_⟩,_⟩ | ⟨_,⟨⟨⟩,_⟩ | ⟨_,_,⟨⟩⟩,h⟩)
        · exact absurd hok ht
        · exact h

theorem settings_of_movesOn (h : a.MovesOn url s t) : t.settings = s.settings := by
  have hkept := Session.keeps_load (Session.lasting_settings a.server) "GET" url.toList .nothing s
  rcases h with ⟨h,-⟩ | ⟨e,-,h⟩
  · rwa [show s.run (Session.load a.server "GET" url.toList .nothing) = _ from h] at hkept
  · rwa [show s.run (Session.load a.server "GET" url.toList .nothing) = _ from h] at hkept

theorem settings_of_passed (h : a.Passed urls s t) : t.settings = s.settings := by
  induction h with
  | nil => rfl
  | cons hm _ ih => exact ih.trans (settings_of_movesOn hm)

theorem run_firstWorking_eq_none (hs : s.settings.isUsable = true) :
    s.run (a.firstWorking urls) = (.ok none,t) ↔ a.Passed urls s t := by
  induction urls generalizing s with
  | nil =>
    constructor
    · intro h
      cases h
      exact .nil _
    · intro h
      cases h
      rfl
  | cons url rest ih =>
    rw [run_firstWorking_cons hs,passed_cons]
    constructor
    · rintro (⟨m,-,heq⟩ | ⟨cause,m,-,heq⟩ | ⟨m,hm,hr⟩)
      · cases heq
      · cases heq
      · exact ⟨m,hm,(ih (settings_of_movesOn hm ▸ hs)).mp hr⟩
    · rintro ⟨m,hm,hr⟩
      exact .inr (.inr ⟨m,hm,(ih (settings_of_movesOn hm ▸ hs)).mpr hr⟩)

theorem run_firstWorking_eq_some {found : String} (hs : s.settings.isUsable = true) :
    s.run (a.firstWorking urls) = (.ok (some found),t) ↔
      ∃ m, a.Reached urls found s m ∧ a.Works found m t := by
  induction urls generalizing s with
  | nil =>
    constructor
    · intro h
      cases h
    · rintro ⟨m,hr,-⟩
      exact absurd hr not_reached_nil
  | cons url rest ih =>
    rw [run_firstWorking_cons hs]
    simp only [reached_cons]
    constructor
    · rintro (⟨m,hw,heq⟩ | ⟨cause,m,-,heq⟩ | ⟨m,hm,hr⟩)
      · cases heq
        exact ⟨s,.inl ⟨rfl,rfl⟩,hw⟩
      · cases heq
      · obtain ⟨u,hu,hw⟩ := (ih (settings_of_movesOn hm ▸ hs)).mp hr
        exact ⟨u,.inr ⟨m,hm,hu⟩,hw⟩
    · rintro ⟨u,⟨rfl,rfl⟩ | ⟨m,hm,hu⟩,hw⟩
      · exact .inl ⟨t,hw,rfl⟩
      · exact .inr (.inr ⟨m,hm,(ih (settings_of_movesOn hm ▸ hs)).mpr ⟨u,hu,hw⟩⟩)

theorem run_firstWorking_eq_error {e : AgentError} (hs : s.settings.isUsable = true) :
    s.run (a.firstWorking urls) = (.error e,t) ↔
      ∃ url m cause, a.Reached urls url s m ∧ a.Breaks url cause m t ∧ e = .session cause := by
  induction urls generalizing s with
  | nil =>
    constructor
    · intro h
      cases h
    · rintro ⟨url,m,cause,hr,-⟩
      exact absurd hr not_reached_nil
  | cons url rest ih =>
    rw [run_firstWorking_cons hs]
    simp only [reached_cons]
    constructor
    · rintro (⟨m,hw,heq⟩ | ⟨cause,m,hb,heq⟩ | ⟨m,hm,hr⟩)
      · cases heq
      · cases heq
        exact ⟨url,s,cause,.inl ⟨rfl,rfl⟩,hb,rfl⟩
      · obtain ⟨url',u,cause,hu,hb⟩ := (ih (settings_of_movesOn hm ▸ hs)).mp hr
        exact ⟨url',u,cause,.inr ⟨m,hm,hu⟩,hb⟩
    · rintro ⟨url',u,cause,⟨rfl,rfl⟩ | ⟨m,hm,hu⟩,hb,rfl⟩
      · exact .inr (.inl ⟨cause,t,hb,rfl⟩)
      · exact .inr (.inr ⟨m,hm,(ih (settings_of_movesOn hm ▸ hs)).mpr ⟨url',u,cause,hu,hb,rfl⟩⟩)

theorem page_of_unanswered (h : a.Unanswered urls s t) : t.page = s.page := by
  induction h with
  | nil => rfl
  | cons hv _ ih => exact ih.trans (Session.page_of_visit_error hv)

/-- Addresses that are passed give no answer, or leave the page of one that did. -/
theorem unanswered_or_page (h : a.Passed urls s t) : a.Unanswered urls s t ∨
    ∃ p, t.page = some p ∧ (p.response.status = 200 → t.refresh?.isSome) := by
  induction h with
  | nil s => exact .inl (.nil s)
  | @cons url rest s t u hm _ ih =>
    rcases ih with hrest | hpage
    · have hu := page_of_unanswered hrest
      have left {out : Except Web.SessionError Unit}
          (ho : s.run (Session.open a.server url) = (out,t)) (hout : out = .ok () → t.status ≠ 200) :
          a.Unanswered (url :: rest) s u ∨
            ∃ p, u.page = some p ∧ (p.response.status = 200 → u.refresh?.isSome) := by
        rcases Session.page_of_open ho with ⟨e,-,hv⟩ | ⟨p,hp,hstatus⟩
        · exact .inl (.cons hv hrest)
        · refine .inr ⟨p,hu.trans hp,fun h200 => ?_⟩
          rw [Session.refresh?_congr hu]
          refine (hstatus h200).resolve_left fun hok => hout hok ?_
          rw [Session.status,hp]
          exact h200
      rcases hm with ⟨ho,hstatus⟩ | ⟨e,-,ho⟩
      · exact left ho fun _ => hstatus
      · exact left ho nofun
    · exact .inr hpage

theorem usable_of_currentUrl {base : String} (h : (s.run a.currentUrl).1 = .ok base) :
    s.settings.isUsable = true := by
  cases hu : s.settings.isUsable with
  | true => rfl
  | false =>
    rw [currentUrl,Session.run_bind,run_session,hu] at h
    cases h

theorem run_currentUrl_of_page {url : Text.Chars} (hs : s.settings.isUsable = true)
    (hu : s.url? = some url) : s.run a.currentUrl = (.ok (String.ofList url),s) := by
  rw [currentUrl,Session.run_bind,run_session,if_pos hs]
  dsimp only
  rw [hu]
  rfl

end

/-- Without a page, the base is the first address that works. -/
theorem run_currentUrl_of_noPage {s : Session} (hs : s.settings.isUsable = true) (hp : s.page = none) :
    s.run a.currentUrl = match s.run (a.firstWorking a.candidateUrls) with
      | (.ok (some url),t) => (.ok url,t)
      | (.ok none,t) => (.error (.noWorkingUrl a.definition.site),t)
      | (.error e,t) => (.error e,t) := by
  have hurl : s.url? = none := by
    rw [Session.url?,hp]
    rfl
  rw [currentUrl,Session.run_bind,run_session,if_pos hs]
  dsimp only
  rw [hurl,Session.run_bind]
  rcases s.run (a.firstWorking a.candidateUrls) with ⟨_ | _ | _,_⟩ <;> rfl

/-- The addresses at which the site may be are the configured one and the other declared ones. -/
theorem candidateUrls_eq : a.candidateUrls =
    (a.sites.get? a.definition.site "url").toList.filter (· ≠ "") ++
      a.definition.links.filter (some · ≠ a.sites.get? a.definition.site "url") := by
  unfold candidateUrls
  cases a.sites.get? a.definition.site "url" with
  | none => exact (List.filter_eq_self.mpr fun _ _ => by simp).symm
  | some url =>
    have hlinks (link : String) : (link != url) = decide (some link ≠ some url) := by
      by_cases h : link = url <;> simp [h]
    simp only [hlinks]
    by_cases hu : url = "" <;> simp [hu]

/-- Without a page, the base is the first candidate that answers with status 200. The search for it fails
if none does, and also if a candidate breaks whose turn comes. A site that has no working address leaves
either nothing behind, if none of them gave an answer, or a page that is the base from then on. -/
theorem currentUrl_probes {s : Session} (hs : s.settings.isUsable = true) (hp : s.page = none) :
    let configured := a.sites.get? a.definition.site "url"
    let candidates := configured.toList.filter (· ≠ "") ++
      a.definition.links.filter (some · ≠ configured)
    (∀ url t, s.run a.currentUrl = (.ok url,t) ↔
      ∃ m, a.Reached candidates url s m ∧ a.Works url m t) ∧
    (∀ e t, s.run a.currentUrl = (.error e,t) ↔
      (a.Passed candidates s t ∧ e = .noWorkingUrl a.definition.site) ∨
      ∃ url m cause, a.Reached candidates url s m ∧ a.Breaks url cause m t ∧ e = .session cause) ∧
    ∀ t, a.Passed candidates s t → t.settings = s.settings ∧
      (t.page = none ↔ a.Unanswered candidates s t) ∧
      ∀ p, t.page = some p → t.run a.currentUrl = (.ok (String.ofList p.response.url.toText),t) ∧
        (p.response.status = 200 → t.refresh?.isSome) := by
  intro configured candidates
  have hcandidates : a.candidateUrls = candidates := a.candidateUrls_eq
  have hrun := run_currentUrl_of_noPage a hs hp
  rw [hcandidates] at hrun
  refine ⟨fun url t => ?_,fun e t => ?_,fun t hpassed => ⟨settings_of_passed hpassed,?_,fun p hpage => ?_⟩⟩
  · rw [hrun,← run_firstWorking_eq_some hs]
    rcases s.run (a.firstWorking candidates) with ⟨_ | _ | _,_⟩ <;> simp
  · rw [hrun,← run_firstWorking_eq_none hs,← run_firstWorking_eq_error hs]
    rcases s.run (a.firstWorking candidates) with ⟨_ | _ | _,_⟩ <;> simp [eq_comm,and_comm]
  · constructor
    · intro hnone
      refine (unanswered_or_page hpassed).resolve_right ?_
      rintro ⟨p,hpage,-⟩
      rw [hnone] at hpage
      cases hpage
    · intro h
      rw [page_of_unanswered h,hp]
  · have husable : t.settings.isUsable = true := settings_of_passed hpassed ▸ hs
    refine ⟨run_currentUrl_of_page husable (by rw [Session.url?,hpage]; rfl),fun hstatus => ?_⟩
    rcases unanswered_or_page hpassed with h | ⟨p',hpage',hrefresh⟩
    · rw [page_of_unanswered h,hp] at hpage
      cases hpage
    · rw [hpage] at hpage'
      cases hpage'
      exact hrefresh hstatus

/-- An agent of a site with two addresses, whose pages have the given statuses. -/
def mirrored (first second : Nat) : Agent where
  definition := { site := "s", links := ["https://s.org/","https://t.org/"] }
  sites := {}
  server := fun _ r =>
    .ok { status := if r.url.toText = "https://s.org/".toList then first else second }
  now := { date := ⟨2009,11,10⟩, offset := some 0 }

set_option maxRecDepth 100000 in
/-- The second address of a site takes the place of the first one. If neither works, the page of the
second one is left, and it is the base of the next call. -/
theorem second_address_is_base :
    ({} : Session).settings.isUsable = true ∧ ({} : Session).page = none ∧
    (∃ t m, ({} : Session).run (mirrored 503 200).currentUrl = (.ok "https://t.org/",t) ∧
      (mirrored 503 200).Reached ["https://s.org/","https://t.org/"] "https://t.org/" {} m ∧
      (mirrored 503 200).Works "https://t.org/" m t) ∧
    (({} : Session).run (mirrored 503 503).currentUrl).1.toOption = none ∧
    ((({} : Session).run (mirrored 503 503).currentUrl).2.run (mirrored 503 503).currentUrl).1.toOption =
      some "https://t.org/" := by
  have hprobes := currentUrl_probes (mirrored 503 200) (s := {}) (by decide) rfl
  obtain ⟨hfirst,hnone,hsecond⟩ :
      (({} : Session).run (mirrored 503 200).currentUrl).1.toOption = some "https://t.org/" ∧
      (({} : Session).run (mirrored 503 503).currentUrl).1.toOption = none ∧
      ((({} : Session).run (mirrored 503 503).currentUrl).2.run
        (mirrored 503 503).currentUrl).1.toOption = some "https://t.org/" := by decide +kernel
  refine ⟨by decide,rfl,?_,hnone,hsecond⟩
  rcases hrun : ({} : Session).run (mirrored 503 200).currentUrl with ⟨e | url,t⟩
  · rw [hrun] at hfirst
    cases hfirst
  · rw [hrun] at hfirst
    cases hfirst
    obtain ⟨m,hreached,hworks⟩ := (hprobes.1 _ t).mp hrun
    exact ⟨t,m,rfl,hreached,hworks⟩

end TrackerHub.Agent
