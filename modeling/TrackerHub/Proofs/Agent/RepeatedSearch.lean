import TrackerHub.Proofs.Agent.BaseUrl
import TrackerHub.Proofs.Agent.GuardedCalls
import TrackerHub.Proofs.ReadLists
import TrackerHub.Proofs.Web.Memoryless

/-! # Repeated searches

On a server without memory, and without a login, a search depends on the session in one way only: its
path is resolved against the page that is open. Searches that come to the same address send the same
requests and find the same releases, whatever was searched for before them. A path from the root comes
to the same address from every page of a site, so that a search on it can be repeated.
-/
namespace TrackerHub
open Web (Session)
open Web.Session (Agree Alike Equally Together Keeps Lasting)
open Page (Place)

/-- Whether a step was given up on account of the cookies for a request. -/
def AgentError.isOfCookies : AgentError → Bool
  | .session e => e.isOfCookies
  | _ => false

namespace Agent

section
variable (a : Agent) {before before' : List Web.Request} {s s' : Session}

theorem agree_browse {b : Web.Browsing Unit} (h : Alike before before' s s')
    (hb : Agree Web.SessionError.isOfCookies (Alike before before') (Equally (Together before before'))
      (s.run b) (s'.run b)) :
    Agree AgentError.isOfCookies (Alike before before') (Equally (Together before before'))
      (s.run (browse b)) (s'.run (browse b)) := by
  rw [run_browse,run_browse,h.settings]
  split
  · generalize s.run b = r at hb ⊢
    generalize s'.run b = r' at hb ⊢
    cases hb with
    | ok ht => exact .ok ht
    | error ht => exact .error ht
    | left he => exact .left he
    | right he => exact .right he
  · exact .error h

theorem agree_lift {ε α : Type} {f : ε → AgentError} (r : Except ε α) {R S : Session → Session → Prop}
    (hR : R s s') (hS : S s s') :
    Agree AgentError.isOfCookies R (Equally S) (s.run (lift f r)) (s'.run (lift f r)) := by
  cases r with
  | error e => exact .error hR
  | ok x => exact .ok ⟨rfl,hS⟩

theorem agree_selectRows (h : Together before before' s s') :
    Agree AgentError.isOfCookies (Alike before before') (Equally (Together before before'))
      (s.run a.selectRows) (s'.run a.selectRows) := by
  have rows {t t' : Session} (ht : Together before before' t t') :
      Agree AgentError.isOfCookies (Alike before before') (Equally (Together before before'))
        (t.run a.pageRows) (t'.run a.pageRows) := by
    refine .bind (agree_lift _ ht.toAlike ht) ?_
    rintro l _ u u' ⟨rfl,hu⟩
    refine .ok ⟨?_,hu⟩
    rw [hu.place]
  have remaining {t t' : Session} (ht : Together before before' t t') :
      Agree AgentError.isOfCookies (Alike before before') (Equally (Together before before'))
        (t.run a.remainingRows) (t'.run a.remainingRows) := by
    refine Agree.ite (.bind (rows ht) ?_) (rows ht)
    rintro found _ u u' ⟨rfl,hu⟩
    refine Agree.ite (.bind (agree_lift _ hu.toAlike hu) ?_) (rows hu)
    rintro l _ v v' ⟨rfl,hv⟩
    rw [Session.run_bind_of_ok (Session.run_modify v _),Session.run_bind_of_ok (Session.run_modify v' _),
      hv.document]
    exact rows (hv.withDocument _)
  rw [selectRows_eq]
  refine Agree.ite (.bind (rows h) ?_) (remaining h)
  rintro found _ t t' ⟨rfl,ht⟩
  rw [Session.run_bind_of_ok (Session.run_modify t _),Session.run_bind_of_ok (Session.run_modify t' _),
    ht.document]
  exact remaining (ht.withDocument _)

theorem agree_submitSearch (hm : a.server.IsMemoryless) (h : Alike before before' s s') (q : Query)
    (request : String × List (String × String)) :
    Agree AgentError.isOfCookies (Alike before before') (Equally (Alike before before'))
      (s.run (a.submitSearch q request)) (s'.run (a.submitSearch q request)) := by
  have results {t t' : Session} (ht : Together before before' t t') :
      Agree AgentError.isOfCookies (Alike before before') (Equally (Alike before before'))
        (t.run (do
          let rows ← a.selectRows
          let base := (← get).url?.getD []
          lift id (a.collect q (a.localCategories q) base rows []) : Working (List Release)))
        (t'.run (do
          let rows ← a.selectRows
          let base := (← get).url?.getD []
          lift id (a.collect q (a.localCategories q) base rows []) : Working (List Release))) := by
    refine .bind (a.agree_selectRows ht) ?_
    rintro rows _ u u' ⟨rfl,hu⟩
    rw [Session.run_bind_of_ok (Session.run_get u),Session.run_bind_of_ok (Session.run_get u'),hu.url?]
    exact agree_lift _ hu.toAlike hu.toAlike
  unfold submitSearch
  split
  · exact .bind (agree_browse h (Session.agree_load hm h _ _ _)) fun _ _ _ _ ht => results ht.rest
  · exact .bind (agree_browse h (Session.agree_load hm h _ _ _)) fun _ _ _ _ ht => results ht.rest

end

/-- What the requests of a search say, from its submission on. -/
def submitted (a : Agent) (q : Query) (s : Session) : List (String × Web.Address × Option String) :=
  ((s.run (a.search q)).2.sent.drop (s.run (a.searchRequest q)).2.sent.length).map Web.Request.core

def afterSearches (a : Agent) (s : Session) (queries : List Query) : Session :=
  queries.foldl (fun t q => (t.run (a.search q)).2) s

/-- Whether a search sends the same requests from two sessions and finds the same releases or fails in
the same way, unless it is given up on account of cookies. -/
def SameSearch (a : Agent) (q : Query) (s s' : Session) : Prop :=
  (∃ e, (s.run (a.search q)).1 = .error e ∧ e.isOfCookies) ∨
  (∃ e, (s'.run (a.search q)).1 = .error e ∧ e.isOfCookies) ∨
  (s.run (a.search q)).1 = (s'.run (a.search q)).1 ∧ a.submitted q s = a.submitted q s'

def searchPath (a : Agent) (q : Query) : Except Template.TemplateError String :=
  Template.render a.definition.search.path (searchContext q (a.localCategories q))

section
variable {a : Agent} {q : Query} {s s' : Session}

theorem resolve_congr {path base base' : String} (h : (s.run a.currentUrl).1 = .ok base)
    (h' : (s'.run a.currentUrl).1 = .ok base')
    (hj : Web.Url.join base.toList path.toList = Web.Url.join base'.toList path.toList) :
    (s.run (a.resolve path)).1 = (s'.run (a.resolve path)).1 := by
  unfold resolve
  split
  · rfl
  · rcases hr : s.run a.currentUrl with ⟨e | x,t⟩ <;> rw [hr] at h <;> cases h
    rcases hr' : s'.run a.currentUrl with ⟨e | x,t'⟩ <;> rw [hr'] at h' <;> cases h'
    rw [Session.run_bind_of_ok hr,Session.run_bind_of_ok hr',hj]
    cases Web.Url.join base'.toList path.toList <;> rfl

theorem searchRequest_congr
    (h : ∀ path, a.searchPath q = .ok path → (s.run (a.resolve path)).1 = (s'.run (a.resolve path)).1) :
    (s.run (a.searchRequest q)).1 = (s'.run (a.searchRequest q)).1 := by
  unfold searchRequest
  refine Session.run_bind_fst_congr (by rw [run_lift,run_lift]) fun path t t' hp hp' => ?_
  rw [run_lift,Prod.mk.injEq] at hp hp'
  obtain ⟨hp,rfl⟩ := hp
  obtain ⟨-,rfl⟩ := hp'
  have hpath : a.searchPath q = .ok path := by
    unfold searchPath
    cases hr : Template.render a.definition.search.path (searchContext q (a.localCategories q)) with
    | error e =>
      rw [hr] at hp
      cases hp
    | ok x =>
      rw [hr] at hp
      cases hp
      rfl
  refine Session.run_bind_fst_congr (h path hpath) fun url u u' _ _ => ?_
  exact Session.run_bind_fst_congr (by rw [run_lift,run_lift]) fun _ _ _ _ _ => rfl

section
variable (hl : a.definition.login.declared = false)
include hl

theorem search_eq_of_noLogin : a.search q = (do
    let request ← a.searchRequest q
    a.submitSearch q request) := by
  have hlogin : a.ensureLogin = pure () := by
    unfold ensureLogin needsLogin
    dsimp only
    rw [hl]
    rfl
  rw [search_eq,hlogin,pure_bind]

theorem keeps_search {R : Session → Session → Prop} (hR : Lasting a.server R) :
    Keeps R (a.search q) := by
  rw [search_eq_of_noLogin hl]
  exact Keeps.bind hR.toChained (a.keeps_searchRequest hR q) fun request =>
    a.keeps_submitSearch hR q request

theorem settings_afterSearches (queries : List Query) :
    (a.afterSearches s queries).settings = s.settings := by
  induction queries generalizing s with
  | nil => rfl
  | cons q rest ih =>
    calc (a.afterSearches (s.run (a.search q)).2 rest).settings
      _ = (s.run (a.search q)).2.settings := ih
      _ = s.settings := keeps_search hl (Session.lasting_settings a.server) s

variable (hm : a.server.IsMemoryless)
include hm

/-- Searches that come to the same request are the same. -/
theorem sameSearch_of_request (hs : s.settings = s'.settings)
    (hr : (s.run (a.searchRequest q)).1 = (s'.run (a.searchRequest q)).1) : a.SameSearch q s s' := by
  have hkeep (t : Session) : (t.run (a.searchRequest q)).2.settings = t.settings :=
    a.keeps_searchRequest (Session.lasting_settings a.server) q t
  have hv := hkeep s
  have hv' := hkeep s'
  unfold SameSearch submitted
  rw [search_eq_of_noLogin hl]
  rcases hp : s.run (a.searchRequest q) with ⟨e | request,v⟩
  all_goals rcases hp' : s'.run (a.searchRequest q) with ⟨e' | request',v'⟩
  all_goals rw [hp,hp'] at hr
  all_goals cases hr
  · rw [Session.run_bind_of_error hp,Session.run_bind_of_error hp']
    refine .inr (.inr ⟨rfl,?_⟩)
    rw [List.drop_length,List.drop_length]
  · rw [Session.run_bind_of_ok hp,Session.run_bind_of_ok hp']
    rw [hp] at hv
    rw [hp'] at hv'
    -- What the searches sent before is of no account: the two logs are compared from here on.
    have halike : Alike v.sent v'.sent v v' :=
      ⟨hv.trans (hs.trans hv'.symm),[],[],(List.append_nil _).symm,(List.append_nil _).symm,rfl⟩
    have hsubmit := a.agree_submitSearch hm halike q request
    have hsince {t t' : Session} (h : Alike v.sent v'.sent t t') :
        (t.sent.drop v.sent.length).map Web.Request.core =
          (t'.sent.drop v'.sent.length).map Web.Request.core := by
      obtain ⟨since,since',ht,ht',heq⟩ := h.sent
      rw [ht,ht',List.drop_left,List.drop_left,heq]
    generalize v.run (a.submitSearch q request) = r at hsubmit ⊢
    generalize v'.run (a.submitSearch q request) = r' at hsubmit ⊢
    cases hsubmit with
    | ok h =>
      obtain ⟨rfl,h⟩ := h
      exact .inr (.inr ⟨rfl,hsince h⟩)
    | error h => exact .inr (.inr ⟨rfl,hsince h⟩)
    | left he => exact .inl ⟨_,rfl,he⟩
    | right he => exact .inr (.inl ⟨_,rfl,he⟩)

/-- A search is the same from two bases that lead its path to the same address. -/
theorem sameSearch_of_isFixed (hs : s.settings = s'.settings) {base base' : String}
    (h : (s.run a.currentUrl).1 = .ok base) (h' : (s'.run a.currentUrl).1 = .ok base')
    (hf : ∀ path, a.searchPath q = .ok path →
      Web.Url.IsFixed base.toList base'.toList path.toList) : a.SameSearch q s s' :=
  sameSearch_of_request hl hm hs <| searchRequest_congr fun path hp =>
    resolve_congr h h' (Web.Url.join_of_isFixed (hf path hp))

/-- Without a login, searches on a server without memory can be repeated, whatever was searched for
before them: searches that come to the same request, or fail to come to one in the same way, are the
same. They come to the same one if their path is fixed by what the bases have in common that it is
resolved against; for a search that is repeated, these are its base and the page that it opened. -/
theorem searches_repeatable (s : Session) (q : Query) (earlier earlier' : List Query) :
    let t := a.afterSearches s earlier
    let t' := a.afterSearches s earlier'
    let again := a.afterSearches s (earlier ++ [q])
    ((t.run (a.searchRequest q)).1 = (t'.run (a.searchRequest q)).1 → a.SameSearch q t t') ∧
    ∀ base, (t.run a.currentUrl).1 = .ok base →
      (∀ base', (t'.run a.currentUrl).1 = .ok base' →
        (∀ path, a.searchPath q = .ok path →
          Web.Url.IsFixed base.toList base'.toList path.toList) → a.SameSearch q t t') ∧
      ∀ page, again.url? = some page →
        (∀ path, a.searchPath q = .ok path →
          Web.Url.IsFixed base.toList page path.toList) → a.SameSearch q t again := by
  intro t t' again
  have hsettings (queries queries' : List Query) :
      (a.afterSearches s queries).settings = (a.afterSearches s queries').settings := by
    rw [settings_afterSearches hl,settings_afterSearches hl]
  refine ⟨sameSearch_of_request hl hm (hsettings _ _),fun base hbase => ⟨fun base' hbase' hf => ?_,
    fun page hpage hf => ?_⟩⟩
  · exact sameSearch_of_isFixed hl hm (hsettings _ _) hbase hbase' hf
  · -- The search that is repeated is sent from the page that it opened itself.
    have husable : again.settings.isUsable = true := by
      rw [hsettings _ earlier]
      exact usable_of_currentUrl hbase
    have hagain := congrArg Prod.fst (run_currentUrl_of_page (a := a) husable hpage)
    refine sameSearch_of_isFixed hl hm (hsettings _ _) hbase hagain fun path hp => ?_
    rw [String.toList_ofList]
    exact hf path hp

end

end

/-- An agent of a site whose answers depend on the address alone. -/
def sited (path : String) (answer : Text.Chars → Web.Answer) : Agent :=
  let site := listing .seeders {} ""
  { site with
    definition := { site.definition with search := { site.definition.search with path } }
    server := fun _ r => .ok (answer r.url.toText) }

theorem isMemoryless_sited (path : String) (answer : Text.Chars → Web.Answer) :
    (sited path answer).server.IsMemoryless := by
  intro _ _ r r' h
  have hurl : r.url = r'.url := congrArg (·.2.1) h
  change Except.ok (answer r.url.toText) = .ok (answer r'.url.toText)
  rw [hurl]

def oneRelease : Web.Answer where
  headers := [("content-type","text/html; charset=utf-8")]
  body := Text.encodeUtf8 "<li><a href=/x>x</a></li>".toList

/-- What a search and its repetition give: the titles that are found, and the requests they send. -/
def twice (a : Agent) : List (Option (List String) × List (String × String)) :=
  [({} : Session),a.afterSearches {} [{}]].map fun s =>
    ((s.run (a.search {})).1.toOption.map (·.map (·.title)),
      (a.submitted {} s).map fun c => (c.1,String.ofList c.2.1.toText))

/-- An agent of a site with a release at one address. -/
def shelf (path : String) : Agent :=
  sited path fun url => if url = "https://s.org/t/search".toList then oneRelease else {}

/-- The site sends its visitors on to another one. -/
def movedShelf : Agent :=
  sited "/t/search" fun url =>
    if url = "https://s.org/t/search".toList then
      { status := 302, headers := [("location","https://u.org/t")] }
    else if url = "https://u.org/t".toList then oneRelease
    else {}

/-- The site sets a cookie that cannot be sent back. -/
def markedShelf : Agent :=
  sited "/t/search" fun url =>
    if url = "https://s.org/t/search".toList then
      { oneRelease with headers := ("set-cookie","c=é") :: oneRelease.headers }
    else {}

/-- The site has no page at its root. -/
def rootlessShelf : Agent :=
  sited "/t/search" fun url =>
    if url = "https://s.org/t/search".toList then oneRelease else { status := 404 }

set_option maxRecDepth 100000 in
/-- A relative path leads to another address from the page of the first search. So does a rooted one from
a page of another site; and the same address is not searched twice if the cookies for it cannot be sent,
or if the site has no address that works. -/
theorem repeated_searches_differ :
    (∀ a ∈ [shelf "t/search",movedShelf,markedShelf,rootlessShelf],
      a.definition.login.declared = false ∧ a.server.IsMemoryless) ∧
    (shelf "t/search").twice = [(some ["x"],[("GET","https://s.org/t/search")]),
      (some [],[("GET","https://s.org/t/t/search")])] ∧
    movedShelf.twice = [(some ["x"],[("GET","https://s.org/t/search"),("GET","https://u.org/t")]),
      (some [],[("GET","https://u.org/t/search")])] ∧
    markedShelf.twice = [(some ["x"],[("GET","https://s.org/t/search")]),(none,[])] ∧
    rootlessShelf.twice = [(none,[]),(some ["x"],[("GET","https://s.org/t/search")])] := by
  refine ⟨fun a ha => ?_,by decide +kernel,by decide +kernel,by decide +kernel,by decide +kernel⟩
  simp only [List.mem_cons,List.not_mem_nil,or_false] at ha
  rcases ha with rfl | rfl | rfl | rfl <;> exact ⟨rfl,isMemoryless_sited _ _⟩

set_option maxRecDepth 100000 in
/-- The same path from the root leads to the same address again. -/
theorem rooted_search_repeated :
    let a := shelf "/t/search"
    let again := a.afterSearches {} [{}]
    (({} : Session).run (a.searchRequest {})).1 = (again.run (a.searchRequest {})).1 ∧
    (({} : Session).run a.currentUrl).1 = .ok "https://s.org/" ∧
    again.url? = some "https://s.org/t/search".toList ∧
    a.SameSearch {} {} again ∧
    a.twice = [(some ["x"],[("GET","https://s.org/t/search")]),
      (some ["x"],[("GET","https://s.org/t/search")])] := by
  intro a again
  obtain ⟨hpath,hbase,hpage,hfirst,hagain,htwice⟩ :
      (a.searchPath {}).toOption = some "/t/search" ∧
      (({} : Session).run a.currentUrl).1.toOption = some "https://s.org/" ∧
      again.url? = some "https://s.org/t/search".toList ∧
      (({} : Session).run (a.searchRequest {})).1.toOption = some ("https://s.org/t/search",[]) ∧
      (again.run (a.searchRequest {})).1.toOption = some ("https://s.org/t/search",[]) ∧
      a.twice = [(some ["x"],[("GET","https://s.org/t/search")]),
        (some ["x"],[("GET","https://s.org/t/search")])] := by decide +kernel
  have hfixed : ∀ path, a.searchPath {} = .ok path →
      Web.Url.IsFixed "https://s.org/".toList "https://s.org/t/search".toList path.toList := by
    rintro path hp
    rw [toOption_eq_some.mp hpath] at hp
    cases hp
    refine ⟨_,_,rfl,rfl,by decide,by decide,?_⟩
    rintro u hu
    cases hu
    exact .inr ⟨rfl,rfl⟩
  have hsame := (searches_repeatable (a := a) rfl (isMemoryless_sited _ _) {} {} [] [{}]).2 _
    (toOption_eq_some.mp hbase)
  exact ⟨(toOption_eq_some.mp hfirst).trans (toOption_eq_some.mp hagain).symm,toOption_eq_some.mp hbase,
    hpage,hsame.2 _ hpage hfixed,htwice⟩

end Agent

end TrackerHub
