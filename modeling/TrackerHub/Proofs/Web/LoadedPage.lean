import TrackerHub.Proofs.Agent.Results
import TrackerHub.Proofs.Web.JoinedUrl
import TrackerHub.Proofs.Web.Kept

/-! # Pages that are loaded

Where the page of a session comes from. A page that was loaded has an address of the web, and whatever
is resolved against such an address is an address with a scheme.
-/
namespace TrackerHub.Web
open Text (Chars)

/-- Whether an address is one that requests can be sent to. -/
def Address.IsWeb (a : Address) : Prop := a.scheme = "http".toList ∨ a.scheme = "https".toList

theorem Address.IsWeb.toText_eq {a : Address} (h : a.IsWeb) :
    ∃ rest, a.toText = a.scheme ++ ':' :: rest := by
  have hs : a.scheme.isEmpty = false := by
    rcases h with h | h <;> rw [h] <;> rfl
  refine ⟨(if a.authority.isEmpty then [] else '/' :: '/' :: a.authority)
    ++ a.path ++ (a.query.map ('?' :: ·)).getD [] ++ (a.fragment.map ('#' :: ·)).getD [],?_⟩
  unfold Address.toText
  rw [hs]
  simp

/-- What is resolved against an address of the web is not empty. -/
theorem Address.IsWeb.join_ne_nil {a : Address} (h : a.IsWeb) {url joined : Chars} (hurl : url ≠ [])
    (hj : Url.join a.toText url = .ok joined) : joined ≠ [] := by
  obtain ⟨rest,ht⟩ := h.toText_eq
  rw [ht] at hj
  cases hp : Url.parse (a.scheme ++ ':' :: rest) with
  | error e =>
    rw [Url.join_eq (by simp) hurl,hp] at hj
    cases hj
  | ok b =>
    have hs : b.scheme ≠ [] := by
      rw [Url.scheme_of_web h hp]
      rcases h with h | h <;> rw [h] <;> decide
    exact Url.join_ne_nil hurl hp hs hj

namespace Session

theorem isWeb_of_sendable {a : Address} (h : unsendable? a = none) : a.IsWeb := by
  unfold unsendable? at h
  split at h
  · cases h
  split at h
  next hs =>
    simp only [Bool.or_eq_true,beq_iff_eq] at hs
    exact hs
  · cases h

section
variable {server : Server} {s t : Session} {response : Response}

theorem url_of_exchange {r : Request} (h : s.run (exchange server r) = (.ok response,t)) :
    response.url.IsWeb := by
  unfold exchange at h
  cases hu : unsendable? r.url with
  | some m =>
    rw [hu] at h
    cases h
  | none =>
    simp only [hu,run_bind,run_get,run_set] at h
    cases ha : server s.sent r with
    | error m =>
      rw [ha] at h
      cases h
    | ok answer =>
      rw [ha] at h
      cases h
      exact isWeb_of_sendable hu

/-- A response comes from an address of the web, whatever redirects led to it. -/
theorem url_of_follow {n : Nat} {r : Request} (h : s.run (follow server n r) = (.ok response,t)) :
    response.url.IsWeb := by
  induction n generalizing s r with
  | zero => cases h
  | succ n ih =>
    rw [follow] at h
    obtain ⟨first,u,hx,h⟩ := run_bind_eq_ok.mp h
    cases hl : first.location? with
    | none =>
      rw [hl] at h
      cases h
      exact url_of_exchange hx
    | some location =>
      rw [hl] at h
      obtain ⟨v,w,hg,h⟩ := run_bind_eq_ok.mp h
      obtain ⟨next,y,hn,h⟩ := run_bind_eq_ok.mp h
      split at h
      · exact ih h
      · cases h
        exact url_of_exchange hx

variable {method : String} {url : Chars} {payload : Payload} {x : Unit}

/-- A session that stands on a page of the web. -/
def HasPage (s : Session) : Prop := ∃ p, s.page = some p ∧ p.response.url.IsWeb

theorem hasPage_of_visit (h : s.run (visit server method url payload) = (.ok x,t)) : t.HasPage := by
  rw [run_visit] at h
  rcases hf : s.run (s.fetching server method url payload) with ⟨e | response,u⟩
  · rw [hf] at h
    cases h
  · rw [hf] at h
    cases h
    obtain ⟨r,v,-,hr⟩ := run_bind_eq_ok.mp hf
    exact ⟨.ofResponse response,rfl,url_of_follow hr⟩

theorem hasPage_of_load (h : s.run (load server method url payload) = (.ok x,t)) : t.HasPage := by
  obtain ⟨⟨⟩,u,hv,h⟩ := run_bind_eq_ok.mp h
  obtain ⟨v,w,hg,h⟩ := run_bind_eq_ok.mp h
  cases hg
  cases hr : u.refresh? with
  | none =>
    rw [hr] at h
    cases h
    exact hasPage_of_visit hv
  | some target =>
    rw [hr] at h
    dsimp only at h
    cases hj : Url.join (u.url?.getD []) target with
    | error e =>
      rw [hj] at h
      cases h
    | ok next =>
      rw [hj] at h
      exact hasPage_of_visit h

end

theorem url?_withDocument (s : Session) (nodes : Page.Document) : (s.withDocument nodes).url? = s.url? := by
  unfold url? withDocument
  cases s.page <;> rfl

theorem chained_url : Chained fun s t : Session => t.url? = s.url? where
  refl _ := rfl
  trans h h' := h'.trans h

end Session

end TrackerHub.Web

namespace TrackerHub.Agent
open Web (Session)
open Page (Place)

/-- The rows of a search are on a page of the web. -/
theorem url_of_resultRows {a : Agent} {q : Query} {s t : Session} {places : List Place}
    (h : s.run (a.resultRows q) = (.ok places,t)) :
    ∃ url : Web.Address, t.url? = some url.toText ∧ url.IsWeb := by
  unfold resultRows at h
  obtain ⟨_,s₁,-,h⟩ := Session.run_bind_eq_ok.mp h
  obtain ⟨_,s₂,hopen,hrows⟩ := Session.run_bind_eq_ok.mp h
  have hpage : s₂.HasPage := by
    unfold openResults at hopen
    obtain ⟨path,u₁,-,hopen⟩ := Session.run_bind_eq_ok.mp hopen
    obtain ⟨url,u₂,-,hopen⟩ := Session.run_bind_eq_ok.mp hopen
    obtain ⟨values,u₃,-,hopen⟩ := Session.run_bind_eq_ok.mp hopen
    split at hopen
    · exact Session.hasPage_of_load (run_browse_eq_ok hopen)
    · exact Session.hasPage_of_load (run_browse_eq_ok hopen)
  obtain ⟨p,hp,hweb⟩ := hpage
  have hurl : t.url? = s₂.url? := by
    have := keeps_selectRows Session.chained_url Session.url?_withDocument a s₂
    rwa [hrows] at this
  refine ⟨p.response.url,?_,hweb⟩
  rw [hurl,Session.url?,hp]
  rfl

end TrackerHub.Agent
