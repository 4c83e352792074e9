import TrackerHub.Proofs.NamedEntries
import TrackerHub.Proofs.ReadLists
import TrackerHub.Proofs.Web.FormText
import TrackerHub.Proofs.Web.Memoryless
import TrackerHub.Proofs.Web.PlainAddress
import TrackerHub.Proofs.Web.SentRequests

/-! # Requests that carry forms

What the request that sends a form off carries: the values of each name together, names in the order in
which they first stand in the form. The values of one name keep their order, and so does everything else
if no name stands in the form twice.
-/
namespace TrackerHub.Web
open Text (Chars join)

/-- The pairs that a request carries: in its body, or in its query. -/
def Request.pairs (r : Request) : List (String × String) :=
  decodeForm true (if r.method == "POST" then r.body.getD "" else String.ofList (r.url.query.getD []))

namespace Form

def verb (f : Form) : String := if f.isPosted then "POST" else "GET"

def payload (f : Form) : Session.Payload := if f.isPosted then .form f.values else .query f.values

end Form

namespace Session

theorem submit_eq (server : Server) (f : Form) :
    submit server f = load server f.verb f.action.toList f.payload := by
  unfold submit Form.verb Form.payload
  split <;> rfl

/-! ## Values of one name together -/

section
variable {values rest : List (String × String)} {v : String × String}

theorem filter_name_flatMap (values : List (String × String)) (name : String) {names : List String}
    (hd : names.Nodup) :
    (names.flatMap fun other => values.filter fun v => v.1 == other).filter (fun v => v.1 == name) =
      if name ∈ names then values.filter fun v => v.1 == name else [] := by
  induction names with
  | nil => rfl
  | cons other names ih =>
    obtain ⟨hnew,hd⟩ := List.nodup_cons.mp hd
    rw [List.flatMap_cons,List.filter_append,ih hd,List.filter_filter]
    by_cases heq : name = other
    · subst heq
      rw [if_neg hnew,if_pos List.mem_cons_self,List.append_nil]
      simp
    · have hnone : values.filter (fun v => v.1 == name && v.1 == other) = [] :=
        List.filter_eq_nil_iff.mpr fun v _ hv => by
          simp only [Bool.and_eq_true,beq_iff_eq] at hv
          exact heq (hv.1.symm.trans hv.2)
      rw [hnone,List.nil_append]
      simp [heq]

/-- The values of a name keep their order. -/
theorem filter_grouped (values : List (String × String)) (name : String) :
    (grouped values).filter (fun v => v.1 == name) = values.filter fun v => v.1 == name := by
  rw [grouped,filter_name_flatMap values name (Named.nodup_eraseDups _)]
  split
  · rfl
  next h =>
    refine (List.filter_eq_nil_iff.mpr fun v hv heq => h ?_).symm
    exact List.mem_eraseDups.mpr (List.mem_map.mpr ⟨v,hv,beq_iff_eq.mp heq⟩)

/-- The values of the first name come first, then those of the other names. -/
theorem grouped_cons : grouped (v :: rest) =
    v :: rest.filter (fun w => w.1 == v.1) ++ grouped (rest.filter fun w => w.1 != v.1) := by
  have hnames : (rest.map (·.1)).filter (fun name => !name == v.1) =
      (rest.filter fun w => w.1 != v.1).map (·.1) := List.filter_map
  rw [grouped,List.map_cons,List.eraseDups_cons,List.flatMap_cons,hnames,
    List.filter_cons_of_pos (by simp),grouped]
  congr 1
  refine List.flatMap_congr fun name hname => ?_
  obtain ⟨w,hw,rfl⟩ := List.mem_map.mp (List.mem_eraseDups.mp hname)
  have hne : w.1 ≠ v.1 := bne_iff_ne.mp (List.mem_filter.mp hw).2
  rw [List.filter_cons_of_neg (by simpa using Ne.symm hne),List.filter_filter]
  refine List.filter_congr fun u _ => ?_
  by_cases hu : u.1 = w.1 <;> simp [hu,hne]

/-- Values with different names stay as they stand. -/
theorem grouped_of_nodup (hd : (values.map (·.1)).Nodup) : grouped values = values := by
  induction values with
  | nil => rfl
  | cons v rest ih =>
    obtain ⟨hnew,hd⟩ := List.nodup_cons.mp hd
    have hne : ∀ w ∈ rest, w.1 ≠ v.1 := fun w hw heq => hnew (List.mem_map.mpr ⟨w,hw,heq⟩)
    have hnone : rest.filter (fun w => w.1 == v.1) = [] :=
      List.filter_eq_nil_iff.mpr fun w hw => by simpa using hne w hw
    have hall : rest.filter (fun w => w.1 != v.1) = rest :=
      List.filter_eq_self.mpr fun w hw => by simpa using hne w hw
    rw [grouped_cons,hnone,hall,ih hd]
    rfl

end

/-! ## What the request carries -/

theorem unmarked_encodeForm (pairs : List (String × String)) :
    Address.Unmarked Address.inQuery (encodeForm pairs).toList := by
  have hquoted (s : Chars) : ∀ c ∈ formQuote s, (isFormSafe c || Address.inQuery c) = true := by
    intro c hc
    rcases mem_formQuote hc with rfl | rfl | h
    · decide
    · decide
    · rw [h,Bool.true_or]
  rw [encodeForm,String.toList_ofList]
  refine Text.forall_mem_join (List.forall_mem_singleton.mpr (by decide)) fun piece hpiece => ?_
  obtain ⟨p,_,rfl⟩ := List.mem_map.mp hpiece
  exact List.forall_mem_append.mpr ⟨hquoted _,List.forall_mem_cons.mpr ⟨by decide,hquoted _⟩⟩

theorem query_of_ofParts {scheme authority path : Chars} {query fragment : Option Chars} {a : Address}
    (h : Address.ofParts scheme authority path query fragment = .ok a) :
    a.query = query.map (Address.quotePart Address.inQuery) := by
  -- Whatever stops on the way, the parts are put together at the end, with this query.
  unfold Address.ofParts at h
  generalize Address.splitAuthority authority = split at h
  obtain ⟨userInfo,host,port⟩ := split
  obtain ⟨host,_,h⟩ := bind_eq_ok.mp h
  obtain ⟨port,_,h⟩ := bind_eq_ok.mp h
  dsimp only at h
  split at h
  · obtain ⟨_,hstop,_⟩ := bind_eq_ok.mp h
    cases hstop
  split at h
  · split at h
    · obtain ⟨_,hstop,_⟩ := bind_eq_ok.mp h
      cases hstop
    split at h
    · obtain ⟨_,hstop,_⟩ := bind_eq_ok.mp h
      cases hstop
    · cases h
      rfl
  · cases h
    rfl

section
variable {s : Session} {method : String} {url : Chars} {payload : Payload} {r : Request}

theorem request_eq_ok (h : s.request method url payload = .ok r) :
    r.method = method ∧ payload.address url = .ok r.url ∧ r.body = payload.body? := by
  rw [request_eq] at h
  obtain ⟨a,ha,h⟩ := bind_eq_ok.mp h
  obtain ⟨cookie,_,h⟩ := bind_eq_ok.mp h
  cases h
  exact ⟨rfl,ha,rfl⟩

/-- The values of a query are written so that nothing in them has to be marked. -/
theorem query_of_address {values : List (String × String)} {a : Address}
    (h : Payload.address (.query values) url = .ok a) :
    a.query = if values.isEmpty then none else some (encodeForm (grouped values)).toList := by
  obtain ⟨b,_,h⟩ := bind_eq_ok.mp h
  rw [query_of_ofParts (mapError_eq_ok.mp h)]
  split
  · rfl
  · rw [Option.map_some,Address.quotePart_of_unmarked (unmarked_encodeForm _)]

/-- A form arrives as its values, those of each name together. -/
theorem pairs_of_request {f : Form} (h : s.request f.verb f.action.toList f.payload = .ok r) :
    r.pairs = grouped f.values := by
  obtain ⟨hmethod,hurl,hbody⟩ := request_eq_ok h
  have hread : decodeForm true (encodeForm (grouped f.values)) = grouped f.values :=
    decodeForm_encodeForm_of nofun
  unfold Request.pairs
  unfold Form.verb at hmethod
  unfold Form.payload at hurl hbody
  by_cases hposted : f.isPosted = true
  · rw [if_pos hposted] at hmethod hbody
    rw [hmethod,hbody,if_pos (beq_self_eq_true _)]
    cases hv : f.values with
    | nil => rfl
    | cons v vs => rw [hv] at hread; exact hread
  · rw [if_neg hposted] at hmethod hurl
    rw [hmethod,query_of_address hurl,if_neg (by decide)]
    cases hv : f.values with
    | nil => rfl
    | cons v vs =>
      rw [hv] at hread
      simpa using hread

end

/-! ## The request is sent -/

section
variable {ε α β : Type} {s : Session} {server : Server} {r : Request} {earlier : List Request}

theorem sent_exchange (h : unsendable? r.url = none) :
    (s.run (exchange server r)).2.sent = s.sent ++ [r] := by
  unfold exchange
  rw [h]
  simp only [run_bind,run_get,run_set]
  cases server s.sent r with
  | error m => rfl
  | ok answer => rfl

theorem prefix_sent_bind {w : ExceptT ε (StateM Session) α} {f : α → ExceptT ε (StateM Session) β}
    (h : earlier <+: (s.run w).2.sent) (hf : ∀ x, KeepsSent (f x)) :
    earlier <+: (s.run (w >>= f)).2.sent := by
  rw [run_bind]
  rcases hr : s.run w with ⟨e | x,t⟩
  · rwa [hr] at h
  · rw [hr] at h
    exact h.trans (hf x t)

theorem sent_of_load {method : String} {url : Chars} {payload : Payload}
    (hr : s.request method url payload = .ok r) (h : unsendable? r.url = none) :
    s.sent ++ [r] <+: (s.run (load server method url payload)).2.sent := by
  have hfollow : s.sent ++ [r] <+: (s.run (follow server maxRequests r)).2.sent := by
    unfold maxRequests
    rw [follow_succ]
    have hfirst : s.sent ++ [r] <+: (s.run (exchange server r)).2.sent :=
      (sent_exchange h).symm ▸ List.prefix_rfl
    refine prefix_sent_bind hfirst fun response => ?_
    exact keeps_redirecting chained_sent (keeps_follow chained_sent (keepsSent_exchange server) _) r response
  have hfetching : s.run (s.fetching server method url payload) = s.run (follow server maxRequests r) := by
    unfold fetching
    rw [hr]
    rfl
  rw [load_eq]
  refine prefix_sent_bind ?_ fun _ => keeps_refreshing (lasting_sent server)
  rw [run_visit,hfetching]
  rcases hf : s.run (follow server maxRequests r) with ⟨e | response,t⟩
  · rwa [hf] at hfollow
  · rwa [hf] at hfollow

end

end Session

end TrackerHub.Web
