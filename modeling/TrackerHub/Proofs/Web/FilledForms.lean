import TrackerHub.Agent.Login
import TrackerHub.Proofs.Web.FormRequests

/-! # Forms that are filled in

What becomes of the values of a form when several inputs are filled in one after another. All of them are
filled in, in whatever order they come, or none is and nothing is sent. The request that sends the form
off carries the values of each name together.
-/
namespace TrackerHub.Web
open Text (Chars)

namespace Form

/-- The values of a form with inputs filled in: the first value of an input's name is replaced, any others
of that name are dropped, and the values of other names stay. -/
def filled (inputs : Named String) : List (String × String) → List (String × String)
  | [] => []
  | (name,old) :: rest =>
    match inputs.find? name with
    | none => (name,old) :: filled inputs rest
    | some value => (name,value) :: (filled inputs rest).filter fun v => v.1 != name

/-- Whether a form has a value of a name. -/
def HasField (f : Form) (name : String) : Prop := name ∈ f.values.map (·.1)

instance (f : Form) (name : String) : Decidable (f.HasField name) := inferInstanceAs (Decidable (_ ∈ _))

section
variable {inputs others : Named String} {name value old : String} {values rest : List (String × String)}

theorem filled_cons_of_none (h : inputs.find? name = none) :
    filled inputs ((name,old) :: rest) = (name,old) :: filled inputs rest := by
  rw [filled,h]

theorem filled_cons_of_some (h : inputs.find? name = some value) : filled inputs ((name,old) :: rest) =
    (name,value) :: (filled inputs rest).filter fun v => v.1 != name := by
  rw [filled,h]

theorem filled_congr (h : ∀ name, inputs.find? name = others.find? name) :
    filled inputs values = filled others values := by
  induction values with
  | nil => rfl
  | cons v rest ih => rw [filled,filled,h,ih]

/-- Inputs that a form has no value of change nothing. -/
theorem filled_of_none (h : ∀ v ∈ values, inputs.find? v.1 = none) : filled inputs values = values := by
  induction values with
  | nil => rfl
  | cons v rest ih =>
    obtain ⟨hv,hrest⟩ := List.forall_mem_cons.mp h
    rw [filled_cons_of_none hv,ih hrest]

/-- Leaving names out before or after the inputs are filled in makes no difference. -/
theorem filled_filter (p : String → Bool) :
    filled inputs (values.filter fun v => p v.1) = (filled inputs values).filter fun v => p v.1 := by
  induction values with
  | nil => rfl
  | cons v rest ih =>
    obtain ⟨name,old⟩ := v
    cases hp : p name with
    | false =>
      rw [List.filter_cons_of_neg (by simp [hp]),ih]
      cases hi : inputs.find? name with
      | none => rw [filled_cons_of_none hi,List.filter_cons_of_neg (by simp [hp])]
      | some value =>
        rw [filled_cons_of_some hi,List.filter_cons_of_neg (by simp [hp]),List.filter_filter]
        refine List.filter_congr fun v _ => ?_
        by_cases hv : v.1 = name <;> simp [hv,hp]
    | true =>
      rw [List.filter_cons_of_pos (by simpa using hp)]
      cases hi : inputs.find? name with
      | none => rw [filled_cons_of_none hi,filled_cons_of_none hi,ih,List.filter_cons_of_pos (by simpa using hp)]
      | some value =>
        rw [filled_cons_of_some hi,filled_cons_of_some hi,ih,List.filter_cons_of_pos (by simpa using hp),
          List.filter_filter,List.filter_filter]
        simp only [Bool.and_comm]

theorem mem_names_filled : name ∈ (filled inputs values).map (·.1) ↔ name ∈ values.map (·.1) := by
  induction values with
  | nil => rfl
  | cons v rest ih =>
    obtain ⟨other,old⟩ := v
    cases hi : inputs.find? other with
    | none => rw [filled_cons_of_none hi,List.map_cons,List.map_cons,List.mem_cons,List.mem_cons,ih]
    | some value =>
      rw [filled_cons_of_some hi,List.map_cons,List.map_cons,List.mem_cons,List.mem_cons,← ih]
      by_cases h : name = other
      · simp [h]
      · simp [h]

theorem find?_cons (name value other : String) (inputs : Named String) :
    Named.find? ((name,value) :: inputs) other = if name = other then some value else inputs.find? other := by
  unfold Named.find?
  by_cases h : name = other <;> simp [h]

theorem find?_singleton_self : Named.find? [(name,value)] name = some value := by
  rw [find?_cons,if_pos rfl]

theorem find?_singleton_of_ne {other : String} (h : name ≠ other) : Named.find? [(name,value)] other = none := by
  rw [find?_cons,if_neg h]
  rfl

/-- One input after the others is the same as all of them at once. -/
theorem filled_filled (h : inputs.find? name = none) :
    filled inputs (filled [(name,value)] values) = filled ((name,value) :: inputs) values := by
  induction values with
  | nil => rfl
  | cons v rest ih =>
    obtain ⟨other,old⟩ := v
    by_cases heq : name = other
    · subst heq
      rw [filled_cons_of_some find?_singleton_self,filled_cons_of_none h,
        filled_cons_of_some (by rw [find?_cons,if_pos rfl]),← ih]
      exact congrArg _ (filled_filter fun other => other != name)
    · have hother : Named.find? ((name,value) :: inputs) other = inputs.find? other := by
        rw [find?_cons,if_neg heq]
      rw [filled_cons_of_none (find?_singleton_of_ne heq)]
      cases hi : inputs.find? other with
      | none => rw [filled_cons_of_none hi,filled_cons_of_none (hother.trans hi),ih]
      | some w => rw [filled_cons_of_some hi,filled_cons_of_some (hother.trans hi),ih]

/-- The values before the first one of a name, a new value, and those behind it without the name. -/
theorem replaced_eq_filled (h : name ∈ values.map (·.1)) :
    (values.takeWhile fun v => v.1 != name) ++ (name,value) ::
        (values.drop ((values.takeWhile fun v => v.1 != name).length + 1)).filter (fun v => v.1 != name) =
      filled [(name,value)] values := by
  induction values with
  | nil => cases h
  | cons v rest ih =>
    obtain ⟨other,old⟩ := v
    by_cases heq : name = other
    · subst heq
      have hrest : filled [(name,value)] (rest.filter fun v => v.1 != name) = rest.filter fun v => v.1 != name := by
        refine filled_of_none fun v hv => find?_singleton_of_ne ?_
        exact Ne.symm (bne_iff_ne.mp (List.mem_filter.mp hv).2)
      rw [filled_cons_of_some find?_singleton_self,← filled_filter fun other => other != name,hrest]
      simp
    · have hne : (other != name) = true := bne_iff_ne.mpr (Ne.symm heq)
      rw [filled_cons_of_none (find?_singleton_of_ne heq),List.takeWhile_cons_of_pos (by simpa using hne),
        List.length_cons,List.drop_succ_cons,List.cons_append,ih ((List.mem_cons.mp h).resolve_left heq)]

/-- A form is filled in if it has a value of the name. -/
theorem fill_eq (f : Form) (name value : String) : f.fill name value =
    if f.HasField name then .ok { f with values := filled [(name,value)] f.values }
    else .error (.noInput name) := by
  have hany : (f.values.any fun v => v.1 == name) = true ↔ f.HasField name := by
    simp [HasField]
  unfold fill fill?
  by_cases h : f.HasField name
  · rw [if_pos (hany.mpr h),if_pos h,← replaced_eq_filled h]
  · rw [if_neg (mt hany.mp h),if_neg h]

/-- Inputs that are filled in one after another are filled in together, or the first one that the form has no
value of is reported. -/
theorem fillAll_eq {inputs : Named String} (hd : (inputs.map (·.1)).Nodup) (f : Form) :
    inputs.foldlM (fun f (name,value) => f.fill name value) f =
      match List.find? (fun i => decide (¬f.HasField i.1)) inputs with
      | none => .ok { f with values := filled inputs f.values }
      | some i => .error (.noInput i.1) := by
  induction inputs generalizing f with
  | nil =>
    rw [filled_of_none fun v _ => rfl]
    rfl
  | cons i rest ih =>
    obtain ⟨name,value⟩ := i
    rw [List.map_cons,List.nodup_cons] at hd
    rw [List.foldlM_cons]
    dsimp only
    rw [fill_eq]
    by_cases h : f.HasField name
    · have hnone : Named.find? rest name = none := by
        unfold Named.find?
        rw [List.find?_eq_none.mpr fun i hi heq => hd.1 (List.mem_map.mpr ⟨i,hi,by simpa using heq⟩)]
        rfl
      have hsame (other : String) :
          HasField { f with values := filled [(name,value)] f.values } other ↔ f.HasField other :=
        mem_names_filled
      rw [if_pos h,List.find?_cons_of_neg (by simpa using h)]
      simp only [bind,Except.bind]
      rw [ih hd.2]
      simp only [hsame,filled_filled hnone]
    · rw [if_neg h,List.find?_cons_of_pos (by simpa using h)]
      rfl

end

end Form

theorem Session.run_of_toOption {ε α : Type} {s : Session} {w : ExceptT ε (StateM Session) α} {x : α}
    (h : (s.run w).1.toOption = some x) : s.run w = (.ok x,(s.run w).2) :=
  Prod.ext (toOption_eq_some.mp h) rfl

end TrackerHub.Web

namespace TrackerHub.Agent
open Web (Session Form)

section
variable {a : Agent} {s v : Session} {url selector : String} {inputs : Named String} {f : Form}

/-- A login fills in all inputs and sends the form off, or it reports an input that the form has no value of
and sends nothing more. -/
theorem run_loginByForm (hopen : s.run (browse (Session.open a.server url)) = (.ok (),v))
    (hform : v.form selector = .ok f) (hd : (inputs.map (·.1)).Nodup) :
    s.run (a.loginByForm url selector inputs) =
      match List.find? (fun i => decide (¬f.HasField i.1)) inputs with
      | none => v.run (browse (Session.submit a.server { f with values := Form.filled inputs f.values }))
      | some i => (.error (.session (.noInput i.1)),v) := by
  unfold loginByForm
  rw [Session.run_bind_of_ok hopen,Session.run_bind_of_ok (Session.run_get v),
    Session.run_bind_of_ok (run_lift_eq_ok.mpr ⟨hform,rfl⟩),Form.fillAll_eq hd]
  split
  · rfl
  · rfl

theorem run_loginByForm_of_present (hopen : s.run (browse (Session.open a.server url)) = (.ok (),v))
    (hform : v.form selector = .ok f) (hd : (inputs.map (·.1)).Nodup) (hall : ∀ i ∈ inputs, f.HasField i.1) :
    s.run (a.loginByForm url selector inputs) =
      v.run (browse (Session.submit a.server { f with values := Form.filled inputs f.values })) := by
  rw [run_loginByForm hopen hform hd,List.find?_eq_none.mpr fun i hi => by simpa using hall i hi]

theorem usable_after_open (hopen : s.run (browse (Session.open a.server url)) = (.ok (),v)) :
    v.settings.isUsable = true := by
  have hkept := Session.keeps_load (Session.lasting_settings a.server) "GET" url.toList .nothing s
  rw [show s.run (Session.load a.server "GET" url.toList .nothing) = _ from run_browse_eq_ok hopen] at hkept
  rw [hkept]
  exact usable_of_browse hopen

/-- Inputs that the form has values of are filled in all at once, in whatever order they come, and the form
is sent off: the request carries its values, those of each name together, and it is sent if its address
can be sent to. If the form has no value of an input, one such input is reported and nothing is sent
once the page is open. -/
theorem form_login_decided (hopen : s.run (browse (Session.open a.server url)) = (.ok (),v))
    (hform : v.form selector = .ok f) (hd : (inputs.map (·.1)).Nodup) :
    (∀ name value, f.fill name value = if f.HasField name
      then .ok { f with values := Form.filled [(name,value)] f.values } else .error (.noInput name)) ∧
    ((∀ i ∈ inputs, f.HasField i.1) →
      let sent : Form := { f with values := Form.filled inputs f.values }
      (∀ others : Named String, others.Perm inputs → s.run (a.loginByForm url selector others) =
        v.run (browse (Session.submit a.server sent))) ∧
      ∀ r, v.request sent.verb sent.action.toList sent.payload = .ok r →
        r.pairs = Session.grouped sent.values ∧
        (∀ name, r.pairs.filter (fun p => p.1 == name) = sent.values.filter fun p => p.1 == name) ∧
        ((sent.values.map (·.1)).Nodup → r.pairs = sent.values) ∧
        (Session.unsendable? r.url = none →
          v.sent ++ [r] <+: (s.run (a.loginByForm url selector inputs)).2.sent)) ∧
    ((∃ i ∈ inputs, ¬f.HasField i.1) → ∃ i ∈ inputs, ¬f.HasField i.1 ∧
      s.run (a.loginByForm url selector inputs) = (.error (.session (.noInput i.1)),v)) := by
  refine ⟨f.fill_eq,fun hall => ⟨fun others hperm => ?_,fun r hr => ?_⟩,fun ⟨i,hi,hmissing⟩ => ?_⟩
  · have hothers : (others.map (·.1)).Nodup := (hperm.map (·.1)).nodup_iff.mpr hd
    rw [run_loginByForm_of_present hopen hform hothers fun i hi => hall i (hperm.mem_iff.mp hi),
      Form.filled_congr fun name => Named.find?_perm hperm hd name]
  · have hpairs := Session.pairs_of_request hr
    refine ⟨hpairs,fun name => by rw [hpairs,Session.filter_grouped],
      fun hnodup => by rw [hpairs,Session.grouped_of_nodup hnodup],fun hsendable => ?_⟩
    rw [run_loginByForm_of_present hopen hform hd hall,run_browse,if_pos (usable_after_open hopen),
      Session.submit_eq]
    exact Session.sent_of_load hr hsendable
  · rw [run_loginByForm hopen hform hd]
    cases hfind : List.find? (fun i => decide (¬f.HasField i.1)) inputs with
    | none => exact absurd hmissing (by simpa using List.find?_eq_none.mp hfind i hi)
    | some first =>
      exact ⟨first,List.mem_of_find?_eq_some hfind,by simpa using List.find?_some hfind,rfl⟩

end

/-- An agent of a site whose pages all show a form in which one name stands twice. -/
def entering : Agent where
  definition := { site := "s", links := ["https://s.org/"] }
  sites := {}
  server := .ofPage "<form method=post><input name=a value=1><input name=user><input name=a value=2>"
  now := { date := ⟨2009,11,10⟩, offset := some 0 }

def entered : Except AgentError Unit × Session :=
  ({} : Session).run (browse (Session.open entering.server "https://s.org/login"))

def entry : Form where
  method := "post"
  action := "https://s.org/login"
  values := [("a","1"),("user",""),("a","2")]

/-- The form as it is sent with both of its names filled in. -/
def filledEntry : Form := { entry with values := [("a","3"),("user","ann")] }

set_option maxRecDepth 100000 in
theorem entered_facts : entered.1.toOption = some () ∧
    (entered.2.form "form").toOption = some entry ∧
    (entered.2.request filledEntry.verb filledEntry.action.toList filledEntry.payload).toOption.map
      (fun r => Session.unsendable? r.url) = some none := by
  decide +kernel

theorem run_open_entering :
    ({} : Session).run (browse (Session.open entering.server "https://s.org/login")) = (.ok (),entered.2) :=
  Session.run_of_toOption entered_facts.1

theorem form_entered : entered.2.form "form" = .ok entry :=
  toOption_eq_some.mp entered_facts.2.1

set_option maxRecDepth 100000 in
theorem two_inputs_filled_in : ∃ r : Web.Request, r.pairs = [("a","3"),("user","ann")] ∧
    entered.2.sent ++ [r] <+: (({} : Session).run
      (entering.loginByForm "https://s.org/login" "form" [("user","ann"),("a","3")])).2.sent ∧
    ({} : Session).run (entering.loginByForm "https://s.org/login" "form" [("user","ann"),("pin","1")]) =
      (.error (.session (.noInput "pin")),entered.2) := by
  have hd : (([("user","ann"),("a","3")] : Named String).map (·.1)).Nodup := by decide
  have hd' : (([("user","ann"),("pin","1")] : Named String).map (·.1)).Nodup := by decide
  obtain ⟨-,hfilled,-⟩ := form_login_decided run_open_entering form_entered hd
  obtain ⟨-,-,hreported⟩ := form_login_decided run_open_entering form_entered hd'
  have hentry : { entry with values := Form.filled [("user","ann"),("a","3")] entry.values } = filledEntry := by
    decide
  obtain ⟨-,hsent⟩ := hfilled (by decide)
  rw [hentry] at hsent
  obtain ⟨i,hi,hmissing,hrun⟩ := hreported ⟨("pin","1"),by decide,by decide⟩
  have hsendable := entered_facts.2.2
  cases hr : entered.2.request filledEntry.verb filledEntry.action.toList filledEntry.payload with
  | error e =>
    rw [hr] at hsendable
    cases hsendable
  | ok r =>
    rw [hr] at hsendable
    obtain ⟨-,-,hpairs,hsend⟩ := hsent r hr
    refine ⟨r,hpairs (by decide),hsend (Option.some.inj hsendable),?_⟩
    have hpin : ∀ i ∈ [("user","ann"),("pin","1")], ¬entry.HasField i.1 → i.1 = "pin" := by decide
    rw [hrun,hpin i hi hmissing]

set_option maxRecDepth 100000 in
/-- The second value of a name is sent next to the first one, not where it stands in the form. -/
theorem repeated_name_sent_together : (({} : Session).run
      (entering.loginByForm "https://s.org/login" "form" [("user","ann")])).2.sent.getLast?.map Web.Request.pairs =
      some [("a","1"),("a","2"),("user","ann")] ∧
    Form.filled [("user","ann")] entry.values = [("a","1"),("user","ann"),("a","2")] := by
  decide +kernel

end TrackerHub.Agent
