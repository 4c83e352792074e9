import TrackerHub.Proofs.Template.Nodes

/-! # Templates one behind the other

Two templates written one behind the other are one template that fills in as the first and then as the
second. Only at the seam can something else come about: two braces that meet there are an opening mark,
and a hyphen there trims the text of the other template.
-/
namespace TrackerHub.Template
open TrackerHub.Text

/-! ## The seam -/

/-- A text without an opening mark moves those of the text behind it, unless two braces meet. -/
theorem cut?_opening_append {s t : Chars} (hs : cut? opening s = none)
    (hseam : s.getLast? ≠ some '\x7b' ∨ t.head? ≠ some '\x7b') :
    cut? opening (s ++ t) = (cut? opening t).map fun r => (s ++ r.1,r.2) := by
  induction s with
  | nil => simp
  | cons c s ih =>
    have hnone : dropStart? opening (c :: s) = none ∧ cut? opening s = none := by
      rw [cut?] at hs
      cases hdrop : dropStart? opening (c :: s) with
      | some rest => simp [hdrop] at hs
      | none => exact ⟨rfl,by simpa [hdrop] using hs⟩
    have hdrop : dropStart? opening (c :: (s ++ t)) = none := by
      cases s with
      | cons d s => simpa [opening,dropStart?] using hnone.1
      | nil =>
        cases t with
        | nil => exact hnone.1
        | cons d t =>
          rcases hseam with hc | hd
          · have hne : '\x7b' ≠ c := fun heq => hc (by rw [heq]; rfl)
            simp [opening,dropStart?,hne]
          · have hne : '\x7b' ≠ d := fun heq => hd (by rw [heq]; rfl)
            simp [opening,dropStart?,hne]
    have hseam' : s.getLast? ≠ some '\x7b' ∨ t.head? ≠ some '\x7b' := by
      refine hseam.imp_left fun hlast hs => hlast ?_
      cases s with
      | nil => cases hs
      | cons d s => rwa [List.getLast?_cons_cons]
    rw [List.cons_append,cut?_cons hdrop,ih hnone.2 hseam',Option.map_map]
    rfl

section
variable {s t : Chars}

theorem actionEnd?_append (h : (cut? closing s).isSome) (t : Chars) :
    actionEnd? (s ++ t) = (actionEnd? s).map fun r => (r.1,r.2 ++ t) := by
  obtain ⟨⟨inner,rest⟩,hcut⟩ := Option.isSome_iff_exists.mp h
  rw [actionEnd?_eq,actionEnd?_eq,hcut,cut?_append_of_some hcut]
  dsimp only [Option.bind_some]
  split <;> rfl

theorem actionBody?_append (h : (cut? closing s).isSome) (t : Chars) :
    actionBody? (s ++ t) = (actionBody? s).map fun r => (r.1,r.2.1,r.2.2 ++ t) := by
  induction s with
  | nil => cases h
  | cons c s ih =>
    rw [List.cons_append,actionBody?,actionBody?,← List.cons_append,actionEnd?_append h]
    cases hend : actionEnd? (c :: s) with
    | some r => rfl
    | none =>
      have hs : (cut? closing s).isSome := by
        cases hdrop : dropStart? closing (c :: s) with
        | none => simpa [cut?_cons hdrop] using h
        | some rest =>
          rw [actionEnd?_eq,cut?_eq_some_nil_iff.mpr hdrop] at hend
          cases hend
      simp only [Option.map_none,ih hs,Option.map_map]
      rfl

/-- Whether an action trims the text before it. -/
def trimsLead : Chars → Bool
  | '-' :: c :: _ => isBlank c
  | _ => false

theorem readAction?_parts (s : Chars) : readAction? s =
    (actionBody? ((dropHyphen s).dropWhile isBlank)).map fun r => ⟨r.1,trimsLead s,r.2.1,r.2.2⟩ := by
  match s with
  | '-' :: c :: r => cases hc : isBlank c <;> simp [readAction?,dropHyphen,trimsLead,hc]
  | [] => rfl
  | [c] => simp [readAction?,dropHyphen,trimsLead]
  | c :: d :: r =>
    by_cases hc : c = '-'
    · subst hc
      cases hd : isBlank d <;> simp [readAction?,dropHyphen,trimsLead,hd]
    · simp [readAction?,dropHyphen,trimsLead,hc]

/-- An action is read in the same way whatever stands behind it. -/
theorem readAction?_append {a : Action} (h : readAction? s = some a) (t : Chars) :
    readAction? (s ++ t) = some { a with rest := a.rest ++ t } := by
  have hclosed : (cut? closing s).isSome := by
    have hread := readAction?_eq s
    rw [h] at hread
    cases hcut : cut? closing s with
    | none => simp [hcut] at hread
    | some found => rfl
  have hlead : dropHyphen (s ++ t) = dropHyphen s ++ t ∧ trimsLead (s ++ t) = trimsLead s := by
    match s, hclosed with
    | c :: d :: r, _ =>
      by_cases hc : c = '-'
      · subst hc
        by_cases hd : isBlank d <;> simp [dropHyphen,trimsLead,hd]
      · simp [dropHyphen,trimsLead,hc]
    | [c], hclosed => simp [cut?,closing,dropStart?] at hclosed
  have hinner : (cut? closing ((dropHyphen s).dropWhile isBlank)).isSome := by
    rw [cut?_dropWhile,cut?_dropHyphen]
    simpa using hclosed
  have hblanks : ((dropHyphen s ++ t).dropWhile isBlank) = (dropHyphen s).dropWhile isBlank ++ t := by
    rw [List.dropWhile_append]
    split
    next hempty =>
      rw [List.isEmpty_iff.mp hempty] at hinner
      cases hinner
    next => rfl
  rw [readAction?_parts] at h ⊢
  obtain ⟨r,hr,rfl⟩ := Option.map_eq_some_iff.mp h
  rw [hlead.1,hlead.2,hblanks,actionBody?_append hinner,hr]
  rfl

end

/-! ## The pieces of both -/

/-- The actions of a text as they are read; `fuel` bounds their number. -/
def actionsFrom : Nat → Chars → List Action
  | 0, _ => []
  | fuel + 1, s =>
    match (cut? opening s).bind fun found => readAction? found.2 with
    | none => []
    | some a => a :: actionsFrom fuel a.rest

/-- The actions of a text as they are read, in order. -/
def readActions (s : Chars) : List Action := actionsFrom (s.length + 1) s

/-- The pieces of two texts one behind the other. Texts that meet are one piece. -/
def glue : List Token → List Token → List Token
  | [], us => us
  | [.text s], .text t :: us => .text (s ++ t) :: us
  | t :: ts, us => t :: glue ts us

section
variable {a : Chars} {s t : Chars} {ts us : List Token}

@[simp] theorem glue_nil : glue [] us = us := rfl

@[simp] theorem glue_action : glue (.action a :: ts) us = .action a :: glue ts us := by
  cases us <;> rfl

theorem glue_text (h : ts ≠ []) : glue (.text s :: ts) us = .text s :: glue ts us := by
  cases ts with
  | nil => exact absurd rfl h
  | cons u ts => cases us <;> rfl

theorem glue_textToken (h : ∀ r, us.head? ≠ some (.text r)) :
    glue (textToken s) (textToken t ++ us) = textToken (s ++ t) ++ us := by
  have hnot (c : Char) (r : Chars) : glue [.text (c :: r)] us = .text (c :: r) :: us := by
    match us, h with
    | [], _ => rfl
    | .action _ :: _, _ => rfl
    | .text r :: _, h => exact absurd rfl (h r)
  cases s with
  | nil => rfl
  | cons c s =>
    cases t with
    | nil => simpa [textToken] using hnot c s
    | cons d t => rfl

theorem glue_before_action : glue (textToken s ++ .action a :: ts) us =
    textToken s ++ .action a :: glue ts us := by
  cases s with
  | nil => exact glue_action
  | cons c s =>
    change glue (.text (c :: s) :: .action a :: ts) us = _
    rw [glue_text (List.cons_ne_nil _ _),glue_action]
    rfl

end

/-- What is left behind the first action of a text is the end of the text. -/
theorem exists_append_rest {s chunk t : Chars} {a : Action} (hopen : cut? opening s = some (chunk,t))
    (ha : readAction? t = some a) : ∃ front, front ≠ [] ∧ s = front ++ a.rest := by
  have hread := readAction?_eq t
  rw [ha] at hread
  obtain ⟨⟨inner,rest⟩,hclose,heq⟩ := Option.map_eq_some_iff.mp hread.symm
  obtain ⟨-,rfl⟩ := Prod.mk.inj heq
  have htext := (cut?_eq_some_iff.mp hopen).eq
  have haction := (cut?_eq_some_iff.mp hclose).eq
  refine ⟨chunk ++ opening ++ (inner ++ closing),by simp [opening],?_⟩
  rw [htext,haction]
  simp only [List.append_assoc]

section
variable {fuel fuel' : Nat} {trim : Bool} {s t : Chars} {ts us : List Token}

/-- The actions of a text are those among its pieces. -/
theorem map_body_actionsFrom (h : tokensFrom fuel trim s = some ts) :
    (actionsFrom fuel s).map (·.body) = ts.filterMap Token.action? := by
  induction fuel generalizing trim s ts with
  | zero => cases h
  | succ fuel ih =>
    rw [tokensFrom] at h
    rw [actionsFrom]
    cases hopen : cut? opening s with
    | none =>
      rw [hopen] at h
      cases h
      exact (filterMap_textToken _).symm
    | some found =>
      obtain ⟨chunk,t⟩ := found
      rw [hopen] at h
      cases ha : readAction? t with
      | none => simp [ha] at h
      | some a =>
        simp only [ha] at h
        obtain ⟨more,hmore,rfl⟩ := Option.map_eq_some_iff.mp h
        simp only [Option.bind_some,ha,List.map_cons,ih hmore,List.filterMap_append,filterMap_textToken,
          List.nil_append,List.filterMap_cons_some (show Token.action? (.action a.body) = some a.body from rfl)]

/-- How a text is cut does not depend on the bound, if it is large enough. -/
theorem tokensFrom_eq_some (h : tokensFrom fuel trim s = some ts) (hfuel : s.length < fuel') :
    tokensFrom fuel' trim s = some ts := by
  induction fuel generalizing fuel' trim s ts with
  | zero => cases h
  | succ fuel ih =>
    obtain ⟨fuel',rfl⟩ := Nat.exists_eq_add_one_of_ne_zero (by omega : fuel' ≠ 0)
    rw [tokensFrom] at h ⊢
    cases hopen : cut? opening s with
    | none => rwa [hopen] at h
    | some found =>
      obtain ⟨chunk,t⟩ := found
      rw [hopen] at h
      cases ha : readAction? t with
      | none => simp [ha] at h
      | some a =>
        obtain ⟨front,hfront,rfl⟩ := exists_append_rest hopen ha
        have hlength : 0 < front.length := List.length_pos_iff.mpr hfront
        rw [List.length_append] at hfuel
        simp only [ha] at h ⊢
        obtain ⟨more,hmore,heq⟩ := Option.map_eq_some_iff.mp h
        rw [ih hmore (by omega : a.rest.length < fuel'),Option.map_some,heq]

/-- A text without actions goes before the first piece of the text behind it. -/
theorem tokensFrom_plain_append (hopen : cut? opening s = none) (ht : tokensFrom fuel false t = some us)
    (hseam : s.getLast? ≠ some '\x7b' ∨ t.head? ≠ some '\x7b')
    (hfirst : ∀ a ∈ (actionsFrom fuel t).head?, a.trimBefore = false) :
    tokensFrom fuel false (s ++ t) = some (glue (textToken s) us) := by
  cases fuel with
  | zero => cases ht
  | succ fuel =>
    rw [actionsFrom] at hfirst
    rw [tokensFrom] at ht ⊢
    rw [cut?_opening_append hopen hseam]
    cases hopen' : cut? opening t with
    | none =>
      rw [hopen'] at ht
      cases ht
      have hglue : glue (textToken s) (textToken t ++ []) = textToken (s ++ t) ++ [] := glue_textToken (by simp)
      simpa using hglue.symm
    | some found =>
      obtain ⟨chunk,r⟩ := found
      rw [hopen'] at ht hfirst
      cases ha : readAction? r with
      | none => simp [ha] at ht
      | some a =>
        have hbefore : a.trimBefore = false := hfirst a (by simp [ha])
        simp only [ha,hbefore,Bool.false_eq_true,if_false] at ht
        obtain ⟨more,hmore,rfl⟩ := Option.map_eq_some_iff.mp ht
        simp only [Option.map_some,ha,hbefore,Bool.false_eq_true,if_false,hmore]
        rw [glue_textToken (by simp)]

/-- The pieces of two texts one behind the other are those of the first and those of the second, if
nothing is trimmed across the seam and no mark comes about there. -/
theorem tokensFrom_append (hs : tokensFrom fuel trim s = some ts) (ht : tokensFrom fuel' false t = some us)
    (hseam : s.getLast? ≠ some '\x7b' ∨ t.head? ≠ some '\x7b')
    (hnone : actionsFrom fuel s = [] → trim = false)
    (hlast : ∀ a ∈ (actionsFrom fuel s).getLast?, a.trimAfter = false)
    (hfirst : ∀ a ∈ (actionsFrom fuel' t).head?, a.trimBefore = false) :
    ∃ bound, tokensFrom bound trim (s ++ t) = some (glue ts us) := by
  induction fuel generalizing trim s ts with
  | zero => cases hs
  | succ fuel ih =>
    rw [actionsFrom] at hnone hlast
    rw [tokensFrom] at hs
    cases hopen : cut? opening s with
    | none =>
      rw [hopen] at hs hnone
      obtain rfl := hnone rfl
      cases hs
      exact ⟨fuel',tokensFrom_plain_append hopen ht hseam hfirst⟩
    | some found =>
      obtain ⟨chunk,r⟩ := found
      rw [hopen] at hs hlast
      cases ha : readAction? r with
      | none => simp [ha] at hs
      | some a =>
        simp only [ha] at hs
        simp only [Option.bind_some,ha,List.getLast?_cons] at hlast
        obtain ⟨more,hmore,rfl⟩ := Option.map_eq_some_iff.mp hs
        have hnone' : actionsFrom fuel a.rest = [] → a.trimAfter = false :=
          fun hempty => hlast a (by simp [hempty])
        have hlast' : ∀ b ∈ (actionsFrom fuel a.rest).getLast?, b.trimAfter = false :=
          fun b hb => hlast b (by simp [Option.mem_def.mp hb])
        -- The rest ends as the text does, so that the seam is the same.
        have hseam' : a.rest.getLast? ≠ some '\x7b' ∨ t.head? ≠ some '\x7b' := by
          obtain ⟨front,-,rfl⟩ := exists_append_rest hopen ha
          refine hseam.imp_left fun hend hrest => hend ?_
          rw [List.getLast?_append,hrest,Option.some_or]
        obtain ⟨bound,hbound⟩ := ih hmore hseam' hnone' hlast'
        refine ⟨bound + 1,?_⟩
        rw [tokensFrom,cut?_append_of_some hopen]
        simp only [readAction?_append ha,hbound,Option.map_some,glue_before_action]

end

/-! ## The parts of both -/

/-- The parts of two templates one behind the other. Texts that meet are one part. -/
def joinNodes : List Node → List Node → List Node
  | [], ms => ms
  | [.text s], .text t :: ms => .text (s ++ t) :: ms
  | n :: ns, ms => n :: joinNodes ns ms

section
variable {n : Node} {ns ms : List Node} {ts us rest : List Token} {ends : List String} {stop : String}

theorem joinNodes_cons (h : ns ≠ [] ∨ ∀ s, n ≠ .text s) : joinNodes (n :: ns) ms = n :: joinNodes ns ms := by
  cases ns with
  | cons m ns => cases n <;> cases ms <;> rfl
  | nil =>
    cases n with
    | text s => exact absurd rfl (h.resolve_left (absurd rfl) s)
    | field | range | choice => cases ms <;> rfl

theorem fillNodes_joinNodes (root here : Value) (ns ms : List Node) : fillNodes root (joinNodes ns ms) here = (do
    let before ← fillNodes root ns here
    let after ← fillNodes root ms here
    pure (before ++ after)) := by
  fun_induction joinNodes ns ms with
  | case1 ms => cases fillNodes root ms here <;> simp [fillNodes,bind,Except.bind,pure,Except.pure]
  | case2 s t ms =>
    cases h : fillNodes root ms here <;>
      simp [fillNodes,fillNode,h,bind,Except.bind,pure,Except.pure,String.append_assoc]
  | case3 n ns ms hother ih =>
    cases hn : fillNode root n here <;> cases hns : fillNodes root ns here <;>
      cases hms : fillNodes root ms here <;>
        simp [fillNodes,hn,hns,hms,ih,bind,Except.bind,pure,Except.pure,String.append_assoc]

/-- A section is closed within its own text, and more text behind it changes nothing in it. -/
theorem Builds.glue_behind (h : Builds ends ts ns stop rest) (hends : ends ≠ []) (us : List Token) :
    Builds ends (glue ts us) ns stop (glue rest us) := by
  induction h with
  | finish => exact absurd rfl hends
  | stop hstop =>
    rw [glue_action]
    exact .stop hstop
  | @text ends s ts nodes stop rest h ih =>
    have hts : ts ≠ [] := by
      rintro rfl
      cases h
      exact hends rfl
    rw [glue_text hts]
    exact .text (ih hends)
  | field hmem hword hp h ih =>
    rw [glue_action]
    exact .field hmem hword hp (ih hends)
  | range hmem hword hp hinner h ihInner ih =>
    rw [glue_action]
    exact .range hmem hword hp (ihInner (List.cons_ne_nil _ _)) (ih hends)
  | choice hmem hword hp hyes helse h ihYes ih =>
    rw [glue_action]
    exact .choice hmem hword hp (ihYes (List.cons_ne_nil _ _)) helse (ih hends)
  | choiceElse hmem hword hp hyes hno h ihYes ihNo ih =>
    rw [glue_action]
    exact .choiceElse hmem hword hp (ihYes (List.cons_ne_nil _ _)) (ihNo (List.cons_ne_nil _ _)) (ih hends)

theorem Builds.nodes_ne_nil (h : Builds [] ts ns stop rest) (hts : ts ≠ []) : ns ≠ [] := by
  cases h with
  | finish => exact absurd rfl hts
  | stop hstop => exact absurd hstop List.not_mem_nil
  | _ => exact List.cons_ne_nil _ _

/-- The pieces of both templates make up the parts of both. -/
theorem Builds.glue {last : String} {left : List Token} (h : Builds ends ts ns stop rest) (hends : ends = [])
    (hu : Builds [] us ms last left) : Builds [] (glue ts us) (joinNodes ns ms) last left := by
  induction h with
  | finish => exact hu
  | stop hstop => exact absurd (hends ▸ hstop) List.not_mem_nil
  | @text ends s ts nodes stop rest h ih =>
    subst hends
    -- Only at the seam itself can two texts meet.
    by_cases hts : ts = []
    · subst hts
      cases h
      cases hu with
      | finish => exact .text .finish
      | text hu =>
        rw [joinNodes,← String.ofList_append]
        exact .text hu
      | stop hstop => exact absurd hstop List.not_mem_nil
      | field hmem hword hp h => exact .text (.field hmem hword hp h)
      | range hmem hword hp hinner h => exact .text (.range hmem hword hp hinner h)
      | choice hmem hword hp hyes helse h => exact .text (.choice hmem hword hp hyes helse h)
      | choiceElse hmem hword hp hyes hno h => exact .text (.choiceElse hmem hword hp hyes hno h)
    · rw [glue_text hts,joinNodes_cons (.inl (h.nodes_ne_nil hts))]
      exact .text (ih rfl)
  | field hmem hword hp h ih =>
    subst hends
    rw [glue_action,joinNodes_cons (.inr (by simp))]
    exact .field hmem hword hp (ih rfl)
  | range hmem hword hp hinner h ihInner ih =>
    subst hends
    rw [glue_action,joinNodes_cons (.inr (by simp))]
    exact .range hmem hword hp (hinner.glue_behind (List.cons_ne_nil _ _) us) (ih rfl)
  | choice hmem hword hp hyes helse h ihYes ih =>
    subst hends
    rw [glue_action,joinNodes_cons (.inr (by simp))]
    exact .choice hmem hword hp (hyes.glue_behind (List.cons_ne_nil _ _) us) helse (ih rfl)
  | choiceElse hmem hword hp hyes hno h ihYes ihNo ih =>
    subst hends
    rw [glue_action,joinNodes_cons (.inr (by simp))]
    exact .choiceElse hmem hword hp (hyes.glue_behind (List.cons_ne_nil _ _) us)
      (hno.glue_behind (List.cons_ne_nil _ _) us) (ih rfl)

end

/-! ## The templates -/

section
variable {s t : String} {ns ms : List Node}

theorem parse_append (hs : parse s = .ok ns) (ht : parse t = .ok ms)
    (hseam : s.toList.getLast? ≠ some '\x7b' ∨ t.toList.head? ≠ some '\x7b')
    (hlast : ∀ a ∈ (readActions s.toList).getLast?, a.trimAfter = false)
    (hfirst : ∀ a ∈ (readActions t.toList).head?, a.trimBefore = false) :
    parse (s ++ t) = .ok (joinNodes ns ms) := by
  obtain ⟨ts,hts,hns⟩ := parse_eq_ok_iff.mp hs
  obtain ⟨us,hus,hms⟩ := parse_eq_ok_iff.mp ht
  obtain ⟨bound,hboth⟩ := tokensFrom_append hts hus hseam (fun _ => rfl) hlast hfirst
  have htokens : tokens? (s ++ t).toList = some (glue ts us) := by
    rw [String.toList_append]
    exact tokensFrom_eq_some hboth (Nat.lt_succ_self _)
  exact parse_eq_ok_iff.mpr ⟨_,htokens,hns.glue rfl hms⟩

/-- A text without actions fills in as the text that it is. -/
theorem render_eq_fill (hs : parse s = .ok ns) (context : Value) :
    render s context = fillNodes context ns context := by
  unfold render
  split
  next => rw [hs]; rfl
  next hplain =>
    obtain ⟨ts,hts,hns⟩ := parse_eq_ok_iff.mp hs
    have hopen : cut? opening s.toList = none := by simpa [contains] using hplain
    have htext : ts = textToken s.toList := by simpa [tokens?,tokensFrom,hopen] using hts.symm
    subst htext
    have hback : String.ofList s.toList = s := String.ofList_toList
    cases hchars : s.toList with
    | nil =>
      rw [hchars] at hns hback
      cases hns
      rw [← hback]
      rfl
    | cons c r =>
      rw [hchars] at hns hback
      cases hns with
      | text hns =>
        cases hns
        rw [hback]
        simp [fillNodes,fillNode,bind,Except.bind,pure,Except.pure]

/-- Two templates one behind the other fill in as the first and then as the second, unless two braces meet
at the seam or a hyphen trims text across it. -/
theorem render_append (hs : parse s = .ok ns) (ht : parse t = .ok ms)
    (hseam : s.toList.getLast? ≠ some '\x7b' ∨ t.toList.head? ≠ some '\x7b')
    (hlast : ∀ a ∈ (readActions s.toList).getLast?, a.trimAfter = false)
    (hfirst : ∀ a ∈ (readActions t.toList).head?, a.trimBefore = false) :
    (∃ nodes, parse (s ++ t) = .ok nodes) ∧ ∀ context, render (s ++ t) context = (do
      let before ← render s context
      let after ← render t context
      pure (before ++ after)) := by
  have hboth := parse_append hs ht hseam hlast hfirst
  refine ⟨⟨_,hboth⟩,fun context => ?_⟩
  rw [render_eq_fill hboth,render_eq_fill hs,render_eq_fill ht]
  exact fillNodes_joinNodes context context ns ms

theorem render_append_sections :
    let s := "id=\x7b\x7b range .Ids \x7d\x7d\x7b\x7b . \x7d\x7d,\x7b\x7b end \x7d\x7d&"
    let t := "q=\x7b\x7b if .Query \x7d\x7d\x7b\x7b .Query \x7d\x7d\x7b\x7b else \x7d\x7dall\x7b\x7b end \x7d\x7d"
    let context := Value.map [(.text "Ids",.list [.text "7",.text "12"]),(.text "Query",.text "")]
    (∃ nodes, parse (s ++ t) = .ok nodes) ∧ render (s ++ t) context = .ok "id=7,12,&q=all" := by
  intro s t context
  have hs : parse s = .ok [.text "id=",.range ⟨".Ids",false,["Ids"]⟩ [.field ⟨".",false,[]⟩,.text ","],.text "&"] :=
    parse_eq_ok_iff.mpr ⟨[.text "id=".toList,.action "range .Ids".toList,.action ['.'],.text [','],
      .action "end".toList,.text ['&']],by decide,
      .text (.range (by simp) (by decide) (by decide)
        (.field (by decide) (by decide) (by decide) (.text (.stop (by decide)))) (.text .finish))⟩
  have ht : parse t = .ok [.text "q=",.choice ⟨".Query",false,["Query"]⟩ [.field ⟨".Query",false,["Query"]⟩]
      [.text "all"]] :=
    parse_eq_ok_iff.mpr ⟨[.text "q=".toList,.action "if .Query".toList,.action ".Query".toList,
      .action "else".toList,.text "all".toList,.action "end".toList],by decide,
      .text (.choiceElse (by simp) (by decide) (by decide)
        (.field (by decide) (by decide) (by decide) (.stop (by decide))) (.text (.stop (by decide))) .finish)⟩
  have hboth := render_append hs ht (.inl (by decide)) (by decide) (by decide)
  refine ⟨hboth.1,?_⟩
  rw [hboth.2,render_eq_fill hs,render_eq_fill ht]
  rfl

end

end TrackerHub.Template
