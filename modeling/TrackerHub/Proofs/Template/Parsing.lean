import TrackerHub.Proofs.Template.Grammar

/-! # The templates that are accepted

The parts of a template are read just when its actions are a derivation of the grammar, where closing words
may have anything behind them.
-/
namespace TrackerHub.Template
open TrackerHub.Text

/-! ## Reading the parts -/

section
variable {source : String} {fuel : Nat} {ends : List String} {ts rest : List Token} {stop : String} {a : Chars}

/-- Parts are read up to a closing word, and `rest` is left. -/
def Reads (source : String) (fuel : Nat) (ends : List String) (ts : List Token) (stop : String)
    (rest : List Token) : Prop :=
  ∃ nodes, readNodes source fuel ends ts = .ok (nodes,stop,rest)

theorem reads_nil : Reads source (fuel + 1) ends [] stop rest ↔ ends = [] ∧ stop = "" ∧ rest = [] := by
  cases ends <;> simp [Reads,readNodes,eq_comm]

theorem reads_text {s : Chars} :
    Reads source (fuel + 1) ends (.text s :: ts) stop rest ↔ Reads source fuel ends ts stop rest := by
  simp only [Reads,readNodes,bind_eq_ok,Prod.exists,pure,Except.pure]
  constructor
  · rintro ⟨_,nodes,_,_,h,⟨⟩⟩
    exact ⟨nodes,h⟩
  · rintro ⟨nodes,h⟩
    exact ⟨_,nodes,stop,rest,h,rfl⟩

theorem readArgument_eq_ok {word argument : Chars} (h : IsPath argument) :
    ∃ p, readArgument source word argument = .ok p := by
  obtain ⟨p,hp⟩ := Option.isSome_iff_exists.mp (isSome_readPath?_iff.mpr h)
  exact ⟨p,by rw [readArgument,hp]⟩

theorem isPath_of_readArgument {word argument : Chars} {p : Path}
    (h : readArgument source word argument = .ok p) :
    IsPath argument := by
  rw [← isSome_readPath?_iff]
  unfold readArgument at h
  split at h
  next hp => rw [hp]; rfl
  next => cases h

theorem reads_stop (h : String.ofList (firstWord a) ∈ ends) :
    Reads source (fuel + 1) ends (.action a :: ts) stop rest ↔ stop = String.ofList (firstWord a) ∧ rest = ts := by
  simp [Reads,readNodes,splitAction_eq,h,pure,Except.pure,eq_comm]

theorem reads_range (hends : "range" ∉ ends) (h : BeginsWith "range" a) :
    Reads source (fuel + 1) ends (.action a :: ts) stop rest ↔ Opens "range" a ∧
      ∃ word mid, Reads source fuel ["end"] ts word mid ∧ Reads source fuel ends mid stop rest := by
  rw [opens_iff (by decide),and_iff_right h]
  simp only [Reads,readNodes,splitAction_eq,List.contains_iff_mem,ofList_firstWord_eq_iff.mpr h,hends,bind_eq_ok,
    Prod.exists,pure,Except.pure,if_false,beq_self_eq_true,if_true]
  constructor
  · rintro ⟨_,inner,word,mid,hinner,p,hp,nodes,_,_,hnodes,⟨⟩⟩
    exact ⟨isPath_of_readArgument hp,word,mid,⟨inner,hinner⟩,nodes,hnodes⟩
  · rintro ⟨harg,word,mid,⟨inner,hinner⟩,nodes,hnodes⟩
    obtain ⟨p,hp⟩ := readArgument_eq_ok harg
    exact ⟨_,inner,word,mid,hinner,p,hp,nodes,stop,rest,hnodes,rfl⟩

theorem reads_choice (hends : "if" ∉ ends) (h : BeginsWith "if" a) :
    Reads source (fuel + 1) ends (.action a :: ts) stop rest ↔ Opens "if" a ∧
      ∃ word mid, Reads source fuel ["else","end"] ts word mid ∧
        if word = "else" then
          ∃ last after, Reads source fuel ["end"] mid last after ∧ Reads source fuel ends after stop rest
        else Reads source fuel ends mid stop rest := by
  rw [opens_iff (by decide),and_iff_right h]
  simp only [Reads,readNodes,splitAction_eq,List.contains_iff_mem,ofList_firstWord_eq_iff.mpr h,hends,bind_eq_ok,
    Prod.exists,pure,Except.pure,if_false,String.reduceBEq,Bool.false_eq_true,beq_iff_eq,if_true]
  constructor
  · rintro ⟨_,yes,word,mid,hyes,h⟩
    split at h
    next hword =>
      obtain ⟨⟨no,last,after⟩,hno,_,⟨⟩,p,hp,⟨nodes,_,_⟩,hnodes,⟨⟩⟩ := by simpa only [bind_eq_ok] using h
      exact ⟨isPath_of_readArgument hp,word,mid,⟨yes,hyes⟩,by
        rw [if_pos hword]
        exact ⟨last,after,⟨no,hno⟩,nodes,hnodes⟩⟩
    next hword =>
      obtain ⟨_,⟨⟩,p,hp,⟨nodes,_,_⟩,hnodes,⟨⟩⟩ := by simpa only [bind_eq_ok] using h
      exact ⟨isPath_of_readArgument hp,word,mid,⟨yes,hyes⟩,by
        rw [if_neg hword]
        exact ⟨nodes,hnodes⟩⟩
  · rintro ⟨harg,word,mid,⟨yes,hyes⟩,h⟩
    obtain ⟨p,hp⟩ := readArgument_eq_ok harg
    split at h
    next hword =>
      obtain ⟨last,after,⟨no,hno⟩,nodes,hnodes⟩ := h
      refine ⟨.choice p yes no :: nodes,yes,word,mid,hyes,?_⟩
      rw [if_pos hword]
      simp only [bind_eq_ok]
      exact ⟨_,hno,_,rfl,p,hp,_,hnodes,rfl⟩
    next hword =>
      obtain ⟨nodes,hnodes⟩ := h
      refine ⟨.choice p yes [] :: nodes,yes,word,mid,hyes,?_⟩
      rw [if_neg hword]
      simp only [bind_eq_ok]
      exact ⟨_,rfl,p,hp,_,hnodes,rfl⟩

theorem reads_path (hends : String.ofList (firstWord a) ∉ ends) (hrange : ¬BeginsWith "range" a)
    (hchoice : ¬BeginsWith "if" a) :
    Reads source (fuel + 1) ends (.action a :: ts) stop rest ↔ IsPath a ∧ Reads source fuel ends ts stop rest := by
  rw [← ofList_firstWord_eq_iff] at hrange hchoice
  simp only [Reads,readNodes,splitAction_eq,List.contains_iff_mem,hends,beq_iff_eq,hrange,hchoice,if_false]
  rw [← isSome_readPath?_iff]
  cases readPath? a with
  | none => simp [throw,throwThe,MonadExceptOf.throw]
  | some p =>
    simp only [bind_eq_ok,Prod.exists,pure,Except.pure]
    constructor
    · rintro ⟨_,nodes,_,_,hnodes,⟨⟩⟩
      exact ⟨rfl,nodes,hnodes⟩
    · rintro ⟨-,nodes,hnodes⟩
      exact ⟨_,nodes,stop,rest,hnodes,rfl⟩

end

/-! ## Accepted templates -/

def actionsOf (ts : List Token) : List Chars := ts.filterMap Token.action?

theorem actionsOf_text (s : Chars) (ts : List Token) : actionsOf (.text s :: ts) = actionsOf ts := rfl

theorem actionsOf_action (a : Chars) (ts : List Token) : actionsOf (.action a :: ts) = a :: actionsOf ts := rfl

section
variable {source : String} {fuel : Nat} {ends : List String} {ts rest : List Token} {stop : String}
  {body tail : List Chars}

/-- Where reading stops: at the end of a template, or behind a closing word. -/
inductive Stops : List String → String → List Token → List Chars → Prop where
  | finish : Stops [] "" [] []
  | word {ends : List String} {stop : String} {rest : List Token} {c : Chars} (hstop : stop ∈ ends)
      (hc : BeginsWith stop c) : Stops ends stop rest (c :: actionsOf rest)

/-- What is read is a sequence of actions that a template may have. -/
theorem nodes_of_reads (h : Reads source fuel ends ts stop rest) :
    ∃ body tail, actionsOf ts = body ++ tail ∧ Nodes BeginsWith body ∧ Stops ends stop rest tail := by
  induction fuel generalizing ends ts stop rest with
  | zero =>
    obtain ⟨_,h⟩ := h
    simp [readNodes] at h
  | succ fuel ih =>
    cases ts with
    | nil =>
      obtain ⟨rfl,rfl,rfl⟩ := reads_nil.mp h
      exact ⟨[],[],rfl,.nil,.finish⟩
    | cons t ts =>
      cases t with
      | text s =>
        rw [actionsOf_text]
        exact ih (reads_text.mp h)
      | action a =>
        rw [actionsOf_action]
        -- The reader asks in this order: a closing word, a section, a path.
        by_cases hstop : String.ofList (firstWord a) ∈ ends
        · obtain ⟨rfl,rfl⟩ := (reads_stop hstop).mp h
          exact ⟨[],_,rfl,.nil,.word hstop (ofList_firstWord_eq_iff.mp rfl)⟩
        by_cases hrange : BeginsWith "range" a
        · rw [ofList_firstWord_eq_iff.mpr hrange] at hstop
          obtain ⟨hopens,word,mid,hread,hrest⟩ := (reads_range hstop hrange).mp h
          obtain ⟨inner,_,hts,hinner,hclose⟩ := ih hread
          obtain ⟨body,tail,hmid,hbody,htail⟩ := ih hrest
          cases hclose with
          | word hword hc =>
            obtain rfl := List.mem_singleton.mp hword
            exact ⟨_,tail,by simp [hts,hmid],.range hopens hinner hc hbody,htail⟩
        by_cases hchoice : BeginsWith "if" a
        · rw [ofList_firstWord_eq_iff.mpr hchoice] at hstop
          obtain ⟨hopens,word,mid,hread,hrest⟩ := (reads_choice hstop hchoice).mp h
          obtain ⟨yes,_,hts,hyes,hclose⟩ := ih hread
          cases hclose with
          | word hword hc =>
            split at hrest
            next helse =>
              subst helse
              obtain ⟨last,after,hreadNo,hrest⟩ := hrest
              obtain ⟨no,_,hmid,hno,hclose⟩ := ih hreadNo
              obtain ⟨body,tail,hafter,hbody,htail⟩ := ih hrest
              cases hclose with
              | word hlast hc' =>
                obtain rfl := List.mem_singleton.mp hlast
                exact ⟨_,tail,by simp [hts,hmid,hafter],.choiceElse hopens hyes hc hno hc' hbody,htail⟩
            next helse =>
              obtain rfl : word = "end" := by simpa [helse] using hword
              obtain ⟨body,tail,hmid,hbody,htail⟩ := ih hrest
              exact ⟨_,tail,by simp [hts,hmid],.choice hopens hyes hc hbody,htail⟩
        obtain ⟨hpath,hrest⟩ := (reads_path hstop hrange hchoice).mp h
        obtain ⟨body,tail,hts,hbody,htail⟩ := ih hrest
        exact ⟨_,tail,by simp [hts],.path hpath hbody,htail⟩

/-- Where reading may stop: at the end of a template, or in front of a closing word. -/
def MayStop (ends : List String) (tail : List Chars) : Prop :=
  (ends = [] ∧ tail = []) ∨ ∃ word ∈ ends, ∃ c more, BeginsWith word c ∧ tail = c :: more

theorem mayStop_cons {word : String} {c : Chars} {more : List Chars} (hword : word ∈ ends)
    (hc : BeginsWith word c) :
    MayStop ends (c :: more) :=
  .inr ⟨word,hword,c,more,hc,rfl⟩

theorem Stops.inv {c : Chars} {more : List Chars} (h : Stops ends stop rest (c :: more)) :
    BeginsWith stop c ∧ actionsOf rest = more := by
  cases h with
  | word _ hc => exact ⟨hc,rfl⟩

/-- A sequence of actions that a template may have is read, up to where reading may stop. -/
theorem reads_of_nodes (hends : ∀ word ∈ ends, word = "else" ∨ word = "end") (hfuel : ts.length < fuel)
    (hbody : Nodes BeginsWith body) (hts : actionsOf ts = body ++ tail) (htail : MayStop ends tail) :
    ∃ stop rest, Reads source fuel ends ts stop rest ∧ Stops ends stop rest tail ∧ rest.length ≤ ts.length := by
  induction fuel generalizing ends ts body tail with
  | zero => simp at hfuel
  | succ fuel ih =>
    -- A section is read up to one of its closing words, by induction; the pieces behind it are
    -- left.
    have hupto {ts : List Token} {body more : List Chars} {c : Chars} {word : String} (ends : List String)
        (hends : ∀ word ∈ ends, word = "else" ∨ word = "end") (hfuel : ts.length < fuel)
        (hbody : Nodes BeginsWith body) (hts : actionsOf ts = body ++ c :: more) (hword : word ∈ ends)
        (hc : BeginsWith word c) :
        ∃ mid, Reads source fuel ends ts word mid ∧ actionsOf mid = more ∧ mid.length ≤ ts.length := by
      obtain ⟨stop,mid,hread,hstop,hlength⟩ := ih hends hfuel hbody hts (mayStop_cons hword hc)
      obtain ⟨hc',hmore⟩ := hstop.inv
      obtain rfl := hc.inj hc'
      exact ⟨mid,hread,hmore,hlength⟩
    cases ts with
    | nil =>
      obtain ⟨rfl,rfl⟩ := List.append_eq_nil_iff.mp hts.symm
      rcases htail with ⟨rfl,-⟩ | ⟨_,_,_,_,_,⟨⟩⟩
      exact ⟨"",[],reads_nil.mpr ⟨rfl,rfl,rfl⟩,.finish,le_rfl⟩
    | cons t ts =>
      rw [List.length_cons] at hfuel ⊢
      cases t with
      | text s =>
        rw [actionsOf_text] at hts
        obtain ⟨stop,rest,hread,hstop,hlength⟩ := ih hends (by omega) hbody hts htail
        exact ⟨stop,rest,reads_text.mpr hread,hstop,by omega⟩
      | action a =>
        rw [actionsOf_action] at hts
        have hopen {word : String} (hne : word ≠ "else" ∧ word ≠ "end") : word ∉ ends :=
          fun hmem => (hends word hmem).elim hne.1 hne.2
        cases hbody with
        | nil =>
          rcases htail with ⟨-,rfl⟩ | ⟨word,hword,c,more,hc,rfl⟩
          · cases hts
          · obtain ⟨rfl,rfl⟩ := List.cons.inj hts
            obtain rfl := ofList_firstWord_eq_iff.mpr hc
            exact ⟨_,ts,(reads_stop hword).mpr ⟨rfl,rfl⟩,.word hword hc,by omega⟩
        | path ha hrest =>
          rw [List.cons_append,List.cons.injEq] at hts
          obtain ⟨rfl,hts⟩ := hts
          have hnot := not_beginsWith_of_isPath ha
          have hstop : String.ofList (firstWord a) ∉ ends := fun hmem =>
            (hends _ hmem).elim (fun h => hnot "else" (by simp) (ofList_firstWord_eq_iff.mp h))
              fun h => hnot "end" (by simp) (ofList_firstWord_eq_iff.mp h)
          obtain ⟨stop,rest,hread,hstops,hlength⟩ := ih hends (by omega) hrest hts htail
          exact ⟨stop,rest,(reads_path hstop (hnot "range" (by simp)) (hnot "if" (by simp))).mpr ⟨ha,hread⟩,hstops,
            by omega⟩
        | range ha hinner hc hrest =>
          simp only [List.cons_append,List.append_assoc,List.cons.injEq] at hts
          obtain ⟨rfl,hts⟩ := hts
          obtain ⟨mid,hread,hmid,hlength⟩ := hupto ["end"] (by simp) (by omega) hinner hts (by simp) hc
          obtain ⟨stop,rest,hreadRest,hstops,hlengthRest⟩ := ih hends (by omega) hrest hmid htail
          exact ⟨stop,rest,(reads_range (hopen (by decide)) (beginsWith_of_opens (by decide) ha)).mpr
            ⟨ha,_,mid,hread,hreadRest⟩,hstops,by omega⟩
        | choice ha hyes hc hrest =>
          simp only [List.cons_append,List.append_assoc,List.cons.injEq] at hts
          obtain ⟨rfl,hts⟩ := hts
          obtain ⟨mid,hread,hmid,hlength⟩ := hupto ["else","end"] (by simp) (by omega) hyes hts (by simp) hc
          obtain ⟨stop,rest,hreadRest,hstops,hlengthRest⟩ := ih hends (by omega) hrest hmid htail
          exact ⟨stop,rest,(reads_choice (hopen (by decide)) (beginsWith_of_opens (by decide) ha)).mpr
            ⟨ha,_,mid,hread,by rwa [if_neg (by decide)]⟩,hstops,by omega⟩
        | choiceElse ha hyes hb hno hc hrest =>
          simp only [List.cons_append,List.append_assoc,List.cons.injEq] at hts
          obtain ⟨rfl,hts⟩ := hts
          obtain ⟨mid,hread,hmid,hlength⟩ := hupto ["else","end"] (by simp) (by omega) hyes hts (by simp) hb
          obtain ⟨after,hreadNo,hafter,hlengthNo⟩ := hupto ["end"] (by simp) (by omega) hno hmid (by simp) hc
          obtain ⟨stop,rest,hreadRest,hstops,hlengthRest⟩ := ih hends (by omega) hrest hafter htail
          exact ⟨stop,rest,(reads_choice (hopen (by decide)) (beginsWith_of_opens (by decide) ha)).mpr
            ⟨ha,_,mid,hread,by rw [if_pos rfl]; exact ⟨_,after,hreadNo,hreadRest⟩⟩,hstops,by omega⟩

end

/-- Pieces are read just when their actions are a sequence that a template may have. -/
theorem readNodes_ok_iff (source : String) (ts : List Token) :
    (∃ out, readNodes source (ts.length + 1) [] ts = .ok out) ↔ Nodes BeginsWith (actionsOf ts) := by
  constructor
  · rintro ⟨⟨nodes,stop,rest⟩,h⟩
    obtain ⟨body,tail,hts,hbody,htail⟩ := nodes_of_reads ⟨nodes,h⟩
    cases htail with
    | finish => rwa [hts,List.append_nil]
    | word hstop _ => cases hstop
  · intro h
    have hend : MayStop [] [] := .inl ⟨rfl,rfl⟩
    obtain ⟨stop,rest,⟨nodes,hread⟩,-⟩ :=
      reads_of_nodes (by simp) (Nat.lt_succ_self _) h (List.append_nil _).symm hend
    exact ⟨_,hread⟩

theorem actions_iff_tokens? {s : Chars} {acts : List Chars} :
    Actions s acts ↔ ∃ ts, tokens? s = some ts ∧ actionsOf ts = acts :=
  actions_iff (Nat.lt_succ_self s.length)

theorem parse_ok_iff {source : String} {ts : List Token} (h : tokens? source.toList = some ts) :
    (∃ nodes, parse source = .ok nodes) ↔ Nodes BeginsWith (actionsOf ts) := by
  rw [← readNodes_ok_iff source,parse,h]
  simp [map_eq_ok]

/-- A template is accepted just when its marks are closed and its actions are paths and sections, where
whatever stands behind `else` and `end` is ignored. Those in which nothing stands there are the templates
with exactly these words. -/
theorem parse_accepts (source : String) :
    ((∃ nodes, parse source = .ok nodes) ↔ ∃ acts, Actions source.toList acts ∧ Nodes BeginsWith acts) ∧
      ∀ acts, Actions source.toList acts →
        (Nodes IsWord acts ↔ (∃ nodes, parse source = .ok nodes) ∧ ∀ a ∈ acts, IsPlain a) := by
  have hok {acts : List Chars} (h : Actions source.toList acts) :
      (∃ nodes, parse source = .ok nodes) ↔ Nodes BeginsWith acts := by
    obtain ⟨ts,hts,rfl⟩ := actions_iff_tokens?.mp h
    exact parse_ok_iff hts
  refine ⟨⟨fun h => ?_,?_⟩,fun acts h => by rw [hok h,nodes_isWord_iff]⟩
  · cases hts : tokens? source.toList with
    | none =>
      obtain ⟨nodes,hnodes⟩ := h
      simp [parse,hts] at hnodes
    | some ts => exact ⟨actionsOf ts,actions_iff_tokens?.mpr ⟨ts,hts,rfl⟩,(parse_ok_iff hts).mp h⟩
  · rintro ⟨acts,h,hnodes⟩
    exact (hok h).mpr hnodes

/-- A condition behind `else` is no part of the language, but is read as if it were not there. -/
theorem condition_behind_else_accepted :
    let source := "\x7b\x7b if .A \x7d\x7dx\x7b\x7b else if .B \x7d\x7dy\x7b\x7b end \x7d\x7d"
    ∃ acts, Actions source.toList acts ∧ ¬Nodes IsWord acts ∧ ∃ nodes, parse source = .ok nodes := by
  intro source
  have hopens : Opens "if" "if .A".toList :=
    ⟨[],".A".toList,[],rfl,.names ⟨['A'],[],rfl,by decide⟩,by simp,by simp⟩
  have hacts : Actions source.toList ["if .A".toList,"else if .B".toList,"end".toList] :=
    actions_iff_tokens?.mpr ⟨[.action "if .A".toList,.text ['x'],.action "else if .B".toList,.text ['y'],
      .action "end".toList],by decide,rfl⟩
  have hnodes : Nodes BeginsWith ("if .A".toList :: ([] ++ "else if .B".toList :: ([] ++ "end".toList :: []))) :=
    .choiceElse hopens .nil rfl .nil rfl .nil
  obtain ⟨hloose,hstrict⟩ := parse_accepts source
  refine ⟨_,hacts,fun h => ?_,hloose.mpr ⟨_,hacts,hnodes⟩⟩
  have hword := ((hstrict _ hacts).mp h).2 _ (List.mem_cons_of_mem _ List.mem_cons_self) "else" (by simp) rfl
  exact absurd hword (show "else if .B".toList ≠ "else".toList by decide)

end TrackerHub.Template
