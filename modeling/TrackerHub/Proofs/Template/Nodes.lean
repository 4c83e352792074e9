import TrackerHub.Proofs.Template.Grammar

/-! # The parts of a template

Which parts the pieces of a template make up. The rules do not mention the text that the pieces were cut
from, nor how many pieces there may be: these decide only how a fault is reported.
-/
namespace TrackerHub.Template
open TrackerHub.Text

/-- The parts that pieces make up to a closing word, and the pieces behind it. Without closing words they
reach to the end. -/
inductive Builds : List String → List Token → List Node → String → List Token → Prop where
  | finish : Builds [] [] [] "" []
  | stop {ends a ts} (hstop : String.ofList (firstWord a) ∈ ends) :
      Builds ends (.action a :: ts) [] (String.ofList (firstWord a)) ts
  | text {ends s ts nodes stop rest} (h : Builds ends ts nodes stop rest) :
      Builds ends (.text s :: ts) (.text (String.ofList s) :: nodes) stop rest
  | field {ends a p ts nodes stop rest} (hends : String.ofList (firstWord a) ∉ ends)
      (hword : String.ofList (firstWord a) ≠ "range" ∧ String.ofList (firstWord a) ≠ "if")
      (hp : readPath? a = some p) (h : Builds ends ts nodes stop rest) :
      Builds ends (.action a :: ts) (.field p :: nodes) stop rest
  | range {ends a p ts inner word mid nodes stop rest} (hends : String.ofList (firstWord a) ∉ ends)
      (hword : String.ofList (firstWord a) = "range") (hp : readPath? (argument a) = some p)
      (hinner : Builds ["end"] ts inner word mid) (h : Builds ends mid nodes stop rest) :
      Builds ends (.action a :: ts) (.range p inner :: nodes) stop rest
  | choice {ends a p ts yes word mid nodes stop rest} (hends : String.ofList (firstWord a) ∉ ends)
      (hword : String.ofList (firstWord a) = "if") (hp : readPath? (argument a) = some p)
      (hyes : Builds ["else","end"] ts yes word mid) (helse : word ≠ "else")
      (h : Builds ends mid nodes stop rest) :
      Builds ends (.action a :: ts) (.choice p yes [] :: nodes) stop rest
  | choiceElse {ends a p ts yes mid no word after nodes stop rest}
      (hends : String.ofList (firstWord a) ∉ ends) (hword : String.ofList (firstWord a) = "if")
      (hp : readPath? (argument a) = some p) (hyes : Builds ["else","end"] ts yes "else" mid)
      (hno : Builds ["end"] mid no word after) (h : Builds ends after nodes stop rest) :
      Builds ends (.action a :: ts) (.choice p yes no :: nodes) stop rest

section
variable {source : String} {fuel : Nat} {ends : List String} {a : Chars} {ts rest : List Token}
  {nodes : List Node} {stop : String}

theorem readArgument_eq_ok_iff {word arg : Chars} {p : Path} :
    readArgument source word arg = .ok p ↔ readPath? arg = some p := by
  unfold readArgument
  cases readPath? arg <;> simp

theorem readNodes_stop (h : String.ofList (firstWord a) ∈ ends) :
    readNodes source (fuel + 1) ends (.action a :: ts) = .ok ([],String.ofList (firstWord a),ts) := by
  simp [readNodes,splitAction_eq,h,pure,Except.pure]

theorem readNodes_field (hends : String.ofList (firstWord a) ∉ ends)
    (hword : String.ofList (firstWord a) ≠ "range" ∧ String.ofList (firstWord a) ≠ "if") :
    readNodes source (fuel + 1) ends (.action a :: ts) = .ok (nodes,stop,rest) ↔
      ∃ p more, readPath? a = some p ∧ readNodes source fuel ends ts = .ok (more,stop,rest) ∧
        nodes = .field p :: more := by
  simp only [readNodes,splitAction_eq,List.contains_iff_mem,hends,beq_iff_eq,hword.1,hword.2,if_false]
  cases readPath? a with
  | none => simp [throw,throwThe,MonadExceptOf.throw]
  | some p =>
    simp only [bind_eq_ok,Prod.exists,pure,Except.pure]
    constructor
    · rintro ⟨more,_,_,hmore,⟨⟩⟩
      exact ⟨p,more,rfl,hmore,rfl⟩
    · rintro ⟨_,more,⟨⟩,hmore,rfl⟩
      exact ⟨more,stop,rest,hmore,rfl⟩

theorem readNodes_range (hends : String.ofList (firstWord a) ∉ ends)
    (hword : String.ofList (firstWord a) = "range") :
    readNodes source (fuel + 1) ends (.action a :: ts) = .ok (nodes,stop,rest) ↔
      ∃ inner word mid p more, readNodes source fuel ["end"] ts = .ok (inner,word,mid) ∧
        readPath? (argument a) = some p ∧ readNodes source fuel ends mid = .ok (more,stop,rest) ∧
        nodes = .range p inner :: more := by
  rw [hword] at hends
  simp only [readNodes,splitAction_eq,List.contains_iff_mem,hword,hends,bind_eq_ok,Prod.exists,pure,Except.pure,
    if_false,beq_self_eq_true,if_true,readArgument_eq_ok_iff]
  constructor
  · rintro ⟨inner,word,mid,hinner,p,hp,more,_,_,hmore,⟨⟩⟩
    exact ⟨inner,word,mid,p,more,hinner,hp,hmore,rfl⟩
  · rintro ⟨inner,word,mid,p,more,hinner,hp,hmore,rfl⟩
    exact ⟨inner,word,mid,hinner,p,hp,more,stop,rest,hmore,rfl⟩

theorem readNodes_choice (hends : String.ofList (firstWord a) ∉ ends)
    (hword : String.ofList (firstWord a) = "if") :
    readNodes source (fuel + 1) ends (.action a :: ts) = .ok (nodes,stop,rest) ↔
      ∃ yes word mid no after p more, readNodes source fuel ["else","end"] ts = .ok (yes,word,mid) ∧
        (if word = "else" then ∃ last, readNodes source fuel ["end"] mid = .ok (no,last,after)
          else no = [] ∧ after = mid) ∧
        readPath? (argument a) = some p ∧ readNodes source fuel ends after = .ok (more,stop,rest) ∧
        nodes = .choice p yes no :: more := by
  rw [hword] at hends
  simp only [readNodes,splitAction_eq,List.contains_iff_mem,hword,hends,bind_eq_ok,Prod.exists,pure,Except.pure,
    if_false,String.reduceBEq,Bool.false_eq_true,beq_iff_eq,if_true]
  constructor
  · rintro ⟨yes,word,mid,hyes,h⟩
    split at h
    next hword =>
      obtain ⟨⟨no,last,after⟩,hno,_,⟨⟩,p,hp,⟨more,_,_⟩,hmore,⟨⟩⟩ := by
        simpa only [bind_eq_ok,readArgument_eq_ok_iff] using h
      exact ⟨yes,word,mid,no,after,p,more,hyes,by rw [if_pos hword]; exact ⟨last,hno⟩,hp,hmore,rfl⟩
    next hword =>
      obtain ⟨_,⟨⟩,p,hp,⟨more,_,_⟩,hmore,⟨⟩⟩ := by
        simpa only [bind_eq_ok,readArgument_eq_ok_iff] using h
      exact ⟨yes,word,mid,[],mid,p,more,hyes,by rw [if_neg hword]; exact ⟨rfl,rfl⟩,hp,hmore,rfl⟩
  · rintro ⟨yes,word,mid,no,after,p,more,hyes,h,hp,hmore,rfl⟩
    refine ⟨yes,word,mid,hyes,?_⟩
    split at h
    next hword =>
      obtain ⟨last,hno⟩ := h
      rw [if_pos hword]
      simp only [bind_eq_ok,readArgument_eq_ok_iff]
      exact ⟨_,hno,_,rfl,p,hp,_,hmore,rfl⟩
    next hword =>
      obtain ⟨rfl,rfl⟩ := h
      rw [if_neg hword]
      simp only [bind_eq_ok,readArgument_eq_ok_iff]
      exact ⟨_,rfl,p,hp,_,hmore,rfl⟩

/-- What is read is what the pieces make up. -/
theorem builds_of_readNodes (h : readNodes source fuel ends ts = .ok (nodes,stop,rest)) :
    Builds ends ts nodes stop rest := by
  induction fuel generalizing ends ts nodes stop rest with
  | zero => simp [readNodes] at h
  | succ fuel ih =>
    cases ts with
    | nil =>
      cases ends with
      | nil =>
        cases h
        exact .finish
      | cons word ends => cases h
    | cons t ts =>
      cases t with
      | text s =>
        simp only [readNodes,bind_eq_ok,Prod.exists,pure,Except.pure] at h
        obtain ⟨more,_,_,hmore,⟨⟩⟩ := h
        exact .text (ih hmore)
      | action a =>
        by_cases hends : String.ofList (firstWord a) ∈ ends
        · rw [readNodes_stop hends] at h
          cases h
          exact .stop hends
        by_cases hrange : String.ofList (firstWord a) = "range"
        · obtain ⟨inner,word,mid,p,more,hinner,hp,hmore,rfl⟩ := (readNodes_range hends hrange).mp h
          exact .range hends hrange hp (ih hinner) (ih hmore)
        by_cases hchoice : String.ofList (firstWord a) = "if"
        · obtain ⟨yes,word,mid,no,after,p,more,hyes,hno,hp,hmore,rfl⟩ := (readNodes_choice hends hchoice).mp h
          split at hno
          next helse =>
            subst helse
            obtain ⟨last,hno⟩ := hno
            exact .choiceElse hends hchoice hp (ih hyes) (ih hno) (ih hmore)
          next helse =>
            obtain ⟨rfl,rfl⟩ := hno
            exact .choice hends hchoice hp (ih hyes) helse (ih hmore)
        obtain ⟨p,more,hp,hmore,rfl⟩ := (readNodes_field hends ⟨hrange,hchoice⟩).mp h
        exact .field hends ⟨hrange,hchoice⟩ hp (ih hmore)

theorem Builds.length_le (h : Builds ends ts nodes stop rest) : rest.length ≤ ts.length := by
  induction h with
  | finish => exact le_rfl
  | stop => exact Nat.le_succ _
  | text _ ih | field _ _ _ _ ih => exact ih.trans (Nat.le_succ _)
  | range _ _ _ _ _ ihInner ih | choice _ _ _ _ _ _ ihInner ih =>
    exact (ih.trans ihInner).trans (Nat.le_succ _)
  | choiceElse _ _ _ _ _ _ ihYes ihNo ih => exact ((ih.trans ihNo).trans ihYes).trans (Nat.le_succ _)

/-- What the pieces make up is read, whatever text they were cut from. -/
theorem Builds.readNodes_eq (h : Builds ends ts nodes stop rest) (source : String) (hfuel : ts.length < fuel) :
    readNodes source fuel ends ts = .ok (nodes,stop,rest) := by
  induction h generalizing fuel with
  | finish =>
    obtain ⟨fuel,rfl⟩ := Nat.exists_eq_add_one_of_ne_zero (by omega : fuel ≠ 0)
    rfl
  | stop hstop =>
    obtain ⟨fuel,rfl⟩ := Nat.exists_eq_add_one_of_ne_zero (by omega : fuel ≠ 0)
    exact readNodes_stop hstop
  | text h ih =>
    obtain ⟨fuel,rfl⟩ := Nat.exists_eq_add_one_of_ne_zero (by omega : fuel ≠ 0)
    simp only [readNodes,bind_eq_ok,Prod.exists,pure,Except.pure]
    exact ⟨_,_,_,ih (Nat.lt_of_succ_lt_succ hfuel),rfl⟩
  | field hends hword hp h ih =>
    obtain ⟨fuel,rfl⟩ := Nat.exists_eq_add_one_of_ne_zero (by omega : fuel ≠ 0)
    exact (readNodes_field hends hword).mpr ⟨_,_,hp,ih (Nat.lt_of_succ_lt_succ hfuel),rfl⟩
  | range hends hword hp hinner h ihInner ih =>
    obtain ⟨fuel,rfl⟩ := Nat.exists_eq_add_one_of_ne_zero (by omega : fuel ≠ 0)
    have hts := Nat.lt_of_succ_lt_succ hfuel
    have hmid := hinner.length_le.trans_lt hts
    exact (readNodes_range hends hword).mpr ⟨_,_,_,_,_,ihInner hts,hp,ih hmid,rfl⟩
  | choice hends hword hp hyes helse h ihYes ih =>
    obtain ⟨fuel,rfl⟩ := Nat.exists_eq_add_one_of_ne_zero (by omega : fuel ≠ 0)
    have hts := Nat.lt_of_succ_lt_succ hfuel
    have hmid := hyes.length_le.trans_lt hts
    exact (readNodes_choice hends hword).mpr
      ⟨_,_,_,_,_,_,_,ihYes hts,by rw [if_neg helse]; exact ⟨rfl,rfl⟩,hp,ih hmid,rfl⟩
  | choiceElse hends hword hp hyes hno h ihYes ihNo ih =>
    obtain ⟨fuel,rfl⟩ := Nat.exists_eq_add_one_of_ne_zero (by omega : fuel ≠ 0)
    have hts := Nat.lt_of_succ_lt_succ hfuel
    have hmid := hyes.length_le.trans_lt hts
    have hafter := hno.length_le.trans_lt hmid
    exact (readNodes_choice hends hword).mpr
      ⟨_,_,_,_,_,_,_,ihYes hts,by rw [if_pos rfl]; exact ⟨_,ihNo hmid⟩,hp,ih hafter,rfl⟩

end

/-- A template that is read has the parts that its pieces make up. -/
theorem parse_eq_ok_iff {source : String} {nodes : List Node} : parse source = .ok nodes ↔
    ∃ ts, tokens? source.toList = some ts ∧ Builds [] ts nodes "" [] := by
  unfold parse
  cases tokens? source.toList with
  | none => simp
  | some ts =>
    rw [map_eq_ok]
    constructor
    · rintro ⟨⟨nodes,stop,rest⟩,h,rfl⟩
      have hbuilds := builds_of_readNodes h
      have hend : stop = "" ∧ rest = [] := by
        generalize hends : ([] : List String) = ends at hbuilds
        clear h
        induction hbuilds with
        | finish => exact ⟨rfl,rfl⟩
        | stop hstop => exact absurd (hends ▸ hstop) List.not_mem_nil
        | text _ ih | field _ _ _ _ ih => exact ih hends
        | range _ _ _ _ _ _ ih | choice _ _ _ _ _ _ _ ih => exact ih hends
        | choiceElse _ _ _ _ _ _ _ _ ih => exact ih hends
      obtain ⟨rfl,rfl⟩ := hend
      exact ⟨ts,rfl,hbuilds⟩
    · rintro ⟨_,⟨⟩,h⟩
      exact ⟨_,h.readNodes_eq source (Nat.lt_succ_self _),rfl⟩

end TrackerHub.Template
