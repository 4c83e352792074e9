import Mathlib.Data.List.Induction
import Mathlib.Data.List.Nodup
import TrackerHub.Named

/-! # Looking up names

What is found under a name, in a list that was entered name by name as in one where names stand more than
once: there the last entry counts, or the first one.
-/
namespace TrackerHub

/-- A search from the end stops at the last item with a result. -/
theorem findSome?_reverse_eq_some {α β : Type} {f : α → Option β} {l : List α} {b : β} :
    l.reverse.findSome? f = some b ↔
      ∃ before x after, l = before ++ x :: after ∧ f x = some b ∧ ∀ y ∈ after, f y = none := by
  rw [List.findSome?_eq_some_iff]
  constructor
  · rintro ⟨after,x,before,hl,hx,hafter⟩
    refine ⟨before.reverse,x,after.reverse,?_,hx,fun y hy => hafter y (List.mem_reverse.mp hy)⟩
    rw [← List.reverse_reverse l,hl]
    simp
  · rintro ⟨before,x,after,rfl,hx,hafter⟩
    exact ⟨after.reverse,x,before.reverse,by simp,hx,fun y hy => hafter y (List.mem_reverse.mp hy)⟩

/-- What is sorted by names stands in their order. -/
theorem pairwise_mergeSort {α : Type} (name : α → String) (items : List α) :
    (items.mergeSort fun a b => decide (name a ≤ name b)).Pairwise fun a b => name a ≤ name b := by
  have hle := @List.pairwise_mergeSort α (fun a b => decide (name a ≤ name b))
    (fun a b c hab hbc => decide_eq_true (String.le_trans (of_decide_eq_true hab) (of_decide_eq_true hbc)))
    (fun a b => by simpa using String.le_total (name a) (name b)) items
  exact hle.imp of_decide_eq_true

namespace Named
variable {α β : Type}

/-- With no name twice, each entry is the one that is found by its name. -/
theorem find?_of_mem {entries : Named α} (h : (entries.map (·.1)).Nodup) {name : String} {x : α}
    (hm : (name,x) ∈ entries) : Named.find? entries name = some x := by
  unfold Named.find?
  induction entries with
  | nil => cases hm
  | cons e rest ih =>
    rw [List.map_cons,List.nodup_cons] at h
    rcases List.mem_cons.mp hm with rfl | hrest
    · simp
    · have hne : (e.1 == name) = false := by
        rw [beq_eq_false_iff_ne]
        intro heq
        exact h.1 (heq ▸ List.mem_map_of_mem (f := (·.1)) hrest)
      rw [List.find?_cons,hne]
      exact ih h.2 hrest

theorem mem_of_find? {entries : Named α} {name : String} {x : α}
    (h : Named.find? entries name = some x) : (name,x) ∈ entries := by
  obtain ⟨e,he,rfl⟩ := Option.map_eq_some_iff.mp h
  have hname : e.1 = name := by simpa using List.find?_some he
  exact hname ▸ List.mem_of_find?_eq_some he

/-- With no name twice, what is found by a name is what stands with it. -/
theorem find?_eq_some_iff {entries : Named α} (h : (entries.map (·.1)).Nodup) {name : String} {x : α} :
    Named.find? entries name = some x ↔ (name,x) ∈ entries :=
  ⟨mem_of_find?,find?_of_mem h⟩

theorem put_names (entries : Named α) (name : String) (x : α) :
    (Named.put entries name x).map (·.1) =
      if entries.any (fun e => e.1 == name) then entries.map (·.1) else entries.map (·.1) ++ [name] := by
  unfold Named.put
  split
  · rw [List.map_map]
    refine List.map_congr_left fun e _ => ?_
    by_cases he : e.1 = name <;> simp [he]
  · simp

theorem nodup_put {entries : Named α} (h : (entries.map (·.1)).Nodup) (name : String) (x : α) :
    ((Named.put entries name x).map (·.1)).Nodup := by
  rw [put_names]
  split
  · exact h
  next hnew =>
    simp only [List.any_eq_true,beq_iff_eq,not_exists,not_and] at hnew
    refine List.nodup_append.mpr ⟨h,by simp,?_⟩
    rintro name hn _ hx rfl
    obtain ⟨f,hf,rfl⟩ := List.mem_map.mp hn
    exact hnew f hf (List.mem_singleton.mp hx)

/-- No name stands twice in a list that was entered name by name. -/
theorem nodup_ofList (entries : List (String × α)) : ((Named.ofList entries).map (·.1)).Nodup := by
  have entered : ∀ acc : Named α, (acc.map (·.1)).Nodup →
      ((entries.foldl (fun acc e => Named.put acc e.1 e.2) acc).map (·.1)).Nodup := by
    induction entries with
    | nil => intro acc h; exact h
    | cons e rest ih =>
      intro acc h
      exact ih _ (nodup_put h e.1 e.2)
  exact entered [] (by simp)

theorem find?_put (entries : Named α) (name : String) (x : α) (other : String) :
    (put entries name x).find? other = if other = name then some x else entries.find? other := by
  unfold put find?
  split
  next hold =>
    have hsame : ((fun e : String × α => e.1 == other) ∘ fun e => if e.1 == name then (name,x) else e) =
        fun e => e.1 == other := by
      funext e
      by_cases he : e.1 = name <;> simp [he]
    rw [List.find?_map,hsame,Option.map_map]
    by_cases hother : other = name
    · subst hother
      obtain ⟨e,he⟩ := Option.isSome_iff_exists.mp (List.find?_isSome.mpr (List.any_eq_true.mp hold))
      have hname : e.1 = other := by simpa using List.find?_some he
      simp [he,hname]
    · rw [if_neg hother]
      cases he : List.find? (fun e => e.1 == other) entries with
      | none => rfl
      | some e =>
        have hname : e.1 = other := by simpa using List.find?_some he
        simp [hname,hother]
  next hnew =>
    rw [List.find?_append]
    by_cases hother : other = name
    · subst hother
      have hnone : List.find? (fun e => e.1 == other) entries = none :=
        List.find?_eq_none.mpr fun e he hname => hnew (List.any_eq_true.mpr ⟨e,he,hname⟩)
      simp [hnone]
    · simp [hother,Ne.symm hother]

theorem mem_put {entries : Named α} {name : String} {x : α} {e : String × α} (h : e ∈ put entries name x) :
    e = (name,x) ∨ e ∈ entries := by
  unfold put at h
  split at h
  · obtain ⟨f,hf,rfl⟩ := List.mem_map.mp h
    by_cases hname : f.1 = name
    · simp [hname]
    · simpa [hname] using .inr hf
  · rcases List.mem_append.mp h with h | h
    · exact .inr h
    · exact .inl (List.mem_singleton.mp h)

theorem mem_of_mem_foldl {entries : List (String × α)} {acc : Named α} {e : String × α}
    (h : e ∈ entries.foldl (fun acc e => put acc e.1 e.2) acc) : e ∈ acc ∨ e ∈ entries := by
  induction entries generalizing acc with
  | nil => exact .inl h
  | cons f entries ih =>
    rcases ih h with h | h
    · rcases mem_put h with rfl | h
      · exact .inr List.mem_cons_self
      · exact .inl h
    · exact .inr (List.mem_cons_of_mem f h)

theorem find?_map (f : α → β) (entries : Named α) (name : String) :
    find? (entries.map fun e => (e.1,f e.2)) name = (find? entries name).map f := by
  unfold find?
  rw [List.find?_map]
  simp [Function.comp_def]

/-- With no name twice the order of the entries does not matter. -/
theorem find?_perm {entries others : Named α} (hperm : entries.Perm others) (h : (others.map (·.1)).Nodup)
    (name : String) : entries.find? name = others.find? name := by
  have hnames := (hperm.map (·.1)).nodup_iff.mpr h
  refine Option.ext fun x => ?_
  rw [find?_eq_some_iff hnames,find?_eq_some_iff h,hperm.mem_iff]

theorem ofList_eq {entries : List (String × α)} (h : (entries.map (·.1)).Nodup) : ofList entries = entries := by
  have hfrom (before after : List (String × α)) (heq : entries = before ++ after) :
      after.foldl (fun acc e => put acc e.1 e.2) before = entries := by
    induction after generalizing before with
    | nil => rw [heq,List.append_nil]; rfl
    | cons e after ih =>
      have hnew : (before.any fun x => x.1 == e.1) = false := by
        rw [heq,List.map_append,List.map_cons] at h
        have hdistinct := (List.nodup_append.mp h).2.2
        simp only [List.any_eq_false,beq_iff_eq]
        exact fun x hx => hdistinct _ (List.mem_map_of_mem hx) _ List.mem_cons_self
      have hput : put before e.1 e.2 = before ++ [e] := by
        rw [put,hnew,if_neg Bool.false_ne_true]
      rw [List.foldl_cons,hput]
      exact ih (before ++ [e]) (by simpa using heq)
  exact hfrom [] entries rfl

theorem ofList_concat (entries : List (String × α)) (e : String × α) :
    ofList (entries ++ [e]) = Named.put (ofList entries) e.1 e.2 :=
  List.foldl_append

theorem eraseDups_concat (names : List String) (name : String) : (names ++ [name]).eraseDups =
    if name ∈ names then names.eraseDups else names.eraseDups ++ [name] := by
  rw [List.eraseDups_append]
  by_cases h : name ∈ names <;> simp [List.removeAll,h,List.eraseDups_cons]

/-- The names of a list that was entered name by name, each in its first place. -/
theorem names_ofList (entries : List (String × α)) :
    (ofList entries).map (·.1) = (entries.map (·.1)).eraseDups := by
  induction entries using List.reverseRecOn with
  | nil => rfl
  | append_singleton entries e ih =>
    have hany : (ofList entries).any (fun f => f.1 == e.1) = (entries.map (·.1)).contains e.1 := by
      rw [Bool.eq_iff_iff,List.contains_iff_mem,← List.mem_eraseDups,← ih]
      simp
    rw [ofList_concat,put_names,hany,ih,List.map_append,List.map_singleton,eraseDups_concat]
    by_cases he : e.1 ∈ entries.map (·.1) <;> simp [he]

theorem nodup_eraseDups (names : List String) : names.eraseDups.Nodup := by
  have h := nodup_ofList (names.map fun name => (name,()))
  rw [names_ofList,List.map_map] at h
  simpa [Function.comp_def] using h

theorem find?_append (entries others : Named α) (name : String) :
    find? (entries ++ others) name = (find? entries name).or (find? others name) := by
  rw [find?,List.find?_append,Option.map_or]
  rfl

/-- Of entries with the same name the last one is found. -/
theorem find?_ofList (entries : List (String × α)) (name : String) :
    (ofList entries).find? name = find? entries.reverse name := by
  induction entries using List.reverseRecOn with
  | nil => rfl
  | append_singleton entries e ih =>
    rw [ofList_concat,find?_put,List.reverse_concat,ih]
    by_cases he : e.1 = name
    · simp [find?,he]
    · simp [find?,he,Ne.symm he]

theorem find?_flatMap (f : β → List (String × α)) (items : List β) (name : String) :
    find? (items.flatMap f) name = items.findSome? fun x => find? (f x) name := by
  induction items with
  | nil => rfl
  | cons x items ih =>
    rw [List.flatMap_cons,find?_append,List.findSome?_cons,ih]
    cases find? (f x) name <;> rfl

/-- A name is found in the last of the lists that has it. -/
theorem find?_ofList_flatMap (f : β → List (String × α)) (items : List β) (name : String) :
    (ofList (items.flatMap f)).find? name = items.reverse.findSome? fun x => (ofList (f x)).find? name := by
  rw [find?_ofList,List.reverse_flatMap,find?_flatMap]
  simp only [Function.comp_def,find?_ofList]

@[simp] theorem find?_ofList_nil (name : String) : (ofList ([] : List (String × α))).find? name = none := rfl

@[simp] theorem find?_ofList_singleton (e : String × α) (name : String) :
    (ofList [e]).find? name = if e.1 = name then some e.2 else none := by
  rw [find?_ofList,List.reverse_singleton,find?]
  by_cases he : e.1 = name <;> simp [he]

theorem find?_isSome_of_mem {entries : Named α} {e : String × α} (h : e ∈ entries) :
    (entries.find? e.1).isSome := by
  rw [find?,Option.isSome_map,List.find?_isSome]
  exact ⟨e,h,beq_self_eq_true e.1⟩

/-- Where only the first entry of a name is kept, the same is found as before. -/
theorem find?_keepFirst (entries : Named α) (name : String) :
    find? (entries.foldl (fun acc e => if acc.any fun a => a.1 == e.1 then acc else acc ++ [e]) []) name =
      find? entries name := by
  induction entries using List.reverseRecOn with
  | nil => rfl
  | append_singleton entries e ih =>
    rw [List.foldl_append,List.foldl_cons,List.foldl_nil,find?_append,← ih]
    split
    next hold =>
      obtain ⟨known,hknown,hname⟩ := List.any_eq_true.mp hold
      by_cases he : e.1 = name
      · have hfound := find?_isSome_of_mem hknown
        rw [beq_iff_eq.mp hname,he] at hfound
        rw [Option.or_of_isSome hfound]
      · simp [find?,he]
    next => rw [find?_append]

theorem mem_names_iff {entries : Named α} {name : String} :
    name ∈ entries.map (·.1) ↔ (entries.find? name).isSome := by
  constructor
  · intro h
    obtain ⟨e,he,rfl⟩ := List.mem_map.mp h
    exact find?_isSome_of_mem he
  · intro h
    obtain ⟨x,hx⟩ := Option.isSome_iff_exists.mp h
    exact List.mem_map_of_mem (f := (·.1)) (mem_of_find? hx)

end Named

end TrackerHub
