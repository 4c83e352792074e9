import Mathlib.Data.List.Forall2

/-! # Lists that are read

A thing can be read or not, whatever the reason. Reading the items of a list one after the other succeeds
if each of them can be read. What comes out has the order of the list.
-/
namespace TrackerHub
variable {α β ε : Type}

theorem toOption_eq_some {o : Except ε α} {x : α} : o.toOption = some x ↔ o = .ok x := by
  cases o <;> simp [Except.toOption]

/-- Things of which the same can be read are the same, or neither can be read. -/
theorem toOption_eq_toOption {o o' : Except ε α} :
    o.toOption = o'.toOption ↔ (∃ x, o = .ok x ∧ o' = .ok x) ∨ ∃ e e', o = .error e ∧ o' = .error e' := by
  cases o <;> cases o' <;> simp [Except.toOption,eq_comm]

theorem map_eq_ok {f : α → β} {o : Except ε α} {y : β} :
    o.map f = .ok y ↔ ∃ x, o = .ok x ∧ f x = y := by
  cases o <;> simp [Except.map]

theorem mapError_eq_ok {ε' : Type} {f : ε → ε'} {o : Except ε α} {x : α} :
    o.mapError f = .ok x ↔ o = .ok x := by
  cases o with
  | error e => exact ⟨nofun,nofun⟩
  | ok y => constructor <;> (rintro ⟨⟩; rfl)

theorem bind_eq_ok {o : Except ε α} {f : α → Except ε β} {y : β} :
    o >>= f = .ok y ↔ ∃ x, o = .ok x ∧ f x = .ok y := by
  cases o <;> simp [bind,Except.bind]

theorem map_of_toOption {f : α → Except ε β} {xs : List α} {ys : List β}
    (h : xs.map (fun x => (f x).toOption) = ys.map some) : xs.map f = ys.map .ok := by
  induction xs generalizing ys with
  | nil =>
    cases ys with
    | nil => rfl
    | cons y ys => simp at h
  | cons x xs ih =>
    cases ys with
    | nil => simp at h
    | cons y ys =>
      simp only [List.map_cons,List.cons.injEq] at h ⊢
      exact ⟨toOption_eq_some.mp h.1,ih h.2⟩

theorem mapM_cons_eq_ok {f : α → Except ε β} {x : α} {xs : List α} {us : List β} :
    (x :: xs).mapM f = .ok us ↔ ∃ u rest, f x = .ok u ∧ xs.mapM f = .ok rest ∧ us = u :: rest := by
  rw [List.mapM_cons]
  cases hx : f x with
  | error e => simp [bind,Except.bind]
  | ok u =>
    cases hxs : xs.mapM f with
    | error e => simp [bind,Except.bind]
    | ok rest => simp [bind,Except.bind,pure,Except.pure,eq_comm]

/-- The items of a list are read one by one. -/
theorem mapM_eq_ok_iff {f : α → Except ε β} {xs : List α} {us : List β} :
    xs.mapM f = .ok us ↔ List.Forall₂ (fun x u => f x = .ok u) xs us := by
  induction xs generalizing us with
  | nil => simp [pure,Except.pure,eq_comm]
  | cons x xs ih =>
    simp only [mapM_cons_eq_ok,List.forall₂_cons_left_iff,ih]

theorem exists_mapM_eq_ok {f : α → Except ε β} {xs : List α} :
    (∃ us, xs.mapM f = .ok us) ↔ ∀ x ∈ xs, ∃ u, f x = .ok u := by
  induction xs with
  | nil => exact iff_of_true ⟨[],rfl⟩ (List.forall_mem_nil _)
  | cons x xs ih =>
    rw [List.forall_mem_cons,← ih]
    constructor
    · rintro ⟨us,h⟩
      obtain ⟨u,rest,hu,hrest,-⟩ := mapM_cons_eq_ok.mp h
      exact ⟨⟨u,hu⟩,rest,hrest⟩
    · rintro ⟨⟨u,hu⟩,rest,hrest⟩
      exact ⟨u :: rest,mapM_cons_eq_ok.mpr ⟨u,rest,hu,hrest,rfl⟩⟩

/-- What is wrong with a list is wrong with one of its items. -/
theorem exists_of_mapM_eq_error {f : α → Except ε β} {xs : List α} {e : ε} (h : xs.mapM f = .error e) :
    ∃ x ∈ xs, f x = .error e := by
  induction xs with
  | nil => cases h
  | cons x xs ih =>
    rw [List.mapM_cons] at h
    cases hx : f x with
    | error fault =>
      rw [hx] at h
      cases h
      exact ⟨x,List.mem_cons_self,hx⟩
    | ok u =>
      rw [hx] at h
      cases hxs : xs.mapM f with
      | ok us =>
        rw [hxs] at h
        cases h
      | error fault =>
        rw [hxs] at h
        cases h
        obtain ⟨y,hy,he⟩ := ih hxs
        exact ⟨y,List.mem_cons_of_mem x hy,he⟩

theorem mapM_eq_map {f : α → Except ε β} {g : α → β} {xs : List α} (h : ∀ x ∈ xs, f x = .ok (g x)) :
    xs.mapM f = .ok (xs.map g) := by
  induction xs with
  | nil => rfl
  | cons x xs ih =>
    obtain ⟨hx,hxs⟩ := List.forall_mem_cons.mp h
    exact mapM_cons_eq_ok.mpr ⟨g x,xs.map g,hx,ih hxs,rfl⟩

/-- A list is collected item by item, if each item is added behind those before it. -/
theorem foldlM_eq_map {f : List β → α → Except ε (List β)} {g : α → β} {xs : List α}
    (h : ∀ before x after, xs = before ++ x :: after → f (before.map g) x = .ok (before.map g ++ [g x])) :
    xs.foldlM f [] = .ok (xs.map g) := by
  have hfrom (before after : List α) (heq : xs = before ++ after) :
      after.foldlM f (before.map g) = .ok (xs.map g) := by
    induction after generalizing before with
    | nil => rw [heq,List.append_nil]; rfl
    | cons x after ih =>
      rw [List.foldlM_cons,h before x after heq]
      have hnext := ih (before ++ [x]) (by simpa using heq)
      rw [List.map_append] at hnext
      exact hnext
  exact hfrom [] xs rfl

theorem exists_of_mem_forall₂ {R : α → β → Prop} {xs : List α} {ys : List β} (h : List.Forall₂ R xs ys) {y : β}
    (hy : y ∈ ys) : ∃ x ∈ xs, R x y := by
  induction h with
  | nil => cases hy
  | @cons x _ xs _ hx _ ih =>
    rcases List.mem_cons.mp hy with rfl | hy
    · exact ⟨x,List.mem_cons_self,hx⟩
    · obtain ⟨z,hz,hR⟩ := ih hy
      exact ⟨z,List.mem_cons_of_mem x hz,hR⟩

theorem exists_of_mem_mapM {f : α → Except ε β} {xs : List α} {ys : List β} (h : xs.mapM f = .ok ys)
    {y : β} (hy : y ∈ ys) : ∃ x ∈ xs, f x = .ok y :=
  exists_of_mem_forall₂ (mapM_eq_ok_iff.mp h) hy

theorem mapM_eq_ok {γ : Type} {f : α → Except ε β} {g : β → γ} {h : α → γ} {P : β → Prop}
    (hf : ∀ x y, f x = .ok y → g y = h x ∧ P y) {xs : List α} {ys : List β}
    (hm : xs.mapM f = .ok ys) : ys.map g = xs.map h ∧ ∀ y ∈ ys, P y := by
  induction xs generalizing ys with
  | nil => cases hm; simp
  | cons x xs ih =>
    obtain ⟨y,rest,hy,hrest,rfl⟩ := mapM_cons_eq_ok.mp hm
    obtain ⟨hg,hp⟩ := hf x y hy
    obtain ⟨hgs,hps⟩ := ih hrest
    exact ⟨by simp [hg,hgs],List.forall_mem_cons.mpr ⟨hp,hps⟩⟩

/-- What can be read of some things in one order can be read of them in any other. -/
theorem mapM_perm {f : α → Except ε β} {xs ys : List α} (h : xs.Perm ys) {us : List β}
    (hx : xs.mapM f = .ok us) : ∃ vs, ys.mapM f = .ok vs ∧ us.Perm vs := by
  induction h generalizing us with
  | nil => exact ⟨us,hx,.refl us⟩
  | cons x _ ih =>
    obtain ⟨u,rest,hu,hrest,rfl⟩ := mapM_cons_eq_ok.mp hx
    obtain ⟨vs,hvs,hperm⟩ := ih hrest
    exact ⟨u :: vs,mapM_cons_eq_ok.mpr ⟨u,vs,hu,hvs,rfl⟩,hperm.cons u⟩
  | swap x y _ =>
    obtain ⟨v,more,hv,hmore,rfl⟩ := mapM_cons_eq_ok.mp hx
    obtain ⟨u,rest,hu,hrest,rfl⟩ := mapM_cons_eq_ok.mp hmore
    have htail := mapM_cons_eq_ok.mpr ⟨v,rest,hv,hrest,rfl⟩
    exact ⟨u :: v :: rest,mapM_cons_eq_ok.mpr ⟨u,_,hu,htail,rfl⟩,.swap u v rest⟩
  | trans _ _ ih ih' =>
    obtain ⟨vs,hvs,hperm⟩ := ih hx
    obtain ⟨ws,hws,hperm'⟩ := ih' hvs
    exact ⟨ws,hws,hperm.trans hperm'⟩

end TrackerHub
