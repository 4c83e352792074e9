import Mathlib.Data.List.Induction
import TrackerHub.Page.Rows
import TrackerHub.Proofs.Page.EditedPages
import TrackerHub.Proofs.Page.NumberedPages

/-! # Merged rows

Rows that continue over several elements, put together. What the moves of the rows make of a page one
after another is one edit of the page: every lead row has the cells of the rows behind it at its end,
those rows are gone, and nothing else has changed. The elements that are left after any moves were on
the page before, each of them once.
-/
namespace TrackerHub.Page
open Node

section
variable {page : List Node}

/-- A row that is absorbed is gone, and every other element is there at most once. -/
theorem absorb_facts (lead row : Nat) (hn : IsNumbered page) :
    (tagsOf (absorb lead page row)).Subperm (tagsOf page) ∧ row ∉ numbersOf (absorb lead page row) := by
  have hleft : row ∉ numbersOf (withoutOf (· == row) page) := fun h => by
    simpa using not_gone_of_mem h
  have hsub := tagsOf_withoutOf_sublist (· == row) page
  unfold absorb cellsOf
  cases hc : childrenOfAny? row page with
  | none =>
    simp only [Option.getD_none,List.filter_nil]
    rw [appendAtOf_eq,editedOf_of_spares fun _ _ => ⟨rfl,ite_self _⟩]
    exact ⟨hsub.subperm,hleft⟩
  | some children =>
    obtain ⟨t,rfl,hp⟩ := tagsOf_perm_withoutOf hn hc
    have hcells := tagsOf_filter_sublist (isElement "td".toList) children
    rw [Option.getD_some]
    -- A lead row that is not on the page, or was inside the other one, gets nothing.
    by_cases hl : lead ∈ numbersOf (withoutOf (· == t.id) page)
    · have ha := tagsOf_perm_appendAtOf (children.filter (isElement "td".toList))
        (hn.of_subperm hsub.subperm) hl
      constructor
      · refine ha.subperm.trans ((List.perm_append_comm.subperm).trans ?_)
        exact ((hcells.append (List.Sublist.refl _)).cons t).subperm.trans hp.symm.subperm
      · have hrow : t.id ∉ numbersOf children := by
          have hnodup := (hp.map Tag.id).nodup_iff.mp hn
          rw [List.map_cons,List.nodup_cons,List.map_append,List.mem_append,not_or] at hnodup
          exact hnodup.1.1
        intro h
        obtain ⟨u,hu,hid⟩ := List.mem_map.mp h
        rcases List.mem_append.mp (ha.subset hu) with hu | hu
        · exact hleft (List.mem_map.mpr ⟨u,hu,hid⟩)
        · exact hrow (List.mem_map.mpr ⟨u,hcells.subset hu,hid⟩)
    · rw [appendAtOf_of_not_mem hl]
      exact ⟨hsub.subperm,hleft⟩

end

/-- The moves that put rows together, in order: the lead row and a row that it absorbs. -/
def moves (after : Nat) (rows : List Nat) : List (Nat × Nat) :=
  (strides after rows.length rows).flatMap fun s => s.2.map fun row => (s.1,row)

def moveAll (page : List Node) (ms : List (Nat × Nat)) : List Node :=
  ms.foldl (fun page m => absorb m.1 page m.2) page

theorem mergeRows_eq_moveAll (after : Nat) (rows : List Nat) (page : List Node) :
    mergeRows after rows page = moveAll page (moves after rows) := by
  unfold mergeRows moveAll moves
  generalize strides after rows.length rows = groups
  induction groups generalizing page with
  | nil => rfl
  | cons s groups ih =>
    rw [List.foldl_cons,List.flatMap_cons,List.foldl_append,List.foldl_map,ih]

theorem moveAll_append (page : List Node) (ms : List (Nat × Nat)) (m : Nat × Nat) :
    moveAll page (ms ++ [m]) = absorb m.1 (moveAll page ms) m.2 :=
  List.foldl_append

/-- Moves only take elements away, and among them all the rows that they move. -/
theorem moveAll_facts {page : List Node} (hn : IsNumbered page) (ms : List (Nat × Nat)) :
    (tagsOf (moveAll page ms)).Subperm (tagsOf page) ∧ ∀ m ∈ ms, m.2 ∉ numbersOf (moveAll page ms) := by
  induction ms generalizing page with
  | nil => exact ⟨List.Subperm.refl _,nofun⟩
  | cons m ms ih =>
    obtain ⟨hsub,hgone⟩ := absorb_facts m.1 m.2 hn
    obtain ⟨hrest,hmoved⟩ := ih (hn.of_subperm hsub)
    refine ⟨hrest.trans hsub,List.forall_mem_cons.mpr ⟨fun h => hgone ?_,hmoved⟩⟩
    exact List.map_subset Tag.id hrest.subset h

/-! ## Lead rows and the rows behind them -/

section
variable (after : Nat) (rows : List Nat)

theorem getElem?_strides {fuel : Nat} (h : rows.length ≤ fuel) (k : Nat) :
    (strides after fuel rows)[k]? = rows[k * (1 + after)]?.map fun lead =>
      (lead,(rows.drop (k * (1 + after) + 1)).take after) := by
  induction fuel generalizing rows k with
  | zero =>
    obtain rfl := List.eq_nil_of_length_eq_zero (Nat.le_zero.mp h)
    rfl
  | succ fuel ih =>
    cases rows with
    | nil => rfl
    | cons lead rest =>
      rw [strides]
      cases k with
      | zero => simp
      | succ k =>
        have hlen : (rest.drop after).length ≤ fuel := by
          rw [List.length_cons] at h
          rw [List.length_drop]
          omega
        have hindex : (k + 1) * (1 + after) = after + k * (1 + after) + 1 := by
          rw [Nat.succ_mul]
          omega
        rw [List.getElem?_cons_succ,ih _ hlen,List.getElem?_drop,List.drop_drop,hindex,
          List.getElem?_cons_succ,List.drop_succ_cons]
        rfl

theorem flatMap_strides {fuel : Nat} (h : rows.length ≤ fuel) :
    (strides after fuel rows).flatMap (fun s => s.1 :: s.2) = rows := by
  induction fuel generalizing rows with
  | zero =>
    obtain rfl := List.eq_nil_of_length_eq_zero (Nat.le_zero.mp h)
    rfl
  | succ fuel ih =>
    cases rows with
    | nil => rfl
    | cons lead rest =>
      have hlen : (rest.drop after).length ≤ fuel := by
        rw [List.length_cons] at h
        rw [List.length_drop]
        omega
      rw [strides,List.flatMap_cons,ih _ hlen,List.cons_append,List.take_append_drop]

end

section
variable {after : Nat} {rows : List Nat}

/-- Every row is a lead row or moved, as often as it is given. -/
theorem perm_rows (after : Nat) (rows : List Nat) :
    (leadRows after rows ++ (moves after rows).map (·.2)).Perm rows := by
  conv => rhs; rw [← flatMap_strides after rows (Nat.le_refl _)]
  unfold leadRows moves
  induction strides after rows.length rows with
  | nil => exact List.Perm.refl _
  | cons s groups ih =>
    refine List.perm_iff_count.mpr fun row => ?_
    have hrow := ih.count_eq row
    simp only [List.map_cons,List.flatMap_cons,List.map_append,List.map_map,Function.comp_def,
      List.map_id',List.count_append,List.count_cons] at hrow ⊢
    omega

theorem getElem?_leadRows (k : Nat) : (leadRows after rows)[k]? = rows[k * (1 + after)]? := by
  rw [leadRows,List.getElem?_map,getElem?_strides after rows (Nat.le_refl _),Option.map_map]
  exact congrFun Option.map_id _

theorem lead_of_mem_moves {m : Nat × Nat} (hm : m ∈ moves after rows) : m.1 ∈ leadRows after rows := by
  obtain ⟨s,hs,hm⟩ := List.mem_flatMap.mp hm
  obtain ⟨row,-,rfl⟩ := List.mem_map.mp hm
  exact List.mem_map.mpr ⟨s,hs,rfl⟩

theorem mem_of_mem_moves {m : Nat × Nat} (hm : m ∈ moves after rows) : m.1 ∈ rows ∧ m.2 ∈ rows := by
  have hmem (row : Nat) := (perm_rows after rows).mem_iff (a := row)
  constructor
  · exact (hmem m.1).mp (List.mem_append_left _ (lead_of_mem_moves hm))
  · exact (hmem m.2).mp (List.mem_append_right _ (List.mem_map.mpr ⟨m,hm,rfl⟩))

end

section
variable (after : Nat) {rows : List Nat} (hd : rows.Nodup)
include hd

theorem nodup_leads_moved : (leadRows after rows).Nodup ∧ ((moves after rows).map (·.2)).Nodup ∧
    (leadRows after rows).Disjoint ((moves after rows).map (·.2)) :=
  List.nodup_append'.mp ((perm_rows after rows).nodup_iff.mpr hd)

/-- A lead row absorbs the rows behind it, in order. -/
theorem filter_moves {k lead : Nat} (h : rows[k * (1 + after)]? = some lead) :
    (moves after rows).filter (·.1 == lead) =
      ((rows.drop (k * (1 + after) + 1)).take after).map fun row => (lead,row) := by
  have hs : (lead,(rows.drop (k * (1 + after) + 1)).take after) ∈ strides after rows.length rows := by
    refine List.mem_of_getElem? (i := k) ?_
    rw [getElem?_strides after rows (Nat.le_refl _),h]
    rfl
  have hleads := (nodup_leads_moved after hd).1
  generalize (rows.drop (k * (1 + after) + 1)).take after = behind at hs ⊢
  unfold leadRows at hleads
  unfold moves
  generalize strides after rows.length rows = groups at hs hleads
  induction groups with
  | nil => cases hs
  | cons s groups ih =>
    rw [List.map_cons,List.nodup_cons] at hleads
    rw [List.flatMap_cons,List.filter_append,List.filter_map]
    rcases List.mem_cons.mp hs with rfl | hs
    · have hrest : (groups.flatMap fun s => s.2.map fun row => (s.1,row)).filter (·.1 == lead) = [] := by
        refine List.filter_eq_nil_iff.mpr fun m hm heq => hleads.1 ?_
        obtain ⟨s,hs,hm⟩ := List.mem_flatMap.mp hm
        obtain ⟨row,-,rfl⟩ := List.mem_map.mp hm
        exact List.mem_map.mpr ⟨s,hs,by simpa using heq⟩
      rw [hrest,List.append_nil,List.filter_eq_self.mpr (by simp)]
    · have hne : s.1 ≠ lead := fun heq => hleads.1 (List.mem_map.mpr ⟨_,hs,heq.symm⟩)
      rw [List.filter_eq_nil_iff.mpr (by simpa using fun _ _ => hne),List.map_nil,List.nil_append]
      exact ih hs hleads.2

end

/-! ## What the moves make of a page -/

/-- Rows of a page, none of them another one or inside another one. -/
structure AreApart (page : List Node) (rows : List Nat) : Prop where
  nodup : rows.Nodup
  mem : ∀ row ∈ rows, row ∈ numbersOf page
  apart : ∀ row ∈ rows, ∀ other ∈ rows, row ≠ other →
    other ∉ numbersOf ((childrenOfAny? row page).getD [])

/-- The edit that some moves amount to: the moved rows are out, and every row has the cells of the rows
that it absorbs at its end. -/
def mergeEdit (page : List Node) (ms : List (Nat × Nat)) : Edit where
  gone id := ms.any fun m => m.2 == id
  more id := (ms.filter fun m => m.1 == id).flatMap fun m => cellsOf m.2 page

theorem more_of_not_lead {page : List Node} {ms : List (Nat × Nat)} {id : Nat}
    (h : ∀ m ∈ ms, m.1 ≠ id) : (mergeEdit page ms).more id = [] := by
  unfold mergeEdit
  simp only
  rw [List.filter_eq_nil_iff.mpr fun m hm => by simpa using h m hm]
  rfl

section
variable {page : List Node} {rows : List Nat} (hn : IsNumbered page) (ha : AreApart page rows)
include hn ha

/-- No row is inside a row. -/
theorem AreApart.not_inside {row other : Nat} (h : row ∈ rows) (ho : other ∈ rows) :
    other ∉ numbersOf ((childrenOfAny? row page).getD []) := by
  by_cases heq : row = other
  · subst heq
    cases hc : childrenOfAny? row page with
    | none => nofun
    | some children =>
      obtain ⟨t,rfl,hp⟩ := tagsOf_perm_withoutOf hn hc
      have hnodup := (hp.map Tag.id).nodup_iff.mp hn
      rw [List.map_cons,List.nodup_cons,List.map_append,List.mem_append,not_or] at hnodup
      exact hnodup.1.1
  · exact ha.apart row h other ho heq

theorem AreApart.not_in_cells {row other : Nat} (h : row ∈ rows) (ho : other ∈ rows) :
    other ∉ numbersOf (cellsOf row page) := fun hin =>
  ha.not_inside hn h ho (List.map_subset Tag.id (tagsOf_filter_sublist _ _).subset hin)

theorem AreApart.not_in_more {ms : List (Nat × Nat)} (hms : ∀ m ∈ ms, m.2 ∈ rows) {row : Nat}
    (h : row ∈ rows) (id : Nat) : row ∉ numbersOf ((mergeEdit page ms).more id) := by
  intro hin
  rw [mergeEdit,numbersOf_flatMap] at hin
  obtain ⟨m,hm,hin⟩ := List.mem_flatMap.mp hin
  exact ha.not_in_cells hn (hms m (List.mem_filter.mp hm).1) h hin

/-- A row that was not moved keeps its children and has what it absorbed after them. -/
theorem AreApart.childrenOfAny?_editedOf {ms : List (Nat × Nat)}
    (hms : ∀ m ∈ ms, m.1 ∈ rows ∧ m.2 ∈ rows) {row : Nat} (h : row ∈ rows) (hstays : ∀ m ∈ ms, m.2 ≠ row) :
    childrenOfAny? row (editedOf (mergeEdit page ms) page) =
      (childrenOfAny? row page).map fun own => own ++ (mergeEdit page ms).more row := by
  have hgone {id : Nat} (hid : (mergeEdit page ms).gone id = true) : id ∈ rows ∧ id ≠ row := by
    obtain ⟨m,hm,heq⟩ := List.any_eq_true.mp hid
    obtain rfl : m.2 = id := by simpa using heq
    exact ⟨(hms m hm).2,hstays m hm⟩
  have hnone {id : Nat} (hid : id ∉ rows) : (mergeEdit page ms).Spares id := by
    constructor
    · exact Bool.not_eq_true _ ▸ fun hg => hid (hgone hg).1
    · exact more_of_not_lead fun m hm heq => hid (heq ▸ (hms m hm).1)
  rw [Node.childrenOfAny?_editedOf (ha.not_in_more hn (fun m hm => (hms m hm).2) h) fun d hd hg => ?_]
  · cases hc : childrenOfAny? row page with
    | none => rfl
    | some children =>
      rw [Option.map_some,Option.map_some,editedOf_of_spares]
      refine fun id hid => hnone fun hrow => ha.not_inside hn h hrow ?_
      rwa [hc]
  · refine ⟨(hgone hg).2,?_⟩
    have hin := ha.not_inside hn (hgone hg).1 h
    rwa [(childrenOfAny?_eq_some_iff hn).mpr ⟨d.1,rfl,hd⟩] at hin

/-- The cells of a row that was not moved and has absorbed nothing are its cells on the page. -/
theorem AreApart.cellsOf_editedOf {ms : List (Nat × Nat)} (hms : ∀ m ∈ ms, m.1 ∈ rows ∧ m.2 ∈ rows)
    {row : Nat} (h : row ∈ rows) (hfresh : ∀ m ∈ ms, m.1 ≠ row ∧ m.2 ≠ row) :
    cellsOf row (editedOf (mergeEdit page ms) page) = cellsOf row page := by
  rw [cellsOf,cellsOf,ha.childrenOfAny?_editedOf hn hms h fun m hm => (hfresh m hm).2,
    more_of_not_lead fun m hm => (hfresh m hm).1]
  simp

/-- One more move is one more entry of the edit. -/
theorem AreApart.absorb_editedOf {ms : List (Nat × Nat)} (hms : ∀ m ∈ ms, m.1 ∈ rows ∧ m.2 ∈ rows)
    {lead row : Nat} (hl : lead ∈ rows) (h : row ∈ rows) (hfresh : ∀ m ∈ ms, m.1 ≠ row ∧ m.2 ≠ row) :
    absorb lead (editedOf (mergeEdit page ms) page) row =
      editedOf (mergeEdit page (ms ++ [(lead,row)])) page := by
  have hin {other : Nat} (ho : other ∈ rows) := ha.not_in_more hn (fun m hm => (hms m hm).2) ho
  rw [absorb,ha.cellsOf_editedOf hn hms h hfresh,withoutOf_eq,appendAtOf_eq,editedOf_editedOf,
    editedOf_editedOf]
  refine editedOf_congr fun id _ => ⟨?_,?_⟩
  · simp [Edit.andThen,Edit.removal,Edit.addition,mergeEdit,Bool.beq_comm]
  · have hsame : editedOf ((Edit.removal (· == row)).andThen (.addition lead (cellsOf row page)))
        ((mergeEdit page ms).more id) = (mergeEdit page ms).more id := by
      refine editedOf_of_spares fun i hi => ⟨?_,?_⟩
      · simpa [Edit.andThen,Edit.removal,Edit.addition] using fun heq : i = row => hin h id (heq ▸ hi)
      · simpa [Edit.andThen,Edit.removal,Edit.addition] using fun heq : i = lead => absurd hi (heq ▸ hin hl id)
    rw [Edit.andThen_more,hsame]
    by_cases hid : id = lead
    · subst hid
      simp [mergeEdit,Edit.andThen,Edit.removal,Edit.addition]
    · simp [mergeEdit,Edit.andThen,Edit.removal,Edit.addition,hid,Ne.symm hid]

/-- Moves of rows that are apart are one edit. A row that is moved was not moved before and has absorbed
nothing. -/
theorem AreApart.moveAll_eq (ms : List (Nat × Nat)) (hms : ∀ m ∈ ms, m.1 ∈ rows ∧ m.2 ∈ rows)
    (hmoved : (ms.map (·.2)).Nodup) (hleads : (ms.map (·.1)).Disjoint (ms.map (·.2))) :
    moveAll page ms = editedOf (mergeEdit page ms) page := by
  induction ms using List.reverseRecOn with
  | nil => exact (editedOf_of_spares fun _ _ => ⟨rfl,rfl⟩).symm
  | append_singleton ms m ih =>
    have hold (m' : Nat × Nat) (hm' : m' ∈ ms) : m' ∈ ms ++ [m] := List.mem_append_left _ hm'
    have hlast : m ∈ ms ++ [m] := List.mem_append_right _ List.mem_cons_self
    have hih := ih (fun m' hm' => hms m' (hold m' hm'))
      (hmoved.sublist ((List.sublist_append_left _ _).map _))
      (List.disjoint_of_subset_left (List.map_subset _ (List.subset_append_left _ _))
        (List.disjoint_of_subset_right (List.map_subset _ (List.subset_append_left _ _)) hleads))
    obtain ⟨hl,hr⟩ := hms m hlast
    rw [moveAll_append,hih]
    refine ha.absorb_editedOf hn (fun m' hm' => hms m' (hold m' hm')) hl hr fun m' hm' => ⟨?_,?_⟩
    · intro heq
      exact hleads (List.mem_map.mpr ⟨m',hold m' hm',heq⟩) (List.mem_map.mpr ⟨m,hlast,rfl⟩)
    · rw [List.map_append] at hmoved
      intro heq
      exact (List.nodup_append'.mp hmoved).2.2 (List.mem_map.mpr ⟨m',hm',heq⟩) List.mem_cons_self

/-- Putting rows together is one edit of the page. -/
theorem AreApart.mergeRows_eq (after : Nat) :
    mergeRows after rows page = editedOf (mergeEdit page (moves after rows)) page := by
  obtain ⟨-,hmoved,hdisjoint⟩ := nodup_leads_moved after ha.nodup
  rw [mergeRows_eq_moveAll]
  refine ha.moveAll_eq hn _ (fun m hm => mem_of_mem_moves hm) hmoved fun row hl hr => ?_
  obtain ⟨m,hm,rfl⟩ := List.mem_map.mp hl
  exact hdisjoint (lead_of_mem_moves hm) hr

/-- A lead row keeps its children and has the cells of the rows behind it after them. -/
theorem AreApart.childrenOfAny?_mergeRows {after k lead : Nat}
    (h : rows[k * (1 + after)]? = some lead) :
    childrenOfAny? lead (mergeRows after rows page) = (childrenOfAny? lead page).map fun own =>
      own ++ ((rows.drop (k * (1 + after) + 1)).take after).flatMap fun row => cellsOf row page := by
  obtain ⟨-,-,hdisjoint⟩ := nodup_leads_moved after ha.nodup
  have hlead : lead ∈ leadRows after rows := List.mem_of_getElem? (getElem?_leadRows k ▸ h)
  have hmore : (mergeEdit page (moves after rows)).more lead =
      ((rows.drop (k * (1 + after) + 1)).take after).flatMap fun row => cellsOf row page := by
    unfold mergeEdit
    simp only
    rw [filter_moves after ha.nodup h,List.flatMap_map]
  rw [ha.mergeRows_eq hn,ha.childrenOfAny?_editedOf hn (fun m hm => mem_of_mem_moves hm) (List.mem_of_getElem? h),
    hmore]
  exact fun m hm heq => hdisjoint hlead (List.mem_map.mpr ⟨m,hm,heq⟩)

/-- Every cell of the rows is on the page once, and with everything inside it, after the rows were put
together. -/
theorem AreApart.filter_cell {after row : Nat} (h : row ∈ rows) {t : Tag} {children : List Node}
    (hc : .element t children ∈ cellsOf row page) :
    (partsOf (mergeRows after rows page)).filter (fun d => d.1.id == t.id) = [(t,children)] := by
  have hm : IsNumbered (mergeRows after rows page) := by
    rw [mergeRows_eq_moveAll]
    exact hn.of_subperm (moveAll_facts hn _).1
  have hin : (t,children) ∈ partsOf (mergeRows after rows page) := by
    obtain ⟨s,hs,hrow⟩ := List.mem_flatMap.mp ((flatMap_strides after rows (Nat.le_refl _)).symm ▸ h)
    obtain ⟨k,hk⟩ := List.mem_iff_getElem?.mp hs
    rw [getElem?_strides after rows (Nat.le_refl _)] at hk
    obtain ⟨lead,hlead,rfl⟩ := Option.map_eq_some_iff.mp hk
    have hfound := ha.childrenOfAny?_mergeRows hn hlead
    obtain ⟨own,hown⟩ := Option.isSome_iff_exists.mp
      (childrenOfAny?_isSome_iff.mpr (ha.mem lead (List.mem_of_getElem? hlead)))
    rw [hown,Option.map_some] at hfound
    obtain ⟨u,-,hu⟩ := (childrenOfAny?_eq_some_iff hm).mp hfound
    refine partsOf_trans hu (partsOf_subset ?_)
    rcases List.mem_cons.mp hrow with rfl | hrow
    · rw [cellsOf,hown] at hc
      exact List.mem_append_left _ (List.mem_filter.mp hc).1
    · exact List.mem_append_right _ (List.mem_flatMap.mpr ⟨row,hrow,hc⟩)
  exact filter_number_of_mem hm hin

/-- Putting rows together keeps every cell. The lead rows are those at every `1 + after`-th place; each of
them has its own children and then, in order, the cells of the rows behind it, all with everything inside
them; no cell is lost or doubled; the other rows are gone; and outside the rows nothing changes. -/
theorem merged_rows_keep_every_cell (after : Nat) :
    (∀ k : Nat, (leadRows after rows)[k]? = rows[k * (1 + after)]?) ∧
    (∀ k lead : Nat, rows[k * (1 + after)]? = some lead →
      ∃ own, childrenOfAny? lead page = some own ∧
        childrenOfAny? lead (mergeRows after rows page) = some (own ++
          ((rows.drop (k * (1 + after) + 1)).take after).flatMap fun row => cellsOf row page) ∧
        cellsOf lead (mergeRows after rows page) = cellsOf lead page ++
          ((rows.drop (k * (1 + after) + 1)).take after).flatMap fun row => cellsOf row page) ∧
    (∀ row ∈ rows, ∀ t children, .element t children ∈ cellsOf row page →
      (partsOf (mergeRows after rows page)).filter (fun d => d.1.id == t.id) = [(t,children)]) ∧
    (∀ row ∈ rows, row ∉ leadRows after rows → row ∉ numbersOf (mergeRows after rows page)) ∧
    hollowOf rows.contains (mergeRows after rows page) =
      withoutOf (fun id => rows.contains id && !(leadRows after rows).contains id)
        (hollowOf rows.contains page) := by
  have hmem (row : Nat) := (perm_rows after rows).mem_iff (a := row)
  refine ⟨getElem?_leadRows,fun k lead h => ?_,fun row h t children => ha.filter_cell hn h,
    fun row h hl => ?_,?_⟩
  · obtain ⟨own,hown⟩ := Option.isSome_iff_exists.mp
      (childrenOfAny?_isSome_iff.mpr (ha.mem lead (List.mem_of_getElem? h)))
    have hfound := ha.childrenOfAny?_mergeRows hn h
    rw [hown,Option.map_some] at hfound
    refine ⟨own,hown,hfound,?_⟩
    rw [cellsOf,hfound,Option.getD_some,List.filter_append,cellsOf,hown,Option.getD_some]
    congr 1
    refine List.filter_eq_self.mpr fun n hin => ?_
    obtain ⟨row,-,hin⟩ := List.mem_flatMap.mp hin
    exact (List.mem_filter.mp hin).2
  · rcases List.mem_append.mp ((hmem row).mpr h) with hin | hin
    · exact absurd hin hl
    · obtain ⟨m,hm,rfl⟩ := List.mem_map.mp hin
      rw [mergeRows_eq_moveAll]
      exact (moveAll_facts hn _).2 m hm
  · rw [ha.mergeRows_eq hn,hollowOf_editedOf fun id hid => more_of_not_lead fun m hm heq => ?_]
    · congr 1
      funext id
      rw [Bool.eq_iff_iff]
      simp only [mergeEdit,List.any_eq_true,beq_iff_eq,Bool.and_eq_true,
        Bool.not_eq_true',List.contains_eq_mem,decide_eq_false_iff_not,decide_eq_true_eq]
      obtain ⟨-,-,hdisjoint⟩ := nodup_leads_moved after ha.nodup
      constructor
      · rintro ⟨m,hm,rfl⟩
        exact ⟨(mem_of_mem_moves hm).2,fun hl => hdisjoint hl (List.mem_map.mpr ⟨m,hm,rfl⟩)⟩
      · rintro ⟨hr,hl⟩
        exact List.mem_map.mp ((List.mem_append.mp ((hmem id).mpr hr)).resolve_left hl)
    · rw [List.contains_eq_mem,decide_eq_false_iff_not] at hid
      exact hid (heq ▸ (mem_of_mem_moves hm).1)

end

def threeRows : Document :=
  parse "<table><tr><td>1<td>2</tr><tr><td>3</tr><tr><td>4</tr></table>".toList

set_option maxRecDepth 100000 in
theorem merged_three_rows : IsNumbered threeRows ∧ AreApart threeRows [4,7,9] ∧
    (leadRows 1 [4,7,9])[1]? = some 9 ∧
    cellsOf 4 (mergeRows 1 [4,7,9] threeRows) = cellsOf 4 threeRows ++ cellsOf 7 threeRows ∧
    7 ∉ numbersOf (mergeRows 1 [4,7,9] threeRows) := by
  have hn : IsNumbered threeRows := isNumbered_parse _
  have ha : AreApart threeRows [4,7,9] := ⟨by decide,by decide +kernel,by decide +kernel⟩
  obtain ⟨hleads,hmerged,-,hgone,-⟩ := merged_rows_keep_every_cell hn ha 1
  obtain ⟨own,-,-,hcells⟩ := hmerged 0 4 rfl
  refine ⟨hn,ha,hleads 1,?_,hgone 7 (by decide) (by decide)⟩
  rw [hcells]
  exact congrArg _ (List.append_nil _)

end TrackerHub.Page
