import TrackerHub.Proofs.Page.MergedRows
import TrackerHub.Proofs.Page.SelectorReach

/-! # Siblings on an edited page

What stands before an element on a page, and what becomes of it when rows are joined and taken out. The
elements directly inside another one are those that were there on the page as it was served, in the same
order, less those that are gone; only cells that were moved into a lead row come behind them.
-/
namespace TrackerHub.Page
namespace Node
open Text (Chars)

def tag? : Node → Option Tag
  | text _ _ => none
  | element t _ => some t

/-- The tags of the elements among some nodes, without those inside them. -/
def topTags (nodes : List Node) : List Tag := nodes.filterMap tag?

section
variable {nodes rest : List Node} {e : Edit} {t : Tag} {cs : List Node}

@[simp] theorem topTags_nil : topTags [] = [] := rfl

@[simp] theorem topTags_text {kind : TextKind} {content : Chars} :
    topTags (.text kind content :: rest) = topTags rest := rfl

@[simp] theorem topTags_element : topTags (.element t cs :: rest) = t :: topTags rest := rfl

@[simp] theorem topTags_append (a b : List Node) : topTags (a ++ b) = topTags a ++ topTags b :=
  List.filterMap_append

theorem topTags_sublist (nodes : List Node) : (topTags nodes).Sublist (tagsOf nodes) := by
  induction nodes using inductionOn with
  | nil => exact List.Sublist.slnil
  | text kind content rest ih => exact ih
  | element t children rest ihc ihr =>
    exact (ihr.trans (List.sublist_append_right _ _)).cons_cons t

theorem topTags_editedOf (nodes : List Node) :
    topTags (editedOf e nodes) = (topTags nodes).filter fun t => !e.gone t.id := by
  induction nodes using inductionOn with
  | nil => rfl
  | text kind content rest ih => exact ih
  | element t children rest ihc ihr =>
    cases hgone : e.gone t.id with
    | true => simp [editedOf_gone hgone,hgone,ihr]
    | false => simp [editedOf_kept hgone,hgone,ihr]

/-- An element of an edited page is one of the page before, with what the edit made of its inside, or is
part of what was added. -/
theorem part_of_editedOf {d : Tag × List Node} (h : d ∈ partsOf (editedOf e nodes)) :
    (∃ cs, (d.1,cs) ∈ partsOf nodes ∧ d.2 = editedOf e cs ++ e.more d.1.id) ∨
      ∃ id, d ∈ partsOf (e.more id) := by
  induction nodes using inductionOn with
  | nil => cases h
  | text kind content rest ih => exact ih h
  | element t children rest ihc ihr =>
    have hrest (h : d ∈ partsOf (editedOf e rest)) :
        (∃ cs, (d.1,cs) ∈ partsOf (.element t children :: rest) ∧ d.2 = editedOf e cs ++ e.more d.1.id) ∨
          ∃ id, d ∈ partsOf (e.more id) :=
      (ihr h).imp_left fun ⟨cs,hcs,heq⟩ => ⟨cs,by simp [hcs],heq⟩
    cases hgone : e.gone t.id with
    | true =>
      rw [editedOf_gone hgone] at h
      exact hrest h
    | false =>
      rw [editedOf_kept hgone,partsOf_element,partsOf_append,List.mem_cons,List.mem_append,List.mem_append] at h
      rcases h with rfl | (h | h) | h
      · exact .inl ⟨children,by simp,rfl⟩
      · exact (ihc h).imp_left fun ⟨cs,hcs,heq⟩ => ⟨cs,by simp [hcs],heq⟩
      · exact .inr ⟨t.id,h⟩
      · exact hrest h

theorem tagsOf_sublist_of_part (h : (t,cs) ∈ partsOf nodes) : (tagsOf cs).Sublist (tagsOf nodes) := by
  induction nodes using inductionOn with
  | nil => cases h
  | text kind content rest ih => exact ih h
  | element u children rest ihc ihr =>
    rw [partsOf_element,List.mem_cons,List.mem_append] at h
    rw [tagsOf_element]
    rcases h with heq | h | h
    · obtain ⟨rfl,rfl⟩ := Prod.mk.inj heq
      exact (List.sublist_append_left _ _).cons _
    · exact ((ihc h).trans (List.sublist_append_left _ _)).cons u
    · exact ((ihr h).trans (List.sublist_append_right _ _)).cons u

theorem partsOf_filter_subset (p : Node → Bool) (nodes : List Node) : partsOf (nodes.filter p) ⊆ partsOf nodes := by
  induction nodes with
  | nil => exact List.Subset.refl _
  | cons n rest ih =>
    rw [List.filter_cons]
    have hrest : partsOf (rest.filter p) ⊆ partsOf (n :: rest) := List.subset_append_of_subset_right _ ih
    split
    · exact List.append_subset.mpr ⟨List.subset_append_left _ _,hrest⟩
    · exact hrest

/-- What is in the cells of a row is in the row, but is not the row. -/
theorem part_of_cells {page : List Node} {row : Nat} {d : Tag × List Node} (hn : IsNumbered page)
    (h : d ∈ partsOf (cellsOf row page)) : d ∈ partsOf page ∧ row ∉ numbersOf d.2 := by
  unfold cellsOf at h
  cases hc : childrenOfAny? row page with
  | none =>
    rw [hc] at h
    cases h
  | some children =>
    rw [hc] at h
    have hinside : d ∈ partsOf children := partsOf_filter_subset _ _ h
    obtain ⟨t,-,hrow⟩ := (childrenOfAny?_eq_some_iff hn).mp hc
    refine ⟨partsOf_trans hrow hinside,fun hin => ?_⟩
    obtain ⟨u,rfl,hp⟩ := tagsOf_perm_withoutOf hn hc
    have hnodup := (hp.map Tag.id).nodup_iff.mp hn
    rw [List.map_cons,List.nodup_cons,List.map_append,List.mem_append,not_or] at hnodup
    exact hnodup.1.1 (((tagsOf_sublist_of_part hinside).map Tag.id).subset hin)

end

/-! ## Thinned pages -/

/-- The elements of a page with the nodes inside them, and the page as a whole. -/
def levels (page : List Node) : List (Tag × List Node) := (Place.rootTag,page) :: partsOf page

/-- What joining and taking out rows makes of the page as it was served. Some elements are gone; inside any
other one there are the elements from before that are not gone, and behind them cells that were moved. -/
structure Thins (gone : Nat → Bool) (served page : List Node) : Prop where
  level : ∀ d ∈ levels page, ∃ cs moved, (d.1,cs) ∈ levels served ∧
    topTags d.2 = (topTags cs).filter (fun t => !gone t.id) ++ moved ∧ ∀ t ∈ moved, t.name = "td".toList
  lost : ∀ id, gone id = true → id ∉ numbersOf page
  tags : (tagsOf page).Subperm (tagsOf served)

namespace Thins
variable {gone gone' : Nat → Bool} {served page page' : List Node} {e : Edit}

protected theorem refl (page : List Node) : Thins (fun _ => false) page page where
  level d hd := ⟨d.2,[],hd,by simp,by simp⟩
  lost _ := nofun
  tags := List.Subperm.refl _

protected theorem trans (h : Thins gone served page) (h' : Thins gone' page page') :
    Thins (fun id => gone id || gone' id) served page' where
  level d hd := by
    obtain ⟨cs',moved',hcs',htags',hcells'⟩ := h'.level d hd
    obtain ⟨cs,moved,hcs,htags,hcells⟩ := h.level _ hcs'
    refine ⟨cs,moved.filter (fun t => !gone' t.id) ++ moved',hcs,?_,?_⟩
    · rw [htags',htags,List.filter_append,List.filter_filter,List.append_assoc]
      congr 2
      funext t
      rw [Bool.not_or,Bool.and_comm]
    · intro t ht
      rcases List.mem_append.mp ht with ht | ht
      · exact hcells t (List.mem_filter.mp ht).1
      · exact hcells' t ht
  lost id hid := by
    rcases Bool.or_eq_true_iff.mp hid with hid | hid
    · intro hin
      obtain ⟨t,ht,rfl⟩ := List.mem_map.mp hin
      exact h.lost t.id hid (List.mem_map_of_mem (h'.tags.subset ht))
    · exact h'.lost id hid
  tags := h'.tags.trans h.tags

/-- An edit thins a page out if all that it adds are cells taken from the page, with nothing in them that
it takes out. -/
theorem of_editedOf (hsub : (tagsOf (editedOf e page)).Subperm (tagsOf page))
    (hlost : ∀ id, e.gone id = true → id ∉ numbersOf (editedOf e page))
    (hcells : ∀ id, ∀ t ∈ topTags (e.more id), t.name = "td".toList)
    (hparts : ∀ id, ∀ d ∈ partsOf (e.more id), d ∈ partsOf page ∧ ∀ t ∈ topTags d.2, e.gone t.id = false) :
    Thins e.gone page (editedOf e page) where
  level d hd := by
    rcases List.mem_cons.mp hd with rfl | hd
    · exact ⟨page,[],List.mem_cons_self,by rw [topTags_editedOf,List.append_nil],by simp⟩
    · rcases part_of_editedOf hd with ⟨cs,hcs,heq⟩ | ⟨id,hid⟩
      · refine ⟨cs,topTags (e.more d.1.id),List.mem_cons_of_mem _ hcs,?_,hcells _⟩
        rw [heq,topTags_append,topTags_editedOf]
      · obtain ⟨hin,hkept⟩ := hparts id d hid
        refine ⟨d.2,[],List.mem_cons_of_mem _ hin,?_,by simp⟩
        rw [List.append_nil,List.filter_eq_self.mpr fun t ht => by rw [hkept t ht]; rfl]
  lost := hlost
  tags := hsub

theorem of_withoutOf (gone : Nat → Bool) (page : List Node) : Thins gone page (withoutOf gone page) := by
  have hsub := (tagsOf_withoutOf_sublist gone page).subperm
  have hlost : ∀ id, gone id = true → id ∉ numbersOf (withoutOf gone page) := fun id hid hin => by
    rw [not_gone_of_mem hin] at hid
    cases hid
  rw [withoutOf_eq] at hsub hlost ⊢
  exact of_editedOf hsub hlost (fun _ _ ht => by cases ht) (fun _ _ hd => by cases hd)

/-- A lead row that absorbs another one gets cells from it, and nothing else changes but that the other
one is gone. -/
theorem of_absorb (hn : IsNumbered page) (lead row : Nat) : Thins (· == row) page (absorb lead page row) := by
  -- Absorbing a row is one edit: the row is out, and its cells are at the end of the lead row.
  let e : Edit := (Edit.removal (· == row)).andThen (.addition lead (cellsOf row page))
  have hedit : absorb lead page row = editedOf e page := by
    rw [absorb,appendAtOf_eq,withoutOf_eq,editedOf_editedOf]
  have hgone : e.gone = (· == row) := funext fun id => Bool.or_false _
  have hmore (id : Nat) : e.more id = if id = lead then cellsOf row page else [] := by
    rw [show e.more id = _ from Edit.andThen_more _ _ id]
    rfl
  have hfacts := absorb_facts lead row hn
  rw [hedit] at hfacts ⊢
  rw [← hgone]
  refine of_editedOf hfacts.1 (fun id hid => ?_) (fun id t ht => ?_) fun id d hd => ?_
  · rw [hgone,beq_iff_eq] at hid
    exact hid ▸ hfacts.2
  · rw [hmore] at ht
    split at ht
    · obtain ⟨n,hn,htag⟩ := List.mem_filterMap.mp ht
      obtain ⟨-,hcell⟩ := List.mem_filter.mp hn
      cases n with
      | text kind content => cases htag
      | element u children =>
        cases htag
        exact eq_of_beq hcell
    · cases ht
  · rw [hmore] at hd
    split at hd
    · obtain ⟨hin,hrow⟩ := part_of_cells hn hd
      refine ⟨hin,fun t ht => ?_⟩
      have hne : t.id ≠ row := by
        rintro rfl
        exact hrow (List.mem_map_of_mem ((topTags_sublist d.2).subset ht))
      rw [hgone,beq_eq_false_iff_ne]
      exact hne
    · cases hd

/-- Rows that are moved one after another thin the page out. -/
theorem of_moveAll (hn : IsNumbered page) (ms : List (Nat × Nat)) :
    ∃ gone, Thins gone page (moveAll page ms) := by
  induction ms using List.reverseRecOn with
  | nil => exact ⟨_,.refl page⟩
  | append_singleton ms m ih =>
    obtain ⟨gone,h⟩ := ih
    rw [moveAll_append]
    exact ⟨_,h.trans (of_absorb (hn.of_subperm h.tags) m.1 m.2)⟩

end Thins

theorem nodup_topTags {page : List Node} {d : Tag × List Node} (hn : IsNumbered page) (h : d ∈ levels page) :
    (topTags d.2).Nodup := by
  have htags : (tagsOf page).Nodup := List.Nodup.of_map Tag.id hn
  rcases List.mem_cons.mp h with rfl | h
  · exact htags.sublist (topTags_sublist page)
  · exact htags.sublist ((topTags_sublist d.2).trans (tagsOf_sublist_of_part h))

end Node

/-! ## Places among their siblings -/

namespace Place
open Node
variable {above : List Level} {before nodes : List Node} {p q : Place}

/-- An element with more siblings behind it. -/
def followedBy (more : List Node) (p : Place) : Place := { p with after := p.after ++ more }

theorem among_append (above : List Level) (before xs ys : List Node) : among above before (xs ++ ys) =
    (among above before xs).map (followedBy ys) ++ among above (xs.reverse ++ before) ys := by
  induction xs generalizing before with
  | nil => rfl
  | cons n xs ih => cases n <;> simp [among,ih,followedBy]

theorem map_tag_among (above : List Level) (before nodes : List Node) :
    (among above before nodes).map (·.tag) = topTags nodes := by
  induction nodes generalizing before with
  | nil => rfl
  | cons n nodes ih => cases n <;> simp [among,ih]

theorem length_before_of_mem_among (h : p ∈ among above before nodes) :
    p.before.length < before.length + nodes.length := by
  induction nodes generalizing before with
  | nil => cases h
  | cons n nodes ih =>
    cases n with
    | text kind content =>
      have := ih h
      simp only [List.length_cons] at this ⊢
      omega
    | element tag children =>
      rcases List.mem_cons.mp h with rfl | h
      · simp
      · have := ih h
        simp only [List.length_cons] at this ⊢
        omega

/-- An element stands among the child elements of the one around it, behind its previous siblings. -/
theorem childPlaces_of_parent (h : p.parent? = some q) :
    ∃ after, q.childPlaces = p.previous.reverse ++ p :: after := by
  unfold parent? at h
  cases habove : p.above with
  | nil =>
    rw [habove] at h
    cases h
  | cons l above =>
    rw [habove] at h
    let earlier := (among p.above [] p.before.reverse).map (followedBy (p.node :: p.after))
    have hq : q.childPlaces = earlier ++ p :: among p.above (p.node :: p.before) p.after := by
      cases h
      obtain ⟨tag,children,pre,post,levels⟩ := p
      cases habove
      simp [earlier,childPlaces,among_append,among,node]
    have hbefore : ∀ c ∈ earlier, c.before.length < p.before.length := by
      intro c hc
      obtain ⟨d,hd,rfl⟩ := List.mem_map.mp hc
      simpa [followedBy] using length_before_of_mem_among hd
    have hprevious : p.previous = earlier.reverse := by
      have hparent : p.parent? = some q := by
        unfold parent?
        rw [habove]
        exact h
      rw [previous,hparent]
      dsimp only
      rw [hq,List.takeWhile_append_of_pos fun c hc => decide_eq_true (hbefore c hc),
        List.takeWhile_cons_of_neg (by simp),List.append_nil]
    exact ⟨_,by rw [hq,hprevious,List.reverse_reverse]⟩

/-- The element around one of a page, with the nodes inside it. -/
theorem parent_of_mem_withinAll {l : Level} (h : p ∈ withinAll (l :: above) before nodes) : ∃ q,
    p.parent? = some q ∧
      ((q.tag,q.children) = (l.tag,before.reverse ++ nodes) ∨ (q.tag,q.children) ∈ partsOf nodes) := by
  induction nodes using inductionOn generalizing l above before with
  | nil => cases h
  | text kind content rest ih =>
    obtain ⟨q,hq,hin⟩ := ih h
    exact ⟨q,hq,by simpa using hin⟩
  | element tag children rest ihc ihr =>
    rw [withinAll_element,List.mem_cons,List.mem_append] at h
    rcases h with rfl | h | h
    · exact ⟨_,rfl,.inl rfl⟩
    · obtain ⟨q,hq,hin⟩ := ihc h
      refine ⟨q,hq,.inr ?_⟩
      rcases hin with heq | hin
      · simp [heq]
      · simp [hin]
    · obtain ⟨q,hq,hin⟩ := ihr h
      refine ⟨q,hq,?_⟩
      rcases hin with heq | hin
      · exact .inl (by simpa using heq)
      · exact .inr (by simp [hin])

theorem map_part_withinAll (above : List Level) (before nodes : List Node) :
    (withinAll above before nodes).map (fun p => (p.tag,p.children)) = partsOf nodes := by
  induction nodes using inductionOn generalizing above before with
  | nil => rfl
  | text kind content rest ih => exact ih _ _
  | element tag children rest ihc ihr => simp [ihc,ihr]

theorem map_tag_childPlaces (p : Place) : p.childPlaces.map (·.tag) = topTags p.children :=
  map_tag_among _ _ _

/-- The places of a page: the page as a whole and the places of its elements. -/
def ofLevels (page : List Node) : List Place := ofPage page :: (ofPage page).below

theorem map_part_ofLevels (page : List Node) :
    (ofLevels page).map (fun p => (p.tag,p.children)) = levels page := by
  rw [ofLevels,List.map_cons,levels]
  exact congrArg _ (map_part_withinAll _ _ _)

theorem parent_of_mem_below {page : List Node} (h : p ∈ (ofPage page).below) : ∃ q,
    p.parent? = some q ∧ (q.tag,q.children) ∈ levels page := by
  obtain ⟨q,hq,hin⟩ := parent_of_mem_withinAll h
  exact ⟨q,hq,List.mem_cons.mpr hin⟩

end Place

end TrackerHub.Page
