import Mathlib.Data.List.Nodup
import Mathlib.Data.List.Perm.Subperm
import TrackerHub.Page.Rows

/-! # Edited pages

The elements of a page and what edits make of them. An edit takes some elements out and adds nodes at
the end of others; two edits in turn are one edit, and what an edit does not name stays as it is.
-/
namespace TrackerHub.Page.Node
open Text (Chars)

/-- Nodes are taken apart from the front: a text and the nodes behind it, or an element with the nodes
inside it and the nodes behind it. -/
@[elab_as_elim]
theorem inductionOn {motive : List Node → Prop} (nil : motive [])
    (text : ∀ kind content rest, motive rest → motive (.text kind content :: rest))
    (element : ∀ tag children rest, motive children → motive rest →
      motive (.element tag children :: rest)) : ∀ nodes, motive nodes
  | [] => nil
  | .text kind content :: rest => text kind content rest (inductionOn nil text element rest)
  | .element tag children :: rest =>
    element tag children rest (inductionOn nil text element children)
      (inductionOn nil text element rest)

mutual

/-- The elements of a node with their children, in document order. -/
def parts : Node → List (Tag × List Node)
  | text _ _ => []
  | element t children => (t,children) :: partsOf children

def partsOf : List Node → List (Tag × List Node)
  | [] => []
  | n :: rest => n.parts ++ partsOf rest

end

def numbersOf (nodes : List Node) : List Nat := (tagsOf nodes).map (·.id)

/-- Whether no two elements have the same number. -/
def IsNumbered (nodes : List Node) : Prop := (numbersOf nodes).Nodup

section
variable {kind : TextKind} {content : Chars} {t : Tag} {children rest : List Node}

@[simp] theorem tagsOf_nil : tagsOf [] = [] := rfl

@[simp] theorem tagsOf_text : tagsOf (.text kind content :: rest) = tagsOf rest := rfl

@[simp] theorem tagsOf_element :
    tagsOf (.element t children :: rest) = t :: (tagsOf children ++ tagsOf rest) := rfl

@[simp] theorem tagsOf_append (a b : List Node) : tagsOf (a ++ b) = tagsOf a ++ tagsOf b := by
  induction a with
  | nil => rfl
  | cons n a ih => rw [List.cons_append,tagsOf,tagsOf,ih,List.append_assoc]

@[simp] theorem partsOf_nil : partsOf [] = [] := rfl

@[simp] theorem partsOf_text : partsOf (.text kind content :: rest) = partsOf rest := rfl

@[simp] theorem partsOf_element :
    partsOf (.element t children :: rest) = (t,children) :: (partsOf children ++ partsOf rest) := rfl

@[simp] theorem partsOf_append (a b : List Node) : partsOf (a ++ b) = partsOf a ++ partsOf b := by
  induction a with
  | nil => rfl
  | cons n a ih => rw [List.cons_append,partsOf,partsOf,ih,List.append_assoc]

@[simp] theorem numbersOf_nil : numbersOf [] = [] := rfl

@[simp] theorem numbersOf_text : numbersOf (.text kind content :: rest) = numbersOf rest := rfl

@[simp] theorem numbersOf_element :
    numbersOf (.element t children :: rest) = t.id :: (numbersOf children ++ numbersOf rest) := by
  simp [numbersOf]

@[simp] theorem numbersOf_append (a b : List Node) :
    numbersOf (a ++ b) = numbersOf a ++ numbersOf b := by
  simp [numbersOf]

theorem numbersOf_flatMap {α : Type} (f : α → List Node) (l : List α) :
    numbersOf (l.flatMap f) = l.flatMap fun a => numbersOf (f a) := by
  induction l with
  | nil => rfl
  | cons a l ih => rw [List.flatMap_cons,List.flatMap_cons,numbersOf_append,ih]

theorem tagsOf_eq (nodes : List Node) : tagsOf nodes = (partsOf nodes).map (·.1) := by
  induction nodes using inductionOn with
  | nil => rfl
  | text kind content rest ih => simpa using ih
  | element t children rest ihc ihr => simp [ihc,ihr]

theorem childrenOfAny?_element (id : Nat) : childrenOfAny? id (.element t children :: rest) =
    if t.id = id then some children else (childrenOfAny? id children).or (childrenOfAny? id rest) := by
  rw [childrenOfAny?,childrenOf?]
  split <;> simp

/-- The children of a number are those of the first element that has it. -/
theorem childrenOfAny?_eq (id : Nat) (nodes : List Node) :
    childrenOfAny? id nodes = ((partsOf nodes).find? fun e => e.1.id == id).map (·.2) := by
  induction nodes using inductionOn with
  | nil => rfl
  | text kind content rest ih => simpa [childrenOfAny?,childrenOf?] using ih
  | element t children rest ihc ihr =>
    rw [childrenOfAny?_element,partsOf_element,List.find?_cons]
    by_cases h : t.id = id
    · simp [h]
    · rw [if_neg h,beq_eq_false_iff_ne.mpr h,List.find?_append,ihc,ihr,Option.map_or]

theorem find?_number_of_mem {l : List (Tag × List Node)} (h : (l.map (·.1.id)).Nodup)
    {e : Tag × List Node} (he : e ∈ l) : l.find? (fun d => d.1.id == e.1.id) = some e := by
  induction l with
  | nil => cases he
  | cons d l ih =>
    rw [List.map_cons,List.nodup_cons] at h
    rcases List.mem_cons.mp he with rfl | he
    · simp
    · have hne : d.1.id ≠ e.1.id := fun heq => h.1 (heq ▸ List.mem_map.mpr ⟨e,he,rfl⟩)
      rw [List.find?_cons,beq_eq_false_iff_ne.mpr hne]
      exact ih h.2 he

theorem isNumbered_iff (nodes : List Node) :
    IsNumbered nodes ↔ ((partsOf nodes).map (·.1.id)).Nodup := by
  rw [IsNumbered,numbersOf,tagsOf_eq,List.map_map]
  rfl

/-- In a numbered page, the children of a number are those of its element. -/
theorem childrenOfAny?_eq_some_iff {id : Nat} {nodes children : List Node} (h : IsNumbered nodes) :
    childrenOfAny? id nodes = some children ↔ ∃ t, t.id = id ∧ (t,children) ∈ partsOf nodes := by
  rw [childrenOfAny?_eq]
  constructor
  · intro hc
    obtain ⟨⟨t,_⟩,hf,rfl⟩ := Option.map_eq_some_iff.mp hc
    exact ⟨t,by simpa using List.find?_some hf,List.mem_of_find?_eq_some hf⟩
  · rintro ⟨t,rfl,ht⟩
    rw [find?_number_of_mem ((isNumbered_iff nodes).mp h) ht]
    rfl

/-- A numbered page has one element of each of its numbers. -/
theorem filter_number_of_mem {nodes : List Node} (h : IsNumbered nodes) {e : Tag × List Node}
    (he : e ∈ partsOf nodes) : (partsOf nodes).filter (fun d => d.1.id == e.1.id) = [e] := by
  have hn := (isNumbered_iff nodes).mp h
  generalize partsOf nodes = l at he hn
  induction l with
  | nil => cases he
  | cons d l ih =>
    rw [List.map_cons,List.nodup_cons] at hn
    rcases List.mem_cons.mp he with rfl | he
    · rw [List.filter_cons_of_pos (by simp),List.filter_eq_nil_iff.mpr]
      intro d hd heq
      exact hn.1 (List.mem_map.mpr ⟨d,hd,by simpa using heq⟩)
    · have hne : d.1.id ≠ e.1.id := fun heq => hn.1 (heq ▸ List.mem_map.mpr ⟨e,he,rfl⟩)
      rw [List.filter_cons_of_neg (by simpa using hne)]
      exact ih he hn.2

theorem childrenOfAny?_isSome_iff {id : Nat} {nodes : List Node} :
    (childrenOfAny? id nodes).isSome ↔ id ∈ numbersOf nodes := by
  rw [childrenOfAny?_eq,Option.isSome_map,List.find?_isSome,numbersOf,tagsOf_eq]
  simp only [List.map_map,List.mem_map,beq_iff_eq,Function.comp]

theorem partsOf_subset {t : Tag} {children : List Node} {nodes : List Node}
    (h : .element t children ∈ nodes) : (t,children) ∈ partsOf nodes := by
  induction nodes using inductionOn with
  | nil => cases h
  | text kind content rest ih => exact ih (by simpa using h)
  | element u inner rest _ ih =>
    rcases List.mem_cons.mp h with heq | h
    · cases heq
      exact List.mem_cons_self
    · exact List.mem_cons_of_mem _ (List.mem_append_right _ (ih h))

/-- What is inside an element of a page is inside the page. -/
theorem partsOf_trans {nodes : List Node} {e d : Tag × List Node} (he : e ∈ partsOf nodes)
    (hd : d ∈ partsOf e.2) : d ∈ partsOf nodes := by
  induction nodes using inductionOn with
  | nil => cases he
  | text kind content rest ih => exact ih he
  | element u inner rest ihc ihr =>
    rw [partsOf_element] at he ⊢
    rcases List.mem_cons.mp he with rfl | he
    · exact List.mem_cons_of_mem _ (List.mem_append_left _ hd)
    · rcases List.mem_append.mp he with he | he
      · exact List.mem_cons_of_mem _ (List.mem_append_left _ (ihc he))
      · exact List.mem_cons_of_mem _ (List.mem_append_right _ (ihr he))

end

/-- A change of a page: the elements whose number satisfies `gone` are taken out, and the other elements
have `more` at their end. -/
structure Edit where
  gone : Nat → Bool
  more : Nat → List Node

namespace Edit

/-- Takes the elements out whose number satisfies `gone`. -/
def removal (gone : Nat → Bool) : Edit where
  gone
  more _ := []

/-- Adds nodes at the end of the element with this number. -/
def addition (id : Nat) (more : List Node) : Edit where
  gone _ := false
  more i := if i = id then more else []

/-- Whether an edit leaves an element as it is, what is inside it apart. -/
def Spares (e : Edit) (id : Nat) : Prop := e.gone id = false ∧ e.more id = []

end Edit

mutual

/-- A node after an edit. What the edit adds is added as it is. -/
def edited (e : Edit) : Node → List Node
  | text kind content => [text kind content]
  | element t children =>
    if e.gone t.id then [] else [element t (editedOf e children ++ e.more t.id)]

def editedOf (e : Edit) : List Node → List Node
  | [] => []
  | n :: rest => n.edited e ++ editedOf e rest

end

mutual

/-- A node with nothing inside the elements whose number satisfies `p`. -/
def hollow (p : Nat → Bool) : Node → Node
  | text kind content => text kind content
  | element t children => element t (if p t.id then [] else hollowOf p children)

def hollowOf (p : Nat → Bool) : List Node → List Node
  | [] => []
  | n :: rest => n.hollow p :: hollowOf p rest

end

/-- One edit after another. What the first one adds is edited by the second. -/
def Edit.andThen (e f : Edit) : Edit where
  gone id := e.gone id || f.gone id
  more id := editedOf f (e.more id) ++ f.more id

theorem Edit.andThen_more (e f : Edit) (id : Nat) :
    (e.andThen f).more id = editedOf f (e.more id) ++ f.more id := rfl

section
variable {e f : Edit} {kind : TextKind} {content : Chars} {t : Tag} {children nodes rest : List Node}

@[simp] theorem editedOf_nil : editedOf e [] = [] := rfl

@[simp] theorem editedOf_text :
    editedOf e (.text kind content :: rest) = .text kind content :: editedOf e rest := rfl

@[simp] theorem hollowOf_text {p : Nat → Bool} :
    hollowOf p (.text kind content :: rest) = .text kind content :: hollowOf p rest := rfl

@[simp] theorem hollowOf_element {p : Nat → Bool} : hollowOf p (.element t children :: rest) =
    .element t (if p t.id then [] else hollowOf p children) :: hollowOf p rest := by
  rw [hollowOf,hollow]

theorem editedOf_gone (h : e.gone t.id = true) :
    editedOf e (.element t children :: rest) = editedOf e rest := by
  rw [editedOf,edited,if_pos h,List.nil_append]

theorem editedOf_kept (h : e.gone t.id = false) : editedOf e (.element t children :: rest) =
    .element t (editedOf e children ++ e.more t.id) :: editedOf e rest := by
  rw [editedOf,edited,if_neg (by simp [h]),List.singleton_append]

@[simp] theorem editedOf_append (a b : List Node) :
    editedOf e (a ++ b) = editedOf e a ++ editedOf e b := by
  induction a with
  | nil => rfl
  | cons n a ih => rw [List.cons_append,editedOf,editedOf,ih,List.append_assoc]

/-- Two edits in turn are one edit. -/
theorem editedOf_editedOf (nodes : List Node) :
    editedOf f (editedOf e nodes) = editedOf (e.andThen f) nodes := by
  induction nodes using inductionOn with
  | nil => rfl
  | text kind content rest ih => rw [editedOf_text,editedOf_text,editedOf_text,ih]
  | element t children rest ihc ihr =>
    cases he : e.gone t.id with
    | true => rw [editedOf_gone he,editedOf_gone (by simp [Edit.andThen,he]),ihr]
    | false =>
      rw [editedOf_kept he]
      cases hf : f.gone t.id with
      | true => rw [editedOf_gone hf,editedOf_gone (by simp [Edit.andThen,hf]),ihr]
      | false =>
        rw [editedOf_kept hf,editedOf_kept (by simp [Edit.andThen,he,hf]),editedOf_append,ihc,ihr,
          List.append_assoc]
        rfl

/-- Edits that agree on the elements of a page do the same to it. -/
theorem editedOf_congr (h : ∀ id ∈ numbersOf nodes, e.gone id = f.gone id ∧ e.more id = f.more id) :
    editedOf e nodes = editedOf f nodes := by
  induction nodes using inductionOn with
  | nil => rfl
  | text kind content rest ih => rw [editedOf_text,editedOf_text,ih h]
  | element t children rest ihc ihr =>
    rw [numbersOf_element] at h
    obtain ⟨⟨hg,hm⟩,h⟩ := List.forall_mem_cons.mp h
    obtain ⟨hc,hr⟩ := List.forall_mem_append.mp h
    cases he : e.gone t.id with
    | true => rw [editedOf_gone he,editedOf_gone (hg ▸ he),ihr hr]
    | false => rw [editedOf_kept he,editedOf_kept (hg ▸ he),ihc hc,ihr hr,hm]

/-- An edit that names no element of a page leaves the page as it is. -/
theorem editedOf_of_spares (h : ∀ id ∈ numbersOf nodes, e.Spares id) : editedOf e nodes = nodes := by
  induction nodes using inductionOn with
  | nil => rfl
  | text kind content rest ih => rw [editedOf_text,ih h]
  | element t children rest ihc ihr =>
    rw [numbersOf_element] at h
    obtain ⟨⟨hg,hm⟩,h⟩ := List.forall_mem_cons.mp h
    obtain ⟨hc,hr⟩ := List.forall_mem_append.mp h
    rw [editedOf_kept hg,ihc hc,ihr hr,hm,List.append_nil]

theorem withoutOf_gone {gone : Nat → Bool} (h : gone t.id = true) :
    withoutOf gone (.element t children :: rest) = withoutOf gone rest := by
  rw [withoutOf,without,if_pos h,List.nil_append]

theorem withoutOf_kept {gone : Nat → Bool} (h : gone t.id = false) :
    withoutOf gone (.element t children :: rest) =
      .element t (withoutOf gone children) :: withoutOf gone rest := by
  rw [withoutOf,without,if_neg (by simp [h]),List.singleton_append]

theorem withoutOf_eq (gone : Nat → Bool) (nodes : List Node) :
    withoutOf gone nodes = editedOf (.removal gone) nodes := by
  induction nodes using inductionOn with
  | nil => rfl
  | text kind content rest ih => rw [editedOf_text,← ih]; rfl
  | element t children rest ihc ihr =>
    cases h : gone t.id with
    | true => rw [withoutOf_gone h,editedOf_gone h,ihr]
    | false =>
      rw [withoutOf_kept h,editedOf_kept h,ihr,ihc]
      simp [Edit.removal]

theorem appendAtOf_eq (id : Nat) (more nodes : List Node) :
    appendAtOf id more nodes = editedOf (.addition id more) nodes := by
  induction nodes using inductionOn with
  | nil => rfl
  | text kind content rest ih => rw [editedOf_text,← ih]; rfl
  | element t children rest ihc ihr =>
    rw [appendAtOf,appendAt,editedOf_kept rfl,← ihc,← ihr]
    by_cases h : t.id = id <;> simp [Edit.addition,h]

/-- What an edit makes of a page outside some elements: if it adds nothing elsewhere, it only takes
elements out. -/
theorem hollowOf_editedOf {p : Nat → Bool} (hm : ∀ id, p id = false → e.more id = []) :
    hollowOf p (editedOf e nodes) = withoutOf e.gone (hollowOf p nodes) := by
  induction nodes using inductionOn with
  | nil => rfl
  | text kind content rest ih => rw [editedOf_text,hollowOf_text,hollowOf_text,ih]; rfl
  | element t children rest ihc ihr =>
    rw [hollowOf_element]
    cases hg : e.gone t.id with
    | true => rw [editedOf_gone hg,withoutOf_gone hg,ihr]
    | false =>
      rw [editedOf_kept hg,hollowOf_element,withoutOf_kept hg,ihr]
      cases hp : p t.id with
      | true => rfl
      | false => simp [hm t.id hp,ihc]

/-- The children of an element after an edit: what is left of them, and what the edit adds. The element is
still there if it is in nothing that was taken out, and it is the first of its number if what the edit
adds elsewhere does not hold the number. -/
theorem childrenOfAny?_editedOf {id : Nat} (hm : ∀ i, id ∉ numbersOf (e.more i))
    (hg : ∀ d ∈ partsOf nodes, e.gone d.1.id = true → d.1.id ≠ id ∧ id ∉ numbersOf d.2) :
    childrenOfAny? id (editedOf e nodes) =
      (childrenOfAny? id nodes).map fun children => editedOf e children ++ e.more id := by
  induction nodes using inductionOn with
  | nil => rfl
  | text kind content rest ih => exact ih hg
  | element t children rest ihc ihr =>
    rw [partsOf_element] at hg
    obtain ⟨ht,hg⟩ := List.forall_mem_cons.mp hg
    obtain ⟨hc,hr⟩ := List.forall_mem_append.mp hg
    have absent {nodes : List Node} (h : id ∉ numbersOf nodes) : childrenOfAny? id nodes = none := by
      rwa [← childrenOfAny?_isSome_iff,Option.not_isSome_iff_eq_none] at h
    rw [childrenOfAny?_element]
    cases h : e.gone t.id with
    | true =>
      obtain ⟨hne,hin⟩ := ht h
      rw [editedOf_gone h,if_neg hne,ihr hr,absent hin,Option.none_or]
    | false =>
      rw [editedOf_kept h,childrenOfAny?_element]
      by_cases hid : t.id = id
      · rw [if_pos hid,if_pos hid,hid]
        rfl
      · have happend (a b : List Node) :
            childrenOfAny? id (a ++ b) = (childrenOfAny? id a).or (childrenOfAny? id b) := by
          simp only [childrenOfAny?_eq,partsOf_append,List.find?_append,Option.map_or]
        rw [if_neg hid,if_neg hid,happend,absent (hm t.id),Option.or_none,ihc hc,ihr hr,Option.map_or]

/-- Whatever is left after elements were taken out was there before, in the same order. -/
theorem tagsOf_withoutOf_sublist (gone : Nat → Bool) (nodes : List Node) :
    (tagsOf (withoutOf gone nodes)).Sublist (tagsOf nodes) := by
  induction nodes using inductionOn with
  | nil => exact List.Sublist.refl []
  | text kind content rest ih => exact ih
  | element t children rest ihc ihr =>
    cases h : gone t.id with
    | true =>
      rw [withoutOf_gone h]
      exact (ihr.trans (List.sublist_append_right _ _)).cons t
    | false =>
      rw [withoutOf_kept h]
      exact (ihc.append ihr).cons_cons t

theorem not_gone_of_mem {gone : Nat → Bool} {nodes : List Node} {id : Nat}
    (h : id ∈ numbersOf (withoutOf gone nodes)) : gone id = false := by
  induction nodes using inductionOn with
  | nil => cases h
  | text kind content rest ih => exact ih h
  | element t children rest ihc ihr =>
    cases hg : gone t.id with
    | true =>
      rw [withoutOf_gone hg] at h
      exact ihr h
    | false =>
      rw [withoutOf_kept hg,numbersOf_element,List.mem_cons,List.mem_append] at h
      rcases h with rfl | h | h
      · exact hg
      · exact ihc h
      · exact ihr h

theorem withoutOf_of_not_mem {id : Nat} (h : id ∉ numbersOf nodes) :
    withoutOf (· == id) nodes = nodes := by
  rw [withoutOf_eq]
  exact editedOf_of_spares fun i hi => ⟨beq_eq_false_iff_ne.mpr fun heq => h (heq ▸ hi),rfl⟩

theorem appendAtOf_of_not_mem {id : Nat} {more : List Node} (h : id ∉ numbersOf nodes) :
    appendAtOf id more nodes = nodes := by
  rw [appendAtOf_eq]
  exact editedOf_of_spares fun i hi => ⟨rfl,if_neg (by rintro rfl; exact h hi)⟩

theorem isNumbered_element : IsNumbered (.element t children :: rest) ↔
    t.id ∉ numbersOf children ∧ t.id ∉ numbersOf rest ∧ IsNumbered children ∧ IsNumbered rest ∧
      (numbersOf children).Disjoint (numbersOf rest) := by
  simp only [IsNumbered,numbersOf_element,List.nodup_cons,List.mem_append,not_or,List.nodup_append']
  tauto

/-- An element that is taken out takes what is inside it along. -/
theorem tagsOf_perm_withoutOf {id : Nat} (h : IsNumbered nodes)
    (hc : childrenOfAny? id nodes = some children) :
    ∃ t : Tag, t.id = id ∧
      (tagsOf nodes).Perm (t :: (tagsOf children ++ tagsOf (withoutOf (· == id) nodes))) := by
  induction nodes using inductionOn with
  | nil => cases hc
  | text kind content rest ih => exact ih h hc
  | element t inner rest ihc ihr =>
    obtain ⟨htc,htr,hnc,hnr,hd⟩ := isNumbered_element.mp h
    rw [childrenOfAny?_element] at hc
    by_cases hid : t.id = id
    · subst hid
      rw [if_pos rfl] at hc
      cases hc
      refine ⟨t,rfl,?_⟩
      rw [withoutOf_gone (by simp),withoutOf_of_not_mem htr]
      rfl
    · rw [if_neg hid] at hc
      -- The element stands inside this one or behind it, and not in both places.
      rw [withoutOf_kept (by simpa using hid),tagsOf_element,tagsOf_element]
      cases hi : childrenOfAny? id inner with
      | some found =>
        rw [hi,Option.some_or] at hc
        cases hc
        obtain ⟨u,hu,hp⟩ := ihc hnc hi
        have hnot : id ∉ numbersOf rest := fun hr =>
          hd (childrenOfAny?_isSome_iff.mp (by rw [hi]; rfl)) hr
        refine ⟨u,hu,List.perm_iff_count.mpr fun x => ?_⟩
        have hx := hp.count_eq x
        rw [withoutOf_of_not_mem hnot]
        simp only [List.count_cons,List.count_append] at hx ⊢
        omega
      | none =>
        rw [hi,Option.none_or] at hc
        obtain ⟨u,hu,hp⟩ := ihr hnr hc
        have hnot : id ∉ numbersOf inner := by
          rw [← childrenOfAny?_isSome_iff,hi]
          simp
        refine ⟨u,hu,List.perm_iff_count.mpr fun x => ?_⟩
        have hx := hp.count_eq x
        rw [withoutOf_of_not_mem hnot]
        simp only [List.count_cons,List.count_append] at hx ⊢
        omega

/-- What is added at the end of an element is added once. -/
theorem tagsOf_perm_appendAtOf {id : Nat} (more : List Node) (h : IsNumbered nodes)
    (hid : id ∈ numbersOf nodes) :
    (tagsOf (appendAtOf id more nodes)).Perm (tagsOf nodes ++ tagsOf more) := by
  induction nodes using inductionOn with
  | nil => cases hid
  | text kind content rest ih => exact ih h hid
  | element t inner rest ihc ihr =>
    obtain ⟨htc,htr,hnc,hnr,hd⟩ := isNumbered_element.mp h
    rw [appendAtOf_eq,editedOf_kept rfl,← appendAtOf_eq,← appendAtOf_eq,tagsOf_element,tagsOf_element,
      tagsOf_append]
    refine List.perm_iff_count.mpr fun x => ?_
    by_cases ht : t.id = id
    · subst ht
      rw [appendAtOf_of_not_mem htc,appendAtOf_of_not_mem htr]
      simp only [Edit.addition,if_true,List.count_cons,List.count_append]
      omega
    · rw [numbersOf_element,List.mem_cons,List.mem_append] at hid
      simp only [Edit.addition,ht,if_false,tagsOf_nil,List.append_nil]
      rcases hid with rfl | hi | hr
      · exact absurd rfl ht
      · have hx := (ihc hnc hi).count_eq x
        rw [appendAtOf_of_not_mem fun hr => hd hi hr]
        simp only [List.count_cons,List.count_append] at hx ⊢
        omega
      · have hx := (ihr hnr hr).count_eq x
        rw [appendAtOf_of_not_mem fun hi => hd hi hr]
        simp only [List.count_cons,List.count_append] at hx ⊢
        omega

theorem tagsOf_filter_sublist (p : Node → Bool) (nodes : List Node) :
    (tagsOf (nodes.filter p)).Sublist (tagsOf nodes) := by
  induction nodes with
  | nil => exact List.Sublist.refl []
  | cons n rest ih =>
    rw [tagsOf]
    cases h : p n with
    | true =>
      rw [List.filter_cons_of_pos h,tagsOf]
      exact (List.Sublist.refl _).append ih
    | false =>
      rw [List.filter_cons_of_neg (by simp [h])]
      exact ih.trans (List.sublist_append_right _ _)

theorem IsNumbered.of_subperm {nodes left : List Node} (hn : IsNumbered nodes)
    (h : (tagsOf left).Subperm (tagsOf nodes)) : IsNumbered left := by
  obtain ⟨tags,hp,hs⟩ := h
  exact (hp.map _).nodup_iff.mp ((hs.map _).nodup hn)

end

end TrackerHub.Page.Node
