import TrackerHub.Files
import TrackerHub.Proofs.NamedEntries
import TrackerHub.Proofs.Text.SplitText

/-! # Places of files

The names that a directory lists lead to files: below the path of the directory, each of them is read.
-/
namespace TrackerHub
open TrackerHub.Text

namespace PathText

/-- A segment of a path that counts. -/
structure IsSegment (s : Chars) : Prop where
  ne_nil : s ≠ []
  no_slash : '/' ∉ s
  ne_dot : s ≠ ['.']

theorem isSegment_of_mem {path s : Chars} (h : s ∈ segments path) : IsSegment s := by
  obtain ⟨hpiece,hcounts⟩ := List.mem_filter.mp h
  simp only [Bool.and_eq_true,Bool.not_eq_true',List.isEmpty_eq_false_iff,bne_iff_ne] at hcounts
  exact ⟨hcounts.1,not_mem_of_mem_splitOn hpiece,hcounts.2⟩

theorem segments_join {segs : List Chars} (h : ∀ s ∈ segs, IsSegment s) :
    segments (join ['/'] segs) = segs := by
  cases segs with
  | nil => rfl
  | cons s rest =>
    rw [segments,splitOn_join (List.cons_ne_nil s rest) fun p hp => (h p hp).no_slash,List.filter_eq_self]
    intro p hp
    simp [(h p hp).ne_nil,(h p hp).ne_dot]

theorem segments_singleton {s : Chars} (h : IsSegment s) : segments s = [s] := by
  have hsegs : ∀ p ∈ [s], IsSegment p := by simpa using h
  exact segments_join hsegs

theorem segments_slashes {slashes : Chars} (h : ∀ c ∈ slashes, c = '/') (path : Chars) :
    segments (slashes ++ path) = segments path := by
  induction slashes with
  | nil => rfl
  | cons c slashes ih =>
    obtain ⟨rfl,hrest⟩ := List.forall_mem_cons.mp h
    rw [← ih hrest,List.cons_append,segments,splitOn,if_pos (beq_self_eq_true '/')]
    rfl

theorem eq_slash_of_mem_root {path : Chars} : ∀ c ∈ root path, c = '/' := by
  unfold root
  split <;> simp

theorem root_append_join {path : Chars} {segs : List Chars} (h : ∀ s ∈ segs, IsSegment s) :
    root (root path ++ join ['/'] segs) = root path := by
  have hjoin : (join ['/'] segs).takeWhile (· == '/') = [] := by
    cases segs with
    | nil => rfl
    | cons s rest =>
      obtain ⟨c,s,rfl⟩ := List.exists_cons_of_ne_nil (h s List.mem_cons_self).ne_nil
      have hc : c ≠ '/' := fun hc => (h _ List.mem_cons_self).no_slash (hc ▸ List.mem_cons_self)
      cases rest <;> simp [join,hc]
  have hroot : (root path ++ join ['/'] segs).takeWhile (· == '/') = root path := by
    rw [List.takeWhile_append_of_pos fun c hc => beq_iff_eq.mpr (eq_slash_of_mem_root c hc),hjoin,
      List.append_nil]
  -- A root is its own root: two slashes stay two.
  have hcases : root path = [] ∨ root path = ['/','/'] ∨ root path = ['/'] := by
    unfold root
    split <;> simp
  rw [root,hroot]
  rcases hcases with hcase | hcase | hcase <;> rw [hcase] <;> rfl

theorem below_eq (base : Chars) {s : Chars} (h : IsSegment s) :
    below base s = root base ++ join ['/'] (segments base ++ [s]) := by
  have hhead : (s.head? == some '/') = false := by
    obtain ⟨c,rest,rfl⟩ := List.exists_cons_of_ne_nil h.ne_nil
    simpa using fun hc : c = '/' => h.no_slash (hc ▸ List.mem_cons_self)
  have hne : join ['/'] (segments base ++ [s]) ≠ [] := by
    cases hbase : segments base with
    | nil => exact h.ne_nil
    | cons p rest =>
      exact Text.join_ne_nil ['/'] (isSegment_of_mem (hbase ▸ List.mem_cons_self)).ne_nil (rest ++ [s])
  rw [below,hhead,if_neg Bool.false_ne_true,segments_singleton h]
  simp [hne]

section
variable {base s : Chars}

theorem isSegment_of_mem_append (h : IsSegment s) : ∀ p ∈ segments base ++ [s], IsSegment p := by
  intro p hp
  rcases List.mem_append.mp hp with hp | hp
  · exact isSegment_of_mem hp
  · exact List.mem_singleton.mp hp ▸ h

theorem segments_below (h : IsSegment s) : segments (below base s) = segments base ++ [s] := by
  rw [below_eq base h,segments_slashes eq_slash_of_mem_root,segments_join (isSegment_of_mem_append h)]

theorem root_below (h : IsSegment s) : root (below base s) = root base := by
  rw [below_eq base h,root_append_join (isSegment_of_mem_append h)]

/-- A path below another is in normal form. -/
theorem clean_below (h : IsSegment s) : clean (below base s) = below base s := by
  have hne : below base s ≠ [] := by
    intro hnil
    have hsegments : segments (below base s) = segments base ++ [s] := segments_below h
    rw [hnil] at hsegments
    simp [segments,splitOn] at hsegments
  rw [clean,root_below h,segments_below h,← below_eq base h]
  simp [hne]

end

end PathText

namespace Files
open PathText

theorem isSegment_of_mem_walk {path s : Chars} (h : s ∈ walk path) : IsSegment s ∧ s ≠ ['.','.'] := by
  have hwalk (segs done : List Chars) (hsegs : ∀ s ∈ segs, IsSegment s)
      (hdone : ∀ s ∈ done, IsSegment s ∧ s ≠ ['.','.']) :
      ∀ s ∈ segs.foldl (fun done s => if s == ['.','.'] then done.dropLast else done ++ [s]) done,
        IsSegment s ∧ s ≠ ['.','.'] := by
    induction segs generalizing done with
    | nil => exact hdone
    | cons p segs ih =>
      obtain ⟨hp,hsegs⟩ := List.forall_mem_cons.mp hsegs
      refine ih (if p == ['.','.'] then done.dropLast else done ++ [p]) hsegs fun s hs => ?_
      split at hs
      · exact hdone s (List.dropLast_subset done hs)
      next hback =>
        rcases List.mem_append.mp hs with hs | hs
        · exact hdone s hs
        · obtain rfl := List.mem_singleton.mp hs
          exact ⟨hp,fun heq => hback (beq_iff_eq.mpr heq)⟩
  exact hwalk _ [] (fun s => isSegment_of_mem) (by simp) s h

variable {f : Files}

/-- A path below that of a directory leads one step on. -/
theorem resolve_below {dir : String} {place : Bool × List Chars} (hdir : f.resolve dir = .ok place)
    {name : Chars} (hname : IsSegment name) (hstep : name ≠ ['.','.']) :
    f.resolve (String.ofList (below dir.toList name)) = .ok (place.1,place.2 ++ [name]) := by
  unfold resolve at hdir ⊢
  dsimp only at hdir ⊢
  rw [String.toList_ofList,root_below hname,segments_below hname,List.foldlM_append]
  cases hdone : (segments dir.toList).foldlM (f.step (root dir.toList).isEmpty) [] with
  | error fault =>
    rw [hdone] at hdir
    cases hdir
  | ok done =>
    rw [hdone] at hdir
    cases hdir
    have hlast : f.step (root dir.toList).isEmpty done name = .ok (done ++ [name]) := by
      rw [step,if_pos (bne_iff_ne.mpr hstep)]
    simp only [bind,Except.bind,List.foldlM_cons,List.foldlM_nil,hlast]
    rfl

theorem mem_filesIn {dir : String} {name : Chars} : name ∈ f.filesIn dir ↔
    ∃ place e, f.resolve dir = .ok place ∧ e ∈ f.entries ∧ placeOf e.1 = (place.1,place.2 ++ [name]) := by
  unfold filesIn
  cases f.resolve dir with
  | error fault => simp
  | ok place =>
    have hlast (there : List Chars) :
        (there.dropLast = place.2 ∧ there ≠ []) ∧ there.getLast? = some name ↔ there = place.2 ++ [name] := by
      constructor
      · rintro ⟨⟨hinit,hne⟩,hlast⟩
        rw [← hinit,List.dropLast_append_getLast? name hlast]
      · rintro rfl
        simp
    simp only [List.mem_mergeSort,List.mem_filterMap,Except.ok.injEq,exists_and_left,exists_eq_left']
    refine exists_congr fun e => and_congr_right fun _ => ?_
    rw [Prod.ext_iff,← hlast]
    simp only [Option.ite_none_right_eq_some,Bool.and_eq_true,beq_iff_eq,Bool.not_eq_true',
      List.isEmpty_eq_false_iff]
    rw [and_comm (b := (placeOf e.1).1 = place.1),and_assoc]

theorem pairwise_filesIn (f : Files) (dir : String) :
    (f.filesIn dir).Pairwise fun a b => String.ofList a ≤ String.ofList b := by
  unfold filesIn
  split
  · exact .nil
  · exact pairwise_mergeSort String.ofList _

/-- Every file that a directory lists can be read. -/
theorem read_of_mem_filesIn {dir : String} {name : Chars} (h : name ∈ f.filesIn dir) :
    IsSegment name ∧ ∃ b, f.read (String.ofList (below dir.toList name)) = .ok b := by
  obtain ⟨place,e,hdir,he,hplace⟩ := mem_filesIn.mp h
  have hwalk : name ∈ walk e.1.toList := by
    rw [show walk e.1.toList = place.2 ++ [name] from congrArg Prod.snd hplace]
    simp
  obtain ⟨hsegment,hstep⟩ := isSegment_of_mem_walk hwalk
  have hfound : (f.fileAt? (place.1,place.2 ++ [name])).isSome :=
    List.find?_isSome.mpr ⟨e,he,beq_iff_eq.mpr hplace⟩
  obtain ⟨found,hfound⟩ := Option.isSome_iff_exists.mp hfound
  refine ⟨hsegment,found.2,?_⟩
  rw [read,read?, entry?,resolve_below hdir hsegment hstep]
  simp only [hfound,Option.map_some]

end Files

end TrackerHub
