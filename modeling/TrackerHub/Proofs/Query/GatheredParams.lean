import Mathlib.Data.List.Basic
import TrackerHub.Proofs.NamedEntries
import TrackerHub.Query.Wire

/-! # Gathered parameters

A name of a parameter can be given more than once. Gathered, each name stands once, in the place where it
is first given, with all its values in their order.
-/
namespace TrackerHub.Query

/-- All values of a name, in their order. -/
def valuesOf (params : List (String × List String)) (key : String) : List String :=
  (params.filter fun p => p.1 == key).flatMap (·.2)

section
variable {params : List (String × List String)} {p : String × List String} {key : String}

theorem valuesOf_concat :
    valuesOf (params ++ [p]) key = if p.1 = key then valuesOf params key ++ p.2 else valuesOf params key := by
  by_cases hp : p.1 = key <;> simp [valuesOf,hp]

theorem filter_of_not_mem {α : Type} {entries : List (String × α)} (h : key ∉ entries.map (·.1)) :
    entries.filter (fun p => p.1 == key) = [] := by
  rw [List.filter_eq_nil_iff]
  exact fun p hp hkey => h (List.mem_map.mpr ⟨p,hp,beq_iff_eq.mp hkey⟩)

theorem valuesOf_of_not_mem (h : key ∉ params.map (·.1)) : valuesOf params key = [] := by
  rw [valuesOf,filter_of_not_mem h,List.flatMap_nil]

theorem valuesOf_of_mem (hn : (params.map (·.1)).Nodup) (hp : p ∈ params) : valuesOf params p.1 = p.2 := by
  induction params with
  | nil => cases hp
  | cons e rest ih =>
    rw [List.map_cons,List.nodup_cons] at hn
    rcases List.mem_cons.mp hp with rfl | hrest
    · have hnone := valuesOf_of_not_mem hn.1
      simpa [valuesOf] using hnone
    · have hne : (e.1 == p.1) = false := by
        rw [beq_eq_false_iff_ne]
        exact fun he => hn.1 (he ▸ List.mem_map_of_mem hrest)
      rw [valuesOf,List.filter_cons,hne,if_neg Bool.false_ne_true]
      exact ih hn.2 hrest

/-- With no name twice the order of the names does not matter. -/
theorem valuesOf_perm {others : List (String × List String)} (hperm : params.Perm others)
    (hn : (params.map (·.1)).Nodup) (key : String) : valuesOf params key = valuesOf others key := by
  by_cases hkey : key ∈ params.map (·.1)
  · obtain ⟨p,hp,rfl⟩ := List.mem_map.mp hkey
    have hother := (hperm.map (·.1)).nodup_iff.mp hn
    rw [valuesOf_of_mem hn hp,valuesOf_of_mem hother (hperm.mem_iff.mp hp)]
  · have hnone : key ∉ others.map (·.1) := mt (hperm.map (·.1)).mem_iff.mpr hkey
    rw [valuesOf_of_not_mem hkey,valuesOf_of_not_mem hnone]

theorem gather_concat : gather (params ++ [p]) =
    if (gather params).any fun e => e.1 == p.1 then
      (gather params).map fun e => if e.1 == p.1 then (e.1,e.2 ++ p.2) else e
    else gather params ++ [p] :=
  List.foldl_append

/-- Parameters with different names are gathered as they stand. -/
theorem gather_of_nodup (h : (params.map (·.1)).Nodup) : gather params = params := by
  induction params using List.reverseRecOn with
  | nil => rfl
  | append_singleton params p ih =>
    rw [List.map_append,List.nodup_append] at h
    have hnew : (params.any fun e => e.1 == p.1) = false := by
      rw [List.any_eq_false]
      exact fun e he heq => h.2.2 e.1 (List.mem_map_of_mem he) p.1 (by simp) (beq_iff_eq.mp heq)
    rw [gather_concat,ih h.1,hnew,if_neg Bool.false_ne_true]

end

/-- What is gathered of parameters, told by their names and values. -/
theorem gather_eq (params : List (String × List String)) :
    gather params = (params.map (·.1)).eraseDups.map fun key => (key,valuesOf params key) := by
  induction params using List.reverseRecOn with
  | nil => rfl
  | append_singleton params p ih =>
    have hany : (gather params).any (fun e => e.1 == p.1) = true ↔ p.1 ∈ params.map (·.1) := by
      rw [ih,List.any_map,List.any_eq_true]
      simp
    have hother {key : String} (hne : p.1 ≠ key) : valuesOf (params ++ [p]) key = valuesOf params key := by
      rw [valuesOf_concat,if_neg hne]
    rw [gather_concat,List.map_append,List.map_singleton,Named.eraseDups_concat]
    by_cases hmem : p.1 ∈ params.map (·.1)
    · rw [if_pos (hany.mpr hmem),if_pos hmem,ih,List.map_map]
      refine List.map_congr_left fun key _ => ?_
      by_cases hkey : p.1 = key
      · simp [hkey,valuesOf_concat]
      · simp [hother hkey,Ne.symm hkey]
    · have hlast : valuesOf (params ++ [p]) p.1 = p.2 := by
        rw [valuesOf_concat,if_pos rfl,valuesOf_of_not_mem hmem,List.nil_append]
      rw [if_neg (mt hany.mp hmem),if_neg hmem,ih,List.map_append,List.map_singleton,hlast]
      refine congrArg (· ++ [p]) (List.map_congr_left fun key hkey => ?_)
      rw [hother fun heq => hmem (heq ▸ List.mem_eraseDups.mp hkey)]

section
variable {params : List (String × List String)}

theorem gather_names : (gather params).map (·.1) = (params.map (·.1)).eraseDups := by
  rw [gather_eq,List.map_map]
  exact List.map_id _

theorem nodup_gather_names : ((gather params).map (·.1)).Nodup := by
  rw [gather_names]
  exact Named.nodup_eraseDups _

theorem mem_gather {key : String} {values : List String} :
    (key,values) ∈ gather params ↔ key ∈ params.map (·.1) ∧ values = valuesOf params key := by
  rw [gather_eq,List.mem_map]
  constructor
  · rintro ⟨name,hname,he⟩
    obtain ⟨rfl,rfl⟩ := Prod.mk.inj he
    exact ⟨List.mem_eraseDups.mp hname,rfl⟩
  · rintro ⟨hkey,rfl⟩
    exact ⟨key,List.mem_eraseDups.mpr hkey,rfl⟩

theorem eraseDups_of_first {before after : List String} {key : String} (h : key ∉ before) :
    ∃ rest, (before ++ key :: after).eraseDups = before.eraseDups ++ key :: rest := by
  have hnew : (key :: after).removeAll before = key :: after.removeAll before := by
    simpa [List.removeAll,List.filter_cons] using h
  rw [List.eraseDups_append,hnew,List.eraseDups_cons]
  exact ⟨_,rfl⟩

/-- What stands before a name is just what is given before it first. -/
theorem gather_eq_append_iff {P : String × List String → Prop} {key : String} {values : List String} :
    (∃ front back, gather params = front ++ (key,values) :: back ∧ ∀ e ∈ front, P e) ↔
      ∃ before after, params.map (·.1) = before ++ key :: after ∧ key ∉ before ∧
        valuesOf params key = values ∧ ∀ name ∈ before, P (name,valuesOf params name) := by
  have cut {before after : List String} (hnames : params.map (·.1) = before ++ key :: after)
      (hfirst : key ∉ before) : ∃ back, gather params =
        before.eraseDups.map (fun name => (name,valuesOf params name)) ++
          (key,valuesOf params key) :: back := by
    obtain ⟨rest,hrest⟩ := @eraseDups_of_first before after key hfirst
    rw [gather_eq,hnames,hrest,List.map_append,List.map_cons]
    exact ⟨_,rfl⟩
  constructor
  · rintro ⟨front,back,hg,hfront⟩
    have hmem : (key,values) ∈ gather params := hg ▸ List.mem_append_right front List.mem_cons_self
    obtain ⟨hkey,rfl⟩ := mem_gather.mp hmem
    obtain ⟨before,after,hnames,hfirst⟩ := List.eq_append_cons_of_mem hkey
    obtain ⟨rest,hrest⟩ := cut hnames hfirst
    have hnodup : (gather params).Nodup := .of_map _ nodup_gather_names
    rw [hrest,List.nodup_middle,List.nodup_cons,List.mem_append,not_or] at hnodup
    -- the name stands only once, so the two ways to cut at it are the same
    have hsame := ((List.append_cons_inj_of_notMem hnodup.1.1 hnodup.1.2).mp (hrest.symm.trans hg)).1
    refine ⟨before,after,hnames,hfirst,rfl,fun name hname => hfront _ ?_⟩
    exact hsame ▸ List.mem_map_of_mem (List.mem_eraseDups.mpr hname)
  · rintro ⟨before,after,hnames,hfirst,rfl,hbefore⟩
    obtain ⟨rest,hrest⟩ := cut hnames hfirst
    refine ⟨_,_,hrest,List.forall_mem_map.mpr fun name hname => ?_⟩
    exact hbefore name (List.mem_eraseDups.mp hname)

/-- Gathering loses no value. -/
theorem valuesOf_gather (key : String) : valuesOf (gather params) key = valuesOf params key := by
  by_cases hkey : key ∈ params.map (·.1)
  · exact valuesOf_of_mem nodup_gather_names (mem_gather.mpr ⟨hkey,rfl⟩)
  · have hnone : key ∉ (gather params).map (·.1) := by rwa [gather_names,List.mem_eraseDups]
    rw [valuesOf_of_not_mem hkey,valuesOf_of_not_mem hnone]

end

end TrackerHub.Query
