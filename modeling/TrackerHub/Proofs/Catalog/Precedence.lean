import TrackerHub.Catalog
import TrackerHub.Proofs.Catalog.FilePlaces

/-! # Precedence of definitions

A catalog behaves as one shelf with the directories of all its shelves. Of the files with a key the one in the
first directory counts, and there the one with the least name: its definition is the outcome, or what is wrong
with it.
-/
namespace TrackerHub
open TrackerHub.Text

/-! ## Keys in order -/

theorem eraseDups_sublist (names : List String) : names.eraseDups.Sublist names := by
  induction hlength : names.length using Nat.strongRecOn generalizing names with
  | ind n ih =>
    cases names with
    | nil => exact .slnil
    | cons name rest =>
      rw [List.eraseDups_cons]
      have hfilter := List.filter_sublist (p := fun b => !b == name) (l := rest)
      have hshort : (rest.filter fun b => !b == name).length < n :=
        hlength ▸ Nat.lt_succ_of_le hfilter.length_le
      exact ((ih _ hshort _ rfl).trans hfilter).cons_cons name

theorem mem_sortKeys {keys : List String} {key : String} : key ∈ sortKeys keys ↔ key ∈ keys := by
  rw [sortKeys,List.mem_eraseDups,List.mem_mergeSort]

theorem pairwise_sortKeys (keys : List String) : (sortKeys keys).Pairwise (· < ·) := by
  have hle : (sortKeys keys).Pairwise (· ≤ ·) :=
    (pairwise_mergeSort (fun s => s) keys).sublist (eraseDups_sublist _)
  have hne : (sortKeys keys).Pairwise (· ≠ ·) := Named.nodup_eraseDups _
  exact hle.imp₂ (fun a b hab hne => String.not_le.mp fun hba => hne (String.le_antisymm hab hba)) hne

/-- The order in which keys are given, and how often, does not matter. -/
theorem sortKeys_eq {keys others : List String} (h : ∀ key, key ∈ keys ↔ key ∈ others) :
    sortKeys keys = sortKeys others := by
  have hperm : (sortKeys keys).Perm (sortKeys others) := by
    refine (List.perm_ext_iff_of_nodup (Named.nodup_eraseDups _) (Named.nodup_eraseDups _)).mpr fun key => ?_
    rw [← sortKeys,← sortKeys,mem_sortKeys,mem_sortKeys,h]
  refine List.Perm.eq_of_pairwise (fun a b _ _ hab hba => ?_) (pairwise_sortKeys keys) (pairwise_sortKeys others)
    hperm
  exact absurd hba (String.lt_asymm hab)

/-! ## Directories -/

/-- The name of a file in a directory with the definition of a key. -/
def Files.Holds (f : Files) (key dir : String) (name : Chars) : Prop :=
  name ∈ f.filesIn dir ∧ isDefinitionName name = true ∧ String.ofList (PathText.stem name) = key

/-- The path of the file that counts for a key: no directory before its own holds the key, and no other name there
with the key is less. -/
inductive Files.Counts (f : Files) (key : String) : List String → String → Prop
  | here {before after : List String} {dir : String} {name : Chars}
      (hbefore : ∀ d ∈ before, ∀ n, ¬f.Holds key d n) (hname : f.Holds key dir name)
      (hleast : ∀ n, f.Holds key dir n → String.ofList name ≤ String.ofList n) :
      Files.Counts f key (before ++ dir :: after) (String.ofList (PathText.below dir.toList name))

/-- The keys of the definitions in a directory, in the order of the names of their files, with their paths. -/
def Files.definitionsIn (f : Files) (dir : String) : Named String :=
  ((f.filesIn dir).filter isDefinitionName).map fun name =>
    (String.ofList (PathText.stem name),String.ofList (PathText.below dir.toList name))

section
variable {f : Files} {key dir path : String}

theorem Files.find?_definitionsIn_eq_none :
    (f.definitionsIn dir).find? key = none ↔ ∀ name, ¬f.Holds key dir name := by
  rw [definitionsIn,Named.find?,List.find?_map,Option.map_map,Option.map_eq_none_iff,List.find?_eq_none]
  simp only [List.mem_filter,Function.comp_apply,beq_iff_eq,and_imp,Files.Holds,not_and]

theorem Files.least_of_find?_definitionsIn (h : (f.definitionsIn dir).find? key = some path) : ∃ name,
    f.Holds key dir name ∧ (∀ n, f.Holds key dir n → String.ofList name ≤ String.ofList n) ∧
      path = String.ofList (PathText.below dir.toList name) := by
  rw [definitionsIn,Named.find?,List.find?_map,Option.map_map] at h
  obtain ⟨name,hname,rfl⟩ := Option.map_eq_some_iff.mp h
  obtain ⟨hkey,before,after,hsplit,hbefore⟩ := List.find?_eq_some_iff_append.mp hname
  have hmem := List.mem_filter.mp (List.mem_of_find?_eq_some hname)
  have hsorted := (f.pairwise_filesIn dir).sublist (List.filter_sublist (p := isDefinitionName))
  rw [hsplit] at hsorted
  -- The first name with the key is the least one because the directory is read in order.
  refine ⟨name,⟨hmem.1,hmem.2,by simpa using hkey⟩,fun n hn => ?_,rfl⟩
  have hin : n ∈ before ++ name :: after := hsplit ▸ List.mem_filter.mpr ⟨hn.1,hn.2.1⟩
  rcases List.mem_append.mp hin with hin | hin
  · simpa [hn.2.2] using hbefore n hin
  · rcases List.mem_cons.mp hin with rfl | hin
    · exact String.le_refl _
    · exact (List.pairwise_cons.mp (List.pairwise_append.mp hsorted).2.1).1 n hin

/-- In one directory the least name of a file with the key is found. -/
theorem Files.find?_definitionsIn_eq_some : (f.definitionsIn dir).find? key = some path ↔ ∃ name,
    f.Holds key dir name ∧ (∀ n, f.Holds key dir n → String.ofList name ≤ String.ofList n) ∧
      path = String.ofList (PathText.below dir.toList name) := by
  refine ⟨least_of_find?_definitionsIn,?_⟩
  rintro ⟨name,hname,hleast,rfl⟩
  cases hfound : (f.definitionsIn dir).find? key with
  | none => exact absurd hname (find?_definitionsIn_eq_none.mp hfound name)
  | some path =>
    obtain ⟨other,hother,hleast',rfl⟩ := least_of_find?_definitionsIn hfound
    rw [String.ofList_inj.mp (String.le_antisymm (hleast other hother) (hleast' name hname))]

end

namespace Shelf
variable {f : Files} {key : String}

theorem find?_paths (s : Shelf) (f : Files) (key : String) :
    (s.paths f).find? key = s.dirs.findSome? fun dir => (f.definitionsIn dir).find? key := by
  rw [paths,Named.find?_keepFirst,Named.find?_flatMap]
  rfl

/-- The path of a key is that of the file that counts for it. -/
theorem find?_paths_eq_some {s : Shelf} {path : String} :
    (s.paths f).find? key = some path ↔ f.Counts key s.dirs path := by
  rw [find?_paths,List.findSome?_eq_some_iff]
  constructor
  · rintro ⟨before,dir,after,hdirs,hpath,hbefore⟩
    obtain ⟨name,hname,hleast,rfl⟩ := Files.find?_definitionsIn_eq_some.mp hpath
    rw [hdirs]
    exact .here (fun d hd => Files.find?_definitionsIn_eq_none.mp (hbefore d hd)) hname hleast
  · generalize s.dirs = dirs
    rintro ⟨hbefore,hname,hleast⟩
    exact ⟨_,_,_,rfl,Files.find?_definitionsIn_eq_some.mpr ⟨_,hname,hleast,rfl⟩,
      fun d hd => Files.find?_definitionsIn_eq_none.mpr (hbefore d hd)⟩

theorem mem_keys {s : Shelf} : key ∈ s.keys f ↔ ((s.paths f).find? key).isSome := by
  rw [keys,mem_sortKeys,Named.mem_names_iff]

theorem definition_ne_unknown (path other : String) : f.definition path ≠ .error (.unknown other) := by
  unfold Files.definition
  dsimp only
  split
  next b hread => cases Definition.parse b _ <;> simp [Except.mapError]
  next => simp

/-- A shelf does not know just the keys that it does not list. -/
theorem load_eq_unknown_iff {s : Shelf} {other : String} :
    s.load f key = .error (.unknown other) ↔ key ∉ s.keys f ∧ other = key := by
  rw [mem_keys,load]
  cases (s.paths f).find? key with
  | none => simp [eq_comm]
  | some path => simpa using definition_ne_unknown path other

theorem definition_of_counts {dirs : List String} {path : String} (h : f.Counts key dirs path) :
    ∃ b, f.read path = .ok b ∧ f.definition path = (Definition.parse b path).mapError .definition := by
  obtain ⟨-,hname,-⟩ := h
  obtain ⟨hsegment,b,hread⟩ := Files.read_of_mem_filesIn hname.1
  refine ⟨b,hread,?_⟩
  unfold Files.definition
  dsimp only
  rw [String.toList_ofList,PathText.clean_below hsegment,hread]

/-- The file that counts for a key is read, and its definition or what is wrong with it is the outcome. -/
theorem load_of_counts {s : Shelf} {path : String} (h : f.Counts key s.dirs path) :
    ∃ b, f.read path = .ok b ∧ s.load f key = (Definition.parse b path).mapError .definition := by
  rw [load,find?_paths_eq_some.mpr h]
  exact definition_of_counts h

theorem find?_paths_append (dirs others : List String) : ((Shelf.mk (dirs ++ others)).paths f).find? key =
    (((Shelf.mk dirs).paths f).find? key).or (((Shelf.mk others).paths f).find? key) := by
  simp only [find?_paths,List.findSome?_append]

/-- A shelf passes the keys that it does not know on to what is added to it. -/
theorem load_append (dirs others : List String) : (Shelf.mk (dirs ++ others)).load f key =
    if key ∈ (Shelf.mk dirs).keys f then (Shelf.mk dirs).load f key else (Shelf.mk others).load f key := by
  simp only [mem_keys,load,find?_paths_append]
  cases ((Shelf.mk dirs).paths f).find? key <;> simp

theorem mem_keys_append {dirs others : List String} : key ∈ (Shelf.mk (dirs ++ others)).keys f ↔
    key ∈ (Shelf.mk dirs).keys f ∨ key ∈ (Shelf.mk others).keys f := by
  simp only [mem_keys,find?_paths_append,Option.isSome_or,Bool.or_eq_true]

end Shelf

namespace Catalog
variable {f : Files} {key : String}

theorem load_cons (s : Shelf) (rest : Catalog) : load (s :: rest) f key =
    if key ∈ s.keys f then s.load f key else load rest f key := by
  rw [load]
  split
  next other hunknown => rw [if_neg (Shelf.load_eq_unknown_iff.mp hunknown).1]
  next hknown =>
    by_cases hkey : key ∈ s.keys f
    · rw [if_pos hkey]
    · exact absurd (Shelf.load_eq_unknown_iff.mpr ⟨hkey,rfl⟩) (hknown key)

theorem load_shelves (dirss : List (List String)) :
    load (dirss.map Shelf.mk) f key = (Shelf.mk dirss.flatten).load f key := by
  induction dirss with
  | nil => rfl
  | cons dirs dirss ih => rw [List.map_cons,List.flatten_cons,load_cons,Shelf.load_append,ih]

theorem keys_shelves (f : Files) (dirss : List (List String)) :
    keys (dirss.map Shelf.mk) f = (Shelf.mk dirss.flatten).keys f := by
  refine sortKeys_eq fun key => ?_
  -- The keys are sorted on both sides, so only which ones there are has to be compared.
  have hkeys : key ∈ (dirss.map Shelf.mk).flatMap (fun s => s.keys f) ↔ key ∈ (Shelf.mk dirss.flatten).keys f := by
    induction dirss with
    | nil => simp [Shelf.keys,Shelf.paths,sortKeys]
    | cons dirs dirss ih =>
      rw [List.map_cons,List.flatMap_cons,List.mem_append,List.flatten_cons,Shelf.mem_keys_append,ih]
  rw [hkeys,Shelf.keys,mem_sortKeys]

/-- Files with one key in two directories, the first of them without a definition. -/
def brokenFirst : Files := .ofList [("d2/a.yml",encodeUtf8 "site: s\nlinks: x\n".toList),
  ("d1/a.YML",encodeUtf8 "site: [".toList)]

end Catalog

end TrackerHub
