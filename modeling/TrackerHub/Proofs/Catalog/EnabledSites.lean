import TrackerHub.Proofs.Catalog.Precedence
import TrackerHub.Proofs.ReadLists

/-! # Enabled sites

Which definitions a catalog gives for the sites that are enabled. A definition is looked up, and asked for
whether it is enabled, by its key, while its settings stand in the section of its site: what is given are the
definitions of the enabled sites just when each known key is enabled as its site is.
-/
namespace TrackerHub
open TrackerHub.Text

namespace Definition

/-- A definition knows where it was read from. -/
theorem source_of_parse {b : Bytes} {source : String} {d : Definition} (h : parse b source = .ok d) :
    d.origin.source = source := by
  unfold parse at h
  split at h
  · cases h
  · cases h
  next es _ =>
    split at h
    · cases h
    · cases h
    next r _ =>
      obtain ⟨categories,-,h⟩ := bind_eq_ok.mp h
      obtain ⟨fields,-,h⟩ := bind_eq_ok.mp h
      cases h
      rfl
  · cases h

end Definition

namespace Catalog
variable {c : Catalog} {f : Files} {sites : Sites} {key : String} {d : Definition}
  {definitions : List Definition}

/-- The definitions that a catalog can give, in the order of their keys. -/
def known (c : Catalog) (f : Files) : List Definition :=
  (c.keys f).filterMap fun key => (c.load f key).toOption

theorem load_eq_shelf (c : Catalog) (f : Files) (key : String) :
    c.load f key = (Shelf.mk (c.map (·.dirs)).flatten).load f key := by
  rw [← load_shelves,List.map_map]
  congr 1
  exact (List.map_id c).symm

theorem segment_of_counts {dirs : List String} {path : String} (h : f.Counts key dirs path) :
    ∃ (dir : String) (name : Chars), PathText.IsSegment name ∧ String.ofList (PathText.stem name) = key ∧
      path = String.ofList (PathText.below dir.toList name) := by
  obtain ⟨-,hname,-⟩ := h
  exact ⟨_,_,(Files.read_of_mem_filesIn hname.1).1,hname.2.2,rfl⟩

theorem source_of_load (h : c.load f key = .ok d) : ∃ (dir : String) (name : Chars),
    PathText.IsSegment name ∧ String.ofList (PathText.stem name) = key ∧
      d.origin.source = String.ofList (PathText.below dir.toList name) := by
  rw [load_eq_shelf,Shelf.load] at h
  cases hpath : ((Shelf.mk (c.map (·.dirs)).flatten).paths f).find? key with
  | none =>
    rw [hpath] at h
    cases h
  | some path =>
    rw [hpath] at h
    have hcounts := Shelf.find?_paths_eq_some.mp hpath
    obtain ⟨b,-,hdefinition⟩ := Shelf.definition_of_counts hcounts
    have hparse : Definition.parse b path = .ok d := mapError_eq_ok.mp (hdefinition.symm.trans h)
    rw [Definition.source_of_parse hparse]
    exact segment_of_counts hcounts

theorem key_unique {other : String} (h : c.load f key = .ok d) (hother : c.load f other = .ok d) :
    key = other := by
  obtain ⟨dir,name,hsegment,rfl,hsource⟩ := source_of_load h
  obtain ⟨dir',name',hsegment',rfl,hsource'⟩ := source_of_load hother
  have hbelow := String.ofList_injective (hsource.symm.trans hsource')
  have hsegments := congrArg PathText.segments hbelow
  rw [PathText.segments_below hsegment,PathText.segments_below hsegment'] at hsegments
  rw [(List.append_inj' hsegments rfl).2 |> List.singleton_inj.mp]

theorem mem_known : d ∈ c.known f ↔ ∃ key ∈ c.keys f, c.load f key = .ok d := by
  simp only [known,List.mem_filterMap,toOption_eq_some]

theorem enabled_eq_ok_iff : c.enabled f sites = .ok definitions ↔
    List.Forall₂ (fun key d => c.load f key = .ok d) ((c.keys f).filter sites.isEnabled) definitions :=
  mapM_eq_ok_iff

/-- What is given are the definitions of the enabled keys. -/
theorem enabled_eq_filterMap (h : c.enabled f sites = .ok definitions) :
    definitions = ((c.keys f).filter sites.isEnabled).filterMap fun key => (c.load f key).toOption := by
  have hall := enabled_eq_ok_iff.mp h
  clear h
  generalize (c.keys f).filter sites.isEnabled = keys at hall ⊢
  induction hall with
  | nil => rfl
  | @cons key d _ _ hd _ ih =>
    have hsome : (c.load f key).toOption = some d := toOption_eq_some.mpr hd
    rw [List.filterMap_cons,hsome,← ih]

theorem mem_enabled_iff (h : c.enabled f sites = .ok definitions) :
    d ∈ definitions ↔ ∃ key ∈ c.keys f, sites.isEnabled key = true ∧ c.load f key = .ok d := by
  rw [enabled_eq_filterMap h]
  simp only [List.mem_filterMap,List.mem_filter,toOption_eq_some,and_assoc]

/-- The definitions of the enabled keys are those of the enabled sites just when each key is enabled as the
site of its definition is. -/
theorem enabled_eq_own_iff (h : c.enabled f sites = .ok definitions) :
    definitions = (c.known f).filter (fun d => sites.isEnabled d.site) ↔
      ∀ key ∈ c.keys f, ∀ d, c.load f key = .ok d → sites.isEnabled key = sites.isEnabled d.site := by
  constructor
  · intro hown key hkey d hd
    have hmem : d ∈ definitions ↔ sites.isEnabled d.site = true := by
      rw [hown,List.mem_filter]
      exact and_iff_right (mem_known.mpr ⟨key,hkey,hd⟩)
    rw [Bool.eq_iff_iff,← hmem,mem_enabled_iff h]
    constructor
    · exact fun henabled => ⟨key,hkey,henabled,hd⟩
    · rintro ⟨other,-,henabled,hother⟩
      rwa [key_unique hd hother]
  · intro hsame
    rw [enabled_eq_filterMap h,known,List.filterMap_filter,List.filter_filterMap]
    refine List.filterMap_congr fun key hkey => ?_
    cases hd : c.load f key with
    | error e => simp [Except.toOption]
    | ok d => simp [Except.toOption,hsame key hkey d hd,Option.filter]

/-- A catalog can give the definitions of the enabled sites just when it can load each enabled key. It gives
the definitions of the enabled keys, each key once and in order. These are the known definitions whose own site
is enabled just when no known key is enabled otherwise than the site of its definition. -/
theorem enabled_goes_by_key (c : Catalog) (f : Files) (sites : Sites) :
    ((∃ definitions, c.enabled f sites = .ok definitions) ↔
      ∀ key ∈ c.keys f, sites.isEnabled key = true → ∃ d, c.load f key = .ok d) ∧
    ∀ definitions, c.enabled f sites = .ok definitions →
      (c.keys f).Pairwise (· < ·) ∧
      List.Forall₂ (fun key d => c.load f key = .ok d) ((c.keys f).filter sites.isEnabled) definitions ∧
      (definitions = (c.known f).filter (fun d => sites.isEnabled d.site) ↔
        ∀ key ∈ c.keys f, ∀ d, c.load f key = .ok d → sites.isEnabled key = sites.isEnabled d.site) := by
  constructor
  · rw [enabled,exists_mapM_eq_ok]
    simp only [List.mem_filter,and_imp]
  · intro definitions h
    exact ⟨pairwise_sortKeys _,enabled_eq_ok_iff.mp h,enabled_eq_own_iff h⟩

/-- A definition whose file is not named after its site. -/
def namedOtherwise : Files := .ofList [("d/a.yml",encodeUtf8 "site: b\nlinks: x\n".toList)]

/-- Settings that enable the key, but not the site. -/
def keyEnabled : Sites := ⟨[("a",[("enabled","true")])]⟩

set_option maxRecDepth 100000 in
/-- The definition is given although its site is not enabled. -/
theorem enabled_by_key_only : ∃ d, enabled [⟨["d"]⟩] namedOtherwise keyEnabled = .ok [d] ∧ d.site = "b" ∧
    keyEnabled.isEnabled d.site = false ∧
    [d] ≠ (known [⟨["d"]⟩] namedOtherwise).filter fun d => keyEnabled.isEnabled d.site := by
  have hgiven : ((enabled [⟨["d"]⟩] namedOtherwise keyEnabled).toOption.map fun ds => ds.map (·.site)) =
      some ["b"] := by decide +kernel
  have hkeys : keys [⟨["d"]⟩] namedOtherwise = ["a"] := by decide +kernel
  obtain ⟨ds,hds,hsites⟩ := Option.map_eq_some_iff.mp hgiven
  obtain ⟨d,rfl,hsite⟩ := List.map_eq_singleton_iff.mp hsites
  have hds := toOption_eq_some.mp hds
  obtain ⟨-,hloaded,hown⟩ := (enabled_goes_by_key [⟨["d"]⟩] namedOtherwise keyEnabled).2 [d] hds
  have hdisabled : keyEnabled.isEnabled d.site = false := by
    rw [hsite]
    decide
  refine ⟨d,hds,hsite,hdisabled,fun hsame => ?_⟩
  rw [hkeys] at hloaded
  have hload := (List.forall₂_cons.mp hloaded).1
  have := hown.mp hsame "a" (hkeys ▸ List.mem_cons_self) d hload
  rw [hdisabled] at this
  exact absurd this (by decide)

end Catalog

end TrackerHub
