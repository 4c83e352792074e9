import Mathlib.Data.List.Induction
import Mathlib.Data.List.Nodup
import TrackerHub.Proofs.Category.Families
import TrackerHub.Proofs.Yaml.WrittenNodes
import TrackerHub.Sites

/-! # Saved sites

The document that holds the settings of sites is written anew after each change and read when it is opened
again. What is read answers as what was written, unless a name has been written that cannot be read.
-/
namespace TrackerHub
open TrackerHub.Text

namespace Sites

/-- The names and the texts of sites as they are written. -/
def texts (s : Sites) : List (Chars × List (Chars × Chars)) :=
  s.sections.map fun sect => (sect.1.toList,sect.2.map fun e => (e.1.toList,e.2.toList))

/-- Sites of the names and the texts that are read. -/
def ofTexts (sections : List (Chars × List (Chars × Chars))) : Sites :=
  ⟨sections.map fun sect => (String.ofList sect.1,sect.2.map fun e => (String.ofList e.1,String.ofList e.2))⟩

theorem write_eq (s : Sites) : s.write = Yaml.Write.document s.texts := rfl

/-- No section stands twice among the sites, and no name in a section. -/
structure IsDistinct (s : Sites) : Prop where
  names : (s.sections.map (·.1)).Nodup
  settings : ∀ sect ∈ s.sections, (sect.2.map (·.1)).Nodup

/-- Some name outgrows its line. -/
def HasOutgrown (s : Sites) : Prop := ∃ sect ∈ s.sections, Yaml.Write.outgrows 0 sect.1.toList = true ∨
  ∃ e ∈ sect.2, Yaml.Write.outgrows 2 e.1.toList = true

instance (s : Sites) : Decidable s.HasOutgrown :=
  inferInstanceAs (Decidable (∃ sect ∈ s.sections, _ ∨ ∃ e ∈ sect.2, _))

/-- Sites that give the same answers, the settings of a section in any order. -/
structure AnswersLike (s t : Sites) : Prop where
  get? : ∀ site name, s.get? site name = t.get? site name
  sectionOf : ∀ site, (s.sectionOf site).Perm (t.sectionOf site)
  names : s.names = t.names

section
variable {s t : Sites}

/-! ## Changes -/

theorem IsDistinct.sectionOf (h : s.IsDistinct) (site : String) : ((s.sectionOf site).map (·.1)).Nodup := by
  unfold Sites.sectionOf
  cases hfound : s.sections.find? site with
  | none => exact List.nodup_nil
  | some settings =>
    obtain ⟨sect,hsect,rfl⟩ := Option.map_eq_some_iff.mp hfound
    exact h.settings sect (List.mem_of_find?_eq_some hsect)

theorem IsDistinct.set (h : s.IsDistinct) (site name text : String) : (s.set site name text).IsDistinct := by
  refine ⟨Named.nodup_put h.names site _,fun sect hsect => ?_⟩
  rcases Named.mem_put hsect with rfl | hsect
  · exact Named.nodup_put (h.sectionOf site) name text
  · exact h.settings sect hsect

theorem sectionOf_set (s : Sites) (site name text site' : String) : (s.set site name text).sectionOf site' =
    if site' = site then (s.sectionOf site).put name text else s.sectionOf site' := by
  unfold Sites.sectionOf Sites.set
  rw [Named.find?_put]
  split <;> rfl

/-- A change answers for its own setting, and every other setting answers as before. -/
theorem get?_set (s : Sites) (site name text site' name' : String) : (s.set site name text).get? site' name' =
    if site' = site ∧ name' = name then some text else s.get? site' name' := by
  unfold Sites.get?
  rw [sectionOf_set]
  by_cases hsite : site' = site
  · subst hsite
    simp [Named.find?_put]
  · simp [hsite]

theorem sections_set_ne_nil (s : Sites) (site name text : String) : (s.set site name text).sections ≠ [] := by
  intro h
  have hget := get?_set s site name text site name
  simp [Sites.get?,Sites.sectionOf,h,Named.find?] at hget

/-- The names of distinct sites are those of the sections and those that are found. -/
theorem IsDistinct.hasOutgrown_iff (h : s.IsDistinct) : s.HasOutgrown ↔
    (∃ site ∈ s.sections.map (·.1), Yaml.Write.outgrows 0 site.toList = true) ∨
    ∃ site name, (s.get? site name).isSome ∧ Yaml.Write.outgrows 2 name.toList = true := by
  constructor
  · rintro ⟨sect,hsect,hsite | ⟨e,he,hname⟩⟩
    · exact .inl ⟨sect.1,List.mem_map_of_mem hsect,hsite⟩
    · refine .inr ⟨sect.1,e.1,?_,hname⟩
      rw [Sites.get?,Sites.sectionOf,Named.find?_of_mem h.names hsect,Option.getD_some,
        Named.find?_of_mem (h.settings sect hsect) he]
      rfl
  · rintro (⟨site,hsite,hlong⟩ | ⟨site,name,hfound,hlong⟩)
    · obtain ⟨sect,hsect,rfl⟩ := List.mem_map.mp hsite
      exact ⟨sect,hsect,.inl hlong⟩
    · obtain ⟨text,htext⟩ := Option.isSome_iff_exists.mp hfound
      obtain ⟨e,he,-⟩ := Option.map_eq_some_iff.mp htext
      have hname : e.1 = name := by simpa using List.find?_some he
      have hmem := List.mem_of_find?_eq_some he
      obtain ⟨settings,hsettings,hin⟩ : ∃ settings, s.sections.find? site = some settings ∧ e ∈ settings := by
        unfold Sites.sectionOf at hmem
        cases hsection : s.sections.find? site with
        | none => simp [hsection] at hmem
        | some settings => exact ⟨settings,rfl,by simpa [hsection] using hmem⟩
      obtain ⟨sect,hsect,rfl⟩ := Option.map_eq_some_iff.mp hsettings
      exact ⟨sect,List.mem_of_find?_eq_some hsect,.inr ⟨e,hin,hname ▸ hlong⟩⟩

theorem IsDistinct.hasOutgrown_set (h : s.IsDistinct) (site name text : String) :
    (s.set site name text).HasOutgrown ↔ s.HasOutgrown ∨
      (Yaml.Write.outgrows 0 site.toList = true ∨ Yaml.Write.outgrows 2 name.toList = true) := by
  have hnames (site' : String) : site' ∈ (s.set site name text).sections.map (·.1) ↔
      site' ∈ s.sections.map (·.1) ∨ site' = site := by
    rw [Sites.set,Named.put_names]
    split
    next hold =>
      simp only [List.any_eq_true,beq_iff_eq] at hold
      obtain ⟨sect,hsect,rfl⟩ := hold
      exact ⟨.inl,fun h => h.elim id fun h => h ▸ List.mem_map_of_mem hsect⟩
    next => simp
  have hfound (site' name' : String) : ((s.set site name text).get? site' name').isSome ↔
      (s.get? site' name').isSome ∨ (site' = site ∧ name' = name) := by
    rw [get?_set]
    split <;> simp_all
  rw [(h.set site name text).hasOutgrown_iff,h.hasOutgrown_iff]
  simp only [hnames,hfound,or_and_right,exists_or,and_assoc,exists_and_left,exists_eq_left]
  exact or_or_or_comm

/-! ## Reading -/

theorem isDistinct_ofSections (sections : List (String × List (Value × Value))) : (ofSections sections).IsDistinct := by
  refine ⟨Named.nodup_ofList _,fun sect hsect => ?_⟩
  obtain ⟨⟨name,entries⟩,-,rfl⟩ := List.mem_map.mp ((Named.mem_of_mem_foldl hsect).resolve_left List.not_mem_nil)
  exact Named.nodup_ofList _

theorem isDistinct_of_ofValue {v : Value} (h : ofValue v = .ok s) : s.IsDistinct := by
  unfold ofValue at h
  split at h
  · cases h
    exact ⟨List.nodup_nil,by simp⟩
  · obtain ⟨sections,-,h⟩ := bind_eq_ok.mp h
    cases h
    exact isDistinct_ofSections sections
  · cases h

theorem isDistinct_of_read {text : Chars} (h : read text = .ok s) : s.IsDistinct := by
  unfold read at h
  split at h
  · exact isDistinct_of_ofValue h
  · cases h

theorem IsDistinct.texts (h : s.IsDistinct) : Yaml.Distinct s.texts := by
  have hnames {α : Type} {entries : Named α} (h : (entries.map (·.1)).Nodup) :
      (entries.map fun e => e.1.toList).Nodup := by
    have hchars := List.Nodup.map (f := String.toList) (fun _ _ => String.toList_inj.mp) h
    rwa [List.map_map] at hchars
  refine ⟨?_,fun sect hsect => ?_⟩
  · rw [Sites.texts,List.map_map]
    exact hnames h.names
  · obtain ⟨named,hnamed,rfl⟩ := List.mem_map.mp hsect
    rw [List.map_map]
    exact hnames (h.settings named hnamed)

theorem ofValue_sections {sections : List (Chars × List (Chars × Chars))} (h : Yaml.Distinct sections) :
    ofValue (.map (sections.map fun sect => (Yaml.textKey sect.1,Yaml.settingsValue sect.2))) = .ok (ofTexts sections) := by
  have hnames {α β : Type} {entries : List (Chars × α)} (h : (entries.map (·.1)).Nodup) (f : α → β) :
      Named.ofList (entries.map fun e => (String.ofList e.1,f e.2)) = entries.map fun e => (String.ofList e.1,f e.2) := by
    refine Named.ofList_eq ?_
    have hstrings := List.Nodup.map (f := String.ofList) (fun _ _ => String.ofList_inj.mp) h
    rwa [List.map_map] at hstrings ⊢
  let read (sect : Chars × List (Chars × Chars)) : String × List (Value × Value) :=
    (String.ofList sect.1,sect.2.map fun e => (Yaml.textKey e.1,Yaml.textKey e.2))
  rw [ofValue,List.mapM_map]
  refine (congrArg (· >>= fun sections => pure (ofSections sections))
    (mapM_eq_map (g := read) fun sect _ => rfl)).trans (congrArg Except.ok ?_)
  rw [ofSections,List.map_map]
  refine congrArg Sites.mk (Eq.trans (congrArg Named.ofList (List.map_congr_left fun sect hsect => ?_))
    (hnames h.names _))
  refine congrArg (Prod.mk (String.ofList sect.1)) ?_
  rw [textsOf,List.map_map]
  exact hnames (h.settings sect hsect) String.ofList

/-! ## Answers -/

def sorted (settings : Named String) : Named String :=
  (Yaml.Write.sortByName (settings.map fun e => (e.1.toList,e.2.toList))).map fun e =>
    (String.ofList e.1,String.ofList e.2)

theorem sorted_perm (settings : Named String) : (sorted settings).Perm settings := by
  have h := (Yaml.sortByName_perm (settings.map fun e => (e.1.toList,e.2.toList))).map fun e =>
    (String.ofList e.1,String.ofList e.2)
  simpa [sorted,Function.comp_def] using h

theorem inOrder_perm (s : Sites) :
    (ofTexts (Yaml.inOrder s.texts)).sections.Perm (s.sections.map fun sect => (sect.1,sorted sect.2)) := by
  have h := (Yaml.sortByName_perm s.texts).map fun sect => (String.ofList sect.1,
    (Yaml.Write.sortByName sect.2).map fun e => (String.ofList e.1,String.ofList e.2))
  simpa [ofTexts,Yaml.inOrder,Sites.texts,sorted,Function.comp_def] using h

theorem mergeSort_perm {names others : List String} (h : names.Perm others) :
    names.mergeSort (fun a b => decide (a ≤ b)) = others.mergeSort fun a b => decide (a ≤ b) := by
  refine List.Perm.eq_of_pairwise (fun _ _ _ _ => String.le_antisymm) (pairwise_mergeSort (fun s => s) names)
    (pairwise_mergeSort (fun s => s) others) ?_
  exact (List.mergeSort_perm names _).trans (h.trans (List.mergeSort_perm others _).symm)

theorem answersLike_inOrder (h : s.IsDistinct) : (ofTexts (Yaml.inOrder s.texts)).AnswersLike s := by
  have hnames : ((s.sections.map fun sect => (sect.1,sorted sect.2)).map (·.1)) = s.sections.map (·.1) := by
    simp
  have hsection (site : String) : ((ofTexts (Yaml.inOrder s.texts)).sectionOf site).Perm (s.sectionOf site) := by
    unfold Sites.sectionOf
    rw [Named.find?_perm (inOrder_perm s) (hnames ▸ h.names),Named.find?_map]
    cases s.sections.find? site with
    | none => exact .nil
    | some settings => exact sorted_perm settings
  refine ⟨fun site name => Named.find?_perm (hsection site) (h.sectionOf site) name,hsection,?_⟩
  exact mergeSort_perm (hnames ▸ (inOrder_perm s).map (·.1))

theorem hasOutgrown_iff : s.HasOutgrown ↔ ∃ sect ∈ Yaml.inOrder s.texts, ¬Yaml.Scanner.Fits sect := by
  have hfits (sect : String × Named String) :
      ¬Yaml.Scanner.Fits (sect.1.toList,Yaml.Write.sortByName (sect.2.map fun e => (e.1.toList,e.2.toList))) ↔
        Yaml.Write.outgrows 0 sect.1.toList = true ∨ ∃ e ∈ sect.2, Yaml.Write.outgrows 2 e.1.toList = true := by
    simp only [Yaml.Scanner.Fits,(Yaml.sortByName_perm _).mem_iff,List.forall_mem_map]
    rw [not_and_or]
    simp
  have hmem : (∃ sect ∈ Yaml.inOrder s.texts, ¬Yaml.Scanner.Fits sect) ↔ ∃ sect ∈ s.sections,
      ¬Yaml.Scanner.Fits (sect.1.toList,Yaml.Write.sortByName (sect.2.map fun e => (e.1.toList,e.2.toList))) := by
    simp only [Yaml.inOrder,List.mem_map,(Yaml.sortByName_perm _).mem_iff,Sites.texts]
    simp
  rw [hmem]
  exact exists_congr fun sect => and_congr_right fun _ => (hfits sect).symm

/-- What is read of written sites answers as they do, unless a name outgrows its line. -/
theorem read_write (h : s.IsDistinct) (hne : s.sections ≠ []) :
    (s.HasOutgrown → read s.write = .error (.document .malformed)) ∧
    (¬s.HasOutgrown → ∃ t, read s.write = .ok t ∧ t.AnswersLike s) := by
  have htexts : s.texts ≠ [] := by simpa [Sites.texts] using hne
  obtain ⟨hfits,hfails⟩ := Yaml.load_document htexts h.texts
  rw [read,write_eq]
  refine ⟨fun hlong => ?_,fun hshort => ?_⟩
  · rw [hfails (hasOutgrown_iff.mp hlong)]
  · have hall : ∀ sect ∈ Yaml.inOrder s.texts, Yaml.Scanner.Fits sect := by
      intro sect hsect
      by_contra hnot
      exact hshort (hasOutgrown_iff.mpr ⟨sect,hsect,hnot⟩)
    rw [hfits hall]
    exact ⟨_,ofValue_sections h.texts.inOrder,answersLike_inOrder h⟩

end

end Sites

namespace SitesFile
variable {f : SitesFile} {content : Option Chars}

def setAll (f : SitesFile) (changes : List (String × String × String)) : SitesFile :=
  changes.foldl (fun f change => f.set change.1 change.2.1 change.2.2) f

/-- A change of a setting that cannot be read any more, as a name outgrows its line. -/
def Outgrows (change : String × String × String) : Prop :=
  Yaml.Write.outgrows 0 change.1.toList = true ∨ Yaml.Write.outgrows 2 change.2.1.toList = true

instance (change : String × String × String) : Decidable (Outgrows change) := inferInstanceAs (Decidable (_ ∨ _))

theorem setAll_concat (f : SitesFile) (changes : List (String × String × String)) (change : String × String × String) :
    f.setAll (changes ++ [change]) = (f.setAll changes).set change.1 change.2.1 change.2.2 := List.foldl_append

theorem of_ofContent (h : ofContent content = .ok f) : f.content = content ∧ f.sites.IsDistinct := by
  cases content with
  | none =>
    cases h
    exact ⟨rfl,⟨List.nodup_nil,by simp⟩⟩
  | some text =>
    obtain ⟨s,hs,rfl⟩ := map_eq_ok.mp h
    exact ⟨rfl,Sites.isDistinct_of_read hs⟩

/-- What a change can be seen by stays in the sites. -/
theorem setAll_sites (h : f.sites.IsDistinct) (changes : List (String × String × String)) :
    (f.setAll changes).sites.IsDistinct ∧
    ((f.setAll changes).sites.HasOutgrown ↔ f.sites.HasOutgrown ∨ ∃ change ∈ changes, Outgrows change) := by
  induction changes using List.reverseRecOn with
  | nil => exact ⟨h,by simp [setAll]⟩
  | append_singleton changes change ih =>
    obtain ⟨hdistinct,hiff⟩ := ih
    rw [setAll_concat]
    refine ⟨hdistinct.set _ _ _,?_⟩
    rw [SitesFile.set,hdistinct.hasOutgrown_set,hiff,or_assoc]
    simp [Outgrows,or_and_right,exists_or]

/-- Sites that are opened again after some changes answer as before, unless a name has outgrown its line; then the
file cannot be read any more. Each change is seen in its own setting only. -/
theorem reload_setAll (h : ofContent content = .ok f) (changes : List (String × String × String)) :
    (changes = [] → (f.setAll changes).reload = .ok f) ∧
    (changes ≠ [] →
      ((f.sites.HasOutgrown ∨ ∃ change ∈ changes, Outgrows change) →
        (f.setAll changes).reload = .error (.document .malformed)) ∧
      (¬(f.sites.HasOutgrown ∨ ∃ change ∈ changes, Outgrows change) →
        ∃ g, (f.setAll changes).reload = .ok g ∧ g.sites.AnswersLike (f.setAll changes).sites)) ∧
    ∀ change site name, (f.setAll (changes ++ [change])).sites.get? site name =
      if site = change.1 ∧ name = change.2.1 then some change.2.2 else (f.setAll changes).sites.get? site name := by
  obtain ⟨hcontent,hdistinct⟩ := of_ofContent h
  refine ⟨?_,fun hne => ?_,fun change site name => ?_⟩
  · rintro rfl
    exact (congrArg ofContent hcontent).trans h
  · obtain ⟨hdistinct',hiff⟩ := setAll_sites hdistinct changes
    rw [← hiff]
    obtain ⟨before,change,rfl⟩ := (List.eq_nil_or_concat changes).resolve_left hne
    rw [List.concat_eq_append,setAll_concat] at hdistinct' ⊢
    obtain ⟨hlong,hshort⟩ := Sites.read_write hdistinct' (Sites.sections_set_ne_nil _ _ _ _)
    refine ⟨fun h => congrArg (Except.map _) (hlong h),fun h => ?_⟩
    obtain ⟨s,hs,hlike⟩ := hshort h
    exact ⟨⟨s,_⟩,congrArg (Except.map _) hs,hlike⟩
  · rw [setAll_concat]
    exact Sites.get?_set _ _ _ _ _ _

/-- A file with a number and a truth value. -/
def oldSites : Chars := "s: \x7bn: 1, b: yes\x7d\n".toList

set_option maxRecDepth 100000 in
/-- Settings that were a number and a truth value are kept as texts. -/
theorem old_settings_kept : ∃ f g, ofContent (some oldSites) = .ok f ∧
    (f.setAll [("s","k","v"),("t","n","")]).reload = .ok g ∧ g.sites.get? "s" "n" = some "1" ∧
    g.sites.get? "s" "b" = some "true" ∧ g.sites.get? "s" "k" = some "v" ∧ g.sites.get? "t" "n" = some "" := by
  have hread : (ofContent (some oldSites)).toOption =
      some ⟨⟨[("s",[("n","1"),("b","true")])]⟩,some oldSites⟩ := by decide +kernel
  have hopen := toOption_eq_some.mp hread
  have hshort : ¬(Sites.HasOutgrown ⟨[("s",[("n","1"),("b","true")])]⟩ ∨
      ∃ change ∈ [("s","k","v"),("t","n","")], Outgrows change) := by decide +kernel
  obtain ⟨g,hg,hlike⟩ := ((reload_setAll hopen [("s","k","v"),("t","n","")]).2.1 (by simp)).2 hshort
  refine ⟨_,g,hopen,hg,?_⟩
  simp only [hlike.get?]
  decide

/-- A name of 103 characters outgrows its line if each of them is written by an escape of ten. -/
example : Outgrows ("s",String.ofList (List.replicate 103 (Char.ofNat 0x1F600)),"v") := by
  refine .inr ?_
  rw [String.toList_ofList]
  decide +kernel

end SitesFile

end TrackerHub
