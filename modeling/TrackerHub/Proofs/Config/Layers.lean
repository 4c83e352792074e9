import Mathlib.Logic.Relation
import TrackerHub.Config.Layers
import TrackerHub.Proofs.NamedEntries
import TrackerHub.Proofs.ReadLists

/-! # Settled fields

A field of the configuration is settled by the highest layer that mentions it, and in that layer by the last
mention. However a layer spells what it says of a field, the configuration is the same.
-/
namespace TrackerHub

namespace Config

/-- What an entry gives a field: its value if it has the name of the field, or the last value of the key of the
field if it is its section. -/
inductive Gives (name : String) : Value × Value → Value → Prop
  | byName {v : Value} (hname : name ∈ fieldNames) : Gives name (.text name,v) v
  | inSection {place key : String} {earlier later : Schema.Entries} {v : Value}
      (hfield : (place,key,name) ∈ sectionFields) (hlater : ∀ e ∈ later, e.1 ≠ .text key) :
      Gives name (.text place,.map (earlier ++ (.text key,v) :: later)) v

/-- No entry of the layer mentions the field. -/
def IsSilent (name : String) (layer : Schema.Entries) : Prop := ∀ e ∈ layer, ∀ v, ¬Gives name e v

/-- What the last mention of a field in a layer gives it. -/
def LastGiven (name : String) (layer : Schema.Entries) (v : Value) : Prop :=
  ∃ before e after, layer = before ++ e :: after ∧ Gives name e v ∧ IsSilent name after

/-- What the highest of the layers that mention a field gives it. -/
def Settles (name : String) (layers : List Schema.Entries) (v : Value) : Prop :=
  ∃ lower layer higher, layers = lower ++ layer :: higher ∧ LastGiven name layer v ∧
    ∀ l ∈ higher, IsSilent name l

/-- Reads each field of a configuration from a value of its own. -/
def validate (homes : Homes) (value : String → Value) : Outcome Config :=
  let fieldOf {α : Type} (name : String) (read : Value → Outcome α) : Outcome α :=
    (read (value name)).under (.key name)
  complete <$> fieldOf "app_name" Schema.text <*> fieldOf "environment" (readName Stage.table)
    <*> fieldOf "definition_dirs" (readPaths homes) <*> fieldOf "http_timeout_seconds" readTimeout
    <*> fieldOf "http_follow_redirects" Schema.bool <*> fieldOf "http_user_agent" Schema.text
    <*> fieldOf "log_level" (readName LogLevel.table) <*> fieldOf "log_format" readFormat
    <*> fieldOf "sites_file" (readPath homes) <*> fieldOf "tester_search_limit" readLimit

/-- The known keys of a section, in order, under the names of their fields. -/
inductive Spread (place : String) : Schema.Entries → Schema.Entries → Prop
  | nil : Spread place [] []
  | known {key name : String} {v : Value} {inner flat : Schema.Entries}
      (hfield : (place,key,name) ∈ sectionFields) (hrest : Spread place inner flat) :
      Spread place ((.text key,v) :: inner) ((.text name,v) :: flat)
  | unknown {e : Value × Value} {inner flat : Schema.Entries}
      (hkey : ∀ key name, (place,key,name) ∈ sectionFields → e.1 ≠ .text key)
      (hrest : Spread place inner flat) : Spread place (e :: inner) flat

/-- A layer is written in another way: an entry or a key that no field knows is left out, or a section is
replaced by its known keys. -/
inductive Respelt : Schema.Entries → Schema.Entries → Prop
  | withoutEntry {before after : Schema.Entries} {e : Value × Value} (hsilent : ∀ name v, ¬Gives name e v) :
      Respelt (before ++ e :: after) (before ++ after)
  | withoutKey {before after earlier later : Schema.Entries} {place : String} {e : Value × Value}
      (hplace : place ∉ fieldNames)
      (hkey : ∀ key name, (place,key,name) ∈ sectionFields → e.1 ≠ .text key) :
      Respelt (before ++ (.text place,.map (earlier ++ e :: later)) :: after)
        (before ++ (.text place,.map (earlier ++ later)) :: after)
  | flat {before after inner flat : Schema.Entries} {place : String} (hplace : place ∉ fieldNames)
      (hspread : Spread place inner flat) :
      Respelt (before ++ (.text place,.map inner) :: after) (before ++ flat ++ after)

/-! ## Entries -/

theorem eq_of_place_key :
    ∀ f ∈ sectionFields, ∀ g ∈ sectionFields, f.1 = g.1 → f.2.1 = g.2.1 → f = g := by
  decide

theorem eq_of_name : ∀ f ∈ sectionFields, ∀ g ∈ sectionFields, f.2.2 = g.2.2 → f = g := by
  decide

theorem place_not_mem_fieldNames : ∀ f ∈ sectionFields, f.1 ∉ fieldNames := by
  decide

theorem name_mem_fieldNames {place key name : String} (h : (place,key,name) ∈ sectionFields) :
    name ∈ fieldNames :=
  List.mem_append_right _ (List.mem_map_of_mem (f := fun f => f.2.2) h)

def fieldAt (place : String) (e : Value × Value) : Option (String × Value) :=
  match e.1 with
  | .text key => (sectionFields.find? fun f => f.1 == place && f.2.1 == key).map fun f => (f.2.2,e.2)
  | _ => none

theorem fieldAt_eq_some {place name : String} {e : Value × Value} {v : Value} :
    fieldAt place e = some (name,v) ↔ ∃ key, (place,key,name) ∈ sectionFields ∧ e = (.text key,v) := by
  obtain ⟨k,x⟩ := e
  cases k with
  | text key =>
    simp only [fieldAt,Option.map_eq_some_iff,Prod.mk.injEq,Value.text.injEq]
    constructor
    · rintro ⟨f,hf,rfl,rfl⟩
      obtain ⟨rfl,rfl⟩ : f.1 = place ∧ f.2.1 = key := by simpa using List.find?_some hf
      exact ⟨f.2.1,List.mem_of_find?_eq_some hf,rfl,rfl⟩
    · rintro ⟨key,hfield,rfl,rfl⟩
      obtain ⟨g,hg⟩ := Option.isSome_iff_exists.mp
        (List.find?_isSome.mpr ⟨_,hfield,by simp⟩ :
          (sectionFields.find? fun f => f.1 == place && f.2.1 == key).isSome)
      obtain ⟨hplace,hkey⟩ : g.1 = place ∧ g.2.1 = key := by simpa using List.find?_some hg
      rw [eq_of_place_key g (List.mem_of_find?_eq_some hg) _ hfield hplace hkey] at hg
      exact ⟨_,hg,rfl,rfl⟩
  | _ => simp [fieldAt]

theorem fieldAt_eq_none {place : String} {e : Value × Value}
    (h : ∀ key name, (place,key,name) ∈ sectionFields → e.1 ≠ .text key) : fieldAt place e = none := by
  refine Option.eq_none_iff_forall_ne_some.mpr fun given hgiven => ?_
  obtain ⟨key,hfield,rfl⟩ := fieldAt_eq_some.mp hgiven
  exact h key _ hfield rfl

theorem flattenEntry_name {name : String} (hname : name ∈ fieldNames) (v : Value) :
    flattenEntry (.text name,v) = [(name,v)] := by
  unfold flattenEntry
  exact if_pos (List.contains_iff_mem.mpr hname)

theorem flattenEntry_section {place : String} (hplace : place ∉ fieldNames) (inner : Schema.Entries) :
    flattenEntry (.text place,.map inner) = inner.filterMap (fieldAt place) := by
  rw [flattenEntry,if_neg (mt List.contains_iff_mem.mp hplace)]
  rfl

theorem find?_section {place name : String} {inner : Schema.Entries} {v : Value} :
    (Named.ofList (inner.filterMap (fieldAt place))).find? name = some v ↔
      ∃ key earlier later, (place,key,name) ∈ sectionFields ∧ inner = earlier ++ (.text key,v) :: later ∧
        ∀ e ∈ later, e.1 ≠ .text key := by
  have hone (e : Value × Value) (w : Value) :
      (Named.ofList (fieldAt place e).toList).find? name = some w ↔ fieldAt place e = some (name,w) := by
    cases fieldAt place e <;> simp [Prod.ext_iff]
  -- A field has one key in its section, so that no later entry with another key gives it a value.
  rw [List.filterMap_eq_flatMap_toList,Named.find?_ofList_flatMap,findSome?_reverse_eq_some]
  simp only [hone,Option.eq_none_iff_forall_ne_some,ne_eq,fieldAt_eq_some]
  constructor
  · rintro ⟨earlier,e,later,rfl,⟨key,hfield,rfl⟩,hlater⟩
    refine ⟨key,earlier,later,hfield,rfl,fun e he hkey => ?_⟩
    exact hlater e he e.2 ⟨key,hfield,Prod.ext hkey rfl⟩
  · rintro ⟨key,earlier,later,hfield,rfl,hlater⟩
    refine ⟨earlier,_,later,rfl,⟨key,hfield,rfl⟩,fun e he w => ?_⟩
    rintro ⟨other,hother,rfl⟩
    have hsame := eq_of_name _ hother _ hfield rfl
    cases hsame
    exact hlater _ he rfl

theorem gives_iff {name : String} {e : Value × Value} {v : Value} :
    Gives name e v ↔ (Named.ofList (flattenEntry e)).find? name = some v := by
  constructor
  · rintro (⟨hname⟩ | ⟨hfield,hlater⟩)
    · simp [flattenEntry_name hname]
    · rw [flattenEntry_section (place_not_mem_fieldNames _ hfield),find?_section]
      exact ⟨_,_,_,hfield,rfl,hlater⟩
  · intro h
    obtain ⟨k,x⟩ := e
    cases k with
    | text key =>
      -- A mapping under the name of a field is its value and no section.
      by_cases hkey : key ∈ fieldNames
      · obtain ⟨rfl,rfl⟩ : key = name ∧ x = v := by simpa [flattenEntry_name hkey] using h
        exact .byName hkey
      · cases x with
        | map inner =>
          rw [flattenEntry_section hkey,find?_section] at h
          obtain ⟨key,earlier,later,hfield,rfl,hlater⟩ := h
          exact .inSection hfield hlater
        | _ => simp [flattenEntry,hkey] at h
    | _ => simp [flattenEntry] at h

/-! ## Layers -/

theorem find?_flatten (layer : Schema.Entries) (name : String) : (flatten layer).find? name =
    layer.reverse.findSome? fun e => (Named.ofList (flattenEntry e)).find? name :=
  Named.find?_ofList_flatMap flattenEntry layer name

theorem lastGiven_iff {name : String} {layer : Schema.Entries} {v : Value} :
    LastGiven name layer v ↔ (flatten layer).find? name = some v := by
  rw [find?_flatten,findSome?_reverse_eq_some]
  simp only [LastGiven,IsSilent,gives_iff,Option.eq_none_iff_forall_ne_some,ne_eq]

theorem isSilent_iff {name : String} {layer : Schema.Entries} :
    IsSilent name layer ↔ (flatten layer).find? name = none := by
  rw [find?_flatten,List.findSome?_eq_none_iff]
  simp only [IsSilent,gives_iff,Option.eq_none_iff_forall_ne_some,ne_eq,List.mem_reverse]

theorem ofList_flatten (layer : Schema.Entries) : Named.ofList (flatten layer) = flatten layer :=
  Named.ofList_eq (Named.nodup_ofList _)

/-- The layers in one give each field what settles it. -/
theorem settles_iff {name : String} {layers : List Schema.Entries} {v : Value} :
    Settles name layers v ↔ (merge layers).find? name = some v := by
  rw [merge,Named.find?_ofList_flatMap,findSome?_reverse_eq_some]
  simp only [Settles,lastGiven_iff,isSilent_iff,ofList_flatten]

theorem mem_fieldNames_of_mem_merge {layers : List Schema.Entries} {e : String × Value}
    (h : e ∈ merge layers) : e.1 ∈ fieldNames := by
  obtain ⟨v,hv⟩ := Option.isSome_iff_exists.mp (Named.find?_isSome_of_mem h)
  obtain ⟨-,layer,-,-,⟨-,given,-,-,hgives,-⟩,-⟩ := settles_iff.mpr hv
  rcases hgives with ⟨hname⟩ | ⟨hfield,-⟩
  · exact hname
  · exact name_mem_fieldNames hfield

theorem exists_settles (layers : List Schema.Entries) {name : String} (h : name ∈ fieldNames) :
    ∃ v, Settles name (builtIn :: layers) v := by
  have hbuiltIn : ∀ name ∈ fieldNames, ((flatten builtIn).find? name).isSome := by decide
  obtain ⟨usual,husual⟩ := Option.isSome_iff_exists.mp (hbuiltIn name h)
  cases hfound : (merge (builtIn :: layers)).find? name with
  | some v => exact ⟨v,settles_iff.mpr hfound⟩
  | none =>
    rw [merge,Named.find?_ofList_flatMap,List.findSome?_eq_none_iff] at hfound
    have hnone := hfound builtIn (by simp)
    rw [ofList_flatten,husual] at hnone
    cases hnone

/-! ## Fields -/

theorem find?_entries (es : Named Value) (name : String) :
    Value.find? (es.map fun e => (Value.text e.1,e.2)) (.text name) = es.find? name := by
  rw [Value.find?,List.find?_map,Option.map_map]
  rfl

section
variable {es : Named Value} {value : String → Value}

theorem field_eq {α : Type} {name : String} {usual : α} {read : Value → Outcome α}
    (h : es.find? name = some (value name)) :
    Schema.field name usual read (es.map fun e => (Value.text e.1,e.2)) =
      (read (value name)).under (.key name) := by
  rw [Schema.field,find?_entries,h]

/-- Where no section is among the fields, a field is read by its own name. -/
theorem sectioned_eq {α : Type} {place key name : String} {usual : α} {read : Value → Outcome α}
    (hplace : es.find? place = none) (h : es.find? name = some (value name)) :
    sectioned place key name usual read (es.map fun e => (Value.text e.1,e.2)) =
      (read (value name)).under (.key name) := by
  simp only [sectioned,find?_entries,hplace]
  exact field_eq h

end

theorem ofEntries_eq_validate {homes : Homes} {es : Named Value} {value : String → Value}
    (hnames : ∀ e ∈ es, e.1 ∈ fieldNames)
    (hvalue : ∀ name ∈ fieldNames, es.find? name = some (value name)) :
    ofEntries homes (es.map fun e => (Value.text e.1,e.2)) = validate homes value := by
  have hplace (place : String) (h : place ∉ fieldNames) : es.find? place = none := by
    rw [Named.find?,Option.map_eq_none_iff,List.find?_eq_none]
    intro e he hname
    exact h ((beq_iff_eq.mp hname) ▸ hnames e he)
  simp only [ofEntries,validate,field_eq (hvalue "app_name" (by decide)),
    field_eq (hvalue "environment" (by decide)),
    sectioned_eq (hplace "definitions" (by decide)) (hvalue "definition_dirs" (by decide)),
    sectioned_eq (hplace "http" (by decide)) (hvalue "http_timeout_seconds" (by decide)),
    sectioned_eq (hplace "http" (by decide)) (hvalue "http_follow_redirects" (by decide)),
    sectioned_eq (hplace "http" (by decide)) (hvalue "http_user_agent" (by decide)),
    sectioned_eq (hplace "logging" (by decide)) (hvalue "log_level" (by decide)),
    sectioned_eq (hplace "logging" (by decide)) (hvalue "log_format" (by decide)),
    sectioned_eq (hplace "sites" (by decide)) (hvalue "sites_file" (by decide)),
    sectioned_eq (hplace "tester" (by decide)) (hvalue "tester_search_limit" (by decide))]

/-! ## Spellings -/

theorem flatMap_of_spread {place : String} {inner flat : Schema.Entries} (h : Spread place inner flat) :
    flat.flatMap flattenEntry = inner.filterMap (fieldAt place) := by
  induction h with
  | nil => rfl
  | known hfield _ ih =>
    rw [List.flatMap_cons,flattenEntry_name (name_mem_fieldNames hfield),ih,
      List.filterMap_cons_some (fieldAt_eq_some.mpr ⟨_,hfield,rfl⟩)]
    rfl
  | unknown hkey _ ih => rw [ih,List.filterMap_cons_none (fieldAt_eq_none hkey)]

theorem flattenEntry_eq_nil {e : Value × Value} (h : ∀ name v, ¬Gives name e v) : flattenEntry e = [] := by
  refine List.eq_nil_iff_forall_not_mem.mpr fun given hgiven => ?_
  have hfound := Named.find?_isSome_of_mem (List.mem_reverse.mpr hgiven)
  rw [← Named.find?_ofList] at hfound
  obtain ⟨v,hv⟩ := Option.isSome_iff_exists.mp hfound
  exact h _ v (gives_iff.mpr hv)

theorem flatten_of_respelt {layer other : Schema.Entries} (h : Respelt layer other) :
    flatten other = flatten layer := by
  unfold flatten
  congr 1
  cases h with
  | withoutEntry hsilent => simp [flattenEntry_eq_nil hsilent]
  | withoutKey hplace hkey => simp [flattenEntry_section hplace,fieldAt_eq_none hkey]
  | flat hplace hspread => simp [flattenEntry_section hplace,flatMap_of_spread hspread]

theorem flatten_of_respelts {layer other : Schema.Entries} (h : Relation.ReflTransGen Respelt layer other) :
    flatten other = flatten layer := by
  induction h with
  | refl => rfl
  | tail _ hlast ih => rw [flatten_of_respelt hlast,ih]

theorem flatMap_flatten_of_forall₂ {layers others : List Schema.Entries}
    (h : List.Forall₂ (Relation.ReflTransGen Respelt) layers others) :
    others.flatMap flatten = layers.flatMap flatten := by
  induction h with
  | nil => rfl
  | cons hlayer _ ih => rw [List.flatMap_cons,List.flatMap_cons,flatten_of_respelts hlayer,ih]

/-- A document that names a field twice, a variable, and a command line with a key that no field knows. -/
def mixedSources : Sources where
  document := some "hub.yml"
  surroundings := [("INDEXARR_HTTP_USER_AGENT","b")]
  overrides := [(.text "http",.map [(.text "timeout_seconds",.int 5),(.text "colour",.int 1)]),
    (.text "tester_search_limit",.int 7)]

def mixedFiles : Files := .ofList [("hub.yml",Text.encodeUtf8
  "log_level: ERROR\nlogging:\n  level: DEBUG\nhttp:\n  user_agent: a\nextra: 3\n".toList)]

end Config

end TrackerHub
