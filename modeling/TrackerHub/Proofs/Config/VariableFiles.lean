import TrackerHub.Proofs.Config.LoadedSettings

/-! # Files of variables

A file of variables adds the variables whose names are not there yet, letter for letter, while a field takes the
last of all variables that spell its name in any case. So a file leaves a field to the real variables unless it
adds another spelling of its name; what it adds comes last and counts.
-/
namespace TrackerHub

namespace Dotenv

/-- The variables to which a file gives a value, in its order. -/
def written (surroundings : Named String) (text : Text.Chars) : Named String :=
  (values surroundings (readLines (text.length + 1) text)).filterMap fun (name,value) => value.map fun v => (name,v)

/-- The variables that a file adds: those whose names are not among the real ones. -/
def added (surroundings : Named String) (text : Text.Chars) : Named String :=
  (written surroundings text).filter fun e => (surroundings.find? e.1).isNone

theorem extend_eq (surroundings : Named String) (text : Text.Chars) :
    extend surroundings text = surroundings ++ added surroundings text := by
  rw [extend,added,written,List.filter_filterMap]
  congr 1
  refine List.filterMap_congr fun ⟨name,value⟩ _ => ?_
  cases value <;> cases hold : surroundings.find? name <;> simp [hold,Option.filter]

end Dotenv

namespace Config

/-- Whether the name of a variable is that of the field, in any case. -/
def Spells (name : String) (f : Field) : Prop := name.map Char.toLower = "indexarr_" ++ f.name

/-- A configuration holds in a field what a variable of this text gives. -/
def HoldsVariable (homes : Homes) (c : Config) (f : Field) (t : String) : Prop :=
  ∃ read v, (f.name,read) ∈ variableReaders ∧ read (.text t) = .good v ∧ Holds homes c f v

/-- Two configurations hold the same in a field. -/
def SameAt (c c' : Config) : Field → Prop
  | .appName => c.appName = c'.appName
  | .stage => c.stage = c'.stage
  | .dirs => c.definitionDirs = c'.definitionDirs
  | .timeout => c.timeoutSeconds = c'.timeoutSeconds
  | .follow => c.followRedirects = c'.followRedirects
  | .agent => c.userAgent = c'.userAgent
  | .level => c.logLevel = c'.logLevel
  | .format => c.logFormat = c'.logFormat
  | .sites => c.sitesFile = c'.sitesFile
  | .limit => c.searchLimit = c'.searchLimit

section
variable {homes : Homes} {c c' : Config} {f : Field} {v : Value} {t : String}

theorem Names.unique {α : Type} {table : Named α} {x y : α} (hx : Names table v x) (hy : Names table v y) : x = y := by
  obtain ⟨t,rfl,hx⟩ := hx
  obtain ⟨t',ht,hy⟩ := hy
  cases ht
  exact Option.some.inj (hx.symm.trans hy)

theorem eq_of_eq_good {α : Type} {o : Outcome α} {x y : α} (hx : o = .good x) (hy : o = .good y) : x = y :=
  Schema.Outcome.good.inj (hx.symm.trans hy)

/-- A value gives each field one thing, but for the format of the log where it is left open. -/
theorem Holds.same (h : Holds homes c f v) (h' : Holds homes c' f v) (hv : v ≠ .null) : SameAt c c' f := by
  cases f with
  | appName => exact eq_of_eq_good h h'
  | stage => exact Names.unique h h'
  | dirs => exact eq_of_eq_good (readPaths_eq_good.mpr h) (readPaths_eq_good.mpr h')
  | timeout => exact eq_of_eq_good h.1 h'.1
  | follow => exact eq_of_eq_good h h'
  | agent => exact eq_of_eq_good h h'
  | level => exact Names.unique h h'
  | format => exact Names.unique (h.resolve_left fun hnull => hv hnull.1) (h'.resolve_left fun hnull => hv hnull.1)
  | sites => exact eq_of_eq_good (readPath_eq_good.mpr h) (readPath_eq_good.mpr h')
  | limit => exact eq_of_eq_good h.1 h'.1

end

/-! ## Readers of variables -/

theorem nodup_variableReaders : (variableReaders.map (·.1)).Nodup := by decide

theorem exists_reader (f : Field) : ∃ read, (f.name,read) ∈ variableReaders := by
  have hname : f.name ∈ variableReaders.map (·.1) := by cases f <;> decide
  obtain ⟨⟨_,read⟩,hread,rfl⟩ := List.mem_map.mp hname
  exact ⟨read,hread⟩

theorem reader_unique {name : String} {read read' : Value → Outcome Value} (h : (name,read) ∈ variableReaders)
    (h' : (name,read') ∈ variableReaders) : read = read' :=
  Option.some.inj ((Named.find?_of_mem nodup_variableReaders h).symm.trans (Named.find?_of_mem nodup_variableReaders h'))

theorem ne_null_of_reader {name : String} {read : Value → Outcome Value} {x v : Value}
    (h : (name,read) ∈ variableReaders) (hv : read x = .good v) : v ≠ .null := by
  have hmap {α : Type} {o : Outcome α} {g : α → Value} (hg : ∀ y, g y ≠ .null) (ho : o.map g = .good v) : v ≠ .null := by
    obtain ⟨y,-,rfl⟩ := Schema.Outcome.map_eq_good.mp ho
    exact hg y
  simp only [variableReaders,List.mem_cons,Prod.mk.injEq,List.not_mem_nil,or_false] at h
  rcases h with ⟨-,rfl⟩ | ⟨-,rfl⟩ | ⟨-,rfl⟩ | ⟨-,rfl⟩ | ⟨-,rfl⟩ | ⟨-,rfl⟩ | ⟨-,rfl⟩ | ⟨-,rfl⟩ | ⟨-,rfl⟩ | ⟨-,rfl⟩ <;>
    exact hmap (fun _ => by simp) hv

/-- The text of a variable gives a field one thing. -/
theorem HoldsVariable.same {homes : Homes} {c c' : Config} {f : Field} {t : String} (h : HoldsVariable homes c f t)
    (h' : HoldsVariable homes c' f t) : SameAt c c' f := by
  obtain ⟨read,v,hread,hv,hc⟩ := h
  obtain ⟨read',v',hread',hv',hc'⟩ := h'
  obtain rfl := reader_unique hread hread'
  obtain rfl := eq_of_eq_good hv hv'
  exact hc.same hc' (ne_null_of_reader hread hv)

/-! ## The layer of variables -/

theorem settingOf?_append (a b : Named String) (field : String) :
    settingOf? (a ++ b) field = (settingOf? b field).or (settingOf? a field) := by
  simp [settingOf?,List.find?_append,Option.map_or]

theorem settingOf?_eq_none_iff {a : Named String} {f : Field} :
    settingOf? a f.name = none ↔ ∀ name value, (name,value) ∈ a → ¬Spells name f := by
  simp [settingOf?,Spells]

/-- Of a field that no real variable sets a file adds all spellings. -/
theorem settingOf?_added {surroundings : Named String} {f : Field} (h : settingOf? surroundings f.name = none)
    (text : Text.Chars) :
    settingOf? (Dotenv.added surroundings text) f.name = settingOf? (Dotenv.written surroundings text) f.name := by
  -- No real variable spells the name of the field, so that no spelling of it is held back.
  have hnew (name : String) (hspells : Spells name f) : surroundings.find? name = none := by
    refine Option.eq_none_iff_forall_ne_some.mpr fun value hfound => ?_
    exact settingOf?_eq_none_iff.mp h name value (Named.mem_of_find? hfound) hspells
  have hboth (e : String × String) : (surroundings.find? e.1).isNone = true ∧
      (e.1.map Char.toLower == "indexarr_" ++ f.name) = true ↔ (e.1.map Char.toLower == "indexarr_" ++ f.name) = true :=
    and_iff_right_of_imp fun hspells => by rw [hnew e.1 (beq_iff_eq.mp hspells)]; rfl
  simp only [settingOf?,Dotenv.added,← List.filter_reverse,List.find?_filter,hboth,Bool.decide_eq_true]

theorem gives_name {name field : String} {v w : Value} (hfield : field ∈ fieldNames) :
    Gives name (.text field,v) w ↔ field = name ∧ v = w := by
  rw [gives_iff,flattenEntry_name hfield]
  simp

theorem lastGiven_of_forall {name : String} {layer : Schema.Entries} {v : Value} (hgiven : ∃ e ∈ layer, Gives name e v)
    (hall : ∀ e ∈ layer, ∀ w, Gives name e w → w = v) : LastGiven name layer v := by
  cases hfound : (flatten layer).find? name with
  | none =>
    obtain ⟨e,he,hv⟩ := hgiven
    exact absurd hv (isSilent_iff.mpr hfound e he v)
  | some w =>
    have hlast := lastGiven_iff.mpr hfound
    obtain ⟨before,e,after,rfl,hw,-⟩ := hlast
    exact hall e (by simp) w hw ▸ lastGiven_iff.mpr hfound

section
variable {surroundings : Named String} {layer : Schema.Entries} (h : ofVariables surroundings = .good layer)
include h

/-- A field that is set has an entry in the layer of variables, with what is read for it. -/
theorem exists_mem_ofVariables {field t : String} {read : Value → Outcome Value} (hread : (field,read) ∈ variableReaders)
    (ht : settingOf? surroundings field = some t) : ∃ v, read (.text t) = .good v ∧ (.text field,v) ∈ layer := by
  obtain ⟨entries,hentries,rfl⟩ := Schema.Outcome.map_eq_good.mp h
  obtain ⟨given,hgiven,hentry⟩ := exists_of_mem_forall₂ (Schema.Outcome.all_eq_good.mp hentries).flip hread
  dsimp only at hentry
  rw [ht] at hentry
  obtain ⟨v,hv,rfl⟩ := Schema.Outcome.map_eq_good.mp (Schema.Outcome.under_eq_good.mp hentry)
  exact ⟨v,hv,List.mem_filterMap.mpr ⟨_,hgiven,rfl⟩⟩

theorem gives_of_mem_ofVariables {f : Field} {e : Value × Value} {v : Value} (he : e ∈ layer) (hv : Gives f.name e v) :
    ∃ read t, (f.name,read) ∈ variableReaders ∧ settingOf? surroundings f.name = some t ∧ read (.text t) = .good v := by
  have hnames : ∀ name ∈ variableReaders.map (·.1), name ∈ fieldNames := by decide
  obtain ⟨entries,hentries,rfl⟩ := Schema.Outcome.map_eq_good.mp h
  obtain ⟨given,hgiven,rfl⟩ := List.mem_filterMap.mp he
  obtain ⟨⟨field,read⟩,hread,hentry⟩ := exists_of_mem_forall₂ (Schema.Outcome.all_eq_good.mp hentries) hgiven
  dsimp only at hentry
  split at hentry
  · cases hentry
  next t ht =>
    obtain ⟨w,hw,hpair⟩ := Schema.Outcome.map_eq_good.mp (Schema.Outcome.under_eq_good.mp hentry)
    obtain rfl := Option.some.inj hpair
    obtain ⟨rfl,rfl⟩ := (gives_name (hnames field (List.mem_map_of_mem (f := (·.1)) hread))).mp hv
    exact ⟨read,t,hread,ht,hw⟩

/-- The layer of variables gives a field that is set what is read of its setting. -/
theorem exists_lastGiven_ofVariables {f : Field} {t : String} (ht : settingOf? surroundings f.name = some t) :
    ∃ read v, (f.name,read) ∈ variableReaders ∧ read (.text t) = .good v ∧ LastGiven f.name layer v := by
  obtain ⟨read,hread⟩ := exists_reader f
  obtain ⟨v,hv,hmem⟩ := exists_mem_ofVariables h hread ht
  refine ⟨read,v,hread,hv,lastGiven_of_forall ⟨_,hmem,.byName f.name_mem⟩ fun e he w hw => ?_⟩
  -- No two readers have one name, so that all that the layer says of the field is read alike.
  obtain ⟨read',t',hread',ht',hw'⟩ := gives_of_mem_ofVariables h he hw
  obtain rfl := reader_unique hread hread'
  obtain rfl := Option.some.inj (ht.symm.trans ht')
  exact eq_of_eq_good hw' hv

end

/-! ## Loading -/

/-- The variables that are seen: the real ones, and after them those that the file of variables adds. -/
def Sources.seen (files : Files) (s : Sources) : Except LoadError (Named String) :=
  match s.variableFile with
  | none => .ok s.surroundings
  | some path => (readVariables files path).map (Dotenv.extend s.surroundings)

/-- The layer of the document, which is empty where there is none. -/
def Sources.fromDocument (files : Files) (s : Sources) : Except LoadError Schema.Entries :=
  match s.document with
  | none => .ok []
  | some path => (readRequired files path).bind ofDocument

theorem layers_eq (files : Files) (s : Sources) : s.layers files = (do
    let seen ← s.seen files
    let document ← s.fromDocument files
    let fromVariables ← ofOutcome (ofVariables seen)
    pure [document,fromVariables,s.overrides]) := by
  unfold Sources.layers Sources.seen Sources.fromDocument
  cases s.variableFile <;> cases s.document <;> rfl

section
variable {files : Files} {s : Sources} {seen : Named String}

/-- The layer of variables lies below what the command line says and above all else. -/
theorem exists_layers {layers : List Schema.Entries} (hseen : s.seen files = .ok seen)
    (h : s.layers files = .ok layers) : ∃ document fromVariables, layers = [document,fromVariables,s.overrides] ∧
      ofVariables seen = .good fromVariables := by
  rw [layers_eq] at h
  obtain ⟨found,hfound,h⟩ := bind_eq_ok.mp h
  obtain rfl := Except.ok.inj (hseen.symm.trans hfound)
  obtain ⟨document,-,h⟩ := bind_eq_ok.mp h
  obtain ⟨fromVariables,hvariables,h⟩ := bind_eq_ok.mp h
  cases h
  refine ⟨document,fromVariables,rfl,?_⟩
  cases ho : ofVariables seen <;> rw [ho] at hvariables <;> cases hvariables
  rfl

variable {c : Config} {f : Field}

theorem holds_of_override {v : Value} (hseen : s.seen files = .ok seen) (h : load files s = .ok c)
    (hv : LastGiven f.name s.overrides v) : Holds s.homes c f v := by
  obtain ⟨layers,hlayers⟩ := exists_layers_of_load h
  obtain ⟨document,fromVariables,rfl,-⟩ := exists_layers hseen hlayers
  exact holds_of_settles h hlayers ⟨[builtIn,document,fromVariables],s.overrides,[],rfl,hv,by simp⟩

/-- A field that the command line leaves alone holds what its variable gives it. -/
theorem holdsVariable_of_setting {t : String} (hseen : s.seen files = .ok seen) (h : load files s = .ok c)
    (hsilent : IsSilent f.name s.overrides) (ht : settingOf? seen f.name = some t) :
    HoldsVariable s.homes c f t := by
  obtain ⟨layers,hlayers⟩ := exists_layers_of_load h
  obtain ⟨document,fromVariables,rfl,hvariables⟩ := exists_layers hseen hlayers
  obtain ⟨read,v,hread,hv,hlast⟩ := exists_lastGiven_ofVariables hvariables ht
  exact ⟨read,v,hread,hv,
    holds_of_settles h hlayers ⟨[builtIn,document],fromVariables,[s.overrides],rfl,hlast,by simpa using hsilent⟩⟩

end

/-- What a file of variables does to each field of a configuration that is loaded. A field that the command line
gives stays with that. Any other field holds what the last variable gives it that the file adds under some spelling
of its name, and of a field that no real variable sets it adds all that it has. Where the file adds none, a field
that a real variable sets holds what that one gives it, the same as without the file. The file adds none just when
all spellings that it has a value for are, letter for letter, names of real variables. -/
theorem load_with_variableFile {files : Files} {s : Sources} {path : String} {text : Text.Chars} {c : Config}
    (hfile : s.variableFile = some path) (htext : readVariables files path = .ok text) (h : load files s = .ok c)
    (f : Field) :
    (∀ v, LastGiven f.name s.overrides v → Holds s.homes c f v ∧
      ∀ c₀, load files { s with variableFile := none } = .ok c₀ → Holds s.homes c₀ f v ∧ (v ≠ .null → SameAt c c₀ f)) ∧
    (IsSilent f.name s.overrides →
      (∀ t, settingOf? (Dotenv.added s.surroundings text) f.name = some t → HoldsVariable s.homes c f t) ∧
      (settingOf? (Dotenv.added s.surroundings text) f.name = none →
        ∀ t, settingOf? s.surroundings f.name = some t → HoldsVariable s.homes c f t ∧
          ∀ c₀, load files { s with variableFile := none } = .ok c₀ → SameAt c c₀ f)) ∧
    (settingOf? s.surroundings f.name = none →
      settingOf? (Dotenv.added s.surroundings text) f.name = settingOf? (Dotenv.written s.surroundings text) f.name) ∧
    (settingOf? (Dotenv.added s.surroundings text) f.name = none ↔
      ∀ name value, (name,value) ∈ Dotenv.written s.surroundings text → Spells name f →
        (s.surroundings.find? name).isSome) := by
  have hseen : s.seen files = .ok (s.surroundings ++ Dotenv.added s.surroundings text) := by
    rw [Sources.seen,hfile]
    dsimp only
    rw [htext,← Dotenv.extend_eq]
    rfl
  have hseen₀ : Sources.seen files { s with variableFile := none } = .ok s.surroundings := rfl
  refine ⟨fun v hv => ?_,fun hsilent => ⟨fun t ht => ?_,fun hnone t ht => ?_⟩,fun hnone => settingOf?_added hnone text,?_⟩
  · have hc := holds_of_override hseen h hv
    refine ⟨hc,fun c₀ h₀ => ?_⟩
    have hc₀ := holds_of_override hseen₀ h₀ hv
    exact ⟨hc₀,hc.same hc₀⟩
  · exact holdsVariable_of_setting hseen h hsilent (by rw [settingOf?_append,ht]; rfl)
  · have hc := holdsVariable_of_setting hseen h hsilent (by rw [settingOf?_append,hnone]; exact ht)
    refine ⟨hc,fun c₀ h₀ => ?_⟩
    have hc₀ := holdsVariable_of_setting hseen₀ h₀ hsilent ht
    exact hc.same hc₀
  · simp only [settingOf?_eq_none_iff,Dotenv.added,List.mem_filter,and_imp]
    refine forall_congr' fun name => forall_congr' fun value => forall_congr' fun hwritten => ?_
    cases s.surroundings.find? name <;> simp

/-- A level of the log in a real variable, and a file that spells its name in another case. -/
def respeltLevel : Sources where
  variableFile := some "hub.env"
  surroundings := [("indexarr_log_level","ERROR")]

/-- The file of `respeltLevel`. -/
def respeltFiles : Files := .ofList [("hub.env",Text.encodeUtf8 "INDEXARR_LOG_LEVEL=DEBUG\n".toList)]

set_option maxRecDepth 100000 in
theorem respelt_level_replaced : ∃ c c₀, load respeltFiles respeltLevel = .ok c ∧
    load respeltFiles { respeltLevel with variableFile := none } = .ok c₀ ∧
    c.logLevel = .debug ∧ c₀.logLevel = .error ∧ HoldsVariable respeltLevel.homes c .level "DEBUG" := by
  have htext : (readVariables respeltFiles "hub.env").toOption = some "INDEXARR_LOG_LEVEL=DEBUG\n".toList := by
    decide +kernel
  have hload : (load respeltFiles respeltLevel).toOption.map (·.logLevel) = some .debug := by decide +kernel
  have hload₀ : (load respeltFiles { respeltLevel with variableFile := none }).toOption.map (·.logLevel) =
      some .error := by decide +kernel
  have hsetting : settingOf? (Dotenv.added respeltLevel.surroundings "INDEXARR_LOG_LEVEL=DEBUG\n".toList)
      Field.level.name = some "DEBUG" := by decide +kernel
  obtain ⟨c,hc,hlevel⟩ := Option.map_eq_some_iff.mp hload
  obtain ⟨c₀,hc₀,hlevel₀⟩ := Option.map_eq_some_iff.mp hload₀
  have h := load_with_variableFile rfl (toOption_eq_some.mp htext) (toOption_eq_some.mp hc) .level
  exact ⟨c,c₀,toOption_eq_some.mp hc,toOption_eq_some.mp hc₀,hlevel,hlevel₀,
    (h.2.1 fun e he => absurd he List.not_mem_nil).1 _ hsetting⟩

end Config

end TrackerHub
