import TrackerHub.Proofs.Catalog.FilePlaces
import TrackerHub.Proofs.Config.Layers
import TrackerHub.Proofs.Definition.ReadCategories

/-! # Loaded settings

A configuration is loaded just when each field can be read from the value that settles it, and it then holds
what was read. For each field it is said here which values can be read and what they stand for, and then what can
be relied on in every configuration that is loaded. One value slips through: a timeout that is no number is not at
most zero, and so it is taken.
-/
namespace TrackerHub

namespace Binary64

def IsPositive : Binary64 → Prop
  | .finite s m _ => s = false ∧ 0 < m
  | .infinite s => s = false
  | .nan => False

theorem lt_zero_finite (s : Bool) (m : Nat) (e : Int) :
    (finite s m e).lt (zero false) = (s && decide (0 < m)) := by
  have hlt : (finite s m e).lt (zero false) = decide (signedUnits s m e (min e minExponent) < 0) := by
    simp [lt,zero,signedUnits]
  have hpos : 0 < Nat.pow 2 (e - min e minExponent).toNat := Nat.pow_pos Nat.two_pos
  rw [hlt,signedUnits]
  generalize Nat.pow 2 (e - min e minExponent).toNat = k at hpos
  cases s with
  | false => simpa using Int.mul_nonneg (Int.natCast_nonneg m) (Int.natCast_nonneg k)
  | true =>
    have hprod : (0 : Int) < m * k ↔ 0 < m := by
      rw [← Int.natCast_mul,Int.natCast_pos,Nat.mul_pos_iff_of_pos_right hpos]
    simp [hprod]

theorem not_le_zero_iff {x : Binary64} :
    (x.lt (.zero false) || x.isZero) = false ↔ x.IsPositive ∨ x = .nan := by
  cases x with
  | nan => simp [lt,isZero]
  | infinite s => cases s <;> simp [lt,isZero,IsPositive,zero]
  | finite s m e =>
    rw [lt_zero_finite]
    cases s <;> cases m <;> simp [isZero,IsPositive]

end Binary64

namespace Config

inductive Field where
  | appName | stage | dirs | timeout | follow | agent | level | format | sites | limit
  deriving DecidableEq

def Field.name : Field → String
  | .appName => "app_name"
  | .stage => "environment"
  | .dirs => "definition_dirs"
  | .timeout => "http_timeout_seconds"
  | .follow => "http_follow_redirects"
  | .agent => "http_user_agent"
  | .level => "log_level"
  | .format => "log_format"
  | .sites => "sites_file"
  | .limit => "tester_search_limit"

/-- A value is the text of a name, and the name stands for an entry of the table. -/
def Names {α : Type} (table : Named α) (v : Value) (x : α) : Prop := ∃ t, v = .text t ∧ table.find? t = some x

/-- A value is the text of a path, with the home directory in place of a tilde. -/
def GivesPath (homes : Homes) (v : Value) (path : String) : Prop :=
  ∃ t, v = .text t ∧ PathText.expandHome? homes t.toList = some path.toList

/-- A value gives a list of paths: a text its pieces, and a list its items. -/
def GivesPaths (homes : Homes) (v : Value) (paths : List String) : Prop :=
  (∃ t, v = .text t ∧ List.Forall₂ (fun piece path => PathText.expandHome? homes piece = some path.toList)
    (splitPaths t.toList) paths) ∨
  ∃ xs, (v = .list xs ∨ v = .tuple xs) ∧ List.Forall₂ (GivesPath homes) xs paths

/-- Whether a configuration holds in a field what a value gives it. -/
def Holds (homes : Homes) (c : Config) : Field → Value → Prop
  | .appName,v => (Schema.text v : Outcome String) = .good c.appName
  | .stage,v => Names Stage.table v c.stage
  | .dirs,v => GivesPaths homes v c.definitionDirs
  | .timeout,v => (Schema.float v : Outcome Binary64) = .good c.timeoutSeconds ∧
      (c.timeoutSeconds.IsPositive ∨ c.timeoutSeconds = .nan)
  | .follow,v => (Schema.bool v : Outcome Bool) = .good c.followRedirects
  | .agent,v => (Schema.text v : Outcome String) = .good c.userAgent
  | .level,v => Names LogLevel.table v c.logLevel
  | .format,v => v = .null ∧ c.logFormat = (if c.stage = .prod then .json else .console) ∨
      Names LogFormat.table v c.logFormat
  | .sites,v => GivesPath homes v c.sitesFile
  | .limit,v => (Schema.int v : Outcome Int) = .good c.searchLimit ∧ 1 ≤ c.searchLimit

/-! ## Readers -/

section
variable {homes : Homes} {v : Value}

theorem readName_eq_good {α : Type} {table : Named α} {x : α} : readName table v = .good x ↔ Names table v x := by
  unfold readName Names
  split
  next t =>
    split
    next y hy => simp [hy]
    next hnone => simp [hnone,Schema.Outcome.fault]
  next hother => exact iff_of_false (by simp [Schema.Outcome.fault]) fun ⟨t,ht,_⟩ => hother t ht

theorem readTimeout_eq_good {x : Binary64} : readTimeout v = .good x ↔
    (Schema.float v : Outcome Binary64) = .good x ∧ (x.IsPositive ∨ x = .nan) := by
  rw [readTimeout,Schema.Outcome.andThen_eq_good]
  constructor
  · rintro ⟨y,hy,h⟩
    split at h
    · cases h
    next hpos =>
      cases h
      exact ⟨hy,Binary64.not_le_zero_iff.mp (Bool.eq_false_iff.mpr hpos)⟩
  · rintro ⟨hx,hpos⟩
    exact ⟨x,hx,if_neg (Bool.eq_false_iff.mp (Binary64.not_le_zero_iff.mpr hpos))⟩

theorem readLimit_eq_good {n : Int} : readLimit v = .good n ↔ (Schema.int v : Outcome Int) = .good n ∧ 1 ≤ n := by
  rw [readLimit,Schema.Outcome.andThen_eq_good]
  constructor
  · rintro ⟨m,hm,h⟩
    split at h
    · cases h
    next hle =>
      cases h
      exact ⟨hm,Int.not_lt.mp hle⟩
  · rintro ⟨hn,hle⟩
    exact ⟨n,hn,if_neg (Int.not_lt.mpr hle)⟩

theorem readFormat_eq_good {o : Option LogFormat} : readFormat v = .good o ↔
    v = .null ∧ o = none ∨ ∃ x, Names LogFormat.table v x ∧ o = some x := by
  unfold readFormat
  split
  · simp [Names,eq_comm]
  next hother =>
    change (some <$> readName LogFormat.table v) = _ ↔ _
    simp only [Schema.Outcome.map_eq_good,readName_eq_good]
    constructor
    · rintro ⟨x,hx,rfl⟩
      exact .inr ⟨x,hx,rfl⟩
    · rintro (⟨rfl,-⟩ | ⟨x,hx,rfl⟩)
      · exact absurd rfl hother
      · exact ⟨x,hx,rfl⟩

theorem readPath_eq_good {path : String} : readPath homes v = .good path ↔ GivesPath homes v path := by
  unfold readPath GivesPath
  split
  next t =>
    split
    next p hp =>
      simp only [Schema.Outcome.good.injEq,Value.text.injEq,exists_eq_left',hp,Option.some.injEq]
      exact ⟨fun h => h ▸ (String.toList_ofList).symm,fun h => h ▸ String.ofList_toList⟩
    next hnone => simp [hnone]
  next hother => exact iff_of_false (by simp) fun ⟨t,ht,_⟩ => hother t ht

theorem readPaths_eq_good {paths : List String} : readPaths homes v = .good paths ↔ GivesPaths homes v paths := by
  unfold readPaths GivesPaths
  split
  next t =>
    rw [Schema.Outcome.all_eq_good,List.forall₂_map_left_iff]
    simp [readPath_eq_good,GivesPath]
  · rw [Schema.Outcome.all_eq_good]
    simp [readPath_eq_good]
  · rw [Schema.Outcome.all_eq_good]
    simp [readPath_eq_good]
  next htext hlist htuple =>
    refine iff_of_false (by simp) ?_
    rintro (⟨t,ht,-⟩ | ⟨xs,hxs | hxs,-⟩)
    · exact htext t ht
    · exact hlist xs hxs
    · exact htuple xs hxs

end

/-! ## The fields together -/

/-- Each field of a value is read for itself. -/
theorem validate_eq_good_iff {homes : Homes} {value : String → Value} {c : Config} :
    validate homes value = .good c ↔ ∀ f : Field, Holds homes c f (value f.name) := by
  simp only [validate,Schema.Outcome.seq_eq_good,Schema.Outcome.map_eq_good,Schema.Outcome.under_eq_good,
    readName_eq_good,readTimeout_eq_good,readLimit_eq_good,readFormat_eq_good,readPath_eq_good,readPaths_eq_good]
  constructor
  · rintro ⟨_,limit,⟨_,sites,⟨_,format,⟨_,level,⟨_,agent,⟨_,follow,⟨_,timeout,⟨_,dirs,⟨_,stage,⟨appName,hname,rfl⟩,
      hstage,rfl⟩,hdirs,rfl⟩,htimeout,rfl⟩,hfollow,rfl⟩,hagent,rfl⟩,hlevel,rfl⟩,hformat,rfl⟩,hsites,rfl⟩,hlimit,rfl⟩ f
    cases f with
    | appName => exact hname
    | stage => exact hstage
    | dirs => exact hdirs
    | timeout => exact htimeout
    | follow => exact hfollow
    | agent => exact hagent
    | level => exact hlevel
    | format =>
      rcases hformat with ⟨hnull,rfl⟩ | ⟨x,hx,rfl⟩
      · exact .inl ⟨hnull,rfl⟩
      · exact .inr hx
    | sites => exact hsites
    | limit => exact hlimit
  · intro h
    -- The format of the log is the one field whose default depends on another one.
    have hformat : ∃ format : Option LogFormat, (value "log_format" = .null ∧ format = none ∨
        ∃ x, Names LogFormat.table (value "log_format") x ∧ format = some x) ∧
        format.getD (if c.stage = .prod then .json else .console) = c.logFormat := by
      rcases h .format with ⟨hnull,hc⟩ | hx
      · exact ⟨none,.inl ⟨hnull,rfl⟩,hc.symm⟩
      · exact ⟨some c.logFormat,.inr ⟨_,hx,rfl⟩,rfl⟩
    obtain ⟨format,hformat,hc⟩ := hformat
    refine ⟨_,c.searchLimit,⟨_,c.sitesFile,⟨_,format,⟨_,c.logLevel,⟨_,c.userAgent,⟨_,c.followRedirects,
      ⟨_,c.timeoutSeconds,⟨_,c.definitionDirs,⟨_,c.stage,⟨c.appName,h .appName,rfl⟩,h .stage,rfl⟩,h .dirs,rfl⟩,
      h .timeout,rfl⟩,h .follow,rfl⟩,h .agent,rfl⟩,h .level,rfl⟩,hformat,rfl⟩,h .sites,rfl⟩,h .limit,?_⟩
    rw [complete,hc]

theorem Field.name_mem (f : Field) : f.name ∈ fieldNames := by
  cases f <;> decide

theorem Settles.unique {name : String} {layers : List Schema.Entries} {v w : Value} (hv : Settles name layers v)
    (hw : Settles name layers w) : v = w :=
  Option.some.inj ((settles_iff.mp hv).symm.trans (settles_iff.mp hw))

section
variable {files : Files} {s : Sources} {layers : List Schema.Entries} {c : Config}

theorem exists_layers_of_load (h : load files s = .ok c) : ∃ layers, s.layers files = .ok layers := by
  obtain ⟨layers,hlayers,-⟩ := bind_eq_ok.mp h
  exact ⟨layers,hlayers⟩

/-- A configuration is loaded just when it holds in each field what the layers settle there. -/
theorem load_eq_ok_iff (hlayers : s.layers files = .ok layers) : load files s = .ok c ↔
    ∀ f : Field, ∃ v, Settles f.name (builtIn :: layers) v ∧ Holds s.homes c f v := by
  choose! value hvalue using fun name (hname : name ∈ fieldNames) => exists_settles layers hname
  have hload : load files s = .ok c ↔ ∀ f : Field, Holds s.homes c f (value f.name) := by
    rw [← validate_eq_good_iff,load,hlayers,← ofEntries_eq_validate (fun e => mem_fieldNames_of_mem_merge)
      fun name hname => settles_iff.mp (hvalue name hname)]
    change ofOutcome _ = _ ↔ _
    cases ofEntries s.homes ((merge (builtIn :: layers)).map fun e => (Value.text e.1,e.2)) <;> simp [ofOutcome]
  rw [hload]
  constructor
  · exact fun h f => ⟨_,hvalue _ f.name_mem,h f⟩
  · intro h f
    obtain ⟨v,hv,hc⟩ := h f
    exact (hvalue _ f.name_mem).unique hv ▸ hc

theorem holds_of_settles {f : Field} {v : Value} (h : load files s = .ok c) (hlayers : s.layers files = .ok layers)
    (hv : Settles f.name (builtIn :: layers) v) : Holds s.homes c f v := by
  obtain ⟨w,hw,hc⟩ := (load_eq_ok_iff hlayers).mp h f
  exact hv.unique hw ▸ hc

end

end Config

open Text

/-! ## Directories -/

namespace PathText
variable {path : Chars}

/-- A path without a slash is in normal form. -/
theorem clean_of_not_mem (hne : path ≠ []) (h : '/' ∉ path) : clean path = path := by
  have hroot : root path = [] := by
    obtain ⟨c,r,rfl⟩ := List.exists_cons_of_ne_nil hne
    have hc : c ≠ '/' := fun hc => h (hc ▸ List.mem_cons_self)
    rw [root,List.takeWhile_cons_of_neg (by simpa using hc)]
    rfl
  by_cases hdot : path = ['.']
  · rw [hdot]
    rfl
  · simp [clean,hroot,segments_singleton ⟨hne,h,hdot⟩,Text.join,hne]

theorem expandHome?_of_not_mem (homes : Homes) (hne : path ≠ []) (h : '/' ∉ path) (htilde : path.head? ≠ some '~') :
    expandHome? homes path = some path := by
  unfold expandHome?
  split
  next user rest hsegments =>
    have hmem : '~' :: user ∈ segments path := hsegments ▸ List.mem_cons_self
    obtain ⟨hpiece,-⟩ := List.mem_filter.mp hmem
    rw [splitOn_of_not_mem h,List.mem_singleton] at hpiece
    exact absurd (hpiece ▸ rfl) htilde
  · rw [clean_of_not_mem hne h]

end PathText

namespace Config

/-- The pieces of a text of paths are not blank. -/
theorem exists_nonblank_of_mem_splitPaths {s piece : Chars} (h : piece ∈ splitPaths s) :
    ∃ c ∈ piece, isBlank c = false := by
  obtain ⟨-,hpiece⟩ := List.mem_filter.mp h
  simpa using hpiece

/-- The directory of a piece is blank only where the piece has a slash beside its blanks or leads to a home
directory. -/
theorem slash_of_blank {homes : Homes} {piece dir : Chars} (hpiece : ∃ c ∈ piece, isBlank c = false)
    (hdir : PathText.expandHome? homes piece = some dir) (hblank : ∀ c ∈ dir, isBlank c = true) :
    '/' ∈ piece ∨ piece.head? = some '~' := by
  by_contra hplain
  rw [not_or] at hplain
  obtain ⟨c,hc,hnonblank⟩ := hpiece
  rw [PathText.expandHome?_of_not_mem homes (List.ne_nil_of_mem hc) hplain.1 hplain.2] at hdir
  obtain rfl := Option.some.inj hdir
  exact absurd (hblank c hc) (by simp [hnonblank])

/-! ## Readable values -/

/-- Whether a value can be read for a field. -/
def Readable (homes : Homes) : Field → Value → Prop
  | .appName,v => ∃ t, (Schema.text v : Outcome String) = .good t
  | .stage,v => ∃ x, Names Stage.table v x
  | .dirs,v => ∃ paths, GivesPaths homes v paths
  | .timeout,v => ∃ x, (Schema.float v : Outcome Binary64) = .good x ∧ (x.IsPositive ∨ x = .nan)
  | .follow,v => ∃ b, (Schema.bool v : Outcome Bool) = .good b
  | .agent,v => ∃ t, (Schema.text v : Outcome String) = .good t
  | .level,v => ∃ x, Names LogLevel.table v x
  | .format,v => v = .null ∨ ∃ x, Names LogFormat.table v x
  | .sites,v => ∃ path, GivesPath homes v path
  | .limit,v => ∃ n, (Schema.int v : Outcome Int) = .good n ∧ 1 ≤ n

theorem Holds.readable {homes : Homes} {c : Config} {f : Field} {v : Value} (h : Holds homes c f v) :
    Readable homes f v := by
  cases f with
  | format => exact h.imp And.left fun hx => ⟨_,hx⟩
  | _ => exact ⟨_,h⟩

/-- Where each field can be read there is a configuration with all of them. -/
theorem exists_holds {homes : Homes} {value : Field → Value} (h : ∀ f, Readable homes f (value f)) :
    ∃ c, ∀ f, Holds homes c f (value f) := by
  obtain ⟨appName,hname⟩ := h .appName
  obtain ⟨stage,hstage⟩ := h .stage
  obtain ⟨dirs,hdirs⟩ := h .dirs
  obtain ⟨timeout,htimeout⟩ := h .timeout
  obtain ⟨follow,hfollow⟩ := h .follow
  obtain ⟨agent,hagent⟩ := h .agent
  obtain ⟨level,hlevel⟩ := h .level
  obtain ⟨sites,hsites⟩ := h .sites
  obtain ⟨limit,hlimit⟩ := h .limit
  obtain ⟨format,hformat⟩ : ∃ format, value .format = .null ∧ format = (if stage = .prod then LogFormat.json else .console) ∨
      Names LogFormat.table (value .format) format := by
    rcases h .format with hnull | ⟨x,hx⟩
    · exact ⟨_,.inl ⟨hnull,rfl⟩⟩
    · exact ⟨x,.inr hx⟩
  refine ⟨⟨appName,stage,dirs,timeout,follow,agent,level,format,sites,limit⟩,fun f => ?_⟩
  cases f <;> assumption

/-- Settings that are loaded are usable, but for a timeout that reads as no number: the timeout is above zero, the
limit is at least one, the format of the log is the given one or follows from the stage, and the directories of a
text come from its pieces that are not blank. All settings are loaded in which each field can be read, those with
such a timeout among them, and no others. -/
theorem loaded_settings {files : Files} {s : Sources} {layers : List Schema.Entries} (h : s.layers files = .ok layers) :
    (∀ c, load files s = .ok c →
      (c.timeoutSeconds.IsPositive ∨ c.timeoutSeconds = .nan ∧ ∃ v,
        Settles "http_timeout_seconds" (builtIn :: layers) v ∧ (Schema.float v : Outcome Binary64) = .good .nan) ∧
      1 ≤ c.searchLimit ∧
      (∀ v, Settles "log_format" (builtIn :: layers) v →
        v = .null ∧ (c.logFormat = .json ↔ c.stage = .prod) ∨ Names LogFormat.table v c.logFormat) ∧
      ∀ t, Settles "definition_dirs" (builtIn :: layers) (.text t) → ∀ dir ∈ c.definitionDirs,
        ∃ piece ∈ splitPaths t.toList, (∃ x ∈ piece, isBlank x = false) ∧
          PathText.expandHome? s.homes piece = some dir.toList ∧
          ((∀ x ∈ dir.toList, isBlank x = true) → '/' ∈ piece ∨ piece.head? = some '~')) ∧
    ((∃ c, load files s = .ok c) ↔
      ∀ f : Field, ∃ v, Settles f.name (builtIn :: layers) v ∧ Readable s.homes f v) := by
  refine ⟨fun c hc => ⟨?_,?_,fun v hv => ?_,fun t ht dir hdir => ?_⟩,?_,fun hread => ?_⟩
  · obtain ⟨v,hv,hread,hpos | hnan⟩ := (load_eq_ok_iff h).mp hc .timeout
    · exact .inl hpos
    · exact .inr ⟨hnan,v,hv,hnan ▸ hread⟩
  · obtain ⟨v,-,-,hlimit⟩ := (load_eq_ok_iff h).mp hc .limit
    exact hlimit
  · have hholds : Holds s.homes c .format v := holds_of_settles hc h hv
    refine hholds.imp_left (And.imp_right fun hformat => ?_)
    rw [hformat]
    split <;> simp [*]
  · have hholds : Holds s.homes c .dirs (.text t) := holds_of_settles hc h ht
    rcases hholds with ⟨t',ht',hpieces⟩ | ⟨xs,hxs | hxs,-⟩
    · cases ht'
      obtain ⟨piece,hpiece,hexpand⟩ := exists_of_mem_forall₂ hpieces hdir
      have hnonblank := exists_nonblank_of_mem_splitPaths hpiece
      exact ⟨piece,hpiece,hnonblank,hexpand,slash_of_blank hnonblank hexpand⟩
    · cases hxs
    · cases hxs
  · rintro ⟨c,hc⟩ f
    obtain ⟨v,hv,hcv⟩ := (load_eq_ok_iff h).mp hc f
    exact ⟨v,hv,hcv.readable⟩
  · choose value hvalue hread using hread
    obtain ⟨c,hc⟩ := exists_holds hread
    exact ⟨c,(load_eq_ok_iff h).mpr fun f => ⟨value f,hvalue f,hc f⟩⟩

/-- A timeout that is no number, given by a variable. -/
def numberlessTimeout : Sources where
  surroundings := [("INDEXARR_HTTP_TIMEOUT_SECONDS","nan")]

theorem numberless_timeout_loaded : ∃ layers c, numberlessTimeout.layers (.ofList []) = .ok layers ∧
    load (.ofList []) numberlessTimeout = .ok c ∧ ¬c.timeoutSeconds.IsPositive ∧
    ∃ v, Settles "http_timeout_seconds" (builtIn :: layers) v ∧ (Schema.float v : Outcome Binary64) = .good .nan := by
  have hlayers : (numberlessTimeout.layers (.ofList [])).toOption.isSome := by decide +kernel
  have hload : (load (.ofList []) numberlessTimeout).toOption.map (·.timeoutSeconds) = some .nan := by decide +kernel
  obtain ⟨layers,hlayers⟩ := Option.isSome_iff_exists.mp hlayers
  obtain ⟨c,hc,hnan⟩ := Option.map_eq_some_iff.mp hload
  have hsettings := (loaded_settings (toOption_eq_some.mp hlayers)).1 c (toOption_eq_some.mp hc)
  have hnot : ¬c.timeoutSeconds.IsPositive := hnan ▸ id
  exact ⟨layers,c,toOption_eq_some.mp hlayers,toOption_eq_some.mp hc,hnot,(hsettings.1.resolve_left hnot).2⟩

end Config

end TrackerHub
