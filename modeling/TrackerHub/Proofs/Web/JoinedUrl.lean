import TrackerHub.Proofs.Text.SplitText
import TrackerHub.Web.Address

/-! # Resolved addresses

What an address is made of that is resolved against a base. An address with a location of its own, or
with a path from the root, takes no more from the base than its scheme and its location.
-/
namespace TrackerHub.Web.Url
open TrackerHub.Text

/-- An address without the blanks before it and the line breaks inside it. -/
def stripped (text : Chars) : Chars :=
  (text.dropWhile fun c => decide (c.toNat ≤ 32)).filter fun c => c != '\t' && c != '\r' && c != '\n'

/-- Cuts what stands behind a scheme into the other parts of an address. -/
def parseRest (scheme s : Chars) : Except UrlError Url := do
  let (location, s) :=
    match s with
    | '/' :: '/' :: r => cutAtAny ['/', '?', '#'] r
    | _ => ([], s)
  checkLocation location
  let (s, _, fragment) := partitionAt '#' s
  let (path, _, query) := partitionAt '?' s
  if location.any fun c => confusableChars.contains c.toNat then throw (.confusableHost location)
  pure ⟨scheme, location, path, query, fragment⟩

theorem parseWith_eq (scheme text : Chars) : parseWith scheme text =
    let r := (takeScheme (stripped text)).getD (scheme,stripped text)
    parseRest r.1 r.2 := rfl

theorem parseRest_eq_map (scheme s : Chars) :
    parseRest scheme s = (parseRest [] s).map fun u => { u with scheme } := by
  unfold parseRest
  split
  all_goals
    dsimp only
    generalize checkLocation _ = checked
    rcases checked with e | ⟨⟩
    · rfl
    · simp only [bind,Except.bind]
      split <;> rfl

/-- The scheme that stands before an address makes no difference to its other parts. -/
theorem parseWith_eq_map (scheme text : Chars) : ∃ own,
    parseWith scheme text = (parse text).map fun u => { u with scheme := own } := by
  rw [parse,parseWith_eq,parseWith_eq]
  cases takeScheme (stripped text) with
  | none => exact ⟨scheme,parseRest_eq_map scheme _⟩
  | some r =>
    refine ⟨r.1,?_⟩
    dsimp only [Option.getD_some]
    rw [parseRest_eq_map r.1]
    cases parseRest [] r.2 <;> rfl

theorem scheme_of_parseWith {scheme text : Chars} {u : Url} (h : parseWith scheme text = .ok u) :
    u.scheme = ((takeScheme (stripped text)).getD (scheme,stripped text)).1 := by
  rw [parseWith_eq] at h
  dsimp only at h
  rw [parseRest_eq_map] at h
  cases hr : parseRest [] ((takeScheme (stripped text)).getD (scheme,stripped text)).2 with
  | error e => rw [hr] at h; cases h
  | ok v => rw [hr] at h; cases h; rfl

@[simp] theorem takeParameters_scheme (u : Url) : u.takeParameters.1.scheme = u.scheme := by
  unfold takeParameters
  split
  · dsimp only
    split <;> rfl
  · rfl

@[simp] theorem takeParameters_location (u : Url) : u.takeParameters.1.location = u.location := by
  unfold takeParameters
  split
  · dsimp only
    split <;> rfl
  · rfl

@[simp] theorem withParameters_scheme (u : Url) (parameters : Chars) :
    (u.withParameters parameters).scheme = u.scheme := by
  unfold withParameters
  split <;> rfl

theorem toText_ne_nil {u : Url} (h : u.scheme ≠ []) : u.toText ≠ [] := by
  unfold toText
  dsimp only
  have hs : u.scheme.isEmpty = false := by simpa using h
  rw [hs]
  split <;> split <;> simp [h]

/-- Where an address leads from a base of the same scheme. Both are given with the parameters of their
paths. -/
def relocated (b u : Url × Chars) : Url :=
  let location := if schemeIn locatedSchemes u.1.scheme then b.1.location else u.1.location
  if schemeIn locatedSchemes u.1.scheme && !u.1.location.isEmpty then u.1.withParameters u.2
  else if u.1.path.isEmpty && u.2.isEmpty then
    { u.1 with
      location, path := b.1.path
      query := if u.1.query.isEmpty then b.1.query else u.1.query }.withParameters b.2
  else { u.1 with location, path := resolvePath b.1.path u.1.path }.withParameters u.2

/-- An address of another scheme than the base is full already. -/
theorem join_eq {base url : Chars} (hbase : base ≠ []) (hurl : url ≠ []) :
    join base url = (parse base).bind fun b => (parseWith b.scheme url).bind fun u =>
      if u.scheme != b.scheme || !schemeIn relativeSchemes u.scheme then .ok url
      else .ok (relocated b.takeParameters u.takeParameters).toText := by
  unfold join
  rw [if_neg (by simpa using hbase),if_neg (by simpa using hurl)]
  refine bind_congr fun b => ?_
  have hb := takeParameters_scheme b
  generalize b.takeParameters = b' at hb ⊢
  obtain ⟨b',bParameters⟩ := b'
  dsimp only at hb ⊢
  rw [hb]
  refine bind_congr fun u => ?_
  have hu := takeParameters_scheme u
  generalize u.takeParameters = u' at hu ⊢
  obtain ⟨u',parameters⟩ := u'
  dsimp only [relocated] at hu ⊢
  rw [← hu]
  split
  · rfl
  split
  · rfl
  split <;> split <;> rfl

@[simp] theorem relocated_scheme (b u : Url × Chars) : (relocated b u).scheme = u.1.scheme := by
  unfold relocated
  dsimp only
  split
  · simp
  · split <;> simp

/-- What is resolved against a base with a scheme is not empty. -/
theorem join_ne_nil {base url joined : Chars} (hurl : url ≠ []) {b : Url} (hb : parse base = .ok b)
    (hs : b.scheme ≠ []) (h : join base url = .ok joined) : joined ≠ [] := by
  have hbase : base ≠ [] := by
    rintro rfl
    cases hb
    exact hs rfl
  rw [join_eq hbase hurl,hb] at h
  cases hu : parseWith b.scheme url with
  | error e =>
    simp only [Except.bind,hu] at h
    cases h
  | ok u =>
    simp only [Except.bind,hu] at h
    split at h
    · cases h
      exact hurl
    next hsame =>
      have hscheme : u.scheme = b.scheme := by
        rw [Bool.not_eq_true,Bool.or_eq_false_iff] at hsame
        exact bne_eq_false_iff_eq.mp hsame.1
      cases h
      refine toText_ne_nil ?_
      rwa [relocated_scheme,takeParameters_scheme,hscheme]

theorem scheme_of_web {scheme rest : Chars} {u : Url}
    (hs : scheme = "http".toList ∨ scheme = "https".toList) (h : parse (scheme ++ ':' :: rest) = .ok u) :
    u.scheme = scheme := by
  rw [scheme_of_parseWith h]
  rcases hs with rfl | rfl <;>
    simp [stripped,takeScheme,partitionAt,List.takeWhile,isSchemeChar]

/-- Only the last segment of a path gives parameters off, so that a path from the root stays one. -/
theorem takeParameters_head {u : Url} (h : u.path.head? = some '/') :
    u.takeParameters.1.path.head? = some '/' := by
  unfold takeParameters
  split
  · dsimp only
    split
    · obtain ⟨rest,hp⟩ := List.head?_eq_some_iff.mp h
      rw [hp]
      have hlast : ((splitOn '/' ('/' :: rest)).getLast?.getD []).length ≤ rest.length := by
        cases hl : (splitOn '/' ('/' :: rest)).getLast? with
        | none => exact Nat.zero_le _
        | some last =>
          have hmem := List.mem_of_getLast? hl
          rw [splitOn,if_pos (beq_self_eq_true '/')] at hmem
          rcases List.mem_cons.mp hmem with rfl | hmem
          · exact Nat.zero_le _
          · exact length_le_of_mem_splitOn hmem
      rw [List.length_cons,Nat.succ_sub hlast]
      rfl
    · exact h
  · exact h

/-- Whether an address is fixed by what two bases of the same scheme have in common: it has a location of
its own, or a path from the root while the bases share their location. -/
def IsFixed (base base' url : Chars) : Prop :=
  ∃ b b', parse base = .ok b ∧ parse base' = .ok b' ∧ b.scheme ≠ [] ∧ b.scheme = b'.scheme ∧
    ∀ u, parse url = .ok u →
      u.location ≠ [] ∨ u.path.head? = some '/' ∧ b.location = b'.location

theorem schemeIn_located {scheme : Chars} (h : schemeIn relativeSchemes scheme) :
    schemeIn locatedSchemes scheme := by
  obtain ⟨name,hname,heq⟩ := List.any_eq_true.mp h
  have hsub : ∀ name ∈ relativeSchemes, name ∈ locatedSchemes := by decide
  exact List.any_eq_true.mpr ⟨name,hsub name hname,heq⟩

/-- An address that is fixed by two bases leads to the same place from both. -/
theorem join_of_isFixed {base base' url : Chars} (h : IsFixed base base' url) :
    join base url = join base' url := by
  obtain ⟨b,b',hb,hb',hne,hscheme,hfixed⟩ := h
  have hbase : base ≠ [] := by
    rintro rfl
    cases hb
    exact hne rfl
  have hbase' : base' ≠ [] := by
    rintro rfl
    cases hb'
    exact hne hscheme
  have hurl : url ≠ [] := by
    rintro rfl
    rcases hfixed {} rfl with h | h
    · exact h rfl
    · cases h.1
  rw [join_eq hbase hurl,join_eq hbase' hurl,hb,hb']
  dsimp only [Except.bind]
  rw [hscheme]
  cases hu : parseWith b'.scheme url with
  | error e => rfl
  | ok u =>
    -- Whether an address is fixed does not depend on the scheme that the bases lend it.
    have hown : u.location ≠ [] ∨ u.path.head? = some '/' ∧ b.location = b'.location := by
      obtain ⟨own,hown⟩ := parseWith_eq_map b'.scheme url
      rw [hu] at hown
      cases hp : parse url with
      | error e =>
        rw [hp] at hown
        cases hown
      | ok v =>
        rw [hp] at hown
        cases hown
        exact hfixed v hp
    dsimp only
    split
    · rfl
    next hrel =>
      have hlocated : schemeIn locatedSchemes u.scheme := by
        rw [Bool.not_eq_true,Bool.or_eq_false_iff,Bool.not_eq_false'] at hrel
        exact schemeIn_located hrel.2
      congr 2
      unfold relocated
      simp only [takeParameters_scheme,takeParameters_location,hlocated,if_true,Bool.true_and]
      rcases hown with hl | ⟨hhead,hlocation⟩
      · simp [hl]
      · obtain ⟨rest,hpath⟩ := List.head?_eq_some_iff.mp (takeParameters_head hhead)
        simp [resolvePath,hpath,hlocation]

end TrackerHub.Web.Url
