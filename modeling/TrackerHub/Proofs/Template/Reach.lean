import TrackerHub.Proofs.Template.Nodes

/-! # What a template can see

A template is filled in from the entries of its context that its paths name, and from no other ones: what
else the context holds, such as a password, cannot show in the text or in a failure. Inside a section that
is repeated, a path without a dollar sign begins at an item; outside of all of them it begins at the context.
-/
namespace TrackerHub.Template

/-! ## Paths -/

/-- Whether a path names no entry: it is the root or the current value as a whole. -/
def Path.isBare (p : Path) : Bool := p.keys.isEmpty

mutual

/-- The paths in a part, at any nesting. -/
def Node.paths : Node → List Path
  | .text _ => []
  | .field p => [p]
  | .range p body => p :: pathsOf body
  | .choice p yes no => p :: (pathsOf yes ++ pathsOf no)

def pathsOf : List Node → List Path
  | [] => []
  | n :: r => n.paths ++ pathsOf r

end

mutual

/-- The paths in a part that stand outside of all sections that are repeated. -/
def Node.outerPaths : Node → List Path
  | .text _ => []
  | .field p => [p]
  | .range p _ => [p]
  | .choice p yes no => p :: (outerPathsOf yes ++ outerPathsOf no)

def outerPathsOf : List Node → List Path
  | [] => []
  | n :: r => n.outerPaths ++ outerPathsOf r

end

def firstNames (nodes : List Node) : List String := (pathsOf nodes).filterMap fun p => p.keys.head?

mutual

theorem Node.outerPaths_subset : ∀ n : Node, n.outerPaths ⊆ n.paths
  | .text _ => List.Subset.refl _
  | .field _ => List.Subset.refl _
  | .range p body => List.cons_subset_cons p (List.nil_subset _)
  | .choice p yes no => by
    rw [Node.outerPaths,Node.paths]
    exact List.cons_subset_cons p (List.append_subset.mpr
      ⟨List.subset_append_of_subset_left _ (outerPathsOf_subset yes),
        List.subset_append_of_subset_right _ (outerPathsOf_subset no)⟩)

theorem outerPathsOf_subset : ∀ ns : List Node, outerPathsOf ns ⊆ pathsOf ns
  | [] => List.Subset.refl _
  | n :: r => by
    rw [outerPathsOf,pathsOf]
    exact List.append_subset.mpr ⟨List.subset_append_of_subset_left _ n.outerPaths_subset,
      List.subset_append_of_subset_right _ (outerPathsOf_subset r)⟩

end

/-! ## Filling in depends on where the paths lead -/

section
variable {root root' here here' : Value}

mutual

/-- Parts are filled in alike if their outer paths lead to the same from here, and all their paths do from
any item. -/
theorem fillNode_congr : ∀ {n : Node} {here here' : Value},
    (∀ p ∈ n.outerPaths, resolve p here root = resolve p here' root') →
    (∀ p ∈ n.paths, ∀ x, resolve p x root = resolve p x root') →
    fillNode root n here = fillNode root' n here'
  | .text _, _, _ => fun _ _ => rfl
  | .field p, _, _ => by
    intro houter _
    rw [fillNode,fillNode,houter p List.mem_cons_self]
  | .range p body, _, _ => by
    intro houter hinner
    have hbody : ∀ q ∈ pathsOf body, ∀ x, resolve q x root = resolve q x root' :=
      fun q hq => hinner q (List.mem_cons_of_mem p hq)
    -- In the section the current value is the same item for both.
    have hitem (x : Value) : fillNodes root body x = fillNodes root' body x :=
      fillNodes_congr (fun q hq => hbody q (outerPathsOf_subset body hq) x) hbody
    simp only [fillNode,houter p List.mem_cons_self,hitem]
  | .choice p yes no, _, _ => by
    intro houter hinner
    simp only [Node.outerPaths,Node.paths,List.mem_cons,List.mem_append] at houter hinner
    have hyes := fillNodes_congr (fun q hq => houter q (.inr (.inl hq))) fun q hq => hinner q (.inr (.inl hq))
    have hno := fillNodes_congr (fun q hq => houter q (.inr (.inr hq))) fun q hq => hinner q (.inr (.inr hq))
    rw [fillNode,fillNode,houter p (.inl rfl),hyes,hno]

theorem fillNodes_congr : ∀ {ns : List Node} {here here' : Value},
    (∀ p ∈ outerPathsOf ns, resolve p here root = resolve p here' root') →
    (∀ p ∈ pathsOf ns, ∀ x, resolve p x root = resolve p x root') →
    fillNodes root ns here = fillNodes root' ns here'
  | [], _, _ => fun _ _ => rfl
  | n :: r, _, _ => by
    intro houter hinner
    simp only [outerPathsOf,pathsOf,List.mem_append] at houter hinner
    rw [fillNodes,fillNodes,
      fillNode_congr (fun p hp => houter p (.inl hp)) fun p hp => hinner p (.inl hp),
      fillNodes_congr (fun p hp => houter p (.inr hp)) fun p hp => hinner p (.inr hp)]

end

end

/-! ## Contexts that agree -/

section
variable {a b : List (Value × Value)} {p : Path} {names : List String}

/-- Whether two contexts have the same entries at the given names, or none. -/
def AgreeAt (names : List String) (a b : List (Value × Value)) : Prop :=
  ∀ k ∈ names, Value.find? a (.text k) = Value.find? b (.text k)

/-- A path that names an entry at which two contexts agree leads to the same from both. -/
theorem foldlM_lookUp_congr {label : String} (hbare : p.isBare = false)
    (h : ∀ k ∈ p.keys.head?, Value.find? a (.text k) = Value.find? b (.text k)) :
    p.keys.foldlM (lookUp label) (.map a) = p.keys.foldlM (lookUp label) (.map b) := by
  unfold Path.isBare at hbare
  cases hkeys : p.keys with
  | nil => simp [hkeys] at hbare
  | cons k ks =>
    have hk := h k (by simp [hkeys])
    rw [List.foldlM_cons,List.foldlM_cons,lookUp,lookUp,hk]

theorem resolve_root_congr (hroot : p.fromRoot = true) (hbare : p.isBare = false)
    (h : ∀ k ∈ p.keys.head?, Value.find? a (.text k) = Value.find? b (.text k)) (x y : Value) :
    resolve p x (.map a) = resolve p y (.map b) := by
  rw [resolve,resolve,if_pos hroot,if_pos hroot]
  exact foldlM_lookUp_congr hbare h

/-- A path without a dollar sign does not look at the root. -/
theorem resolve_here (hroot : p.fromRoot = false) (x root root' : Value) :
    resolve p x root = resolve p x root' := by
  simp [resolve,hroot]

theorem resolve_outer_congr (hbare : p.isBare = false)
    (h : ∀ k ∈ p.keys.head?, Value.find? a (.text k) = Value.find? b (.text k)) :
    resolve p (.map a) (.map a) = resolve p (.map b) (.map b) := by
  rw [resolve,resolve,ite_self,ite_self]
  exact foldlM_lookUp_congr hbare h

/-- A template is filled in alike from contexts that agree at the first names of its paths, if no path is the
root as a whole, and none outside of the sections that are repeated is the current value as a whole. -/
theorem fill_congr {nodes : List Node} (hroot : ∀ p ∈ pathsOf nodes, p.fromRoot = true → p.isBare = false)
    (hhere : ∀ p ∈ outerPathsOf nodes, p.isBare = false) (h : AgreeAt (firstNames nodes) a b) :
    fill nodes (.map a) = fill nodes (.map b) := by
  have hfirst (p : Path) (hp : p ∈ pathsOf nodes) (k : String) (hk : k ∈ p.keys.head?) :
      Value.find? a (.text k) = Value.find? b (.text k) :=
    h k (List.mem_filterMap.mpr ⟨p,hp,hk⟩)
  refine fillNodes_congr (fun p hp => ?_) fun p hp x => ?_
  · exact resolve_outer_congr (hhere p hp) (hfirst p (outerPathsOf_subset nodes hp))
  · cases hdollar : p.fromRoot with
    | true => exact resolve_root_congr hdollar (hroot p hp hdollar) (hfirst p hp) x x
    | false => exact resolve_here hdollar x _ _

end

end TrackerHub.Template
