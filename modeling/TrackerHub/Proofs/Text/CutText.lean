import Mathlib.Data.List.Infix
import TrackerHub.Proofs.Text.SplitText

/-! # Cutting texts

Where a text is cut: at the first occurrence of a separating text. Pieces that hold no part of a separator
which could be taken for one are found again in their join; so are the parts around the last line of a kind.
-/
namespace TrackerHub.Text

theorem dropStart?_eq_some_iff {start s rest : Chars} : dropStart? start s = some rest ↔ s = start ++ rest := by
  induction start generalizing s with
  | nil => simp [dropStart?]
  | cons p start ih =>
    cases s with
    | nil => simp [dropStart?]
    | cons c s => by_cases h : p = c <;> simp [dropStart?,h,ih,Ne.symm]

/-- `before` and `after` are the parts of `s` around the first occurrence of `sep`. -/
structure IsCut (sep s before after : Chars) : Prop where
  eq : s = before ++ sep ++ after
  first : ∀ pre post, s = pre ++ sep ++ post → before.length ≤ pre.length

section
variable {sep s t before after : Chars}

theorem isCut_nil_iff : IsCut sep s [] after ↔ s = sep ++ after :=
  ⟨fun h => h.eq,fun h => ⟨h,fun _ _ _ => Nat.zero_le _⟩⟩

theorem isCut_cons_iff {c d : Char} (h : dropStart? sep (c :: s) = none) :
    IsCut sep (c :: s) (d :: before) after ↔ c = d ∧ IsCut sep s before after := by
  constructor
  · intro hcut
    obtain ⟨rfl,hs⟩ : c = d ∧ s = before ++ sep ++ after := by simpa using hcut.eq
    refine ⟨rfl,hs,fun pre post hpre => ?_⟩
    simpa using hcut.first (c :: pre) post (by simp [hpre])
  · rintro ⟨rfl,hcut⟩
    refine ⟨by simp [hcut.eq],fun pre post hpre => ?_⟩
    cases pre with
    | nil =>
      rw [dropStart?_eq_some_iff.mpr (show c :: s = sep ++ post from hpre)] at h
      cases h
    | cons e pre =>
      obtain ⟨-,hs⟩ : c = e ∧ s = pre ++ sep ++ post := by simpa using hpre
      simpa using hcut.first pre post hs

theorem cut?_eq_some_iff : cut? sep s = some (before,after) ↔ IsCut sep s before after := by
  induction s generalizing before after with
  | nil =>
    cases sep with
    | nil =>
      constructor
      · rintro h
        cases h
        exact isCut_nil_iff.mpr rfl
      · intro h
        obtain ⟨rfl,rfl⟩ : before = [] ∧ after = [] := by simpa using h.eq
        rfl
    | cons p sep => simpa [cut?] using fun h : IsCut (p :: sep) [] before after => by simpa using h.eq
  | cons c s ih =>
    rw [cut?]
    cases hdrop : dropStart? sep (c :: s) with
    | some rest =>
      have heq := dropStart?_eq_some_iff.mp hdrop
      cases before with
      | nil => simp [isCut_nil_iff,heq]
      | cons d before =>
        simpa using fun h : IsCut sep (c :: s) (d :: before) after => by simpa using h.first [] rest heq
    | none =>
      cases before with
      | nil => simp [isCut_nil_iff,← dropStart?_eq_some_iff,hdrop]
      | cons d before =>
        rw [isCut_cons_iff hdrop,← ih]
        simp [and_comm,and_assoc]

theorem cut?_eq_none_iff : cut? sep s = none ↔ ¬sep <:+: s := by
  induction s with
  | nil => cases sep <;> simp [cut?]
  | cons c s ih =>
    rw [cut?,List.infix_cons_iff]
    cases hdrop : dropStart? sep (c :: s) with
    | some rest =>
      have hstart : sep <+: c :: s := ⟨rest,(dropStart?_eq_some_iff.mp hdrop).symm⟩
      simp [hstart]
    | none =>
      have hstart : ¬sep <+: c :: s := by
        rintro ⟨rest,hrest⟩
        rw [dropStart?_eq_some_iff.mpr hrest.symm] at hdrop
        cases hdrop
      simpa [hstart] using ih

theorem cut?_eq_some_nil_iff : cut? sep s = some ([],after) ↔ dropStart? sep s = some after := by
  rw [cut?_eq_some_iff,isCut_nil_iff,dropStart?_eq_some_iff]

theorem cut?_cons {c : Char} (h : dropStart? sep (c :: s) = none) :
    cut? sep (c :: s) = (cut? sep s).map fun r => (c :: r.1,r.2) := by
  simp only [cut?,h]

/-- Characters that the separator does not begin with make no difference to where it stands. -/
theorem cut?_append {p : Char} {lead : Chars} (h : ∀ c ∈ lead, c ≠ p) :
    cut? (p :: sep) (lead ++ s) = (cut? (p :: sep) s).map fun r => (lead ++ r.1,r.2) := by
  induction lead with
  | nil => simp
  | cons c lead ih =>
    obtain ⟨hc,hlead⟩ := List.forall_mem_cons.mp h
    have hdrop : dropStart? (p :: sep) (c :: (lead ++ s)) = none := by simp [dropStart?,Ne.symm hc]
    simp only [List.cons_append,cut?,hdrop,ih hlead,Option.map_map,Function.comp_def]

theorem dropStart?_append {start : Chars} (h : dropStart? start s = some after) (t : Chars) :
    dropStart? start (s ++ t) = some (after ++ t) := by
  rw [dropStart?_eq_some_iff] at h ⊢
  rw [h,List.append_assoc]

/-- More text behind does not move the first place of a separator. -/
theorem cut?_append_of_some (h : cut? sep s = some (before,after)) (t : Chars) :
    cut? sep (s ++ t) = some (before,after ++ t) := by
  induction s generalizing before after with
  | nil =>
    have hcut := cut?_eq_some_iff.mp h
    obtain ⟨rfl,rfl,rfl⟩ : before = [] ∧ sep = [] ∧ after = [] := by simpa using hcut.eq
    exact cut?_eq_some_nil_iff.mpr rfl
  | cons c s ih =>
    cases hdrop : dropStart? sep (c :: s) with
    | some rest =>
      rw [cut?_eq_some_nil_iff.mpr hdrop] at h
      cases h
      exact cut?_eq_some_nil_iff.mpr (dropStart?_append hdrop t)
    | none =>
      rw [cut?_cons hdrop] at h
      obtain ⟨⟨pre,rest⟩,hrest,heq⟩ := Option.map_eq_some_iff.mp h
      cases heq
      have hcut := ih hrest
      have hdrop' : dropStart? sep (c :: (s ++ t)) = none := by
        -- What a separator at the front would cover lies within the first text, which holds one itself.
        rw [Option.eq_none_iff_forall_ne_some]
        intro more hmore
        have heq := (cut?_eq_some_iff.mp hrest).eq
        have hlength : sep.length ≤ (c :: s).length := by simp [heq]; omega
        have hstart : sep <+: c :: s :=
          List.prefix_of_prefix_length_le ⟨more,(dropStart?_eq_some_iff.mp hmore).symm⟩
            (List.prefix_append (c :: s) t) hlength
        obtain ⟨tail,htail⟩ := hstart
        rw [dropStart?_eq_some_iff.mpr htail.symm] at hdrop
        cases hdrop
      rw [List.cons_append,cut?_cons hdrop',hcut]
      rfl

theorem IsCut.unique {b a : Chars} (h : IsCut sep s before after) (h' : IsCut sep s b a) :
    before = b ∧ after = a := by
  have hsame := (cut?_eq_some_iff.mpr h).symm.trans (cut?_eq_some_iff.mpr h')
  exact Prod.mk.inj (Option.some.inj hsame)

end

/-! ## Pieces and their join -/

section
variable {sep : Chars} {c : Char} {ps qs : List Chars}

/-- Whether the first separator in a piece with a separator behind it is that one, whatever follows. -/
def EndsFirst (sep p : Chars) : Prop := ∀ r, IsCut sep (p ++ sep ++ r) p r

/-- A piece holds no separator. -/
theorem EndsFirst.not_infix {p : Chars} (h : EndsFirst sep p) (hsep : sep ≠ []) : ¬sep <:+: p := by
  rintro ⟨pre,post,hp⟩
  have hlong := (h []).first pre (post ++ sep) (by simp [← hp])
  have hlength := congrArg List.length hp
  have hpos := List.length_pos_iff.mpr hsep
  simp only [List.length_append] at hlength
  omega

/-- Pieces are found again in their join. -/
theorem join_unique (hsep : sep ≠ []) (hps : ∀ p ∈ ps, EndsFirst sep p) (hqs : ∀ q ∈ qs, EndsFirst sep q)
    (hp : ps ≠ []) (hq : qs ≠ []) (h : join sep ps = join sep qs) : ps = qs := by
  induction ps generalizing qs with
  | nil => exact absurd rfl hp
  | cons p ps ih =>
    obtain ⟨q,qs,rfl⟩ := List.exists_cons_of_ne_nil hq
    obtain ⟨hps₁,hps₂⟩ := List.forall_mem_cons.mp hps
    obtain ⟨hqs₁,hqs₂⟩ := List.forall_mem_cons.mp hqs
    match ps, qs with
    | [], [] => rw [show p = q from h]
    | [], q' :: qs => exact absurd ⟨q,join sep (q' :: qs),h.symm⟩ (hps₁.not_infix hsep)
    | p' :: ps, [] => exact absurd ⟨p,join sep (p' :: ps),h⟩ (hqs₁.not_infix hsep)
    | p' :: ps, q' :: qs =>
      -- The first separator ends the first piece on both sides.
      have hcut := hqs₁ (join sep (q' :: qs))
      rw [← join,← h] at hcut
      obtain ⟨rfl,hrest⟩ := (hps₁ (join sep (p' :: ps))).unique hcut
      rw [ih hps₂ hqs₂ (List.cons_ne_nil p' ps) (List.cons_ne_nil q' qs) hrest]

/-- The parts around the last item of a kind are found again. -/
theorem append_cons_unique {α : Type} {x : α} {a b r t : List α} (hr : x ∉ r) (ht : x ∉ t)
    (h : a ++ x :: r = b ++ x :: t) : a = b ∧ r = t := by
  have hback : r.reverse ++ x :: a.reverse = t.reverse ++ x :: b.reverse := by
    simpa using congrArg List.reverse h
  rcases List.append_eq_append_iff.mp hback with ⟨more,hmore,hrest⟩ | ⟨more,hmore,hrest⟩ <;>
    cases more with
    | nil => simp_all
    | cons y more =>
      obtain ⟨rfl,-⟩ := List.cons.inj hrest
      have hmem := congrArg (x ∈ ·) hmore
      simp_all

theorem splitOn_append_cons (sep : Char) (s r : Chars) :
    splitOn sep (s ++ sep :: r) = splitOn sep s ++ splitOn sep r := by
  induction s with
  | nil => simp [splitOn]
  | cons c s ih =>
    rw [List.cons_append,splitOn,splitOn,ih]
    split
    · rfl
    · cases hpieces : splitOn sep s with
      | nil => exact absurd hpieces (splitOn_ne_nil sep s)
      | cons piece pieces => rfl

/-- The texts around the last line that is the given one are found again. -/
theorem line_unique {line a b r t : Chars} (hline : c ∉ line) (hr : line ∉ splitOn c r)
    (ht : line ∉ splitOn c t) (h : a ++ c :: (line ++ c :: r) = b ++ c :: (line ++ c :: t)) :
    a = b ∧ r = t := by
  have hpieces := congrArg (splitOn c) h
  simp only [splitOn_append_cons,splitOn_of_not_mem hline,List.singleton_append] at hpieces
  obtain ⟨hab,hrt⟩ := append_cons_unique hr ht hpieces
  exact ⟨by rw [← join_splitOn c a,hab,join_splitOn],by rw [← join_splitOn c r,hrt,join_splitOn]⟩

end

end TrackerHub.Text
