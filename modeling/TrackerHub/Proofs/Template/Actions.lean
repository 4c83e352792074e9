import TrackerHub.Proofs.Text.Blanks
import TrackerHub.Proofs.Text.CutText
import TrackerHub.Template

/-! # The actions of a template

A template is cut at its marks: an action reaches from an opening mark to the next closing mark, and what
it says stands between them, without the blanks and the hyphens that trim the text around it.
-/
namespace TrackerHub.Template
open TrackerHub.Text

/-! ## What an action says -/

/-- An action without a hyphen and a blank at its beginning. -/
def dropHyphen : Chars → Chars
  | '-' :: c :: r => if isBlank c then r else '-' :: c :: r
  | s => s

/-- An action without the hyphen and the blanks in front of what it says. -/
def withoutLead (inner : Chars) : Chars := (dropHyphen inner).dropWhile isBlank

/-- Whether only blanks are left of an action, or blanks and a hyphen. -/
def isTail (s : Chars) : Bool :=
  let rest := s.dropWhile isBlank
  rest.isEmpty || (s.head?.any isBlank && rest == ['-'])

/-- An action without the blanks and the hyphen behind what it says. -/
def withoutTail : Chars → Chars
  | [] => []
  | c :: r => if isTail (c :: r) then [] else c :: withoutTail r

/-- What an action says: the text between its marks without blanks and hyphens around it. -/
def actionText (inner : Chars) : Chars := withoutTail (withoutLead inner)

/-- The actions of a text, one behind the other. -/
inductive Actions : Chars → List Chars → Prop where
  | done {s} (h : ¬opening <:+: s) : Actions s []
  | action {s chunk t inner rest more} (hopen : IsCut opening s chunk t) (hclose : IsCut closing t inner rest)
      (h : Actions rest more) : Actions s (actionText inner :: more)

/-! ## Reading an action -/

theorem not_closing_of_isBlank {c : Char} (h : isBlank c = true) : c ≠ '\x7d' := by
  rintro rfl
  revert h
  decide

theorem cut?_closing_append {lead : Chars} (h : ∀ c ∈ lead, isBlank c = true) (s : Chars) :
    cut? closing (lead ++ s) = (cut? closing s).map fun r => (lead ++ r.1,r.2) :=
  cut?_append fun c hc => not_closing_of_isBlank (h c hc)

theorem head_blanks {lead r : Chars} {c : Char} (hlead : ∀ c ∈ lead, isBlank c = true) (hc : isBlank c = false) :
    (lead ++ c :: r).head?.any isBlank = !lead.isEmpty := by
  cases lead with
  | nil => simp [hc]
  | cons b lead => simp [hlead b List.mem_cons_self]

theorem isTail_append {lead r : Chars} (hlead : ∀ c ∈ lead, isBlank c = true)
    (hr : ∀ c ∈ r.head?, isBlank c = false) :
    isTail (lead ++ r) = (r.isEmpty || (!lead.isEmpty && r == ['-'])) := by
  rw [isTail,dropWhile_run hlead hr]
  cases r with
  | nil => rfl
  | cons c r => rw [head_blanks hlead (hr c rfl)]

/-- An action ends where only blanks, or blanks and a hyphen, stand before its closing mark. -/
theorem actionEnd?_eq (s : Chars) : actionEnd? s = (cut? closing s).bind fun r =>
    if isTail r.1 then some (!(r.1.dropWhile isBlank).isEmpty,r.2) else none := by
  obtain ⟨lead,r,rfl,hlead,hr⟩ := exists_blanks s
  unfold actionEnd?
  rw [dropWhile_run hlead hr,cut?_closing_append hlead]
  dsimp only
  cases hdrop : dropStart? closing r with
  | some rest =>
    have htail := isTail_append hlead (r := []) (by simp)
    rw [List.append_nil] at htail
    simpa [cut?_eq_some_nil_iff.mpr hdrop,htail] using hlead
  | none =>
    cases r with
    | nil => rfl
    | cons c t =>
      have hc := hr c rfl
      rw [cut?_cons hdrop]
      -- Behind the blanks only a hyphen may stand, directly before the mark.
      by_cases hhyphen : c = '-'
      · subst hhyphen
        simp only [head_blanks hlead hc]
        cases hclose : dropStart? closing t with
        | some rest =>
          have hinner : ∀ c ∈ ['-'].head?, isBlank c = false := by simpa using hc
          simp [cut?_eq_some_nil_iff.mpr hclose,isTail_append hlead hinner,dropWhile_run hlead hinner]
        | none =>
          cases hcut : cut? closing t with
          | none => simp
          | some found =>
            obtain ⟨inner,rest⟩ := found
            have hne : inner ≠ [] := by
              rintro rfl
              rw [cut?_eq_some_nil_iff.mp hcut] at hclose
              cases hclose
            simp [isTail_append hlead (r := '-' :: inner) (by simpa using hc),hne]
      · cases cut? closing t with
        | none => simp [hhyphen]
        | some found => simp [isTail_append hlead (r := c :: found.1) (by simpa using hc),hhyphen]

theorem actionBody?_eq (s : Chars) : (actionBody? s).map (fun r => (r.1,r.2.2)) =
    (cut? closing s).map fun r => (withoutTail r.1,r.2) := by
  induction s with
  | nil => rfl
  | cons c s ih =>
    rw [actionBody?,actionEnd?_eq]
    cases hdrop : dropStart? closing (c :: s) with
    | some rest =>
      rw [cut?_eq_some_nil_iff.mpr hdrop]
      rfl
    | none =>
      rw [cut?_cons hdrop]
      cases hcut : cut? closing s with
      | none =>
        rw [hcut] at ih
        simpa using ih
      | some found =>
        rw [hcut] at ih
        cases htail : isTail (c :: found.1) with
        | true => simp [htail,withoutTail]
        | false =>
          obtain ⟨body,hbody,hfound⟩ := Option.map_eq_some_iff.mp ih
          simpa [htail,withoutTail,hbody] using hfound

theorem cut?_dropWhile (s : Chars) : cut? closing (s.dropWhile isBlank) =
    (cut? closing s).map fun r => (r.1.dropWhile isBlank,r.2) := by
  obtain ⟨lead,r,rfl,hlead,hr⟩ := exists_blanks s
  rw [dropWhile_run hlead hr,cut?_closing_append hlead]
  cases hcut : cut? closing r with
  | none => rfl
  | some found =>
    have hinner : ∀ c ∈ found.1.head?, isBlank c = false := by
      intro c hc
      refine hr c ?_
      rw [(cut?_eq_some_iff.mp hcut).eq,List.append_assoc,List.head?_append,Option.mem_def.mp hc]
      rfl
    simp [dropWhile_run hlead hinner]

theorem dropHyphen_cases (s : Chars) :
    (∃ c r, s = '-' :: c :: r ∧ isBlank c = true ∧ dropHyphen s = r) ∨
      dropHyphen s = s ∧ ∀ c r, s = '-' :: c :: r → isBlank c = false := by
  unfold dropHyphen
  split
  next c r =>
    cases hc : isBlank c with
    | true => exact .inl ⟨c,r,rfl,hc,rfl⟩
    | false => exact .inr ⟨rfl,by simp [hc]⟩
  next hs => exact .inr ⟨rfl,fun c r h => absurd h (hs c r)⟩

theorem cut?_dropHyphen (s : Chars) : cut? closing (dropHyphen s) =
    (cut? closing s).map fun r => (dropHyphen r.1,r.2) := by
  rcases dropHyphen_cases s with ⟨c,r,rfl,hc,hdrop⟩ | ⟨hdrop,hs⟩
  · have hlead : ∀ d ∈ ['-',c], d ≠ '\x7d' := by simpa using not_closing_of_isBlank hc
    have hcut : cut? closing ('-' :: c :: r) = (cut? closing r).map fun found => ('-' :: c :: found.1,found.2) :=
      cut?_append hlead
    rw [hdrop,hcut]
    cases cut? closing r with
    | none => rfl
    | some found => simp [dropHyphen,hc]
  · rw [hdrop]
    cases hcut : cut? closing s with
    | none => rfl
    | some found =>
      rcases dropHyphen_cases found.1 with ⟨c,r,hr,hc,-⟩ | ⟨hfound,-⟩
      · have heq := (cut?_eq_some_iff.mp hcut).eq
        rw [hr] at heq
        simp [hs c _ heq] at hc
      · simp [hfound]

/-- An action is read up to the first closing mark, and what it says is cut out. -/
theorem readAction?_eq (s : Chars) : (readAction? s).map (fun a => (a.body,a.rest)) =
    (cut? closing s).map fun r => (actionText r.1,r.2) := by
  have hread : (readAction? s).map (fun a => (a.body,a.rest)) =
      (actionBody? ((dropHyphen s).dropWhile isBlank)).map fun r => (r.1,r.2.2) := by
    unfold readAction? dropHyphen
    split
    next before rest heq =>
      split at heq
      · split at heq <;> obtain ⟨-,rfl⟩ := Prod.mk.inj heq <;> simp [*,Function.comp_def]
      · obtain ⟨-,rfl⟩ := Prod.mk.inj heq
        simp [Function.comp_def]
  rw [hread,actionBody?_eq,cut?_dropWhile,cut?_dropHyphen]
  simp only [Option.map_map,Function.comp_def,actionText,withoutLead]

/-- What the actions of a template say, in order. -/
def Token.action? : Token → Option Chars
  | .text _ => none
  | .action body => some body

theorem filterMap_textToken (s : Chars) : (textToken s).filterMap Token.action? = [] := by
  unfold textToken
  split <;> rfl

section
variable {s chunk t : Chars} {bodies : List Chars}

theorem actions_iff_of_none (h : cut? opening s = none) : Actions s bodies ↔ bodies = [] := by
  constructor
  · rintro (_ | ⟨hopen,_,_⟩)
    · rfl
    · rw [cut?_eq_some_iff.mpr hopen] at h
      cases h
  · rintro rfl
    exact .done (cut?_eq_none_iff.mp h)

theorem actions_iff_of_some (h : cut? opening s = some (chunk,t)) : Actions s bodies ↔
    ∃ inner rest more, cut? closing t = some (inner,rest) ∧ Actions rest more ∧
      bodies = actionText inner :: more := by
  constructor
  · rintro (hnone | ⟨hopen,hclose,hmore⟩)
    · rw [cut?_eq_none_iff.mpr hnone] at h
      cases h
    · rw [cut?_eq_some_iff.mpr hopen] at h
      cases h
      exact ⟨_,_,_,cut?_eq_some_iff.mpr hclose,hmore,rfl⟩
  · rintro ⟨inner,rest,more,hclose,hmore,rfl⟩
    exact .action (cut?_eq_some_iff.mp h) (cut?_eq_some_iff.mp hclose) hmore

theorem length_lt_of_cut? {sep before after : Chars} (hsep : sep ≠ []) (h : cut? sep s = some (before,after)) :
    after.length < s.length := by
  have hlength := congrArg List.length (cut?_eq_some_iff.mp h).eq
  have hpos := List.length_pos_iff.mpr hsep
  simp only [List.length_append] at hlength
  omega

/-- A text is cut into pieces just when each of its opening marks has a closing one. -/
theorem actions_iff {fuel : Nat} {trimStart : Bool} (h : s.length < fuel) :
    Actions s bodies ↔ ∃ ts, tokensFrom fuel trimStart s = some ts ∧ ts.filterMap Token.action? = bodies := by
  induction fuel generalizing trimStart s bodies with
  | zero => simp at h
  | succ fuel ih =>
    rw [tokensFrom]
    cases hopen : cut? opening s with
    | none => simp [actions_iff_of_none hopen,filterMap_textToken,eq_comm]
    | some found =>
      obtain ⟨chunk,t⟩ := found
      rw [actions_iff_of_some hopen]
      have hread := readAction?_eq t
      cases hclose : cut? closing t with
      | none =>
        rw [hclose] at hread
        simp [Option.map_eq_none_iff.mp hread]
      | some found =>
        obtain ⟨inner,rest⟩ := found
        rw [hclose] at hread
        obtain ⟨a,ha,hfound⟩ := Option.map_eq_some_iff.mp hread
        obtain ⟨rfl,hbody⟩ : a.rest = rest ∧ a.body = actionText inner := (Prod.mk.inj hfound).symm
        have hlength : a.rest.length < fuel := by
          have htext := length_lt_of_cut? (by decide) hopen
          have haction := length_lt_of_cut? (by decide) hclose
          omega
        simp only [ha,Option.map_eq_some_iff]
        constructor
        · rintro ⟨_,_,more,⟨⟩,hmore,rfl⟩
          obtain ⟨ts,hts,rfl⟩ := (ih hlength).mp hmore
          exact ⟨_,⟨ts,hts,rfl⟩,by simp [filterMap_textToken,Token.action?,hbody]⟩
        · rintro ⟨_,⟨ts,hts,rfl⟩,rfl⟩
          exact ⟨inner,a.rest,_,rfl,(ih hlength).mpr ⟨ts,hts,rfl⟩,
            by simp [filterMap_textToken,Token.action?,hbody]⟩

end

end TrackerHub.Template
