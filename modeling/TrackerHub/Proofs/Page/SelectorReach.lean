import TrackerHub.Page.Place
import TrackerHub.Proofs.Page.EditedPages
import TrackerHub.Selector.Match

/-! # What selectors look at

A selector that looks only at an element itself, and perhaps at the elements around it, matches the same
elements wherever these are the same. Taking elements out of a page leaves the others the elements
around them.
-/
namespace TrackerHub.Page.Place
open Node
open Text (Chars)

/-- The tag of an element and the tags of the elements around it, the nearest first. -/
def outline (p : Place) : List Tag := p.tag :: p.above.map (·.tag)

section
variable {above : List Level} {before rest children nodes : List Node} {tag : Tag}
variable {kind : TextKind} {content : Chars}

@[simp] theorem withinAll_nil : withinAll above before [] = [] := rfl

@[simp] theorem withinAll_text : withinAll above before (.text kind content :: rest) =
    withinAll above (.text kind content :: before) rest := rfl

@[simp] theorem withinAll_element : withinAll above before (.element tag children :: rest) =
    { tag, children, before, after := rest, above } ::
      (withinAll (⟨tag,before,rest⟩ :: above) [] children ++
        withinAll above (.element tag children :: before) rest) := by
  rw [withinAll,within,List.cons_append]

/-- The places under a place are those of its elements. -/
theorem map_tag_withinAll (above : List Level) (before nodes : List Node) :
    (withinAll above before nodes).map (·.tag) = tagsOf nodes := by
  induction nodes using inductionOn generalizing above before with
  | nil => rfl
  | text kind content rest ih => exact ih _ _
  | element tag children rest ihc ihr => simp [ihc,ihr]

/-- An element that is left after others were taken out has the elements around it that it had. -/
theorem exists_outline_of_withoutOf {gone : Nat → Bool} {p : Place} (above' : List Level)
    (before' : List Node) (h : above.map (·.tag) = above'.map (·.tag))
    (hp : p ∈ withinAll above before (withoutOf gone nodes)) :
    ∃ q ∈ withinAll above' before' nodes, q.outline = p.outline := by
  induction nodes using inductionOn generalizing above above' before before' with
  | nil => cases hp
  | text kind content rest ih => exact ih _ _ h hp
  | element tag children rest ihc ihr =>
    rw [withinAll_element]
    have later {page : List Node} (hp : p ∈ withinAll above page (withoutOf gone rest)) (first inner) :
        ∃ q ∈ first :: (inner ++ withinAll above' (.element tag children :: before') rest),
          q.outline = p.outline := by
      obtain ⟨q,hq,heq⟩ := ihr above' _ h hp
      exact ⟨q,List.mem_cons_of_mem _ (List.mem_append_right _ hq),heq⟩
    cases hg : gone tag.id with
    | true =>
      rw [withoutOf_gone hg] at hp
      exact later hp _ _
    | false =>
      rw [withoutOf_kept hg,withinAll_element] at hp
      rcases List.mem_cons.mp hp with rfl | hp
      · exact ⟨_,List.mem_cons_self,by simp [outline,h]⟩
      · rcases List.mem_append.mp hp with hp | hp
        · obtain ⟨q,hq,heq⟩ := ihc (⟨tag,before',rest⟩ :: above') [] (by simp [h]) hp
          exact ⟨q,List.mem_cons_of_mem _ (List.mem_append_left _ hq),heq⟩
        · exact later hp _ _

end

section
variable {p q : Place} (h : p.outline = q.outline)
include h

theorem tag_of_outline : p.tag = q.tag := (List.cons.inj h).1

/-- The elements around two elements of one outline have the same outlines. -/
theorem forall₂_ancestors : List.Forall₂ (fun a b : Place => a.outline = b.outline) p.ancestors q.ancestors := by
  have hlen : p.above.length = q.above.length := by
    simpa [outline] using congrArg List.length h
  unfold ancestors
  rw [← hlen]
  clear hlen
  generalize p.above.length = n
  induction n generalizing p q with
  | zero => exact .nil
  | succ n ih =>
    have habove := (List.cons.inj h).2
    unfold ancestors.go parent?
    cases hp : p.above with
    | nil =>
      rw [hp] at habove
      rw [List.map_eq_nil_iff.mp habove.symm]
      exact .nil
    | cons l above =>
      cases hq : q.above with
      | nil => rw [hp,hq] at habove; cases habove
      | cons l' above' =>
        rw [hp,hq] at habove
        exact .cons habove (ih habove)

theorem forall₂_parent : List.Forall₂ (fun a b : Place => a.outline = b.outline) p.parent?.toList
    q.parent?.toList := by
  have habove := (List.cons.inj h).2
  unfold parent?
  cases hp : p.above with
  | nil =>
    rw [hp] at habove
    rw [List.map_eq_nil_iff.mp habove.symm]
    exact .nil
  | cons l above =>
    cases hq : q.above with
    | nil => rw [hp,hq] at habove; cases habove
    | cons l' above' =>
      rw [hp,hq] at habove
      exact .cons habove .nil

end

end TrackerHub.Page.Place

namespace TrackerHub.Selector
open Page (Place)

mutual

/-- Whether a selector looks only at an element itself and, if `around`, at the elements around it. -/
def keepsTo (around : Bool) : Selector → Bool
  | .never => true
  | .all tests => allKeepTo around tests

def allKeepTo (around : Bool) : List Test → Bool
  | [] => true
  | t :: ts => testKeepsTo around t && allKeepTo around ts

def anyKeepsTo (around : Bool) : List Selector → Bool
  | [] => true
  | s :: ss => keepsTo around s && anyKeepsTo around ss

def testKeepsTo (around : Bool) : Test → Bool
  | .name .. | .id _ | .cls _ | .attr .. => true
  | .state s => s == .defined || s == .inRange || s == .outOfRange
  | .anyOf alternatives | .noneOf alternatives => anyKeepsTo around alternatives
  | .behind how other => around && (how == .descendant || how == .child) && keepsTo around other
  | .text .. | .lang _ | .direction _ | .nth .. | .ahead .. => false

end

theorem anyKeepsTo_append (around : Bool) (l m : List Selector) :
    anyKeepsTo around (l ++ m) = (anyKeepsTo around l && anyKeepsTo around m) := by
  induction l with
  | nil => rfl
  | cons s l ih => rw [List.cons_append,anyKeepsTo,anyKeepsTo,ih,Bool.and_assoc]

/-- Whether two elements are the same in all that such selectors look at. -/
def Agree (around : Bool) (p q : Place) : Prop :=
  p.tag = q.tag ∧ (around = true → p.outline = q.outline)

theorem any_congr_of_forall₂ {α β : Type} {R : α → β → Prop} {f : α → Bool} {g : β → Bool}
    (hf : ∀ a b, R a b → f a = g b) {as : List α} {bs : List β} (h : List.Forall₂ R as bs) :
    as.any f = bs.any g := by
  induction h with
  | nil => rfl
  | cons hab _ ih => rw [List.any_cons,List.any_cons,hf _ _ hab,ih]

section
variable {around : Bool} {env env' : Scope}

mutual

theorem holds_congr {p q : Place} (h : Agree around p q) :
    ∀ s : Selector, s.keepsTo around = true → holds env p s = holds env' q s
  | .never, _ => rfl
  | .all tests, hk => holdsAll_congr h tests hk

theorem holdsAll_congr {p q : Place} (h : Agree around p q) :
    ∀ ts : List Test, allKeepTo around ts = true → holdsAll env p ts = holdsAll env' q ts
  | [], _ => rfl
  | t :: ts, hk => by
    obtain ⟨ht,hts⟩ := Bool.and_eq_true_iff.mp hk
    rw [holdsAll,holdsAll,passes_congr h t ht,holdsAll_congr h ts hts]

theorem holdsAny_congr {p q : Place} (h : Agree around p q) :
    ∀ ss : List Selector, anyKeepsTo around ss = true → holdsAny env p ss = holdsAny env' q ss
  | [], _ => rfl
  | s :: ss, hk => by
    obtain ⟨hs,hss⟩ := Bool.and_eq_true_iff.mp hk
    rw [holdsAny,holdsAny,holds_congr h s hs,holdsAny_congr h ss hss]

theorem passes_congr {p q : Place} (h : Agree around p q) :
    ∀ t : Test, testKeepsTo around t = true → passes env p t = passes env' q t
  | .name space n, _ => by rw [passes,passes,h.1]
  | .id id, _ => by rw [passes,passes,h.1]
  | .cls c, _ => by rw [passes,passes,h.1]
  | .attr name value, _ => by unfold passes; rw [h.1]
  | .state s, hk => by
    cases s <;> first | (simp [testKeepsTo] at hk; done) | simp only [passes,State.holds,h.1]
  | .anyOf alternatives, hk => holdsAny_congr h alternatives hk
  | .noneOf alternatives, hk => by
    rw [passes,passes,holdsAny_congr h alternatives hk]
  | .behind how other, hk => by
    obtain ⟨⟨haround,hhow⟩,hother⟩ : (around = true ∧ (how = .descendant ∨ how = .child)) ∧
        keepsTo around other = true := by
      simpa [testKeepsTo] using hk
    have hheld (a b : Place) (hab : a.outline = b.outline) : holds env a other = holds env' b other :=
      holds_congr ⟨Place.tag_of_outline hab,fun _ => hab⟩ other hother
    rw [passes,passes]
    rcases hhow with hhow | hhow <;> subst hhow
    · exact any_congr_of_forall₂ hheld (Place.forall₂_ancestors (h.2 haround))
    · exact any_congr_of_forall₂ hheld (Place.forall₂_parent (h.2 haround))

end

end

end TrackerHub.Selector
