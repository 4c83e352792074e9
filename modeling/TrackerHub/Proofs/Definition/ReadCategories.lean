import TrackerHub.Definition.Read
import TrackerHub.Proofs.Category.Families
import TrackerHub.Proofs.ReadLists

/-! # Categories of definitions

The category map of every definition that can be read is one of the taxonomy: the document names each
local id once, and each name of a category is looked up.
-/
namespace TrackerHub

namespace Schema
variable {ε α β : Type}

theorem Outcome.map_eq_good {f : α → β} {o : Outcome ε α} {y : β} :
    f <$> o = .good y ↔ ∃ x, o = .good x ∧ f x = y := by
  change o.map f = _ ↔ _
  cases o <;> simp [Outcome.map]

theorem Outcome.seq_eq_good {f : Outcome ε (α → β)} {o : Outcome ε α} {y : β} :
    f <*> o = .good y ↔ ∃ g x, f = .good g ∧ o = .good x ∧ g x = y := by
  change Outcome.seq f (fun _ => o) = _ ↔ _
  cases f with
  | stopped c => simp [Outcome.seq]
  | good g => cases o <;> simp [Outcome.seq,Outcome.map]
  | bad vs => cases o <;> simp [Outcome.seq]

theorem Outcome.under_eq_good {step : Step} {o : Outcome ε α} {x : α} :
    o.under step = .good x ↔ o = .good x := by
  cases o <;> simp [Outcome.under]

theorem Outcome.andThen_eq_good {o : Outcome ε β} {f : β → Outcome ε α} {x : α} :
    o.andThen f = .good x ↔ ∃ y, o = .good y ∧ f y = .good x := by
  cases o <;> simp [Outcome.andThen]

theorem Outcome.all_eq_good {f : α → Outcome ε β} {xs : List α} {ys : List β} :
    Outcome.all f xs = .good ys ↔ List.Forall₂ (fun x y => f x = .good y) xs ys := by
  induction xs generalizing ys with
  | nil => simp [Outcome.all,eq_comm]
  | cons x xs ih =>
    rw [Outcome.all,Outcome.seq_eq_good]
    simp only [Outcome.map_eq_good]
    constructor
    · rintro ⟨_,rest,⟨y,hy,rfl⟩,hrest,rfl⟩
      exact .cons hy (ih.mp hrest)
    · rintro (_ | ⟨hy,hrest⟩)
      exact ⟨_,_,⟨_,hy,rfl⟩,ih.mpr hrest,rfl⟩

/-- What holds of the usual value of a field and of all that can be read holds of the field. -/
theorem field_good {P : α → Prop} {name : String} {usual : α} {read : Value → Outcome ε α}
    {entries : Entries} {x : α} (h : field name usual read entries = .good x) (hu : P usual)
    (hr : ∀ v y, read v = .good y → P y) : P x := by
  unfold field at h
  split at h
  next v _ => exact hr v x (Outcome.under_eq_good.mp h)
  · cases h
    exact hu

end Schema

namespace Definition
open Schema (Outcome field_good)

theorem nodup_readTexts {v : Value} {names : Named String} (h : readTexts v = .good names) :
    (names.map (·.1)).Nodup := by
  unfold readTexts at h
  split at h
  · cases h
    exact List.nodup_nil
  · cases h
    exact Named.nodup_ofList _
  · cases h

theorem nodup_readCapabilities {es : Schema.Entries} {c : RawCapabilities}
    (h : readCapabilities es = .good c) : (c.categories.map (·.1)).Nodup := by
  obtain ⟨_,modes,hnames,-,rfl⟩ := Outcome.seq_eq_good.mp h
  obtain ⟨names,hread,rfl⟩ := Outcome.map_eq_good.mp hnames
  exact field_good (P := fun names : Named String => (names.map (·.1)).Nodup) hread List.nodup_nil
    fun v y => nodup_readTexts

/-- A document names each local id once. -/
theorem nodup_raw {es : Schema.Entries} {r : Raw} (h : raw es = .good r) :
    (r.capabilities.categories.map (·.1)).Nodup := by
  obtain ⟨_,search,h₁,-,rfl⟩ := Outcome.seq_eq_good.mp h
  obtain ⟨_,ratio,h₂,-,rfl⟩ := Outcome.seq_eq_good.mp h₁
  obtain ⟨_,login,h₃,-,rfl⟩ := Outcome.seq_eq_good.mp h₂
  obtain ⟨_,caps,h₄,hcaps,rfl⟩ := Outcome.seq_eq_good.mp h₃
  obtain ⟨_,links,h₅,-,rfl⟩ := Outcome.seq_eq_good.mp h₄
  obtain ⟨_,language,h₆,-,rfl⟩ := Outcome.seq_eq_good.mp h₅
  obtain ⟨_,description,h₇,-,rfl⟩ := Outcome.seq_eq_good.mp h₆
  obtain ⟨_,name,h₈,-,rfl⟩ := Outcome.seq_eq_good.mp h₇
  obtain ⟨_,settings,h₉,-,rfl⟩ := Outcome.seq_eq_good.mp h₈
  obtain ⟨site,-,rfl⟩ := Outcome.map_eq_good.mp h₉
  refine field_good (P := fun c : RawCapabilities => (c.categories.map (·.1)).Nodup) hcaps
    List.nodup_nil fun v c hc => ?_
  unfold optionalBlock at hc
  split at hc
  · exact nodup_readCapabilities hc
  · unfold Schema.block at hc
    split at hc
    · exact nodup_readCapabilities hc
    · cases hc

theorem isTaxonomic_categoryMap {names : Named String} (hn : (names.map (·.1)).Nodup)
    {m : CategoryMap} (h : categoryMap names = .ok m) : m.IsTaxonomic := by
  obtain ⟨entries,hread,rfl⟩ := map_eq_ok.mp h
  have kept := mapM_eq_ok (g := Prod.fst) (h := Prod.fst)
    (P := fun e : String × Category => e.2 ∈ Category.taxonomy) ?_ hread
  · exact ⟨kept.1 ▸ hn,kept.2⟩
  · rintro ⟨localId,name⟩ e he
    dsimp only at he
    split at he
    next c hc =>
      cases he
      exact ⟨rfl,List.mem_of_find?_eq_some hc⟩
    · cases he

/-- The category map of a definition that can be read says one category of the taxonomy for each of
its local ids. -/
theorem isTaxonomic_of_parse {b : Text.Bytes} {source : String} {d : Definition}
    (h : parse b source = .ok d) : d.categories.IsTaxonomic := by
  unfold parse at h
  split at h
  · cases h
  · cases h
  next es _ =>
    split at h
    · cases h
    · cases h
    next r hr =>
      unfold ofRaw at h
      cases hm : categoryMap r.capabilities.categories with
      | error e => rw [hm] at h; cases h
      | ok m =>
        rw [hm] at h
        cases hf : fieldsOf r.search.fields with
        | error e =>
          simp only [hf,bind,Except.bind] at h
          cases h
        | ok fields =>
          simp only [hf,bind,Except.bind] at h
          cases h
          exact isTaxonomic_categoryMap (nodup_raw hr) hm
  · cases h

end Definition

end TrackerHub
