import TrackerHub.Proofs.Agent.Results
import TrackerHub.Proofs.Agent.RowFields
import TrackerHub.Proofs.ReadLists

/-! # Rows at fault

Which texts of a page make a search fail. A text that cannot be read costs its field and nothing
else. A size beyond every floating-point number and a date beyond the calendar are no such texts: a
row that has one and is reached ends the whole search.
-/
namespace TrackerHub.Agent
open Web (Session)
open Page (Place)
open Text (Chars)

/-- The row of some texts, or the fault of the first of them that lies out of range. -/
def rowOf (d : Definition) (base : Chars) (now : Time.DateTime) (t : RowTexts) :
    Except AgentError Row :=
  match t.fault? now with
  | some e => .error e
  | none => .ok (t.row d.site base now)

section
variable {d : Definition} {base : Chars} {now : Time.DateTime}

theorem rowOf_eq_ok_iff {t : RowTexts} {row : Row} : rowOf d base now t = .ok row ↔
    t.fault? now = none ∧ row = t.row d.site base now := by
  unfold rowOf
  cases t.fault? now with
  | some e => simp
  | none => simp [eq_comm]

theorem rowOf_eq_error_iff {t : RowTexts} {e : AgentError} : rowOf d base now t = .error e ↔
    t.fault? now = some e := by
  unfold rowOf
  cases t.fault? now <;> simp

theorem map_ofPlace {places : List Place} {cuts : List RowTexts}
    (h : places.map (RowTexts.cut d now) = cuts.map .ok) :
    places.map (Row.ofPlace d base now) = cuts.map (rowOf d base now) := by
  induction places generalizing cuts with
  | nil =>
    cases cuts with
    | nil => rfl
    | cons t rest => simp at h
  | cons el places ih =>
    cases cuts with
    | nil => simp at h
    | cons t rest =>
      simp only [List.map_cons,List.cons.injEq] at h ⊢
      exact ⟨RowTexts.ofPlace_of_cut base h.1,ih h.2⟩

/-- The first row at fault stands behind rows that come out well. -/
theorem map_rowOf_eq_iff {cuts : List RowTexts} {e : AgentError} {rows : List Row}
    {rest : List (Except AgentError Row)} :
    cuts.map (rowOf d base now) = rows.map .ok ++ .error e :: rest ↔ ∃ before t after,
      cuts = before ++ t :: after ∧ (∀ b ∈ before, b.fault? now = none) ∧ t.fault? now = some e ∧
      rows = before.map (RowTexts.row d.site base now) ∧ rest = after.map (rowOf d base now) := by
  constructor
  · intro h
    induction rows generalizing cuts with
    | nil =>
      cases cuts with
      | nil => simp at h
      | cons t after =>
        simp only [List.map_cons,List.map_nil,List.nil_append,List.cons.injEq] at h
        exact ⟨[],t,after,rfl,by simp,rowOf_eq_error_iff.mp h.1,rfl,h.2.symm⟩
    | cons row rows ih =>
      cases cuts with
      | nil => simp at h
      | cons t more =>
        simp only [List.map_cons,List.cons_append,List.cons.injEq] at h
        obtain ⟨hf,hrow⟩ := rowOf_eq_ok_iff.mp h.1
        obtain ⟨before,u,after,rfl,hb,hu,hrows,hrest⟩ := ih h.2
        refine ⟨t :: before,u,after,rfl,?_,hu,?_,hrest⟩
        · simpa [hf] using hb
        · rw [hrow,hrows,List.map_cons]
  · rintro ⟨before,t,after,rfl,hb,ht,rfl,rfl⟩
    rw [List.map_append,List.map_cons,rowOf_eq_error_iff.mpr ht]
    congr 1
    rw [List.map_map]
    exact List.map_congr_left fun b hm => rowOf_eq_ok_iff.mpr ⟨hb b hm,rfl⟩

end

theorem categorized_of_unmapped {m : CategoryMap} {row : Row} (hm : m.get? row.localCategory = none)
    (hn : (Numeral.readInt row.localCategory.toList).toOption = none) : row.categorized m = row := by
  unfold Row.categorized
  split
  · rfl
  · simp [hm,hn]

/-- A search whose rows can all be cut fails just when it reaches a row with a size or a date out of
range. Otherwise it gives the harvest of its rows, in which a text that cannot be read counts as no
text, and a category that is neither mapped nor a number as no category. -/
theorem search_fails_iff_outOfRange {a : Agent} {q : Query} {s t : Session} {places : List Place}
    {cuts : List RowTexts} (hr : s.run (a.resultRows q) = (.ok places,t))
    (hc : places.map (RowTexts.cut a.definition a.now) = cuts.map .ok) :
    let base := t.url?.getD []
    let made := RowTexts.row a.definition.site base a.now
    let localIds := a.localCategories q
    (∀ e, s.run (a.search q) = (.error e,t) ↔ ∃ before c after, cuts = before ++ c :: after ∧
      a.GoesOn q localIds (before.map made) ∧ (∀ b ∈ before, b.fault? a.now = none) ∧
      c.fault? a.now = some e) ∧
    ((∀ before c after, cuts = before ++ c :: after → a.GoesOn q localIds (before.map made) →
      c.fault? a.now = none) →
      s.run (a.search q) = (.ok (a.harvest q localIds (cuts.map made) []),t)) ∧
    (∀ c before f after, c.fields = before ++ f :: after →
      RowTexts.isReadable base a.now f = false →
      made c = made { c with fields := before ++ after }) ∧
    (∀ c value, c.header = some value → RowTexts.readDate? a.now value = none →
      made c = made { c with header := none }) ∧
    (∀ row : Row, a.definition.categories.get? row.localCategory = none →
      (Numeral.readInt row.localCategory.toList).toOption = none →
      row.categorized a.definition.categories = row) := by
  intro base made localIds
  -- Whatever the search does after its rows are cut is settled by their texts.
  have hs : s.run (a.search q) =
      (a.gather q localIds (cuts.map (rowOf a.definition base a.now)) [],t) := by
    rw [run_search,hr]
    simp only [collect_eq_gather,map_ofPlace hc]
    rfl
  have fails : ∀ e, s.run (a.search q) = (.error e,t) ↔ ∃ before c after,
      cuts = before ++ c :: after ∧ a.GoesOn q localIds (before.map made) ∧
      (∀ b ∈ before, b.fault? a.now = none) ∧ c.fault? a.now = some e := by
    intro e
    rw [hs,Prod.mk.injEq,and_iff_left rfl,gather_eq_error_iff]
    constructor
    · rintro ⟨rows,rest,ho,hg⟩
      obtain ⟨before,c,after,hcut,hb,he,rfl,-⟩ := map_rowOf_eq_iff.mp ho
      exact ⟨before,c,after,hcut,hg,hb,he⟩
    · rintro ⟨before,c,after,hcut,hg,hb,he⟩
      exact ⟨_,_,map_rowOf_eq_iff.mpr ⟨before,c,after,hcut,hb,he,rfl,rfl⟩,hg⟩
  refine ⟨fails,?_,?_,?_,fun row => categorized_of_unmapped⟩
  · intro hn
    cases hg : a.gather q localIds (cuts.map (rowOf a.definition base a.now)) [] with
    | error e =>
      obtain ⟨before,c,after,hcut,hgo,-,he⟩ := (fails e).mp (by rw [hs,hg])
      rw [hn before c after hcut hgo] at he
      cases he
    | ok result =>
      rw [hs,hg,gather_eq_harvest (fun c r h => (rowOf_eq_ok_iff.mp h).2) hg]
  · intro c before f after hcut hf
    simp only [made,RowTexts.row,hcut,RowTexts.fieldsRow_skip hf]
  · intro c value hh hv
    simp only [made,RowTexts.row,hh,Option.bind_some,hv,Option.bind_none]

/-- An agent of a page with two dates: one that cannot be read, and one before the calendar. -/
def dates : Agent := listing .date {} <|
  "<li><a href=/t>x</a><i>long ago</i></li><li><a href=/u>y</a><i>99999 years ago</i></li>"

set_option maxRecDepth 100000 in
/-- A date that cannot be read costs nothing but itself, and one before the calendar everything. -/
theorem early_date_ends_search : ∃ (places : List Place) (t : Session) (cuts : List RowTexts),
    ({} : Session).run (dates.resultRows {}) = (.ok places,t) ∧
    places.map (RowTexts.cut dates.definition dates.now) = cuts.map .ok ∧
    ({} : Session).run (dates.search {}) = (.error (.time .outOfCalendar),t) := by
  let first : RowTexts := ⟨[(.title,"x"),(.download,"/t"),(.date,"long ago")],none⟩
  let second : RowTexts := ⟨[(.title,"y"),(.download,"/u"),(.date,"99999 years ago")],none⟩
  have hcuts : ((({} : Session).run (dates.resultRows {})).1.toOption.map fun places =>
      places.map fun el => (RowTexts.cut dates.definition dates.now el).toOption) =
      some ([first,second].map some) := by decide +kernel
  have hlong : first.fault? dates.now = none := by
    rw [← Option.isNone_iff_eq_none]
    decide +kernel
  have hyears : Time.readFuzzy "99999 years ago".toList dates.now = .error .outOfCalendar := by
    decide +kernel
  have hlate : second.fault? dates.now = some (.time .outOfCalendar) := by
    simp only [second,RowTexts.fault?,List.findSome?_cons,RowTexts.outOfRange?,hyears]
    rfl
  rcases hr : ({} : Session).run (dates.resultRows {}) with ⟨e | places,t⟩
  · rw [hr] at hcuts
    cases hcuts
  · rw [hr] at hcuts
    have hc := map_of_toOption (Option.some.inj hcuts)
    refine ⟨places,t,[first,second],rfl,hc,((search_fails_iff_outOfRange hr hc).1 _).mpr
      ⟨[first],second,[],rfl,⟨?_,rfl⟩,by simpa using hlong,hlate⟩⟩
    intro row hrow
    rw [List.mem_singleton.mp hrow,isUntitled,RowTexts.row_title]
    rfl

end TrackerHub.Agent
