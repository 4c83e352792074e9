import TrackerHub.Proofs.Agent.RemovedRows
import TrackerHub.Proofs.Agent.RowFields
import TrackerHub.Proofs.Agent.SearchLimit
import TrackerHub.Proofs.Page.SiblingRows
import TrackerHub.Proofs.ReadLists
import TrackerHub.Proofs.Web.LoadedPage

/-! # Dates carried from headers

Where the rows of a page stand under headers with dates, each row has the date of the last header before it.
The rows look for their headers one by one and backwards; this is a single pass over the siblings, which
carries the date of the last header along. Headers are told on the page as it is when its rows are read.
-/
namespace TrackerHub.Agent
open Page (Place)
open Text (Chars)
open Time (DateTime)
open Web (Session)

/-! ## The pass -/

section
variable {α : Type} {header? : Place → Option (Option α)} {date : Option α} {p : Place}

/-- A pass over siblings from the left to the right: each of them with the date carried to it. A header has a
date or none, and what it has is carried on behind it. -/
def carry (header? : Place → Option (Option α)) : Option α → List Place → List (Place × Option α)
  | _, [] => []
  | date, p :: rest => (p,date) :: carry header? ((header? p).getD date) rest

/-- What is carried to an element is what the last header before it has. -/
theorem mem_carry (header? : Place → Option (Option α)) (date : Option α) (p : Place) (before after : List Place) :
    (p,(before.reverse.findSome? header?).getD date) ∈ carry header? date (before ++ p :: after) := by
  induction before generalizing date with
  | nil => exact List.mem_cons_self
  | cons c before ih =>
    have hlast : ((c :: before).reverse.findSome? header?).getD date =
        (before.reverse.findSome? header?).getD ((header? c).getD date) := by
      rw [List.reverse_cons,List.findSome?_append]
      cases before.reverse.findSome? header? <;> cases hc : header? c <;> simp [hc]
    rw [hlast]
    exact List.mem_cons_of_mem _ (ih _)

theorem mem_of_mem_carry {siblings : List Place} {d : Option α} (h : (p,d) ∈ carry header? date siblings) :
    p ∈ siblings := by
  induction siblings generalizing date with
  | nil => cases h
  | cons c rest ih =>
    rcases List.mem_cons.mp h with heq | h
    · cases heq
      exact List.mem_cons_self
    · exact List.mem_cons_of_mem c (ih h)

/-- The pass carries the same dates over the siblings as they were served, if none of those that are gone is
a header and the others are the headers that they were. -/
theorem mem_carry_of_filter {served now : List Place} {gone : Nat → Bool} {moved : List Page.Tag} {d : Option α}
    (htags : now.map (·.tag) = (served.map (·.tag)).filter (fun t => !gone t.id) ++ moved)
    (hlost : ∀ c ∈ served, gone c.tag.id = true → header? c = none)
    (hkept : ∀ c ∈ served, ∀ e ∈ now, c.tag = e.tag → header? c = header? e)
    (hp : p.tag ∉ moved) (h : (p,d) ∈ carry header? date now) :
    ∃ c ∈ served, c.tag = p.tag ∧ (c,d) ∈ carry header? date served := by
  induction served generalizing now date with
  | nil =>
    have hmoved : p.tag ∈ now.map (·.tag) := List.mem_map_of_mem (mem_of_mem_carry h)
    rw [htags] at hmoved
    exact absurd hmoved hp
  | cons c served ih =>
    rw [List.map_cons,List.filter_cons] at htags
    rw [List.forall_mem_cons] at hlost
    -- A sibling that is gone was no header, so that the date is carried on past it.
    cases hgone : gone c.tag.id with
    | true =>
      have hnone : header? c = none := hlost.1 hgone
      simp only [hgone,Bool.not_true,Bool.false_eq_true,if_false] at htags
      obtain ⟨e,he,htag,hin⟩ := ih htags hlost.2 (fun c' hc' => hkept c' (List.mem_cons_of_mem c hc')) h
      refine ⟨e,List.mem_cons_of_mem c he,htag,?_⟩
      rw [carry,hnone]
      exact List.mem_cons_of_mem _ hin
    | false =>
      simp only [hgone,Bool.not_false,if_true,List.cons_append] at htags
      cases now with
      | nil => cases htags
      | cons e now =>
        obtain ⟨htag,htags⟩ := List.cons.inj htags
        have hsame : header? c = header? e := hkept c List.mem_cons_self e List.mem_cons_self htag.symm
        rcases List.mem_cons.mp h with heq | h
        · cases heq
          exact ⟨c,List.mem_cons_self,htag.symm,List.mem_cons_self⟩
        · obtain ⟨e',he',htag',hin⟩ := ih htags hlost.2
            (fun c' hc' e' he' => hkept c' (List.mem_cons_of_mem c hc') e' (List.mem_cons_of_mem e he')) h
          refine ⟨e',List.mem_cons_of_mem c he',htag',?_⟩
          rw [carry,hsame]
          exact List.mem_cons_of_mem _ hin

end

/-! ## Dates of rows -/

section
variable (a : Agent)

def isHeader (p : Place) : Bool :=
  (readSelectors a.definition.search.rows.dateHeaders.selector).toOption.any fun l => p.isMatch l

/-- The date of a header, if its text is one; nothing if the element is no header. -/
def headerDate? (p : Place) : Option (Option DateTime) :=
  if a.isHeader p then
    some ((a.definition.search.rows.dateHeaders.valueOf p a.now).toOption.bind (RowTexts.readDate? a.now))
  else none

end

section
variable {a : Agent} {p : Place} {row : Row}

theorem findSome?_headerDate? (siblings : List Place) : siblings.findSome? a.headerDate? =
    (siblings.find? a.isHeader).map fun p =>
      (a.definition.search.rows.dateHeaders.valueOf p a.now).toOption.bind (RowTexts.readDate? a.now) := by
  induction siblings with
  | nil => rfl
  | cons c siblings ih =>
    rw [List.findSome?_cons,List.find?_cons,headerDate?]
    cases a.isHeader c with
    | true => rfl
    | false => exact ih

theorem date_of_headerText {header : Option String}
    (h : RowTexts.headerText a.definition.search.rows.dateHeaders p a.now = .ok header) :
    header.bind (RowTexts.readDate? a.now) = (p.previous.findSome? a.headerDate?).getD none := by
  unfold RowTexts.headerText Place.previousMatch? at h
  rw [findSome?_headerDate?]
  cases hprevious : p.previous with
  | nil =>
    rw [hprevious] at h
    cases h
    rfl
  | cons c siblings =>
    rw [hprevious] at h
    cases hread : readSelectors a.definition.search.rows.dateHeaders.selector with
    | error e =>
      rw [hread] at h
      cases h
    | ok l =>
      have hheader : a.isHeader = fun p => p.isMatch l := by
        funext p
        rw [isHeader,hread]
        rfl
      rw [hheader]
      simp only [hread,Except.map,Except.mapError,bind,Except.bind] at h
      cases hfound : (c :: siblings).find? (fun p => p.isMatch l) with
      | none =>
        rw [hfound] at h
        cases h
        rfl
      | some found =>
        simp only [hfound] at h
        cases hvalue : a.definition.search.rows.dateHeaders.valueOf found a.now with
        | error e => simp [hvalue] at h
        | ok value =>
          simp only [hvalue] at h
          cases h
          simp only [Option.map_some,Option.getD_some,hvalue]
          rfl

theorem row_publishDate (site : String) (base : Chars) (now : DateTime) (t : RowTexts) :
    (t.row site base now).release.publishDate =
      (t.header.bind (RowTexts.readDate? now)).or (RowTexts.last? .date (RowTexts.readDate? now) t.fields) := by
  unfold RowTexts.row RowTexts.redated Row.identified
  split <;> rfl

/-- A row has the date of the nearest header before it, if dates come from headers. -/
theorem publishDate_of_ofPlace {base : Chars} (hdate : a.definition.search.hasField .date = false)
    (hheaders : a.definition.search.rows.dateHeaders.isEmpty = false)
    (h : Row.ofPlace a.definition base a.now p = .ok row) :
    row.release.publishDate = (p.previous.findSome? a.headerDate?).getD none := by
  obtain ⟨t,hcut,rfl⟩ := RowTexts.cut_of_ofPlace h
  unfold RowTexts.cut at hcut
  obtain ⟨fields,hfields,hrest⟩ := bind_eq_ok.mp hcut
  simp only [hdate,hheaders,Bool.or_self,Bool.false_eq_true,if_false] at hrest
  obtain ⟨header,hheader,⟨⟩⟩ := bind_eq_ok.mp hrest
  rw [← date_of_headerText hheader]
  have hnone : RowTexts.last? .date (RowTexts.readDate? a.now) fields = none := by
    have hkinds : ∀ f ∈ fields, f.1 ≠ .date := by
      intro f hf hkind
      obtain ⟨x,hx,htext⟩ := exists_of_mem_mapM hfields hf
      obtain ⟨text,-,rfl⟩ := map_eq_ok.mp htext
      have hhas : a.definition.search.hasField .date = true := List.any_eq_true.mpr ⟨x,hx,decide_eq_true hkind⟩
      rw [hdate] at hhas
      cases hhas
    have hempty : (fields.filterMap fun f => if f.1 = .date then RowTexts.readDate? a.now f.2 else none) = [] :=
      List.filterMap_eq_nil_iff.mpr fun f hf => if_neg (hkinds f hf)
    rw [RowTexts.last?,hempty]
    rfl
  rw [row_publishDate,hnone,Option.or_none]

theorem publishDate_of_keep {localIds : List String} {r : Release} (h : a.keep localIds row = some r) :
    r.publishDate = row.release.publishDate := by
  have hcategorized : (row.categorized a.definition.categories).release.publishDate = row.release.publishDate := by
    unfold Row.categorized
    split
    · rfl
    · dsimp only
      split <;> rfl
  unfold keep at h
  split at h
  · cases h
  · dsimp only at h
    split at h
    · cases h
      exact hcategorized
    · cases h

end

/-! ## Rows that are kept -/

section
variable {a : Agent} {q : Query}

/-- What a search gives is nothing, or what is kept of the first rows of the page. -/
theorem gather_reads {localIds : List String} {outs : List (Except AgentError Row)} {result : List Release}
    (h : a.gather q localIds outs [] = .ok result) : result = [] ∨ ∃ (rows : List Row) (unread : _),
      outs = rows.map .ok ++ unread ∧ result = rows.filterMap (a.keep localIds) := by
  by_cases hq : 0 < q.limit
  · refine (gather_limited hq h (Nat.zero_le _)).imp_right ?_
    rintro ⟨rows,unread,houts,hresult,-,-⟩
    exact ⟨rows,unread,houts,by rw [hresult,List.nil_append]⟩
  · by_cases hempty : result = []
    · exact .inl hempty
    · obtain ⟨rows,houts,-,hresult⟩ := gather_unlimited (Int.not_lt.mp hq) h hempty
      exact .inr ⟨rows,[],by rw [houts,List.append_nil],by rw [hresult,List.nil_append]⟩

theorem exists_kept {R : Place → Row → Prop} {places : List Place} {rows : List Row} (keep : Row → Option Release)
    (h : List.Forall₂ R places rows) : ∃ kept : List Place, kept.Sublist places ∧
      List.Forall₂ (fun p r => ∃ row, R p row ∧ keep row = some r) kept (rows.filterMap keep) := by
  induction h with
  | nil => exact ⟨[],List.Sublist.slnil,.nil⟩
  | @cons p row places rows hp _ ih =>
    obtain ⟨kept,hsub,hkept⟩ := ih
    cases hrow : keep row with
    | none => exact ⟨kept,hsub.cons p,by rwa [List.filterMap_cons_none hrow]⟩
    | some r => exact ⟨p :: kept,hsub.cons_cons p,by
        rw [List.filterMap_cons_some hrow]
        exact .cons ⟨row,hp,hrow⟩ hkept⟩

/-- Each release of a search is that of a row of the page, in the order of the rows. -/
theorem releases_of_search {s t : Session} {result : List Release} (h : s.run (a.search q) = (.ok result,t)) :
    ∃ places kept : List Place, s.run (a.resultRows q) = (.ok places,t) ∧ kept.Sublist places ∧
      List.Forall₂ (fun p r => ∃ row, Row.ofPlace a.definition (t.url?.getD []) a.now p = .ok row ∧
        a.keep (a.localCategories q) row = some r) kept result := by
  obtain ⟨places,hplaces,hcollect⟩ := run_search_eq_ok.mp h
  rw [collect_eq_gather] at hcollect
  rcases gather_reads hcollect with rfl | ⟨rows,unread,hmap,rfl⟩
  · exact ⟨places,[],hplaces,List.nil_sublist _,.nil⟩
  · obtain ⟨read,more,rfl,hread,-⟩ := List.map_eq_append_iff.mp hmap
    have hrows : List.Forall₂ (fun p row => Row.ofPlace a.definition (t.url?.getD []) a.now p = .ok row)
        read rows := by
      rw [← List.forall₂_eq_eq_eq,List.forall₂_map_left_iff,List.forall₂_map_right_iff] at hread
      exact hread
    obtain ⟨kept,hsub,hkept⟩ := exists_kept (a.keep (a.localCategories q)) hrows
    exact ⟨_,kept,hplaces,hsub.trans (List.sublist_append_left _ _),hkept⟩

end

end TrackerHub.Agent

/-! ## The page of the rows -/

namespace TrackerHub.Web.Session
open Text (Chars)
variable {server : Server} {s t : Session} {method : String} {url : Chars} {payload : Payload} {x : Unit}

theorem page_of_visit (h : s.run (visit server method url payload) = (.ok x,t)) :
    ∃ response, t.page = some (.ofResponse response) := by
  rw [run_visit] at h
  rcases hfetch : s.run (s.fetching server method url payload) with ⟨e | response,u⟩
  · rw [hfetch] at h
    cases h
  · rw [hfetch] at h
    cases h
    exact ⟨response,rfl⟩

theorem page_of_load (h : s.run (load server method url payload) = (.ok x,t)) :
    ∃ response, t.page = some (.ofResponse response) := by
  obtain ⟨⟨⟩,u,hvisit,h⟩ := run_bind_eq_ok.mp h
  obtain ⟨v,w,hget,h⟩ := run_bind_eq_ok.mp h
  cases hget
  cases hrefresh : u.refresh? with
  | none =>
    rw [hrefresh] at h
    cases h
    exact page_of_visit hvisit
  | some target =>
    rw [hrefresh] at h
    dsimp only at h
    cases hjoin : Url.join (u.url?.getD []) target with
    | error e =>
      rw [hjoin] at h
      cases h
    | ok next =>
      rw [hjoin] at h
      exact page_of_visit h

end TrackerHub.Web.Session

namespace TrackerHub.Agent
open Page (Place Document mergeRows)
open Page.Node (Thins IsNumbered numbersOf)
open Time (DateTime)
open Web (Session Response)
open Web.Session (Keeps Chained)

/-- Whether a step did no more to the page than to thin it out. -/
def Trims (s t : Session) : Prop := ∀ page, s.page = some page → IsNumbered page.nodes →
  ∃ nodes gone, t.page = some { page with nodes } ∧ Thins gone page.nodes nodes

theorem chained_trims : Chained Trims where
  refl _ page hs _ := ⟨page.nodes,_,hs,.refl _⟩
  trans h h' page hs hn := by
    obtain ⟨nodes,gone,ht,hthins⟩ := h page hs hn
    obtain ⟨nodes',gone',hu,hthins'⟩ := h' _ ht (hn.of_subperm hthins.tags)
    exact ⟨nodes',_,hu,hthins.trans hthins'⟩

section
variable {a : Agent} {s t : Session} {places : List Place}

theorem trims_withDocument (edit : Document → Document)
    (h : ∀ page, IsNumbered page → ∃ gone, Thins gone page (edit page)) (s : Session) :
    Trims s (s.withDocument (edit s.document)) := by
  intro page hs hn
  rw [document_of_page hs]
  obtain ⟨gone,hthins⟩ := h page.nodes hn
  exact ⟨_,gone,page_withDocument hs _,hthins⟩

theorem trims_selectRows (a : Agent) : Keeps Trims a.selectRows := by
  have hR := chained_trims
  have rows : Keeps Trims a.pageRows :=
    Keeps.bind hR (keeps_lift hR _ _) fun _ => Keeps.bind hR (Keeps.get hR) fun _ => Keeps.pure hR _
  have remaining : Keeps Trims a.remainingRows :=
    Keeps.ite (Keeps.bind hR rows fun _ => Keeps.ite (Keeps.bind hR (keeps_lift hR _ _) fun _ =>
      Keeps.bind hR (Keeps.modify (trims_withDocument _ fun page _ => ⟨_,.of_withoutOf _ page⟩)) fun _ => rows)
      rows) rows
  rw [selectRows_eq]
  exact Keeps.ite (Keeps.bind hR rows fun found => Keeps.bind hR
    (Keeps.modify (trims_withDocument (mergeRows _ _) fun page hn => by
      rw [Page.mergeRows_eq_moveAll]
      exact Thins.of_moveAll hn _)) fun _ => remaining) remaining

/-- Whether the places that a step gives are on the page that it leaves. -/
def GivesPlaces (w : Working (List Place)) : Prop :=
  ∀ (s t : Session) (places : List Place), s.run w = (.ok places,t) →
    ∀ p ∈ places, p ∈ (Place.ofPage t.document).below

theorem GivesPlaces.bind {α : Type} {w : Working α} {f : α → Working (List Place)} (h : ∀ x, GivesPlaces (f x)) :
    GivesPlaces (w >>= f) := by
  intro s t places hrun
  obtain ⟨x,u,-,hlast⟩ := Session.run_bind_eq_ok.mp hrun
  exact h x u t places hlast

theorem GivesPlaces.ite {c : Prop} [Decidable c] {w v : Working (List Place)} (hw : GivesPlaces w)
    (hv : GivesPlaces v) : GivesPlaces (if c then w else v) := by
  split
  · exact hw
  · exact hv

theorem givesPlaces_pageRows (a : Agent) : GivesPlaces a.pageRows := by
  intro s t places hrun p hp
  obtain ⟨l,-,rfl,rfl⟩ := run_pageRows_eq_ok.mp hrun
  exact (List.mem_filter.mp hp).1

theorem givesPlaces_selectRows (a : Agent) : GivesPlaces a.selectRows := by
  have rows := givesPlaces_pageRows a
  have remaining : GivesPlaces a.remainingRows :=
    .ite (.bind fun _ => .ite (.bind fun _ => .bind fun _ => rows) rows) rows
  rw [selectRows_eq]
  exact .ite (.bind fun _ => .bind fun _ => remaining) remaining

/-- The rows of a search are on a page that was thinned out since it was loaded. -/
theorem page_of_resultRows {q : Query} (h : s.run (a.resultRows q) = (.ok places,t)) :
    ∃ (response : Response) (nodes : Document) (gone : Nat → Bool), t.page = some { response, nodes } ∧
      Thins gone (Page.parse response.text) nodes ∧ ∀ p ∈ places, p ∈ (Place.ofPage nodes).below := by
  unfold resultRows at h
  obtain ⟨_,s₁,-,h⟩ := Session.run_bind_eq_ok.mp h
  obtain ⟨_,s₂,hopen,hrows⟩ := Session.run_bind_eq_ok.mp h
  have hpage : ∃ response, s₂.page = some (.ofResponse response) := by
    unfold openResults at hopen
    obtain ⟨path,u₁,-,hopen⟩ := Session.run_bind_eq_ok.mp hopen
    obtain ⟨url,u₂,-,hopen⟩ := Session.run_bind_eq_ok.mp hopen
    obtain ⟨values,u₃,-,hopen⟩ := Session.run_bind_eq_ok.mp hopen
    split at hopen
    · exact Session.page_of_load (run_browse_eq_ok hopen)
    · exact Session.page_of_load (run_browse_eq_ok hopen)
  obtain ⟨response,hs₂⟩ := hpage
  have htrims := trims_selectRows a s₂ _ hs₂ (Page.isNumbered_parse response.text)
  rw [hrows] at htrims
  obtain ⟨nodes,gone,ht,hthins⟩ := htrims
  have hplaces := givesPlaces_selectRows a s₂ t places hrows
  rw [document_of_page ht] at hplaces
  exact ⟨response,nodes,gone,ht,hthins,hplaces⟩

end

/-! ## The dates of a search -/

/-- Whether headers on a page as it was served are those on the page as it is now: none is gone, and the
other siblings are headers with the same dates, or none, on both. -/
structure SameHeaders (a : Agent) (page : Document) (served now : List Place) : Prop where
  lost : ∀ c ∈ served, c.tag.id ∉ numbersOf page → a.headerDate? c = none
  kept : ∀ c ∈ served, ∀ e ∈ now, c.tag = e.tag → a.headerDate? c = a.headerDate? e

theorem valueOf_congr {b : Block} {c e : Place} (hcases : b.cases = []) (htag : c.tag = e.tag)
    (hchildren : c.children = e.children) (now : DateTime) : b.valueOf c now = b.valueOf e now := by
  have halone : c.alone = e.alone := by rw [Place.alone,Place.alone,htag,hchildren]
  have htext : c.text = e.text := by rw [Place.text,Place.text,htag,hchildren]
  unfold Block.valueOf Block.trimmed
  rw [hcases]
  by_cases hremove : b.remove.isEmpty = true
  · simp only [hremove,if_true,List.isEmpty_nil,Bool.not_true,Bool.false_eq_true,if_false,bind,Except.bind,htag,htext]
  · simp only [hremove,halone,Bool.false_eq_true,if_false]

/-- Where the selector of the headers looks only at an element itself, the headers on both pages are the same
if none was taken out and nothing inside the others has changed. -/
theorem sameHeaders_of_keepsTo {a : Agent} {page : Document} {served now : List Place} {l : List Selector}
    (hread : readSelectors a.definition.search.rows.dateHeaders.selector = .ok l)
    (hl : Selector.anyKeepsTo false l = true) (hcases : a.definition.search.rows.dateHeaders.cases = [])
    (hlost : ∀ c ∈ served, c.tag.id ∉ numbersOf page → a.isHeader c = false)
    (hinside : ∀ c ∈ served, ∀ e ∈ now, c.tag = e.tag → a.isHeader c = true → c.children = e.children) :
    a.SameHeaders page served now where
  lost c hc hgone := by rw [headerDate?,hlost c hc hgone]; rfl
  kept c hc e he htag := by
    have hagree : Selector.Agree false c e := ⟨htag,nofun⟩
    have hheader : a.isHeader c = a.isHeader e := by
      rw [isHeader,isHeader,hread]
      exact Page.isMatch_congr hl hagree
    rw [headerDate?,headerDate?,← hheader]
    split
    next hc' => rw [valueOf_congr hcases htag (hinside c hc e he htag hc')]
    next => rfl

/-- The date of the last header before a row is the one that the pass carries to it, over the siblings as
they are and as they were served. -/
theorem carried_to_row (a : Agent) {p : Place} {page served : Document} {gone : Nat → Bool} (hn : IsNumbered served)
    (h : Thins gone served page) (hp : p ∈ (Place.ofPage page).below) :
    let date := (p.previous.findSome? a.headerDate?).getD none
    ∃ around before : Place, p.parent? = some around ∧ (p,date) ∈ carry a.headerDate? none around.childPlaces ∧
      before ∈ Place.ofLevels served ∧ before.tag = around.tag ∧
      (p.tag ∈ before.childPlaces.map (·.tag) ∨ p.tag.name = "td".toList) ∧
      (p.tag ∈ before.childPlaces.map (·.tag) → a.SameHeaders page before.childPlaces around.childPlaces →
        ∃ c ∈ before.childPlaces, c.tag = p.tag ∧ (c,date) ∈ carry a.headerDate? none before.childPlaces) := by
  intro date
  obtain ⟨around,hparent,haround⟩ := Place.parent_of_mem_below hp
  obtain ⟨after,hsiblings⟩ := Place.childPlaces_of_parent hparent
  have hcarried : (p,date) ∈ carry a.headerDate? none around.childPlaces := by
    have hcarry := mem_carry a.headerDate? none p p.previous.reverse after
    rwa [List.reverse_reverse,← hsiblings] at hcarry
  obtain ⟨cs,moved,hcs,htags,hcells⟩ := h.level _ haround
  rw [← Place.map_part_ofLevels] at hcs
  obtain ⟨before,hbefore,heq⟩ := List.mem_map.mp hcs
  obtain ⟨htag,rfl⟩ := Prod.mk.inj heq
  rw [← Place.map_tag_childPlaces,← Place.map_tag_childPlaces] at htags
  have hin : p.tag ∈ around.childPlaces.map (·.tag) := List.mem_map_of_mem (by rw [hsiblings]; simp)
  refine ⟨around,before,hparent,hcarried,hbefore,htag,?_,fun hserved hsame => ?_⟩
  · rw [htags] at hin
    exact (List.mem_append.mp hin).imp (fun hkept => (List.mem_filter.mp hkept).1) (hcells _)
  · have hstays : gone p.tag.id = false := by
      refine Bool.not_eq_true _ ▸ fun hgone => h.lost _ hgone ?_
      exact List.mem_map_of_mem (Page.map_tag_below page ▸ List.mem_map_of_mem hp)
    have hmoved : p.tag ∉ moved := by
      have hnodup := Page.Node.nodup_topTags (hn.of_subperm h.tags) haround
      rw [← Place.map_tag_childPlaces,htags] at hnodup
      exact List.disjoint_of_nodup_append hnodup (List.mem_filter.mpr ⟨hserved,by rw [hstays]; rfl⟩)
    exact mem_carry_of_filter htags (fun c hc hgone => hsame.lost c hc (h.lost _ hgone)) hsame.kept hmoved hcarried

/-- Dates of releases are carried from headers. Where dates come from headers, each release that a search
gives is that of a row of the page, in order, and has the date that a single pass over the row and its
siblings carries to it. Headers are told on the page as it is when the rows are read. The pass over the
siblings as they were served carries the same date, if none of those that were taken out was a header and
the others are the headers that they were; only a cell that was moved into another row had other siblings. -/
theorem dates_carried_from_headers (a : Agent) (q : Query) {s t : Session} {result : List Release}
    (hdate : a.definition.search.hasField .date = false)
    (hheaders : a.definition.search.rows.dateHeaders.isEmpty = false)
    (h : s.run (a.search q) = (.ok result,t)) :
    ∃ places kept page, s.run (a.resultRows q) = (.ok places,t) ∧ kept.Sublist places ∧ t.page = some page ∧
      List.Forall₂ (fun p r => (∃ row, Row.ofPlace a.definition (t.url?.getD []) a.now p = .ok row ∧
        a.keep (a.localCategories q) row = some r) ∧ ∃ around before : Place, p.parent? = some around ∧
        (p,r.publishDate) ∈ carry a.headerDate? none around.childPlaces ∧
        before ∈ Place.ofLevels (Page.parse page.response.text) ∧ before.tag = around.tag ∧
        (p.tag ∈ before.childPlaces.map (·.tag) ∨ p.tag.name = "td".toList) ∧
        (p.tag ∈ before.childPlaces.map (·.tag) → a.SameHeaders page.nodes before.childPlaces around.childPlaces →
          ∃ c ∈ before.childPlaces, c.tag = p.tag ∧
            (c,r.publishDate) ∈ carry a.headerDate? none before.childPlaces)) kept result := by
  obtain ⟨places,kept,hplaces,hsub,hkept⟩ := releases_of_search h
  obtain ⟨response,nodes,gone,hpage,hthins,hbelow⟩ := page_of_resultRows hplaces
  refine ⟨places,kept,⟨response,nodes⟩,hplaces,hsub,hpage,?_⟩
  have hall := (List.forall₂_and_left _ _).mpr ⟨fun p hp => hbelow p (hsub.subset hp),hkept⟩
  refine hall.imp fun p r ⟨hp,row,hrow,hr⟩ => ⟨⟨row,hrow,hr⟩,?_⟩
  rw [publishDate_of_keep hr,publishDate_of_ofPlace hdate hheaders hrow]
  exact carried_to_row a (Page.isNumbered_parse response.text) hthins hp

/-- An agent of a site whose results stand under headers, with rows in between that it takes out. -/
def underHeaders (headers html : String) : Agent where
  definition := {
    site := "s", links := ["https://s.org/"]
    search := {
      path := "/s"
      rows := { block := { selector := "li.r, li.x" }, remove := ".x", dateHeaders := { selector := headers } }
      fields := [⟨.title,{ selector := "a" }⟩, ⟨.download,{ selector := "a", attr := "href" }⟩] } }
  sites := {}
  server := .ofPage html
  now := ⟨⟨2009,11,10⟩,23,0,0,0,some 0⟩

/-- A row to take out, a header, and a result under it. -/
def headedList : String := "<ul><li class=x>ad</li><li class=d>1 day ago</li><li class=r><a href=/t>x</a></li></ul>"

def headedDate : DateTime := ⟨⟨2009,11,9⟩,23,0,0,0,some 0⟩

set_option maxRecDepth 100000 in
theorem date_carried_past_removed_row : ∃ (result : List Release) (t : Session) (places kept : List Place),
    let a := underHeaders ".d" headedList
    a.definition.search.hasField .date = false ∧ a.definition.search.rows.dateHeaders.isEmpty = false ∧
    ({} : Session).run (a.search {}) = (.ok result,t) ∧ result.map (·.publishDate) = [some headedDate] ∧
    ({} : Session).run (a.resultRows {}) = (.ok places,t) ∧ kept.Sublist places ∧
    List.Forall₂ (fun p r => ∃ around : Place, p.parent? = some around ∧
      (p,r.publishDate) ∈ carry a.headerDate? none around.childPlaces) kept result := by
  have hdates : (({} : Session).run ((underHeaders ".d" headedList).search {})).1.toOption.map
      (fun result => result.map (·.publishDate)) = some [some headedDate] := by decide +kernel
  rcases h : ({} : Session).run ((underHeaders ".d" headedList).search {}) with ⟨e | result,t⟩
  · rw [h] at hdates
    cases hdates
  · rw [h] at hdates
    obtain ⟨places,kept,page,hplaces,hsub,-,hkept⟩ :=
      dates_carried_from_headers (underHeaders ".d" headedList) {} (by decide) (by decide) h
    refine ⟨result,t,places,kept,by decide,by decide,h,Option.some.inj hdates,hplaces,hsub,?_⟩
    exact hkept.imp fun p r ⟨_,around,before,hparent,hcarried,_⟩ => ⟨around,hparent,hcarried⟩

set_option maxRecDepth 100000 in
/-- A selector that counts finds the header on the page as it was served, where the pass carries its date to
the result, but not on the page without the row that was taken out, though that row is no header. -/
theorem header_lost_in_removal : let a := underHeaders "li:nth-child(2)" headedList
    a.definition.search.hasField .date = false ∧ a.definition.search.rows.dateHeaders.isEmpty = false ∧
    (∃ result t places, ({} : Session).run (a.search {}) = (.ok result,t) ∧
      result.map (·.publishDate) = [none] ∧ ({} : Session).run (a.resultRows {}) = (.ok places,t) ∧
      places.map (·.tag.id) = [6]) ∧
    ∃ list ∈ Place.ofLevels (Page.parse headedList.toList),
      list.childPlaces.map (fun c => (c.tag.id,a.isHeader c)) = [(4,false),(5,true),(6,false)] ∧
      (carry a.headerDate? none list.childPlaces).map (fun e => (e.1.tag.id,e.2)) =
        [(4,none),(5,none),(6,some headedDate)] := by
  intro a
  obtain ⟨hrun,hrows⟩ :
      (({} : Session).run (a.search {})).1.toOption.map (fun result => result.map (·.publishDate)) = some [none] ∧
      (({} : Session).run (a.resultRows {})).1.toOption.map (fun places => places.map (·.tag.id)) = some [6] := by
    decide +kernel
  refine ⟨by decide,by decide,?_,?_⟩
  · rcases h : ({} : Session).run (a.search {}) with ⟨e | result,t⟩
    · rw [h] at hrun
      cases hrun
    · rw [h] at hrun
      obtain ⟨places,hplaces,-⟩ := run_search_eq_ok.mp h
      rw [hplaces] at hrows
      exact ⟨result,t,places,rfl,Option.some.inj hrun,hplaces,Option.some.inj hrows⟩
  · have hlist : (Place.ofLevels (Page.parse headedList.toList))[3]?.map (fun list =>
        (list.childPlaces.map (fun c => (c.tag.id,a.isHeader c)),
          (carry a.headerDate? none list.childPlaces).map fun e => (e.1.tag.id,e.2))) =
        some ([(4,false),(5,true),(6,false)],[(4,none),(5,none),(6,some headedDate)]) := by decide +kernel
    obtain ⟨list,hget,heq⟩ := Option.map_eq_some_iff.mp hlist
    obtain ⟨hheaders,hcarried⟩ := Prod.mk.inj heq
    exact ⟨list,List.mem_of_getElem? hget,hheaders,hcarried⟩

end TrackerHub.Agent
