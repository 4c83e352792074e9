import TrackerHub.Proofs.Agent.Working
import TrackerHub.Proofs.Page.MergedRows
import TrackerHub.Proofs.Page.SelectorReach
import TrackerHub.Proofs.Web.Kept

/-! # Removed rows

Which rows are left of a page whose rows were joined and thinned out. The row selector is read up to three
times, on three pages, and what it matches on one of them it need not match on the next: a row that
was left out can make another one match. A selector that looks only at an element itself, and at the
elements around it if no rows are joined, matches the same elements on all of them.
-/
namespace TrackerHub.Page
open Node Place
open Selector (anyKeepsTo Agree)

/-- The numbers of the elements of a page that match one of the selectors, in document order. -/
def matchesOf (l : List Selector) (page : Document) : List Nat :=
  ((Place.ofPage page).select l).map (·.tag.id)

/-- The numbers of those of them that match one of the selectors `m` too. -/
def markedOf (l m : List Selector) (page : Document) : List Nat :=
  (((Place.ofPage page).select l).filter fun p => p.isMatch m).map (·.tag.id)

section
variable {l m : List Selector} {page : Document} {p : Place}

theorem map_tag_below (page : Document) : (Place.ofPage page).below.map (·.tag) = tagsOf page :=
  map_tag_withinAll _ _ _

theorem tag_of_mem_select (h : p ∈ (Place.ofPage page).select l) : p.tag ∈ tagsOf page :=
  map_tag_below page ▸ List.mem_map_of_mem (List.mem_filter.mp h).1

/-- If an element matches and one of the page agrees with it, the one of the page matches too. -/
theorem mem_select_of_agree {around : Bool} {q : Place} {env : Selector.Scope}
    (hl : anyKeepsTo around l = true) (hp : Selector.holdsAny env p l = true) (h : Agree around q p)
    (hq : q ∈ (Place.ofPage page).below) : q ∈ (Place.ofPage page).select l :=
  List.mem_filter.mpr ⟨hq,(Selector.holdsAny_congr h l hl).trans hp⟩

theorem isMatch_congr {around : Bool} {q : Place} (hm : anyKeepsTo around m = true) (h : Agree around p q) :
    p.isMatch m = q.isMatch m := by
  rw [isMatch,isMatch,isPage,isPage,h.1,Selector.holdsAny_congr h m hm]

/-- A match that is left after elements were taken out was a match before, if the selectors look only at an
element and those around it. -/
theorem exists_match_of_withoutOf {gone : Nat → Bool} (hl : anyKeepsTo true l = true)
    (hp : p ∈ (Place.ofPage (withoutOf gone page)).select l) :
    ∃ q ∈ (Place.ofPage page).select l, Agree true q p := by
  obtain ⟨hin,hpl⟩ := List.mem_filter.mp hp
  obtain ⟨q,hq,heq⟩ := exists_outline_of_withoutOf [⟨rootTag,[],[]⟩] [] rfl hin
  have hagree : Agree true q p := ⟨tag_of_outline heq,fun _ => heq⟩
  exact ⟨q,mem_select_of_agree hl hpl hagree hq,hagree⟩

theorem not_mem_markedOf (hp : p ∈ (Place.ofPage (withoutOf (markedOf l m page).contains page)).select l) :
    p.tag.id ∉ markedOf l m page := by
  simpa using not_gone_of_mem (List.mem_map_of_mem (tag_of_mem_select hp))

/-- After the marked matches were taken out no match is marked, if the selectors look only at an element and
those around it. -/
theorem unmarked_of_withoutOf (hl : anyKeepsTo true l = true) (hm : anyKeepsTo true m = true)
    (hp : p ∈ (Place.ofPage (withoutOf (markedOf l m page).contains page)).select l) :
    p.isMatch m = false := by
  obtain ⟨q,hq,hagree⟩ := exists_match_of_withoutOf hl hp
  refine Bool.not_eq_true _ ▸ fun hpm => not_mem_markedOf hp ?_
  refine List.mem_map.mpr ⟨q,List.mem_filter.mpr ⟨hq,?_⟩,congrArg Tag.id hagree.1⟩
  rw [isMatch_congr hm hagree,hpm]

/-- A match of a page was a match of another one that has the element too, if the selectors look only at
an element. -/
theorem mem_matchesOf_of_tag {served : Document} (hl : anyKeepsTo false l = true)
    (hp : p ∈ (Place.ofPage page).select l) (ht : p.tag ∈ tagsOf served) :
    p.tag.id ∈ matchesOf l served := by
  rw [← map_tag_below] at ht
  obtain ⟨q,hq,heq⟩ := List.mem_map.mp ht
  have hql := mem_select_of_agree hl (List.mem_filter.mp hp).2 ⟨heq,nofun⟩ hq
  exact List.mem_map.mpr ⟨q,hql,congrArg Tag.id heq⟩

end

/-! ## Joined rows -/

section
variable {after : Nat} {rows : List Nat} {page : Document}

theorem mergeRows_zero (rows : List Nat) (page : Document) : mergeRows 0 rows page = page := by
  unfold mergeRows
  generalize rows.length = fuel
  induction fuel generalizing rows with
  | zero => rfl
  | succ fuel ih =>
    cases rows with
    | nil => rfl
    | cons lead rest => exact ih rest

/-- A row that is still on the page after the rows were joined is a lead row. -/
theorem mem_leadRows_of_mergeRows (hn : IsNumbered page) {id : Nat} (h : id ∈ rows)
    (hin : id ∈ numbersOf (mergeRows after rows page)) : id ∈ leadRows after rows := by
  rcases List.mem_append.mp ((perm_rows after rows).mem_iff.mpr h) with hl | hl
  · exact hl
  · obtain ⟨m,hm,rfl⟩ := List.mem_map.mp hl
    rw [mergeRows_eq_moveAll] at hin
    exact absurd hin ((moveAll_facts hn _).2 m hm)

/-- A row that remains is an element of the page as it was served and was not left out. If it is one of
the rows of that page it leads its rows. With selectors that look only at an element and those around it
it is not marked, and with a row selector that looks only at an element, or at those around it too where no
rows are joined, it is one of the rows of that page. -/
theorem facts_of_remaining {l m : List Selector} {p : Place} (hn : IsNumbered page)
    (hp : p ∈ (Place.ofPage (withoutOf (markedOf l m (mergeRows after (matchesOf l page) page)).contains
      (mergeRows after (matchesOf l page) page))).select l) :
    p.tag ∈ tagsOf page ∧ p.tag.id ∉ markedOf l m (mergeRows after (matchesOf l page) page) ∧
      (p.tag.id ∈ matchesOf l page ↔ p.tag.id ∈ leadRows after (matchesOf l page)) ∧
      (anyKeepsTo true (l ++ m) = true → p.isMatch m = false) ∧
      (anyKeepsTo (after == 0) l = true → p.tag.id ∈ leadRows after (matchesOf l page)) := by
  have hmerged := (tagsOf_withoutOf_sublist _ _).subset (tag_of_mem_select hp)
  have hserved : p.tag ∈ tagsOf page := by
    rw [mergeRows_eq_moveAll] at hmerged
    exact (moveAll_facts hn _).1.subset hmerged
  have hleads : p.tag.id ∈ matchesOf l page ↔ p.tag.id ∈ leadRows after (matchesOf l page) :=
    ⟨fun h => mem_leadRows_of_mergeRows hn h (List.mem_map_of_mem hmerged),
      fun h => (perm_rows _ _).subset (List.mem_append_left _ h)⟩
  refine ⟨hserved,not_mem_markedOf hp,hleads,fun hk => ?_,fun hk => hleads.mp ?_⟩
  · rw [Selector.anyKeepsTo_append,Bool.and_eq_true_iff] at hk
    exact unmarked_of_withoutOf hk.1 hk.2 hp
  · cases after with
    | zero =>
      obtain ⟨q,hq,hagree⟩ := exists_match_of_withoutOf hk hp
      rw [mergeRows_zero] at hq
      exact List.mem_map.mpr ⟨q,hq,congrArg Tag.id hagree.1⟩
    | succ after => exact mem_matchesOf_of_tag hk hp hserved

end

end TrackerHub.Page

namespace TrackerHub.Agent
open Page (Place matchesOf markedOf mergeRows leadRows)
open Page.Node (tagsOf withoutOf numbersOf)
open Selector (anyKeepsTo)
open Web (Session LoadedPage Response)

section
variable {a : Agent} {s u : Session} {found : List Place}

theorem run_pageRows_eq_ok : s.run a.pageRows = (.ok found,u) ↔
    ∃ l, readSelectors a.definition.search.rows.block.selector = .ok l ∧ found = s.place.select l ∧ u = s := by
  unfold pageRows
  rw [Session.run_bind_eq_ok]
  constructor
  · rintro ⟨l,t,hlift,h⟩
    obtain ⟨hl,rfl⟩ := run_lift_eq_ok.mp hlift
    cases h
    exact ⟨l,hl,rfl,rfl⟩
  · rintro ⟨l,hl,rfl,rfl⟩
    exact ⟨l,u,run_lift_eq_ok.mpr ⟨hl,rfl⟩,rfl⟩

variable {page : LoadedPage}

theorem document_of_page (h : s.page = some page) : s.document = page.nodes := by
  rw [Session.document,h]
  rfl

theorem page_withDocument (h : s.page = some page) (nodes : Page.Document) :
    (s.withDocument nodes).page = some { page with nodes } := by
  rw [Session.withDocument,h]
  rfl

/-- The rows that remain of a page: those that match after the marked matches were taken out. -/
theorem run_remainingRows_eq_ok (hs : s.page = some page)
    (hr : a.definition.search.rows.remove.isEmpty = false) (h : s.run a.remainingRows = (.ok found,u)) :
    ∃ l, readSelectors a.definition.search.rows.block.selector = .ok l ∧
      ((matchesOf l page.nodes = [] ∧ found = []) ∨
        ∃ m, readSelectors a.definition.search.rows.remove = .ok m ∧
          found = (Place.ofPage (withoutOf (markedOf l m page.nodes).contains page.nodes)).select l) := by
  unfold remainingRows at h
  simp only [hr,Bool.not_false,if_true] at h
  obtain ⟨first,t,hfirst,hrest⟩ := Session.run_bind_eq_ok.mp h
  obtain ⟨l,hl,hplaces,rfl⟩ := run_pageRows_eq_ok.mp hfirst
  rw [Session.place,document_of_page hs] at hplaces
  refine ⟨l,hl,?_⟩
  cases first with
  | nil =>
    obtain ⟨l',hl',hfound,-⟩ := run_pageRows_eq_ok.mp hrest
    cases hl.symm.trans hl'
    rw [Session.place,document_of_page hs,← hplaces] at hfound
    exact .inl ⟨by rw [matchesOf,← hplaces]; rfl,hfound⟩
  | cons p rest =>
    obtain ⟨m,t',hlift,hremove⟩ := Session.run_bind_eq_ok.mp hrest
    obtain ⟨hm,rfl⟩ := run_lift_eq_ok.mp hlift
    obtain ⟨_,t,hmodify,hlast⟩ := Session.run_bind_eq_ok.mp hremove
    obtain ⟨l',hl',hfound,-⟩ := run_pageRows_eq_ok.mp hlast
    cases hl.symm.trans hl'
    rw [Session.run_modify] at hmodify
    obtain rfl := (Prod.mk.inj hmodify).2
    rw [Session.place,document_of_page (page_withDocument hs _),document_of_page hs,hplaces] at hfound
    exact .inr ⟨m,hm,hfound⟩

/-- What becomes of the rows of a page. -/
theorem run_selectRows_eq_ok (hs : s.page = some page)
    (hr : a.definition.search.rows.remove.isEmpty = false) (h : s.run a.selectRows = (.ok found,u)) :
    ∃ l, readSelectors a.definition.search.rows.block.selector = .ok l ∧
      let merged := mergeRows a.definition.search.rows.after (matchesOf l page.nodes) page.nodes
      (matchesOf l merged = [] ∧ found = []) ∨
        ∃ m, readSelectors a.definition.search.rows.remove = .ok m ∧
          found = (Place.ofPage (withoutOf (markedOf l m merged).contains merged)).select l := by
  rw [selectRows_eq] at h
  by_cases hafter : 0 < a.definition.search.rows.after
  · simp only [hafter,if_true] at h
    obtain ⟨first,t,hfirst,hrest⟩ := Session.run_bind_eq_ok.mp h
    obtain ⟨l,hl,hplaces,rfl⟩ := run_pageRows_eq_ok.mp hfirst
    obtain ⟨_,t',hmodify,hlast⟩ := Session.run_bind_eq_ok.mp hrest
    rw [Session.run_modify] at hmodify
    obtain rfl := (Prod.mk.inj hmodify).2
    rw [Session.place,document_of_page hs] at hplaces
    obtain ⟨l',hl',hfound⟩ := run_remainingRows_eq_ok (page_withDocument hs _) hr hlast
    cases hl.symm.trans hl'
    rw [document_of_page hs,hplaces] at hfound
    exact ⟨l,hl,hfound⟩
  · simp only [hafter,if_false] at h
    obtain ⟨l,hl,hfound⟩ := run_remainingRows_eq_ok hs hr h
    refine ⟨l,hl,?_⟩
    rw [Nat.eq_zero_of_not_pos hafter,Page.mergeRows_zero]
    exact hfound

/-- A row that is handed out is an element of the page as it was served, and is not among the rows that
were left out. It is one of the rows of the page as it was served if and only if it leads its rows there.
If the selectors look only at an element and those around it, it does not match the selector of the rows to
leave out; if the row selector looks only at an element, or at those around it too where no rows are
joined, it is a lead row. -/
theorem selectRows_leaves_out {response : Response} (hs : s.page = some (.ofResponse response))
    (hr : a.definition.search.rows.remove.isEmpty = false) (h : s.run a.selectRows = (.ok found,u)) :
    ∃ l, readSelectors a.definition.search.rows.block.selector = .ok l ∧
      let served := Page.parse response.text
      let after := a.definition.search.rows.after
      let merged := mergeRows after (matchesOf l served) served
      (matchesOf l merged = [] ∧ found = []) ∨
        ∃ m, readSelectors a.definition.search.rows.remove = .ok m ∧
          found = (Place.ofPage (withoutOf (markedOf l m merged).contains merged)).select l ∧
          ∀ p ∈ found, p.tag ∈ tagsOf served ∧ p.tag.id ∉ markedOf l m merged ∧
            (p.tag.id ∈ matchesOf l served ↔ p.tag.id ∈ leadRows after (matchesOf l served)) ∧
            (anyKeepsTo true (l ++ m) = true → p.isMatch m = false) ∧
            (anyKeepsTo (after == 0) l = true → p.tag.id ∈ leadRows after (matchesOf l served)) := by
  obtain ⟨l,hl,hfound⟩ := run_selectRows_eq_ok hs hr h
  rw [show (LoadedPage.ofResponse response).nodes = Page.parse response.text from rfl] at hfound
  refine ⟨l,hl,hfound.imp id fun ⟨m,hm,hplaces⟩ => ⟨m,hm,hplaces,fun p hp => ?_⟩⟩
  rw [hplaces] at hp
  exact Page.facts_of_remaining (Page.isNumbered_parse response.text) hp

end

/-- An agent that leaves out the rows with a mark. -/
def weeding (selector : String) : Agent where
  definition := { site := "s", search := { rows := { block := { selector }, remove := ".x" } } }
  sites := {}
  server := .ofPage ""
  now := ⟨⟨2009,11,10⟩,23,0,0,0,some 0⟩

/-- A session with a page that was just loaded. -/
def showing (html : String) : Session where
  page := some (.ofResponse {
    url := {}, status := 200, headers := [], body := Text.encodeUtf8 html.toList })

set_option maxRecDepth 100000 in
theorem marked_item_left_out : ∃ (found : List Place) (u : Session) (m : List Selector),
    (weeding "li").definition.search.rows.remove.isEmpty = false ∧
    (showing "<ul><li class=x>1<li>2</ul>").run (weeding "li").selectRows = (.ok found,u) ∧
    readSelectors ".x" = .ok m ∧ found.map (·.tag.id) = [5] ∧ ∀ p ∈ found, p.isMatch m = false := by
  have hresult : ((showing "<ul><li class=x>1<li>2</ul>").run (weeding "li").selectRows).1.toOption.map
      (fun found => found.map (·.tag.id)) = some [5] := by decide +kernel
  have hr : (weeding "li").definition.search.rows.remove.isEmpty = false := by decide
  rcases h : (showing "<ul><li class=x>1<li>2</ul>").run (weeding "li").selectRows with ⟨e | found,u⟩
  · rw [h] at hresult
    cases hresult
  · rw [h] at hresult
    have hids : found.map (·.tag.id) = [5] := Option.some.inj hresult
    obtain ⟨l,hl,hfound⟩ := selectRows_leaves_out rfl hr h
    rcases hfound with ⟨-,rfl⟩ | ⟨m,hm,-,hall⟩
    · cases hids
    · refine ⟨found,u,m,hr,rfl,hm,hids,fun p hp => (hall p hp).2.2.2.1 ?_⟩
      have hkeeps : ((readSelectors "li").toOption.getD [] ++ (readSelectors ".x").toOption.getD []) |>
          anyKeepsTo true := by decide +kernel
      rwa [show readSelectors "li" = .ok l from hl,show readSelectors ".x" = .ok m from hm] at hkeeps

-- A selector that counts lets the second item into the place of the first one, marked as it is.
set_option maxRecDepth 100000 in
example : ((showing "<ul><li class=x>1<li class=x>2</ul>").run
      (weeding "li:first-child").selectRows).1.toOption.map
    (fun found => found.map fun p => (p.tag.id,p.tag.classes)) = some [(5,["x".toList])] := by
  decide +kernel

end TrackerHub.Agent
