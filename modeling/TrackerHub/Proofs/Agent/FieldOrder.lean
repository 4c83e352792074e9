import Mathlib.Data.List.Nodup
import Mathlib.Data.List.Perm.Basic
import TrackerHub.Proofs.Agent.RowFields
import TrackerHub.Proofs.ReadLists
import TrackerHub.Proofs.Web.LoadedPage

/-! # The order of fields

A definition may declare its fields in any order. The texts of a row are of different kinds, and each
speaks for its own field, so they make the same row in any order; only the fault that is found first may
be another one.
-/
namespace TrackerHub
open Text (Chars)
open Page (Place)

theorem eq_of_perm_of_length_le_one {α : Type} {l m : List α} (h : l.Perm m) (hl : l.length ≤ 1) :
    l = m := by
  cases l with
  | nil => exact h.nil_eq
  | cons x rest =>
    cases rest with
    | nil => exact List.singleton_perm.mp h
    | cons y rest => simp at hl

namespace RowTexts
variable {β : Type} {fields fields' : List (FieldKind × String)}

section
variable (hp : fields.Perm fields') (hk : (fields.map (·.1)).Nodup)
include hp

theorem peers_perm : peers fields = peers fields' := by
  refine hp.foldl_eq' (fun f _ g _ count => ?_) 0
  split <;> split <;> omega

include hk

theorem last?_perm (kind : FieldKind) (read : String → Option β) :
    last? kind read fields = last? kind read fields' := by
  have hone : (fields.filterMap fun f => if f.1 = kind then read f.2 else none).length ≤ 1 := by
    calc (fields.filterMap fun f => if f.1 = kind then read f.2 else none).length
      _ ≤ (fields.map (·.1)).count kind := by
        rw [List.length_filterMap_eq_countP,List.count,List.countP_map]
        refine List.countP_mono_left fun f _ hf => ?_
        by_cases hkind : f.1 = kind
        · simp [hkind]
        · simp [hkind] at hf
      _ ≤ 1 := List.nodup_iff_count_le_one.mp hk kind
  unfold last?
  rw [eq_of_perm_of_length_le_one (hp.filterMap _) hone]

/-- The comments may be named before the details that stand in for them or after. -/
theorem comments_perm {base : Chars}
    (hb : ∀ value url, readAddress? base value = some url → url.isEmpty = false) :
    comments base fields = comments base fields' := by
  refine hp.foldl_eq' (fun f hf g hg address => ?_) ""
  by_cases heq : f.1 = g.1
  · rw [List.inj_on_of_nodup_map hk hf hg heq]
  -- Comments that can be read win over details, and others leave the details as they are.
  have wins (x y : String) (address : String) :
      (if ((readAddress? base x).getD address).isEmpty then
          (readAddress? base y).getD ((readAddress? base x).getD address)
        else (readAddress? base x).getD address) =
      (readAddress? base x).getD
        (if address.isEmpty then (readAddress? base y).getD address else address) := by
    cases hx : readAddress? base x with
    | none => rfl
    | some url => simp [hb x url hx]
  by_cases hfc : f.1 = .comments
  · have hgc : g.1 ≠ .comments := fun h => heq (hfc.trans h.symm)
    by_cases hgd : g.1 = .details
    · simpa [hfc,hgd] using wins f.2 g.2 address
    · simp [hfc,hgc,hgd]
  · by_cases hgc : g.1 = .comments
    · by_cases hfd : f.1 = .details
      · simpa [hgc,hfd] using (wins g.2 f.2 address).symm
      · simp [hfc,hgc,hfd]
    · by_cases hfd : f.1 = .details
      · have hgd : g.1 ≠ .details := fun h => heq (hfd.trans h.symm)
        simp [hgc,hfd,hgd]
      · simp [hfc,hgc,hfd]

/-- The texts of different kinds make the same row in any order. -/
theorem fieldsRow_perm {base : Chars} (site : String) (now : Time.DateTime)
    (hb : ∀ value url, readAddress? base value = some url → url.isEmpty = false) :
    fieldsRow site base now fields = fieldsRow site base now fields' := by
  simp only [fieldsRow,peers_perm hp,comments_perm hp hk hb,last?_perm hp hk]

end

theorem fault?_eq_none_iff {now : Time.DateTime} {t : RowTexts} : t.fault? now = none ↔
    (∀ f ∈ t.fields, outOfRange? now f = none) ∧
      t.header.bind (fun value => outOfRange? now (.date,value)) = none := by
  unfold fault?
  rw [Option.or_eq_none_iff,List.findSome?_eq_none_iff]

/-- What is resolved on a page of the web is not empty. -/
theorem readAddress?_ne_empty {base : Web.Address} (h : base.IsWeb) (value url : String)
    (hr : readAddress? base.toText value = some url) : url.isEmpty = false := by
  unfold readAddress? at hr
  split at hr
  · cases hr
  next hv =>
    split at hr
    · cases hr
      simpa using hv
    · obtain ⟨joined,hj,rfl⟩ := Option.map_eq_some_iff.mp hr
      have hne : value.toList ≠ [] := by simpa using hv
      cases hjoin : Web.Url.join base.toText value.toList with
      | error e =>
        rw [hjoin] at hj
        cases hj
      | ok result =>
        rw [hjoin] at hj
        cases hj
        simpa using h.join_ne_nil hne hjoin

end RowTexts

def Definition.reordered (d : Definition) (fields : List FieldBlock) : Definition :=
  { d with search := { d.search with fields } }

def Agent.reordered (a : Agent) (fields : List FieldBlock) : Agent :=
  { a with definition := a.definition.reordered fields }

section
variable {d : Definition} {fields : List FieldBlock} {now : Time.DateTime} {el : Place}

/-- The row of some texts, unless one of them is out of range. -/
theorem toOption_ofPlace_of_cut {base : Chars} {t : RowTexts} (h : RowTexts.cut d now el = .ok t) :
    (Row.ofPlace d base now el).toOption =
      if t.fault? now = none then some (t.row d.site base now) else none := by
  rw [RowTexts.ofPlace_of_cut base h]
  cases t.fault? now <;> rfl

theorem toOption_ofPlace_of_error {base : Chars} {e : AgentError}
    (h : RowTexts.cut d now el = .error e) : (Row.ofPlace d base now el).toOption = none := by
  cases ho : Row.ofPlace d base now el with
  | error e => rfl
  | ok row =>
    obtain ⟨t,ht,-⟩ := RowTexts.cut_of_ofPlace ho
    rw [h] at ht
    cases ht

variable (hp : d.search.fields.Perm fields)
include hp

theorem hasField_reordered (kind : FieldKind) :
    (d.reordered fields).search.hasField kind = d.search.hasField kind :=
  hp.symm.any_eq

/-- The same texts are cut out of an element, in the order of the fields. -/
theorem cut_reordered {t : RowTexts} (h : RowTexts.cut d now el = .ok t) :
    ∃ t', RowTexts.cut (d.reordered fields) now el = .ok t' ∧ t.fields.Perm t'.fields ∧
      t'.header = t.header ∧ t.fields.map (·.1) = d.search.fields.map (·.kind) := by
  unfold RowTexts.cut at h ⊢
  rw [hasField_reordered hp]
  cases hf : (d.search.fields.mapM fun f =>
    ((f.block.find el now).mapError AgentError.extract).map fun text => (f.kind,text)) with
  | error e =>
    rw [hf] at h
    cases h
  | ok texts =>
    -- Each text goes with the kind of its field.
    have hkinds : texts.map (·.1) = d.search.fields.map (·.kind) := by
      refine (mapM_eq_ok (P := fun _ => True) (fun f text hr => ?_) hf).1
      obtain ⟨x,-,rfl⟩ := map_eq_ok.mp hr
      exact ⟨rfl,trivial⟩
    obtain ⟨texts',hf',hperm⟩ := mapM_perm hp hf
    change ∃ t', ((fields.mapM fun f =>
      ((f.block.find el now).mapError AgentError.extract).map fun text => (f.kind,text)) >>= _) =
        Except.ok t' ∧ _
    rw [hf] at h
    rw [hf']
    dsimp only [bind,Except.bind] at h ⊢
    by_cases hd : (d.search.hasField .date || d.search.rows.dateHeaders.isEmpty) = true
    · rw [if_pos hd] at h
      cases h
      exact ⟨⟨texts',none⟩,if_pos hd,hperm,rfl,hkinds⟩
    · rw [if_neg hd] at h
      cases hh : RowTexts.headerText d.search.rows.dateHeaders el now with
      | error e =>
        rw [hh] at h
        cases h
      | ok header =>
        rw [hh] at h
        cases h
        refine ⟨⟨texts',header⟩,(if_neg hd).trans ?_,hperm,rfl,hkinds⟩
        change (RowTexts.headerText d.search.rows.dateHeaders el now).bind _ = _
        rw [hh]
        rfl

/-- An element gives the same row with the fields in another order, or is at fault in both. -/
theorem ofPlace_reordered (hk : (d.search.fields.map (·.kind)).Nodup) {base : Web.Address}
    (hb : base.IsWeb) : (Row.ofPlace (d.reordered fields) base.toText now el).toOption =
      (Row.ofPlace d base.toText now el).toOption := by
  cases hc : RowTexts.cut d now el with
  | ok t =>
    obtain ⟨t',hc',hperm,hheader,hkinds⟩ := cut_reordered hp hc
    have hfields := RowTexts.fieldsRow_perm hperm (hkinds ▸ hk) d.site now
      (RowTexts.readAddress?_ne_empty hb)
    have hrow : t'.row d.site base.toText now = t.row d.site base.toText now := by
      rw [RowTexts.row,RowTexts.row,hfields,hheader]
    have hfault : t'.fault? now = none ↔ t.fault? now = none := by
      simp only [RowTexts.fault?_eq_none_iff,hheader,hperm.mem_iff]
    rw [toOption_ofPlace_of_cut hc,toOption_ofPlace_of_cut hc']
    change (if _ then some (t'.row d.site base.toText now) else none) = _
    simp only [hrow,hfault]
  | error e =>
    cases hc' : RowTexts.cut (d.reordered fields) now el with
    | error e' => rw [toOption_ofPlace_of_error hc,toOption_ofPlace_of_error hc']
    | ok t' =>
      have hback : (d.reordered fields).search.fields.Perm d.search.fields := hp.symm
      obtain ⟨t,ht,-⟩ := cut_reordered hback hc'
      change RowTexts.cut d now el = .ok t at ht
      rw [hc] at ht
      cases ht

end

namespace Agent
open Web (Session)

/-- What is gathered from rows is settled by the rows themselves and by which of them are at fault. -/
theorem gather_toOption {a b : Agent} {q : Query} {localIds : List String}
    (hu : a.isUntitled = b.isUntitled) (hk : a.keep localIds = b.keep localIds)
    {outs outs' : List (Except AgentError Row)}
    (ho : outs.map Except.toOption = outs'.map Except.toOption) (found : List Release) :
    (a.gather q localIds outs found).toOption = (b.gather q localIds outs' found).toOption := by
  induction outs generalizing outs' found with
  | nil =>
    cases outs' with
    | nil => rfl
    | cons out rest => simp at ho
  | cons out rest ih =>
    cases outs' with
    | nil => simp at ho
    | cons out' rest' =>
      simp only [List.map_cons,List.cons.injEq] at ho
      obtain ⟨hout,hrest⟩ := ho
      cases out with
      | error e =>
        cases out' with
        | ok row => cases hout
        | error e' =>
          rw [gather,gather]
          split <;> rfl
      | ok row =>
        cases out' with
        | error e' => cases hout
        | ok row' =>
          cases hout
          rw [gather,gather,hu,hk]
          split
          · rfl
          split
          · rfl
          · exact ih hrest _

section
variable (a : Agent) (fields : List FieldBlock)

theorem firstWorking_reordered (urls : List String) :
    (a.reordered fields).firstWorking urls = a.firstWorking urls := by
  induction urls with
  | nil => rfl
  | cons url rest ih =>
    rw [firstWorking,firstWorking,ih]
    rfl

theorem currentUrl_reordered : (a.reordered fields).currentUrl = a.currentUrl := by
  rw [currentUrl,currentUrl,firstWorking_reordered]
  rfl

theorem resolve_reordered (path : String) : (a.reordered fields).resolve path = a.resolve path := by
  rw [resolve,resolve,currentUrl_reordered]

theorem checkErrors_reordered (errors : List ErrorBlock) :
    (a.reordered fields).checkErrors errors = a.checkErrors errors := by
  induction errors with
  | nil => rfl
  | cons e rest ih =>
    rw [checkErrors,checkErrors,ih]
    rfl

theorem checkSettings_reordered (settings : List Setting) :
    (a.reordered fields).checkSettings settings = a.checkSettings settings := by
  induction settings with
  | nil => rfl
  | cons s rest ih =>
    rw [checkSettings,checkSettings,ih]
    rfl

theorem passesTest_reordered (t : PageTest) :
    (a.reordered fields).passesTest t = a.passesTest t := by
  rw [passesTest,passesTest,currentUrl_reordered,resolve_reordered]
  rfl

theorem login_reordered : (a.reordered fields).login = a.login := by
  rw [login,login,resolve_reordered,checkSettings_reordered,checkErrors_reordered]
  simp only [passesTest_reordered]
  rfl

/-- What an agent does up to the rows of a search does not depend on its fields. -/
theorem resultRows_reordered (q : Query) : (a.reordered fields).resultRows q = a.resultRows q := by
  have hneeds : (a.reordered fields).needsLogin = a.needsLogin := by
    rw [needsLogin,needsLogin,passesTest_reordered]
    rfl
  have hopen : (a.reordered fields).openResults q = a.openResults q := by
    rw [openResults,openResults]
    simp only [resolve_reordered]
    rfl
  rw [resultRows,resultRows,ensureLogin,ensureLogin,hneeds,login_reordered,hopen]
  rfl

end

/-- A search with the fields in another order gives the same releases, or it fails in either order. -/
theorem search_reordered {a : Agent} {fields : List FieldBlock}
    (hp : a.definition.search.fields.Perm fields)
    (hk : (a.definition.search.fields.map (·.kind)).Nodup) (q : Query) (s : Session) :
    (∃ releases t, s.run (a.search q) = (.ok releases,t) ∧
      s.run ((a.reordered fields).search q) = (.ok releases,t)) ∨
    ∃ e e' t, s.run (a.search q) = (.error e,t) ∧ s.run ((a.reordered fields).search q) = (.error e',t) := by
  have hrows' := a.resultRows_reordered fields q
  rcases hr : s.run (a.resultRows q) with ⟨e | places,t⟩
  · refine .inr ⟨e,e,t,?_,?_⟩
    · rw [run_search,hr]
    · rw [run_search,hrows',hr]
  obtain ⟨url,hurl,hweb⟩ := url_of_resultRows hr
  have hsearch := run_search_of_resultRows hr
  have hsearch' := run_search_of_resultRows (hrows' ▸ hr)
  rw [hurl,Option.getD_some] at hsearch hsearch'
  have huntitled : a.isUntitled = (a.reordered fields).isUntitled := by
    funext row
    exact congrArg (· && row.release.title.isEmpty) (hasField_reordered hp .title).symm
  have houts : (places.map (Row.ofPlace a.definition url.toText a.now)).map Except.toOption =
      (places.map (Row.ofPlace (a.definition.reordered fields) url.toText a.now)).map
        Except.toOption := by
    rw [List.map_map,List.map_map]
    exact List.map_congr_left fun el _ => (ofPlace_reordered hp hk hweb).symm
  have hsame : (a.gather q (a.localCategories q)
        (places.map (Row.ofPlace a.definition url.toText a.now)) []).toOption =
      ((a.reordered fields).gather q (a.localCategories q) (places.map
        (Row.ofPlace (a.definition.reordered fields) url.toText a.now)) []).toOption :=
    gather_toOption huntitled rfl houts []
  have hlocal : (a.reordered fields).localCategories q = a.localCategories q := rfl
  have hdef : (a.reordered fields).definition = a.definition.reordered fields := rfl
  have hnow : (a.reordered fields).now = a.now := rfl
  rw [hlocal,hdef,hnow] at hsearch'
  rw [hsearch,hsearch']
  rcases toOption_eq_toOption.mp hsame with ⟨found,h,h'⟩ | ⟨e,e',h,h'⟩
  · exact .inl ⟨found,t,by rw [h],by rw [h']⟩
  · exact .inr ⟨e,e',t,by rw [h],by rw [h']⟩

/-- An agent of a page with one row, which names the details of a release before its comments. -/
def discussed : Agent :=
  (listing .comments {} "<li><a href=/t>x</a><i>/c</i></li>").reordered [
    ⟨.title,{ selector := "a" }⟩, ⟨.download,{ selector := "a", attr := "href" }⟩,
    ⟨.details,{ selector := "a", attr := "href" }⟩, ⟨.comments,{ selector := "i" }⟩]

set_option maxRecDepth 100000 in
/-- The release has the same comments where they are named first. -/
theorem comments_named_first : ∃ (releases : List Release) (t : Session),
    ({} : Session).run (discussed.search {}) = (.ok releases,t) ∧
    ({} : Session).run ((discussed.reordered discussed.definition.search.fields.reverse).search {}) =
      (.ok releases,t) ∧
    releases.map (·.comments) = ["https://s.org/c"] := by
  have hcomments : (({} : Session).run (discussed.search {})).1.toOption.map
      (fun found => found.map (·.comments)) = some ["https://s.org/c"] := by decide +kernel
  have hp := (discussed.definition.search.fields.reverse_perm).symm
  rcases search_reordered hp (by decide) {} {} with ⟨releases,t,h,h'⟩ | ⟨e,e',t,h,-⟩
  · rw [h] at hcomments
    exact ⟨releases,t,h,h',Option.some.inj hcomments⟩
  · rw [h] at hcomments
    cases hcomments

end Agent

end TrackerHub
