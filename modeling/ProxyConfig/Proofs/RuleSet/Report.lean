import Mathlib.Data.List.Perm.Basic
import ProxyConfig.Proofs.RuleSet.Tag
import ProxyConfig.RuleSet.Report

/-!
# Reports over distinct rule-sets

The results of a run come in the order in which the downloads ended; the report has them sorted.  If
no rule-set has two results, the lists of the report are strictly increasing, and the missing
rule-sets are those with a failure.

Main results:

- `sortBy_perm`, `pairwise_sortBy`: sorting keeps the items and puts them in order.
- `missing_ofResults`: the missing rule-sets are the ones with failures, in the same order.
- `mem_downloaded_iff`, `mem_missing_iff`: what the report lists.
-/

namespace ProxyConfig
namespace SyncReport

/-! ## Sorting -/

section Sorting

variable {α β : Type} {before : α → α → Bool} {a : α} {l : List α}

theorem insertBy_perm (before : α → α → Bool) (a : α) (l : List α) :
    (insertBy before a l).Perm (a :: l) := by
  induction l with
  | nil => exact List.Perm.refl _
  | cons b rest ih =>
    unfold insertBy
    split
    · exact (ih.cons b).trans (List.Perm.swap a b rest)
    · exact List.Perm.refl _

/-- Sorting keeps all items. -/
theorem sortBy_perm (before : α → α → Bool) (l : List α) : (sortBy before l).Perm l := by
  induction l with
  | nil => exact List.Perm.refl _
  | cons a rest ih => exact (insertBy_perm before a _).trans (ih.cons a)

/-- An item is put at its place among others that are in order. -/
theorem pairwise_insertBy
    (htrans : ∀ x y z, before x y = true → before y z = true → before x z = true)
    (htotal : ∀ b ∈ l, before a b = true ∨ before b a = true)
    (hl : l.Pairwise fun x y => before x y = true) :
    (insertBy before a l).Pairwise fun x y => before x y = true := by
  induction l with
  | nil => exact List.pairwise_singleton _ a
  | cons b rest ih =>
    obtain ⟨hb, hrest⟩ := List.pairwise_cons.1 hl
    unfold insertBy
    split
    · rename_i hba
      have hinsert := ih (fun c hc => htotal c (List.mem_cons_of_mem b hc)) hrest
      refine List.pairwise_cons.2 ⟨?_, hinsert⟩
      intro c hc
      rcases List.mem_cons.1 ((insertBy_perm before a rest).mem_iff.1 hc) with rfl | hmem
      · exact hba
      · exact hb c hmem
    · rename_i hba
      have hab : before a b = true := (htotal b List.mem_cons_self).resolve_right hba
      refine List.pairwise_cons.2 ⟨?_, hl⟩
      intro c hc
      rcases List.mem_cons.1 hc with rfl | hmem
      · exact hab
      · exact htrans a b c hab (hb c hmem)

/-- Sorting puts items in order that can all be compared. -/
theorem pairwise_sortBy
    (htrans : ∀ x y z, before x y = true → before y z = true → before x z = true)
    (htotal : l.Pairwise fun x y => before x y = true ∨ before y x = true) :
    (sortBy before l).Pairwise fun x y => before x y = true := by
  induction l with
  | nil => exact List.Pairwise.nil
  | cons a rest ih =>
    obtain ⟨ha, hrest⟩ := List.pairwise_cons.1 htotal
    apply pairwise_insertBy htrans ?_ (ih hrest)
    intro b hb
    exact ha b ((sortBy_perm before rest).mem_iff.1 hb)

/-- Items may be sorted before or after they are mapped, if the order can be seen in the images. -/
theorem map_sortBy {before' : β → β → Bool} {f : α → β}
    (hsame : l.Pairwise fun x y => before y x = before' (f y) (f x)) :
    (sortBy before l).map f = sortBy before' (l.map f) := by
  have hinsert : ∀ (a : α) (m : List α), (∀ b ∈ m, before b a = before' (f b) (f a)) →
      (insertBy before a m).map f = insertBy before' (f a) (m.map f) := by
    intro a m
    induction m with
    | nil =>
      intro _
      rfl
    | cons b rest ih =>
      intro hm
      have hb := hm b List.mem_cons_self
      simp only [insertBy, List.map_cons, ← hb]
      split
      · rw [List.map_cons, ih fun c hc => hm c (List.mem_cons_of_mem b hc)]
      · rfl
  induction l with
  | nil => rfl
  | cons a rest ih =>
    obtain ⟨ha, hrest⟩ := List.pairwise_cons.1 hsame
    have hsorted : ∀ b ∈ sortBy before rest, before b a = before' (f b) (f a) := by
      intro b hb
      exact ha b ((sortBy_perm before rest).mem_iff.1 hb)
    change (insertBy before a (sortBy before rest)).map f =
      insertBy before' (f a) (sortBy before' (rest.map f))
    rw [hinsert a _ hsorted, ih hrest]

end Sorting

/-! ## The lists of a report -/

section Results

variable {checked : Nat} {results : List (RuleSetTag × Except String Unit)} {tag : RuleSetTag}

theorem mem_downloaded_iff :
    tag ∈ (ofResults checked results).downloaded ↔ (tag, .ok ()) ∈ results := by
  unfold ofResults
  rw [(sortBy_perm _ _).mem_iff, List.mem_filterMap]
  constructor
  · rintro ⟨⟨t, outcome⟩, hmem, heq⟩
    cases outcome with
    | ok u =>
      cases heq
      exact hmem
    | error reason => cases heq
  · intro hmem
    exact ⟨(tag, .ok ()), hmem, rfl⟩

theorem mem_failures_iff {reason : String} :
    (tag, reason) ∈ (ofResults checked results).failures ↔ (tag, .error reason) ∈ results := by
  unfold ofResults
  rw [(sortBy_perm _ _).mem_iff, List.mem_filterMap]
  constructor
  · rintro ⟨⟨t, outcome⟩, hmem, heq⟩
    cases outcome with
    | ok u => cases heq
    | error reason' =>
      cases heq
      exact hmem
  · intro hmem
    exact ⟨(tag, .error reason), hmem, rfl⟩

theorem mem_missing_iff :
    tag ∈ (ofResults checked results).missing ↔ ∃ reason, (tag, .error reason) ∈ results := by
  have hfailures : ∀ reason, (tag, reason) ∈ (ofResults checked results).failures ↔
      (tag, .error reason) ∈ results := fun reason => mem_failures_iff
  simp only [← hfailures]
  unfold ofResults
  simp only [(sortBy_perm _ _).mem_iff, List.mem_map, Prod.exists, exists_and_right,
    exists_eq_right]

/-- What a list of results lists is listed in its order. -/
theorem filterMap_sublist_map {α β : Type} {f : α → β} {g : α → Option β} {l : List α}
    (hg : ∀ x y, g x = some y → y = f x) : (l.filterMap g).Sublist (l.map f) := by
  induction l with
  | nil => exact List.Sublist.refl _
  | cons x rest ih =>
    rw [List.map_cons]
    cases hx : g x with
    | none =>
      rw [List.filterMap_cons_none hx]
      exact ih.cons _
    | some y =>
      rw [List.filterMap_cons_some hx, hg x y hx]
      exact ih.cons_cons _

variable (hnodup : (results.map Prod.fst).Nodup)

include hnodup

/-- Different tags are put in strict order. -/
theorem pairwise_sortBy_tags {tags : List RuleSetTag} (hsub : tags.Sublist (results.map Prod.fst)) :
    (sortBy RuleSetTag.precedes tags).Pairwise fun a b => a.precedes b = true := by
  have htrans : ∀ a b c : RuleSetTag, a.precedes b = true → b.precedes c = true →
      a.precedes c = true := fun a b c => RuleSetTag.precedes_trans
  have hdistinct : tags.Pairwise fun a b => a ≠ b := hnodup.sublist hsub
  refine pairwise_sortBy htrans (hdistinct.imp ?_)
  intro a b hne
  rcases RuleSetTag.precedes_trichotomy a b with hab | rfl | hba
  · exact Or.inl hab
  · exact absurd rfl hne
  · exact Or.inr hba

/-- No rule-set is downloaded twice, and the downloaded ones are in order. -/
theorem pairwise_downloaded :
    (ofResults checked results).downloaded.Pairwise fun a b => a.precedes b = true := by
  apply pairwise_sortBy_tags hnodup
  apply filterMap_sublist_map
  intro r t ht
  split at ht
  · cases ht
    rfl
  · cases ht

omit hnodup in
/-- The failures come from the results, in their order. -/
theorem failed_sublist :
    ((results.filterMap fun r =>
      match r.2 with
      | .ok _ => none
      | .error reason => some (r.1, reason)).map Prod.fst).Sublist (results.map Prod.fst) := by
  rw [List.map_filterMap]
  apply filterMap_sublist_map
  intro r t ht
  cases hr : r.2 with
  | ok u => simp [hr] at ht
  | error reason =>
    simp only [hr, Option.map_some, Option.some.injEq] at ht
    exact ht.symm

/-- No rule-set is missing twice, and the missing ones are in order. -/
theorem pairwise_missing :
    (ofResults checked results).missing.Pairwise fun a b => a.precedes b = true :=
  pairwise_sortBy_tags hnodup failed_sublist

/-- The missing rule-sets are those with failures. -/
theorem missing_ofResults :
    (ofResults checked results).missing = (ofResults checked results).failures.map Prod.fst := by
  refine (map_sortBy ?_).symm
  have hdistinct := hnodup.sublist failed_sublist
  rw [List.nodup_iff_pairwise_ne, List.pairwise_map] at hdistinct
  refine hdistinct.imp ?_
  intro a b hne
  unfold failurePrecedes
  simp [Ne.symm hne]

end Results
end SyncReport
end ProxyConfig
