import Mathlib.Data.String.Basic
import ProxyConfig.Proofs.Files.Path
import ProxyConfig.RuleSet.Artifact

/-!
# Identity and order of rule-set tags

A tag is determined by its label, by its file name, and by its address at any source.  The order of
tags is strict and total.

Main results:

- `label_inj`, `fileName_inj`, `url_inj`: each of them determines the tag.
- `isName_fileName`: the file name of a tag without slashes is the name of an entry.
- `precedes_trichotomy`, `precedes_trans`, `precedes_irrefl`: the order of tags.
- `label_lt_label_iff`: it is the order of their labels.
- `pairwise_sorted`: sorted tags are in order, each once.
-/

namespace ProxyConfig

open Files

namespace RuleSetTag

variable {a b c : RuleSetTag}

/-! ## Identity -/

theorem toList_label (tag : RuleSetTag) :
    tag.label.toList = tag.kind.word.toList ++ '-' :: tag.name.toList := by
  simp [label]

/-- The labels of the two kinds differ in their fourth letter. -/
theorem label_inj (h : a.label = b.label) : a = b := by
  have hchars := congrArg String.toList h
  rw [toList_label, toList_label] at hchars
  obtain ⟨akind, aname⟩ := a
  obtain ⟨bkind, bname⟩ := b
  have hip : RuleSetKind.geoip.word.toList = ['g', 'e', 'o', 'i', 'p'] := by decide
  have hsite : RuleSetKind.geosite.word.toList = ['g', 'e', 'o', 's', 'i', 't', 'e'] := by decide
  cases akind <;> cases bkind <;> simp [hip, hsite] at hchars
  · rw [String.toList_inj.1 hchars]
  · rw [String.toList_inj.1 hchars]

theorem toList_fileName (tag : RuleSetTag) :
    tag.fileName.toList = tag.label.toList ++ ['.', 's', 'r', 's'] := by
  simp [fileName]

theorem fileName_inj (h : a.fileName = b.fileName) : a = b := by
  have hchars := congrArg String.toList h
  rw [toList_fileName, toList_fileName] at hchars
  exact label_inj (String.toList_inj.1 (List.append_cancel_right hchars))

/-- No rule-set file is the temporary file of another one. -/
theorem fileName_ne_temporary (a b : RuleSetTag) : a.fileName ≠ b.fileName ++ ".tmp" := by
  intro h
  have hlast := congrArg (fun s : String => s.toList.getLast?) h
  have htmp : ".tmp".toList = ['.', 't', 'm', 'p'] := by decide
  simp [toList_fileName, htmp] at hlast

/-- The file name of a tag begins with a letter. -/
theorem exists_fileName_eq_cons (tag : RuleSetTag) : ∃ rest, tag.fileName.toList = 'g' :: rest := by
  obtain ⟨kind, name⟩ := tag
  have hip : RuleSetKind.geoip.word.toList = ['g', 'e', 'o', 'i', 'p'] := by decide
  have hsite : RuleSetKind.geosite.word.toList = ['g', 'e', 'o', 's', 'i', 't', 'e'] := by decide
  cases kind <;> simp [toList_fileName, toList_label, hip, hsite]

/-- The name of a rule-set file can be the name of an entry, whatever is appended to it. -/
theorem isName_fileName_append {tag : RuleSetTag} (hname : '/' ∉ tag.name.toList) (ending : String)
    (hending : '/' ∉ ending.toList) : Path.IsName (tag.fileName ++ ending) := by
  obtain ⟨rest, hrest⟩ := exists_fileName_eq_cons tag
  have hne : ∀ other : String, other.toList.head? ≠ some 'g' → tag.fileName ++ ending ≠ other := by
    rintro other hhead rfl
    apply hhead
    rw [String.toList_append, hrest]
    rfl
  refine ⟨?_, hne _ (by decide), hne _ (by decide), hne _ (by decide)⟩
  have hword : '/' ∉ tag.kind.word.toList := by
    cases tag.kind <;> decide
  rw [String.toList_append, toList_fileName, toList_label]
  simp [hname, hending, hword]

theorem isName_fileName {tag : RuleSetTag} (hname : '/' ∉ tag.name.toList) :
    Path.IsName tag.fileName := by
  have h := isName_fileName_append hname "" (by decide)
  rwa [String.append_empty] at h

/-- Addresses of the two kinds differ after the slash that follows the base. -/
theorem url_inj {source : RuleSetSource} (h : source.url a = source.url b) : a = b := by
  have hchars := congrArg String.toList h
  obtain ⟨arest, ha⟩ := exists_fileName_eq_cons a
  obtain ⟨brest, hb⟩ := exists_fileName_eq_cons b
  unfold RuleSetSource.url RuleSetSource.directUrl at hchars
  have hsame : a.fileName.toList = b.fileName.toList → a = b :=
    fun heq => fileName_inj (String.toList_inj.1 heq)
  cases hak : a.kind <;> cases hbk : b.kind <;>
    simp only [hak, hbk, String.toList_append, List.append_assoc, List.append_cancel_left_eq]
      at hchars
  · exact hsame hchars
  · rw [hb] at hchars
    simp at hchars
  · rw [ha] at hchars
    simp at hchars
  · exact hsame hchars

/-! ## Order -/

theorem precedes_irrefl (a : RuleSetTag) : a.precedes a = false := by
  unfold precedes
  cases a.kind <;> simp only [decide_eq_false_iff_not] <;> exact lt_irrefl a.name

theorem ne_of_precedes (h : a.precedes b = true) : a ≠ b := by
  rintro rfl
  rw [precedes_irrefl] at h
  cases h

theorem precedes_trans (hab : a.precedes b = true) (hbc : b.precedes c = true) :
    a.precedes c = true := by
  unfold precedes at hab hbc ⊢
  cases ha : a.kind <;> cases hb : b.kind <;> cases hc : c.kind <;>
    simp only [ha, hb, hc, decide_eq_true_eq, Bool.false_eq_true] at hab hbc ⊢
  · exact lt_trans hab hbc
  · exact lt_trans hab hbc

theorem precedes_trichotomy (a b : RuleSetTag) :
    a.precedes b = true ∨ a = b ∨ b.precedes a = true := by
  obtain ⟨akind, aname⟩ := a
  obtain ⟨bkind, bname⟩ := b
  unfold precedes
  cases akind <;> cases bkind <;> simp only [decide_eq_true_eq, true_or, or_true, mk.injEq, true_and]
  · exact lt_trichotomy aname bname
  · exact lt_trichotomy aname bname

/-- Labels are ordered like their tags, since the word of address databases comes first. -/
theorem label_lt_label_iff : a.label < b.label ↔ a.precedes b = true := by
  have hip : RuleSetKind.geoip.word.toList = ['g', 'e', 'o', 'i', 'p'] := by decide
  have hsite : RuleSetKind.geosite.word.toList = ['g', 'e', 'o', 's', 'i', 't', 'e'] := by decide
  rw [String.lt_iff_toList_lt, toList_label, toList_label, precedes]
  cases a.kind <;> cases b.kind <;>
    simp [-String.lt_iff_ltb, hip, hsite, List.cons_lt_cons_iff, String.lt_iff_toList_lt]

/-- Putting a tag at its place keeps the order. -/
theorem pairwise_insert {tags : List RuleSetTag} (tag : RuleSetTag)
    (h : tags.Pairwise fun a b => a.precedes b = true) :
    (insert tag tags).Pairwise fun a b => a.precedes b = true := by
  induction tags with
  | nil => simp [insert]
  | cons t rest ih =>
    obtain ⟨hfirst, hrest⟩ := List.pairwise_cons.1 h
    by_cases heq : tag = t
    · simpa [insert, heq] using h
    · by_cases hprecedes : tag.precedes t = true
      · rw [insert, if_neg heq, if_pos hprecedes]
        refine List.pairwise_cons.2 ⟨?_, h⟩
        intro other hother
        rcases List.mem_cons.1 hother with rfl | hmem
        · exact hprecedes
        · exact precedes_trans hprecedes (hfirst other hmem)
      · rw [insert, if_neg heq, if_neg hprecedes]
        refine List.pairwise_cons.2 ⟨?_, ih hrest⟩
        intro other hother
        rcases mem_insert.1 hother with rfl | hmem
        · have hafter := precedes_trichotomy other t
          simpa [heq, hprecedes] using hafter
        · exact hfirst other hmem

/-- Sorted tags are in order. -/
theorem pairwise_sorted (tags : List RuleSetTag) :
    (sorted tags).Pairwise fun a b => a.precedes b = true := by
  induction tags with
  | nil => exact List.Pairwise.nil
  | cons tag rest ih => exact pairwise_insert tag ih

/-- The labels of sorted tags are in order. -/
theorem pairwise_label_sorted (tags : List RuleSetTag) :
    ((sorted tags).map label).Pairwise (· < ·) := by
  rw [List.pairwise_map]
  exact (pairwise_sorted tags).imp label_lt_label_iff.2

/-- No tag is among the sorted ones twice. -/
theorem nodup_sorted (tags : List RuleSetTag) : (sorted tags).Nodup :=
  (pairwise_sorted tags).imp ne_of_precedes

end RuleSetTag
end ProxyConfig
