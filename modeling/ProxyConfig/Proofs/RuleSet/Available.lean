import ProxyConfig.Proofs.RuleSet.Fresh

/-!
# The listing of rule-sets

The rule-sets of a folder are told from the names of its entries, by what precedes their ending.
The name of a file is put together from the label and the ending, and taking it apart again gives
back the label, whatever dots are in it.  Temporary files have another ending, and so they are never
listed.

Main results:

- `stem?_eq_some_iff`: taking a name apart undoes putting it together.
- `mem_available_iff`: a label is listed exactly if a file that is not empty is at its place.
- `mem_available_of_temporary`: what happens to a temporary file does not change the listing.
-/

namespace ProxyConfig

open Files Files.Folder

/-! ## Entries of a folder -/

namespace Files
namespace Folder

variable {f : Folder} {dir path name : String} {l : Location} {e : Entry} {entries : Folder}

theorem mem_of_child? (h : f.child? name = some e) : (name, e) ∈ f := by
  induction f with
  | nil => cases h
  | cons c rest ih =>
    obtain ⟨n, first⟩ := c
    unfold child? at h
    split at h
    · rename_i hn
      cases h
      rw [hn]
      exact List.mem_cons_self
    · exact List.mem_cons_of_mem _ (ih h)

/-- A path whose names lead to a folder shows this folder. -/
theorem stat_of_walk (hsound : Path.IsSound dir) (hne : dir ≠ "")
    (hwalk : f.walk [] (Path.names dir) = .ok l) (hfolder : f.find? l = some (.folder entries)) :
    f.stat dir = .ok (.folder entries) := by
  obtain ⟨p, hp, hentry⟩ := exists_placeOf_of_walk (Path.ending dir) hwalk hfolder
  unfold stat
  rw [locate_eq_ok_iff.2 ⟨hsound, hne, hp⟩]
  exact hentry

end Folder

/-- The beginning of a sound path is sound. -/
theorem Path.IsSound.of_append {path rest : String} (h : IsSound (path ++ rest)) :
    IsSound path := by
  obtain ⟨hzero, hlong⟩ := h
  rw [String.toList_append, List.any_append, Bool.or_eq_false_iff] at hzero
  rw [String.utf8ByteSize_append] at hlong
  exact ⟨hzero.1, Nat.le_trans (Nat.le_add_right _ _) hlong⟩

theorem Path.exists_join_eq_append {dir : String} (hdir : dir ≠ "") (name : String) :
    ∃ rest, join dir name = dir ++ rest := by
  unfold join
  rw [if_neg hdir]
  split
  · exact ⟨name, rfl⟩
  · exact ⟨"/" ++ name, String.append_assoc ..⟩

/-- A file in a folder is one of the entries of the folder. -/
theorem Folder.exists_entriesAt_of_file {f : Folder} {dir name : String} {content : Content}
    {modified : Time} (hdir : dir ≠ "") (hname : Path.IsName name)
    (hstat : f.stat (Path.join dir name) = .ok (.file content modified)) :
    ∃ entries, f.entriesAt dir = .ok entries ∧ (name, .file content modified) ∈ entries := by
  obtain ⟨k, hslot, hfile⟩ := stat_eq_file_iff.1 hstat
  obtain ⟨l, last, hlocate, _, rfl⟩ := slot?_eq_some_iff.1 hslot
  obtain ⟨hsound, _, hplace⟩ := locate_eq_ok_iff.1 hlocate
  obtain ⟨_, _, front, hnames, hwalk⟩ := walk_of_placeOf hplace
  rw [Path.names_join dir hname] at hnames
  obtain ⟨rfl, hlast⟩ := List.append_inj' hnames rfl
  cases hlast
  obtain ⟨entries, hfolder⟩ := holdsFolder_iff.1 (holdsFolder_of_walk holdsFolder_nil hwalk)
  obtain ⟨rest, hjoin⟩ := Path.exists_join_eq_append hdir name
  rw [hjoin] at hsound
  refine ⟨entries, ?_, mem_of_child? ?_⟩
  · unfold entriesAt
    rw [stat_of_walk hsound.of_append hdir hwalk hfolder]
    rfl
  · rw [← find?_concat hfolder]
    exact fileAt?_eq_some_iff.1 hfile

end Files

/-! ## Names and labels -/

/-- The path leads to a regular file that is not empty. -/
def HoldsRuleSet (f : Folder) (path : String) : Prop :=
  ∃ content modified, f.stat path = .ok (.file content modified) ∧ content ≠ []

/-- A regular file that is not empty lies at the location. -/
def HasContent (f : Folder) (l : Location) : Prop :=
  ∃ file, f.fileAt? l = some file ∧ file.1 ≠ []

theorem holdsRuleSet_iff {f : Folder} {path : String} :
    HoldsRuleSet f path ↔ ∃ l, f.slot? path = some l ∧ HasContent f l := by
  constructor
  · rintro ⟨content, modified, hstat, hne⟩
    obtain ⟨l, hslot, hfile⟩ := stat_eq_file_iff.1 hstat
    exact ⟨l, hslot, _, hfile, hne⟩
  · rintro ⟨l, hslot, file, hfile, hne⟩
    exact ⟨file.1, file.2, stat_eq_file_iff.2 ⟨l, hslot, hfile⟩, hne⟩

namespace Artifact

variable {f g : Folder} {dir name s : String}

theorem isUsableAt_iff {path : String} : isUsableAt f path = true ↔ HoldsRuleSet f path := by
  unfold isUsableAt HoldsRuleSet
  cases f.stat path with
  | error e => simp
  | ok e => cases e <;> simp [isUsable]

/-- A name is taken apart into what was put together, and nothing else is. -/
theorem stem?_eq_some_iff : stem? name = some s ↔ s ≠ "" ∧ name = s ++ ".srs" := by
  unfold stem?
  constructor
  · intro h
    simp only [Option.ite_none_right_eq_some, List.isPrefixOf_iff_prefix, Option.some.injEq] at h
    obtain ⟨⟨⟨rest, hrest⟩, hlong⟩, rfl⟩ := h
    rw [← hrest, List.drop_left]
    constructor
    · rintro hempty
      rw [← hrest, List.length_append] at hlong
      have hnil : rest = [] := by simpa using congrArg String.toList hempty
      simp [hnil] at hlong
    · apply String.toList_inj.1
      rw [String.toList_append, String.toList_ofList, ← List.reverse_inj, ← hrest]
      simp
  · rintro ⟨hne, rfl⟩
    have hsome : s.toList ≠ [] := fun hnil => hne (String.toList_inj.1 hnil)
    have hlength : 0 < s.toList.length := List.length_pos_iff.2 hsome
    simp only [String.toList_append, List.reverse_append, List.length_append, List.length_reverse]
    rw [if_pos, List.drop_left' (List.length_reverse), List.reverse_reverse, String.ofList_toList]
    exact ⟨List.isPrefixOf_iff_prefix.2 (List.prefix_append _ _), by omega⟩

theorem mem_insertText {text t : String} {l : List String} :
    t ∈ insertText text l ↔ t = text ∨ t ∈ l := by
  induction l with
  | nil => simp [insertText]
  | cons first rest ih =>
    unfold insertText
    split
    · rename_i heq
      simp [heq]
    · split
      · simp
      · rw [List.mem_cons, ih, List.mem_cons]
        tauto

theorem mem_foldr_insertText {l : List String} : s ∈ l.foldr insertText [] ↔ s ∈ l := by
  induction l with
  | nil => simp
  | cons first rest ih => rw [List.foldr_cons, mem_insertText, ih, List.mem_cons]

theorem labelOf?_eq_some_iff :
    labelOf? f dir name = some s ↔
      HoldsRuleSet f (Path.join dir name) ∧ s ≠ "" ∧ name = s ++ ".srs" := by
  unfold labelOf?
  rw [← isUsableAt_iff, ← stem?_eq_some_iff]
  split
  · rename_i h
    simp [h]
  · rename_i h
    simp [h]

/-- What is listed is the name of a file that is not empty, without the ending. -/
theorem mem_available_iff_exists :
    s ∈ available f dir ↔ s ≠ "" ∧ HoldsRuleSet f (Path.join dir (s ++ ".srs")) ∧
      ∃ entries, f.entriesAt dir = .ok entries ∧ s ++ ".srs" ∈ entries.map Prod.fst := by
  unfold available
  cases hentries : f.entriesAt dir with
  | error e => simp
  | ok entries =>
    simp only [mem_foldr_insertText, List.mem_filterMap, labelOf?_eq_some_iff, List.mem_map,
      Except.ok.injEq, exists_eq_left']
    constructor
    · rintro ⟨e, he, hholds, hne, hname⟩
      rw [hname] at hholds
      exact ⟨hne, hholds, e, he, hname⟩
    · rintro ⟨hne, hholds, e, he, hname⟩
      rw [← hname] at hholds
      exact ⟨e, he, hholds, hne, hname⟩

/-- The name of a file with the ending of rule-sets can be the name of an entry. -/
theorem isName_append_ending (hs : '/' ∉ s.toList) : Path.IsName (s ++ ".srs") := by
  have hne : ∀ other : String, other.toList.getLast? ≠ some 's' → s ++ ".srs" ≠ other := by
    rintro other hlast rfl
    apply hlast
    simp
  refine ⟨?_, hne _ (by decide), hne _ (by decide), hne _ (by decide)⟩
  rw [String.toList_append, List.mem_append, not_or]
  exact ⟨hs, by decide⟩

/-- A text without slashes is listed exactly if a file that is not empty lies at its place. -/
theorem mem_available_iff (hdir : dir ≠ "") (hs : '/' ∉ s.toList) :
    s ∈ available f dir ↔ s ≠ "" ∧ HoldsRuleSet f (Path.join dir (s ++ ".srs")) := by
  rw [mem_available_iff_exists]
  refine and_congr_right fun _ => and_iff_left_of_imp ?_
  rintro ⟨content, modified, hstat, _⟩
  obtain ⟨entries, hentries, hmem⟩ :=
    exists_entriesAt_of_file hdir (isName_append_ending hs) hstat
  exact ⟨entries, hentries, List.mem_map_of_mem hmem⟩

/-- The label of a rule-set is listed exactly if its file is there and not empty. -/
theorem label_mem_available_iff {tag : RuleSetTag} (hdir : dir ≠ "")
    (hname : '/' ∉ tag.name.toList) :
    tag.label ∈ available f dir ↔ HoldsRuleSet f (tag.localPath dir) := by
  have hlabel : '/' ∉ tag.label.toList := by
    have hfile := (RuleSetTag.isName_fileName hname).noSlash
    rw [RuleSetTag.toList_fileName, List.mem_append, not_or] at hfile
    exact hfile.1
  have hne : tag.label ≠ "" := by
    intro h
    have hchars := congrArg String.toList h
    simp [RuleSetTag.toList_label] at hchars
  rw [mem_available_iff hdir hlabel, and_iff_right hne]
  rfl

/-! ## Temporary files -/

/-- No listed file is a temporary file. -/
theorem join_ne_temporaryPath (dir s path : String) :
    Path.join dir (s ++ ".srs") ≠ temporaryPath path := by
  intro h
  obtain ⟨front, hfront⟩ := exists_toList_join dir (s ++ ".srs")
  have hlast := congrArg (fun t : String => t.toList.getLast?) h
  simp [hfront, temporaryPath] at hlast

section Temporary

variable {path : String} (hdir : dir ≠ "") (hs : '/' ∉ s.toList)

include hdir hs

/-- Nothing that happens to a temporary file changes what is listed. -/
theorem mem_available_of_temporary {l : Location} {file : Option (Content × Time)}
    (hslot : f.slot? (temporaryPath path) = some l)
    (hfiles : f.Alters (Function.update f.fileAt? l file) g) :
    s ∈ available g dir ↔ s ∈ available f dir := by
  rw [mem_available_iff hdir hs, mem_available_iff hdir hs, holdsRuleSet_iff, holdsRuleSet_iff,
    slot?_congr hfiles.sameFolders]
  refine and_congr_right fun _ => exists_congr fun k => and_congr_right fun hk => ?_
  unfold HasContent
  rw [hfiles.files, Function.update_of_ne (slot_join_ne_temporary hk hslot)]

end Temporary
end Artifact
end ProxyConfig
