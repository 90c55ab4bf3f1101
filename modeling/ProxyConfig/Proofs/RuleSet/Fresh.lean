import ProxyConfig.Proofs.Files.FileMap
import ProxyConfig.Proofs.Files.NewFolders
import ProxyConfig.Proofs.RuleSet.Tag
import ProxyConfig.RuleSet.Synchronizer

/-!
# Fresh files

A rule-set is fresh if the file in the slot of its path is neither empty nor too old.  So it is enough to
know what happens to the files, slot by slot; and temporary files never lie in the slot of a rule-set.

Main results:

- `Artifact.isFresh_iff`: freshness, told from the file in a slot.
- `slot_join_ne_temporary`: the file of a rule-set is never a temporary file.
- `isFresh_of_files`, `isFresh_createFolders`: what keeps rule-sets fresh.
-/

namespace ProxyConfig

open Files Files.Folder

/-! ## Fresh files -/

/-- The file is neither empty nor too old. -/
def IsRecentFile (now : Time) (file : Content × Time) : Prop :=
  file.1 ≠ [] ∧ now - file.2 ≤ Artifact.longestAge

theorem isRecentFile_of_write {now : Time} {content : Content} (h : content ≠ []) :
    IsRecentFile now (content, now) :=
  ⟨h, by simp [Artifact.longestAge]⟩

/-- A fresh file lies in the slot of its path. -/
theorem Artifact.isFresh_iff {f : Folder} {now : Time} {path : String} :
    Artifact.isFresh f now path = true ↔
      ∃ l file, f.slot? path = some l ∧ f.fileAt? l = some file ∧ IsRecentFile now file := by
  unfold Artifact.isFresh
  constructor
  · intro h
    split at h
    · rename_i e hstat
      cases e with
      | file content modified =>
        obtain ⟨l, hslot, hfile⟩ := stat_eq_file_iff.1 hstat
        refine ⟨l, _, hslot, hfile, ?_⟩
        simpa [Artifact.isRecent, IsRecentFile] using h
      | folder entries => cases h
    · cases h
  · rintro ⟨l, ⟨content, modified⟩, hslot, hfile, hrecent⟩
    rw [stat_eq_file_iff.2 ⟨l, hslot, hfile⟩]
    simpa [Artifact.isRecent, IsRecentFile] using hrecent

/-- The file of a fresh rule-set is regular, not empty and not old. -/
theorem Artifact.exists_file_of_isFresh {f : Folder} {now : Time} {path : String}
    (h : Artifact.isFresh f now path = true) :
    ∃ content modified, f.stat path = .ok (.file content modified) ∧ content ≠ [] ∧
      now - modified ≤ Artifact.longestAge := by
  obtain ⟨l, ⟨content, modified⟩, hslot, hfile, hrecent⟩ := Artifact.isFresh_iff.1 h
  exact ⟨content, modified, stat_eq_file_iff.2 ⟨l, hslot, hfile⟩, hrecent⟩

/-- Making a folder leaves fresh rule-sets fresh, also if that fails. -/
theorem isFresh_createFolders {f g : Folder} {now : Time} {dir path : String}
    {r : Except FileError Unit} (hmade : f.createFolders dir = (g, r))
    (h : Artifact.isFresh f now path = true) :
    Artifact.isFresh g now path = true := by
  obtain ⟨hfolders, hfiles, _⟩ := createFolders_spec hmade
  obtain ⟨l, ⟨content, modified⟩, hslot, hfile, hrecent⟩ := Artifact.isFresh_iff.1 h
  refine Artifact.isFresh_iff.2 ⟨l, _, slot?_mono hfolders hslot, ?_, hrecent⟩
  rw [fileAt?_eq_some_iff] at hfile ⊢
  exact (hfiles l content modified).2 hfile

/-- No fresh file of a folder becomes stale, temporary files included. -/
def NoneExpires (dir : String) (known : RuleSetTag → Prop) : Lapse :=
  fun files now later => ∀ tag, known tag → ∀ path,
    path = tag.localPath dir ∨ path = temporaryPath (tag.localPath dir) →
      Artifact.isFresh files now path = true → Artifact.isFresh files later path = true

/-! ## Slots of rule-sets -/

section Slots

variable {base f g : Folder} {dir : String} {now : Time} {k l : Location} {a b tag : RuleSetTag}

/-- A path inside a folder ends in the name. -/
theorem exists_toList_join (dir name : String) :
    ∃ front, (Path.join dir name).toList = front ++ name.toList := by
  unfold Path.join
  split
  · exact ⟨[], rfl⟩
  · split
    · exact ⟨dir.toList, String.toList_append⟩
    · exact ⟨dir.toList ++ "/".toList, by rw [String.toList_append, String.toList_append]⟩

/-- A file with the ending of rule-sets is never a temporary file, since the endings differ. -/
theorem slot_join_ne_temporary {label path : String}
    (hk : base.slot? (Path.join dir (label ++ ".srs")) = some k)
    (hl : base.slot? (temporaryPath path) = some l) : k ≠ l := by
  rintro rfl
  obtain ⟨front, hfront⟩ := exists_toList_join dir (label ++ ".srs")
  rw [String.toList_append, ← List.append_assoc] at hfront
  have htemporary : (temporaryPath path).toList = path.toList ++ ".tmp".toList := by
    rw [temporaryPath, String.toList_append]
  obtain ⟨folder, stem, rfl⟩ := exists_ending_of_slot hfront (by decide) hk
  obtain ⟨folder', stem', heq⟩ := exists_ending_of_slot htemporary (by decide) hl
  have hlast := congrArg List.getLast? heq
  rw [List.getLast?_concat, List.getLast?_concat, Option.some.injEq, String.ofList_inj] at hlast
  have hend := congrArg List.getLast? hlast
  simp at hend

/-- The file of a rule-set is never a temporary file. -/
theorem slot_ne_temporary (hk : base.slot? (a.localPath dir) = some k)
    (hl : base.slot? (temporaryPath (b.localPath dir)) = some l) : k ≠ l :=
  slot_join_ne_temporary hk hl

/-- A rule-set stays fresh if the file in its slot stays recent. -/
theorem isFresh_of_files (hf : SameFolders base f) (hg : SameFolders base g)
    (hfiles : ∀ k file, base.slot? (tag.localPath dir) = some k → f.fileAt? k = some file →
      IsRecentFile now file → ∃ file', g.fileAt? k = some file' ∧ IsRecentFile now file')
    (h : Artifact.isFresh f now (tag.localPath dir) = true) :
    Artifact.isFresh g now (tag.localPath dir) = true := by
  obtain ⟨k, file, hslot, hfile, hrecent⟩ := Artifact.isFresh_iff.1 h
  rw [slot?_congr hf] at hslot
  obtain ⟨file', hfile', hrecent'⟩ := hfiles k file hslot hfile hrecent
  refine Artifact.isFresh_iff.2 ⟨k, file', ?_, hfile', hrecent'⟩
  rw [slot?_congr hg]
  exact hslot

end Slots

end ProxyConfig
