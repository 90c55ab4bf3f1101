import Mathlib.Logic.Function.Basic
import ProxyConfig.Proofs.Files.Replacement

/-!
# Files as a map

As long as the folders of a tree stay, the tree is told by a map from locations to files.  In these
terms a step of a replacement changes the map at one or two locations, whatever others do to the
same files in the meantime.

Main results:

- `alters_put`, `alters_erase`: putting and erasing a file in terms of the map.
- `stat_eq_file_iff`: which file a path leads to.
- `effect_of_advance`: what a step of a replacement does to the map.
-/

namespace ProxyConfig
namespace Files
namespace Folder

variable {base f g : Folder} {path : String} {l k : Location} {content : Content} {time : Time}

/-- The file at a location. -/
def fileAt? (f : Folder) (l : Location) : Option (Content × Time) :=
  match f.find? l with
  | some (.file content modified) => some (content, modified)
  | _ => none

theorem fileAt?_eq_some_iff :
    f.fileAt? l = some (content, time) ↔ f.find? l = some (.file content time) := by
  unfold fileAt?
  cases f.find? l with
  | none => simp
  | some e => cases e <;> simp

theorem fileAt?_of_holdsFolder (h : f.holdsFolder l = true) : f.fileAt? l = none := by
  obtain ⟨inner, hinner⟩ := holdsFolder_iff.1 h
  rw [fileAt?, hinner]

theorem fileAt?_congr (h : g.find? l = f.find? l) : g.fileAt? l = f.fileAt? l := by
  rw [fileAt?, h, fileAt?]

/-- Trees with the same files have the same map. -/
theorem SameFiles.fileAt?_eq (h : SameFiles f g) : g.fileAt? = f.fileAt? := by
  funext l
  refine Option.ext fun ⟨content, modified⟩ => ?_
  rw [fileAt?_eq_some_iff, fileAt?_eq_some_iff]
  exact h l content modified

/-- There is no file inside what is no folder. -/
theorem fileAt?_append (hm : k ≠ []) (h : f.holdsFolder l = false) : f.fileAt? (l ++ k) = none := by
  cases hfile : f.fileAt? (l ++ k) with
  | none => rfl
  | some file =>
    rw [holdsFolder_of_find?_append hm (fileAt?_eq_some_iff.1 hfile)] at h
    cases h

/-- One tree comes from another by changes of files, after which it has these files. -/
structure Alters (f : Folder) (files : Location → Option (Content × Time)) (g : Folder) : Prop where
  sameFolders : SameFolders f g
  files : g.fileAt? = files

/-- A change at a slot that is no folder before and after changes the map there only. -/
theorem alters_of_change (hslot : f.slot? path = some l) (hbefore : f.holdsFolder l = false)
    (hsame : SameFolders f g) (hdisjoint : ∀ k, Disjoint l k → g.find? k = f.find? k) :
    f.Alters (Function.update f.fileAt? l (g.fileAt? l)) g := by
  refine ⟨hsame, ?_⟩
  funext k
  obtain ⟨folder, name, rfl, hfolder⟩ := holdsFolder_of_slot hslot
  by_cases hk : k = folder ++ [name]
  · rw [hk, Function.update_self]
  rw [Function.update_of_ne hk]
  rcases location_cases k (folder ++ [name]) with ⟨m, hm, hsplit⟩ | ⟨m, rfl⟩ | hapart
  · have habove := holdsFolder_of_concat_eq hfolder hm hsplit
    rw [fileAt?_of_holdsFolder habove, fileAt?_of_holdsFolder ((hsame k).trans habove)]
  · have hm : m ≠ [] := by
      rintro rfl
      exact hk (List.append_nil _)
    rw [fileAt?_append hm hbefore, fileAt?_append hm ((hsame _).trans hbefore)]
  · exact fileAt?_congr (hdisjoint k hapart)

/-- A file is put in a slot. -/
theorem alters_put (hslot : f.slot? path = some l) (hfree : f.holdsFolder l = false) :
    f.Alters (Function.update f.fileAt? l (some (content, time)))
      (f.put (.file content time) l) := by
  have hput : (f.put (.file content time) l).fileAt? l = some (content, time) :=
    fileAt?_eq_some_iff.2 (find?_put_slot hslot)
  rw [← hput]
  exact alters_of_change hslot hfree (sameFolders_put_slot hslot hfree)
    fun k => find?_put_of_disjoint

/-- A file is taken away from a slot. -/
theorem alters_erase (hslot : f.slot? path = some l) (hfree : f.holdsFolder l = false) :
    f.Alters (Function.update f.fileAt? l none) (f.erase l) := by
  have herase : (f.erase l).fileAt? l = none := by
    rw [fileAt?, find?_erase_slot hslot]
  rw [← herase]
  exact alters_of_change hslot hfree (sameFolders_erase_slot hslot hfree)
    fun k => find?_erase_of_disjoint

/-- A path leads to the file in its slot. -/
theorem stat_eq_file_iff :
    f.stat path = .ok (.file content time) ↔
      ∃ l, f.slot? path = some l ∧ f.fileAt? l = some (content, time) := by
  cases hslot : f.slot? path with
  | some l =>
    rw [stat_of_slot hslot]
    simp only [Option.some.injEq, exists_eq_left', fileAt?_eq_some_iff]
    cases f.find? l <;> simp
  | none =>
    simp only [reduceCtorEq, false_and, exists_false, iff_false]
    intro hstat
    unfold stat at hstat
    unfold slot? at hslot
    cases hlocate : f.locate path with
    | error e => simp [hlocate, bind, Except.bind] at hstat
    | ok p =>
      obtain ⟨folder, name, demands⟩ := p
      rw [hlocate] at hstat hslot
      simp only [bind, Except.bind, entryAt] at hstat
      cases name with
      | none => cases hstat
      | some name =>
        cases demands with
        | false =>
          simp only [ite_eq_left_iff, reduceCtorEq, imp_false, not_not] at hslot
          simp [hslot] at hstat
        | true =>
          -- Only a folder is found at a path that demands one.
          by_cases hlong : longestName < name.utf8ByteSize
          · simp [hlong] at hstat
          · simp only [hlong, if_false, Place.location] at hstat
            cases hfind : f.find? (folder ++ [name]) with
            | none => simp [hfind] at hstat
            | some e => cases e <;> simp [hfind, Entry.isFolder] at hstat

end Folder

/-! ## Steps of a replacement -/

open Folder

/-- The temporary file of the replacement has been opened, and it is not known to have failed. -/
def WriteStage.HasOpened : WriteStage → Prop
  | .writing .. | .replacing => True
  | .opening | .cleaning _ => False

/-- The whole content stands in the temporary file. -/
def WriteStage.IsWritten : WriteStage → Prop
  | .writing [] [] | .replacing => True
  | .opening | .writing .. | .cleaning _ => False

/-- As long as something is left, not everything is written. -/
theorem WriteStage.not_isWritten {left lost : Content} (h : left ++ lost ≠ []) :
    ¬ (WriteStage.writing left lost).IsWritten := by
  cases left with
  | nil =>
    cases lost with
    | nil => exact absurd rfl h
    | cons => exact id
  | cons => exact id

/-- What a step of a replacement does to the files.  The slots are told from a tree with the same
folders. -/
inductive WriteEffect (base : Folder) (now : Time) (path : String) (content : Content)
    (piece : Nat) (f g : Folder) : WriteStage → WriteStep → Prop
  | opened {l : Location} {left lost : Content}
      (hslot : base.slot? (temporaryPath path) = some l) (hfree : base.holdsFolder l = false)
      (hcontent : left ++ lost = content)
      (hfiles : f.Alters (Function.update f.fileAt? l (some ([], now))) g) :
      WriteEffect base now path content piece f g .opening (.next (.writing left lost))
  | refused {stage : WriteStage} {reason : FileError} (hsame : g = f) :
      WriteEffect base now path content piece f g stage (.next (.cleaning reason))
  | written (hsame : g = f) :
      WriteEffect base now path content piece f g (.writing [] []) (.next .replacing)
  | wrote {l : Location} {old left lost : Content} {byte : UInt8} {time : Time}
      (hslot : base.slot? (temporaryPath path) = some l) (hfile : f.fileAt? l = some (old, time))
      (hfiles : f.Alters
        (Function.update f.fileAt? l (some (old ++ (byte :: left).take (piece + 1), now))) g) :
      WriteEffect base now path content piece f g (.writing (byte :: left) lost)
        (.next (.writing (left.drop piece) lost))
  /-- The temporary file is gone, so the piece goes nowhere. -/
  | missed {l : Location} {left lost : Content} {byte : UInt8}
      (hslot : base.slot? (temporaryPath path) = some l) (hnone : f.fileAt? l = none)
      (hsame : g = f) :
      WriteEffect base now path content piece f g (.writing (byte :: left) lost)
        (.next (.writing (left.drop piece) lost))
  | replaced {l k : Location} {old : Content} {time : Time}
      (hslot : base.slot? (temporaryPath path) = some l) (htarget : base.slot? path = some k)
      (hfile : f.fileAt? l = some (old, time))
      (hfiles : f.Alters
        (Function.update (Function.update f.fileAt? l none) k (some (old, time))) g) :
      WriteEffect base now path content piece f g .replacing (.done (.ok ()))
  | removed {l : Location} {reason : FileError}
      (hslot : base.slot? (temporaryPath path) = some l)
      (hfiles : f.Alters (Function.update f.fileAt? l none) g) :
      WriteEffect base now path content piece f g (.cleaning reason) (.done (.error reason))
  | unremoved {reason : FileError} (hsame : g = f) :
      WriteEffect base now path content piece f g (.cleaning reason) (.done (.error reason))

section Effects

variable {base f g : Folder} {room : Room} {now : Time} {path : String} {content : Content}
  {piece : Nat} {step : WriteStep}

theorem effect_of_opening (hsame : SameFolders base f)
    (hstep : WriteStage.opening.advance room now path content piece f = (g, step)) :
    WriteEffect base now path content piece f g .opening step := by
  simp only [WriteStage.advance] at hstep
  split at hstep
  · rename_i opened hcreate
    cases hstep
    obtain ⟨l, hslot, hfree, rfl⟩ := create_eq_ok_iff.1 hcreate
    refine .opened ?_ ((hsame l).symm.trans hfree) (room.part_append_rest _ content)
      (alters_put hslot hfree)
    rw [← slot?_congr hsame]
    exact hslot
  · cases hstep
    exact .refused rfl

theorem effect_of_writing (hsame : SameFolders base f) {left lost : Content}
    (hopened : base.Accepts (temporaryPath path))
    (hstep : (WriteStage.writing left lost).advance room now path content piece f = (g, step)) :
    WriteEffect base now path content piece f g (.writing left lost) step := by
  cases left with
  | nil =>
    cases lost with
    | nil =>
      cases hstep
      exact .written rfl
    | cons =>
      cases hstep
      exact .refused rfl
  | cons byte left =>
    cases hstep
    obtain ⟨l, hbase, hfree⟩ := hopened
    have hslot : f.slot? (temporaryPath path) = some l := by
      rw [slot?_congr hsame]
      exact hbase
    cases hfile : f.fileAt? l with
    | some file =>
      obtain ⟨old, time⟩ := file
      refine .wrote hbase hfile ?_
      rw [append_of_slot hslot (fileAt?_eq_some_iff.1 hfile)]
      exact alters_put hslot ((hsame l).trans hfree)
    | none =>
      refine .missed hbase hfile ?_
      obtain ⟨folder, name, hlocate, _, rfl⟩ := slot?_eq_some_iff.1 hslot
      unfold fileAt? at hfile
      unfold append
      simp only [hlocate, Place.location]
      split
      · rename_i old time hfind
        rw [hfind] at hfile
        cases hfile
      · rfl

theorem effect_of_replacing (hsame : SameFolders base f)
    (hopened : base.Accepts (temporaryPath path))
    (hstep : WriteStage.replacing.advance room now path content piece f = (g, step)) :
    WriteEffect base now path content piece f g .replacing step := by
  obtain ⟨l, hbase, hfree⟩ := hopened
  have hslot : f.slot? (temporaryPath path) = some l := by
    rw [slot?_congr hsame]
    exact hbase
  simp only [WriteStage.advance] at hstep
  split at hstep
  · rename_i renamed hrename
    cases hstep
    cases hfile : f.fileAt? l with
    | none =>
      -- Without a temporary file there is nothing to rename.
      exfalso
      obtain ⟨folder, name, hlocate, hshort, rfl⟩ := slot?_eq_some_iff.1 hslot
      unfold renameFile at hrename
      have hfolder := (hsame (folder ++ [name])).trans hfree
      cases hfind : f.find? (folder ++ [name]) with
      | some e => cases e <;> simp [fileAt?, holdsFolder, hfind, Entry.isFolder] at hfile hfolder
      | none =>
        cases htarget : f.locate path <;>
          simp [hlocate, htarget, entryAt, Nat.not_lt.2 hshort, Place.location, hfind, bind,
            Except.bind] at hrename
    | some file =>
      obtain ⟨old, time⟩ := file
      obtain ⟨k, hk, hkfree, hg⟩ :=
        (renameFile_eq_ok_iff hslot (fileAt?_eq_some_iff.1 hfile)).1 hrename
      have hkbase : base.slot? path = some k := by
        rw [← slot?_congr hsame]
        exact hk
      refine .replaced hbase hkbase hfile ?_
      by_cases hlk : l = k
      · rw [if_pos hlk] at hg
        subst hg hlk
        refine ⟨SameFolders.refl f, ?_⟩
        rw [Function.update_idem, ← hfile, Function.update_eq_self]
      · rw [if_neg hlk] at hg
        subst hg
        have herase := alters_erase hslot ((hsame l).trans hfree)
        have hk' : (f.erase l).slot? path = some k := by
          rw [slot?_congr herase.sameFolders]
          exact hk
        have hput : (f.erase l).Alters (Function.update (f.erase l).fileAt? k (some (old, time)))
            ((f.erase l).put (.file old time) k) :=
          alters_put hk' ((herase.sameFolders k).trans hkfree)
        refine ⟨herase.sameFolders.trans hput.sameFolders, ?_⟩
        rw [hput.files, herase.files]
  · cases hstep
    exact .refused rfl

theorem effect_of_cleaning (hsame : SameFolders base f) {reason : FileError}
    (hstep : (WriteStage.cleaning reason).advance room now path content piece f = (g, step)) :
    WriteEffect base now path content piece f g (.cleaning reason) step := by
  simp only [WriteStage.advance] at hstep
  split at hstep
  · rename_i removed hremove
    cases hstep
    obtain ⟨l, old, time, hslot, hfile, rfl⟩ := removeFile_eq_ok_iff.1 hremove
    refine .removed ?_ (alters_erase hslot (holdsFolder_eq_false_of_file hfile))
    rw [← slot?_congr hsame]
    exact hslot
  · cases hstep
    exact .unremoved rfl

/-- What a step of a replacement does to the files. -/
theorem effect_of_advance (hsame : SameFolders base f) {stage : WriteStage}
    (hopened : stage.HasOpened → base.Accepts (temporaryPath path))
    (hstep : stage.advance room now path content piece f = (g, step)) :
    WriteEffect base now path content piece f g stage step := by
  cases stage with
  | opening => exact effect_of_opening hsame hstep
  | writing => exact effect_of_writing hsame (hopened trivial) hstep
  | replacing => exact effect_of_replacing hsame (hopened trivial) hstep
  | cleaning reason => exact effect_of_cleaning hsame hstep

/-- A step of a replacement leaves the folders at their places. -/
theorem WriteEffect.sameFolders {stage : WriteStage}
    (h : WriteEffect base now path content piece f g stage step) : SameFolders f g := by
  cases h with
  | opened _ _ _ hfiles | wrote _ _ hfiles | replaced _ _ _ hfiles | removed _ hfiles =>
    exact hfiles.sameFolders
  | refused hsame | written hsame | missed _ _ hsame | unremoved hsame =>
    rw [hsame]
    exact SameFolders.refl f

end Effects

end Files
end ProxyConfig
