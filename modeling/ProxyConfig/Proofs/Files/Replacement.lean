import ProxyConfig.Proofs.Files.Slot

/-!
# What a replacement does to the tree

A replacement is followed from stage to stage.  Until it takes the place of the target, the target
holds what it held at the start, and everything outside the two slots is left alone throughout.
Whether the replacement goes through is decided at the start: both the target and the temporary file
need a slot in which no folder lies, and there has to be space for the whole content.

Main results:

- `slotsApart`: no file has the place of its temporary file.
- `advance_spec`: what one step keeps.
- `complete_spec`: what a replacement that is not disturbed leaves behind.
- `writeAtomically_eq_ok_iff`: when a replacement goes through.
-/

namespace ProxyConfig
namespace Files

/-! ## Entries at slots -/

namespace Folder

variable {base f g : Folder} {path : String}

/-- A file of the path can be put. -/
def Accepts (f : Folder) (path : String) : Prop :=
  ∃ l, f.slot? path = some l ∧ f.holdsFolder l = false

/-- The slot of the path holds what it held in the base tree. -/
def Keeps (base f : Folder) (path : String) : Prop :=
  ∀ l, base.slot? path = some l → f.find? l = base.find? l

/-- The slot of the path holds a file. -/
def Holds (base f : Folder) (path : String) (content : Content) (modified : Time) : Prop :=
  ∃ l, base.slot? path = some l ∧ f.find? l = some (.file content modified)

/-- The slot of the path holds nothing. -/
def Lacks (base f : Folder) (path : String) : Prop :=
  ∀ l, base.slot? path = some l → f.find? l = none

/-- A replacement of the file by a content goes through. -/
def IsReplaceable (base : Folder) (room : Room) (path : String) (content : Content) : Prop :=
  base.Accepts (temporaryPath path) ∧ base.Accepts path ∧
    room.rest (temporaryPath path) content = []

/-- The file and its temporary file have slots apart from each other. -/
def SlotsApart (base : Folder) (path : String) : Prop :=
  ∀ l k, base.slot? path = some l → base.slot? (temporaryPath path) = some k → Disjoint l k

/-- The location is the slot of the file or of its temporary file. -/
def IsSlot (base : Folder) (path : String) (l : Location) : Prop :=
  base.slot? path = some l ∨ base.slot? (temporaryPath path) = some l

/-- The location lies apart from the slots of the file and its temporary file. -/
def IsOutside (base : Folder) (path : String) (m : Location) : Prop :=
  ∀ l, base.IsSlot path l → Disjoint l m

/-- Two trees hold the same in the slots of the file and its temporary file. -/
def SameSlots (base : Folder) (path : String) (f g : Folder) : Prop :=
  ∀ l, base.IsSlot path l → g.find? l = f.find? l

/-- The file is left alone, and its temporary file is as before or gone. -/
def LeftAlone (base : Folder) (path : String) (f : Folder) : Prop :=
  base.Keeps f path ∧
    (base.Keeps f (temporaryPath path) ∨ base.Lacks f (temporaryPath path))

/-- The change from one tree to another is confined to the slots of the file and its temporary
file, and it leaves all folders at their places. -/
structure Confined (base : Folder) (path : String) (f g : Folder) : Prop where
  sameFolders : SameFolders f g
  frame : ∀ m, base.IsOutside path m → g.find? m = f.find? m

theorem Confined.refl (base : Folder) (path : String) (f : Folder) : Confined base path f f :=
  ⟨SameFolders.refl f, fun _ _ => rfl⟩

theorem Confined.trans {h : Folder} (hfg : Confined base path f g) (hgh : Confined base path g h) :
    Confined base path f h := by
  refine ⟨hfg.sameFolders.trans hgh.sameFolders, ?_⟩
  intro m hm
  rw [hgh.frame m hm, hfg.frame m hm]

theorem Keeps.of_eq (h : Keeps base f path)
    (hsame : ∀ l, base.slot? path = some l → g.find? l = f.find? l) : Keeps base g path :=
  fun l hl => (hsame l hl).trans (h l hl)

theorem Holds.of_eq {content : Content} {modified : Time} (h : Holds base f path content modified)
    (hsame : ∀ l, base.slot? path = some l → g.find? l = f.find? l) :
    Holds base g path content modified := by
  obtain ⟨l, hl, hfile⟩ := h
  exact ⟨l, hl, (hsame l hl).trans hfile⟩

theorem Lacks.of_eq (h : Lacks base f path)
    (hsame : ∀ l, base.slot? path = some l → g.find? l = f.find? l) : Lacks base g path :=
  fun l hl => (hsame l hl).trans (h l hl)

theorem SameSlots.target (h : base.SameSlots path f g) {l : Location}
    (hl : base.slot? path = some l) : g.find? l = f.find? l :=
  h l (Or.inl hl)

theorem SameSlots.temporary (h : base.SameSlots path f g) {l : Location}
    (hl : base.slot? (temporaryPath path) = some l) : g.find? l = f.find? l :=
  h l (Or.inr hl)

theorem SameSlots.trans {h : Folder} (hfg : base.SameSlots path f g)
    (hgh : base.SameSlots path g h) : base.SameSlots path f h :=
  fun l hl => (hgh l hl).trans (hfg l hl)

/-- A file is left alone when nothing changes in its slots. -/
theorem SameSlots.leftAlone (h : base.SameSlots path base f) : base.LeftAlone path f :=
  ⟨fun _ => h.target, Or.inl fun _ => h.temporary⟩

theorem LeftAlone.congr (h : base.LeftAlone path f) (hsame : base.SameSlots path f g) :
    base.LeftAlone path g := by
  obtain ⟨hkept, hrest⟩ := h
  refine ⟨hkept.of_eq fun _ => hsame.target, ?_⟩
  rcases hrest with hkept' | hlacks
  · exact Or.inl (hkept'.of_eq fun _ => hsame.temporary)
  · exact Or.inr (hlacks.of_eq fun _ => hsame.temporary)

/-- A file in the slot of a path is the entry of the path. -/
theorem Holds.stat {content : Content} {modified : Time} (h : Holds base f path content modified)
    (hsame : SameFolders base f) : f.stat path = .ok (.file content modified) := by
  obtain ⟨l, hl, hfile⟩ := h
  rw [← slot?_congr hsame] at hl
  rw [stat_of_slot hl, hfile]
  rfl

/-- Whether a file can be put depends only on the folders. -/
theorem accepts_congr (h : SameFolders f g) : g.Accepts path ↔ f.Accepts path := by
  unfold Accepts
  simp only [slot?_congr h, h _]

/-- No file has the place of its temporary file. -/
theorem slotsApart (base : Folder) (path : String) : base.SlotsApart path := by
  intro l k hl hk
  obtain ⟨before, folder, name, hparts, hwalk, rfl⟩ := exists_parts_of_slot hl
  obtain ⟨before', folder', name', hparts', hwalk', rfl⟩ := exists_parts_of_slot hk
  have hslash : '/' ∉ ".tmp".toList := by decide
  obtain ⟨front, last, hpath, happend⟩ := Path.parts_append path hslash
  rw [temporaryPath, happend] at hparts'
  rw [hpath] at hparts
  obtain ⟨rfl, hname⟩ := List.append_inj' hparts rfl
  obtain ⟨rfl, hname'⟩ := List.append_inj' hparts' rfl
  rw [hwalk] at hwalk'
  cases hwalk'
  cases hname
  cases hname'
  refine disjoint_concat fun heq => ?_
  have hlength := congrArg (fun s => s.toList.length) heq
  simp at hlength

/-! ## Operations on the slots -/

section Operations

variable {l : Location} {content : Content} {now : Time}

theorem disjoint_comm {a b : Location} (h : Disjoint a b) : Disjoint b a :=
  ⟨h.2, h.1⟩

/-- A file is found where it was put in a slot. -/
theorem find?_put_slot {e : Entry} (h : f.slot? path = some l) : (f.put e l).find? l = some e := by
  obtain ⟨folder, name, rfl, hfolder⟩ := holdsFolder_of_slot h
  exact find?_put hfolder

theorem sameFolders_put_slot (h : f.slot? path = some l) (hfree : f.holdsFolder l = false) :
    SameFolders f (f.put (.file content now) l) := by
  obtain ⟨folder, name, rfl, hfolder⟩ := holdsFolder_of_slot h
  exact sameFolders_put_file hfolder hfree

theorem sameFolders_erase_slot (h : f.slot? path = some l) (hfree : f.holdsFolder l = false) :
    SameFolders f (f.erase l) := by
  obtain ⟨folder, name, rfl, hfolder⟩ := holdsFolder_of_slot h
  exact sameFolders_erase hfolder hfree

theorem find?_erase_slot (h : f.slot? path = some l) : (f.erase l).find? l = none := by
  obtain ⟨folder, name, rfl, hfolder⟩ := holdsFolder_of_slot h
  exact find?_erase (by simp)

theorem holdsFolder_eq_false_of_file (h : f.find? l = some (.file content now)) :
    f.holdsFolder l = false := by
  simp [holdsFolder, h, Entry.isFolder]

end Operations
end Folder

/-! ## Stages -/

open Folder

section Stages

variable (base : Folder) (room : Room) (now : Time) (path : String) (content : Content)

/-- What the tree is like at a stage, compared with the tree in which the replacement began. -/
def WriteStage.Invariant (f : Folder) : WriteStage → Prop
  | .opening => base.Keeps f path ∧ base.Keeps f (temporaryPath path)
  | .writing left lost =>
    base.Accepts (temporaryPath path) ∧ lost = room.rest (temporaryPath path) content ∧
      base.Keeps f path ∧
      ∃ written, written ++ left = room.part (temporaryPath path) content ∧
        base.Holds f (temporaryPath path) written now
  | .replacing =>
    base.Accepts (temporaryPath path) ∧ room.rest (temporaryPath path) content = [] ∧
      base.Keeps f path ∧ base.Holds f (temporaryPath path) content now
  | .cleaning _ =>
    ¬ base.IsReplaceable room path content ∧ base.Keeps f path ∧
      ((¬ base.Accepts (temporaryPath path) ∧ base.Keeps f (temporaryPath path)) ∨
        ∃ written, base.Holds f (temporaryPath path) written now)

/-- What the tree is like when the replacement has ended. -/
def Replaced (f : Folder) : Except FileError Unit → Prop
  | .ok _ =>
    base.IsReplaceable room path content ∧ base.Holds f path content now ∧
      base.Lacks f (temporaryPath path)
  | .error _ => ¬ base.IsReplaceable room path content ∧ base.LeftAlone path f

/-- What the tree is like after a step. -/
def WriteStep.Invariant (f : Folder) : WriteStep → Prop
  | .next stage => stage.Invariant base room now path content f
  | .done result => Replaced base room now path content f result

end Stages

variable {base f g : Folder} {room : Room} {now : Time} {path : String} {content : Content}

/-- The invariant of the stages only looks at the two slots. -/
theorem WriteStage.Invariant.congr (hsame : base.SameSlots path f g) {stage : WriteStage}
    (h : stage.Invariant base room now path content f) :
    stage.Invariant base room now path content g := by
  cases stage with
  | opening => exact ⟨h.1.of_eq fun _ => hsame.target, h.2.of_eq fun _ => hsame.temporary⟩
  | writing left lost =>
    obtain ⟨haccepts, hlost, hkept, written, hwritten, hfile⟩ := h
    exact ⟨haccepts, hlost, hkept.of_eq fun _ => hsame.target, written, hwritten,
      hfile.of_eq fun _ => hsame.temporary⟩
  | replacing =>
    obtain ⟨haccepts, hfits, hkept, hfile⟩ := h
    exact ⟨haccepts, hfits, hkept.of_eq fun _ => hsame.target,
      hfile.of_eq fun _ => hsame.temporary⟩
  | cleaning reason =>
    obtain ⟨hrefused, hkept, hrest⟩ := h
    refine ⟨hrefused, hkept.of_eq fun _ => hsame.target, ?_⟩
    rcases hrest with ⟨hnone, hkept'⟩ | ⟨written, hfile⟩
    · exact Or.inl ⟨hnone, hkept'.of_eq fun _ => hsame.temporary⟩
    · exact Or.inr ⟨written, hfile.of_eq fun _ => hsame.temporary⟩

/-- So does the outcome. -/
theorem Replaced.congr (hsame : base.SameSlots path f g) {result : Except FileError Unit}
    (h : Replaced base room now path content f result) :
    Replaced base room now path content g result := by
  cases result with
  | ok u =>
    obtain ⟨hreplaceable, hfile, hlacks⟩ := h
    exact ⟨hreplaceable, hfile.of_eq fun _ => hsame.target, hlacks.of_eq fun _ => hsame.temporary⟩
  | error e => exact ⟨h.1, h.2.congr hsame⟩

/-- The temporary file is opened, or the replacement cannot go through. -/
theorem opening_spec (happart : base.SlotsApart path) (hsame : SameFolders base f)
    (h : WriteStage.opening.Invariant base room now path content f) {piece : Nat} {step : WriteStep}
    (hstep : WriteStage.opening.advance room now path content piece f = (g, step)) :
    Confined base path f g ∧ step.Invariant base room now path content g := by
  obtain ⟨htarget, htemporary⟩ := h
  simp only [WriteStage.advance] at hstep
  split at hstep
  · rename_i opened hcreate
    cases hstep
    obtain ⟨l, hslot, hfree, rfl⟩ := create_eq_ok_iff.1 hcreate
    have hbase : base.slot? (temporaryPath path) = some l := by
      rw [← slot?_congr hsame]
      exact hslot
    refine ⟨⟨sameFolders_put_slot hslot hfree, ?_⟩, ⟨l, hbase, ?_⟩, rfl, ?_, [], rfl, l, hbase, ?_⟩
    · intro m hm
      exact find?_put_of_disjoint (hm l (Or.inr hbase))
    · rw [← hsame l]
      exact hfree
    · apply htarget.of_eq
      intro k hk
      exact find?_put_of_disjoint (disjoint_comm (happart k l hk hbase))
    · exact find?_put_slot hslot
  · rename_i e hcreate
    cases hstep
    have hrefused : ¬ base.Accepts (temporaryPath path) := by
      intro haccepts
      obtain ⟨l, hslot, hfree⟩ := (accepts_congr hsame).2 haccepts
      have hok : f.create now (temporaryPath path) = .ok _ :=
        create_eq_ok_iff.2 ⟨l, hslot, hfree, rfl⟩
      rw [hcreate] at hok
      cases hok
    exact ⟨Confined.refl base path f, fun hreplaceable => hrefused hreplaceable.1, htarget,
      Or.inl ⟨hrefused, htemporary⟩⟩

/-- A piece is added to the temporary file, which has the time of the last piece then. -/
theorem append_spec (happart : base.SlotsApart path) (hsame : SameFolders base f)
    {left lost : Content} {byte : UInt8} {modified : Time}
    (h : (WriteStage.writing (byte :: left) lost).Invariant base room modified path content f)
    {piece : Nat} {step : WriteStep}
    (hstep :
      (WriteStage.writing (byte :: left) lost).advance room now path content piece f = (g, step)) :
    Confined base path f g ∧ step.Invariant base room now path content g := by
  obtain ⟨haccepts, hlost, htarget, written, hwritten, l, hbase, hfile⟩ := h
  cases hstep
  have hslot : f.slot? (temporaryPath path) = some l := by
    rw [slot?_congr hsame]
    exact hbase
  rw [append_of_slot hslot hfile]
  refine ⟨⟨sameFolders_put_slot hslot (holdsFolder_eq_false_of_file hfile), ?_⟩, haccepts, hlost, ?_,
    written ++ (byte :: left).take (piece + 1), ?_, l, hbase, find?_put_slot hslot⟩
  · intro m hm
    exact find?_put_of_disjoint (hm l (Or.inr hbase))
  · apply htarget.of_eq
    intro k hk
    exact find?_put_of_disjoint (disjoint_comm (happart k l hk hbase))
  · rw [← hwritten, List.append_assoc, List.take_succ_cons, List.cons_append,
      List.take_append_drop]

/-- A piece is added to the temporary file, or everything that fits is written. -/
theorem writing_spec (happart : base.SlotsApart path) (hsame : SameFolders base f)
    {left lost : Content}
    (h : (WriteStage.writing left lost).Invariant base room now path content f)
    {piece : Nat} {step : WriteStep}
    (hstep : (WriteStage.writing left lost).advance room now path content piece f = (g, step)) :
    Confined base path f g ∧ step.Invariant base room now path content g := by
  cases left with
  | nil =>
    obtain ⟨haccepts, hlost, htarget, written, hwritten, hfile⟩ := h
    rw [List.append_nil] at hwritten
    cases lost with
    | nil =>
      cases hstep
      rw [Room.part_eq_of_rest hlost.symm] at hwritten
      subst hwritten
      exact ⟨Confined.refl base path f, haccepts, hlost.symm, htarget, hfile⟩
    | cons byte lost =>
      cases hstep
      refine ⟨Confined.refl base path f, ?_, htarget, Or.inr ⟨written, hfile⟩⟩
      rintro ⟨_, _, hfits⟩
      rw [hfits] at hlost
      cases hlost
  | cons byte left => exact append_spec happart hsame h hstep

/-- The temporary file takes the place of the target, or the target is a folder. -/
theorem replacing_spec (happart : base.SlotsApart path) (hsame : SameFolders base f)
    (h : WriteStage.replacing.Invariant base room now path content f) {piece : Nat} {step : WriteStep}
    (hstep : WriteStage.replacing.advance room now path content piece f = (g, step)) :
    Confined base path f g ∧ step.Invariant base room now path content g := by
  obtain ⟨haccepts, hfits, htarget, l, hbase, hfile⟩ := h
  have hslot : f.slot? (temporaryPath path) = some l := by
    rw [slot?_congr hsame]
    exact hbase
  have hfree := holdsFolder_eq_false_of_file hfile
  simp only [WriteStage.advance] at hstep
  split at hstep
  · rename_i renamed hrename
    cases hstep
    obtain ⟨k, hk, hkfree, hg⟩ := (renameFile_eq_ok_iff hslot hfile).1 hrename
    have hkbase : base.slot? path = some k := by
      rw [← slot?_congr hsame]
      exact hk
    have hkl := happart k l hkbase hbase
    have hne : l ≠ k := by
      rintro rfl
      exact hkl.1 (List.prefix_refl l)
    rw [if_neg hne] at hg
    subst hg
    have herase := sameFolders_erase_slot hslot hfree
    have hkerase : (f.erase l).slot? path = some k := by
      rw [slot?_congr herase]
      exact hk
    refine ⟨⟨?_, ?_⟩, ⟨haccepts, ⟨k, hkbase, ?_⟩, hfits⟩, ⟨k, hkbase, find?_put_slot hkerase⟩, ?_⟩
    · refine herase.trans (sameFolders_put_slot hkerase ?_)
      rw [herase k]
      exact hkfree
    · intro m hm
      rw [find?_put_of_disjoint (hm k (Or.inl hkbase)),
        find?_erase_of_disjoint (hm l (Or.inr hbase))]
    · rw [← hsame k]
      exact hkfree
    · intro l' hl'
      rw [hbase] at hl'
      cases hl'
      rw [find?_put_of_disjoint hkl, find?_erase_slot hslot]
  · rename_i e hrename
    cases hstep
    refine ⟨Confined.refl base path f, ?_, htarget, Or.inr ⟨content, l, hbase, hfile⟩⟩
    intro hreplaceable
    obtain ⟨k, hk, hkfree⟩ := (accepts_congr hsame).2 hreplaceable.2.1
    have hok : f.renameFile (temporaryPath path) path = .ok _ :=
      (renameFile_eq_ok_iff hslot hfile).2 ⟨k, hk, hkfree, rfl⟩
    rw [hrename] at hok
    cases hok

/-- The temporary file is removed, or there is none. -/
theorem cleaning_spec (happart : base.SlotsApart path) (hsame : SameFolders base f)
    {reason : FileError} (h : (WriteStage.cleaning reason).Invariant base room now path content f)
    {piece : Nat} {step : WriteStep}
    (hstep : (WriteStage.cleaning reason).advance room now path content piece f = (g, step)) :
    Confined base path f g ∧ step.Invariant base room now path content g := by
  obtain ⟨hrefused, htarget, htemporary⟩ := h
  simp only [WriteStage.advance] at hstep
  split at hstep
  · rename_i removed hremove
    cases hstep
    obtain ⟨l, old, time, hslot, hfile, rfl⟩ := removeFile_eq_ok_iff.1 hremove
    have hbase : base.slot? (temporaryPath path) = some l := by
      rw [← slot?_congr hsame]
      exact hslot
    refine ⟨⟨sameFolders_erase_slot hslot (holdsFolder_eq_false_of_file hfile), ?_⟩, hrefused, ?_,
      Or.inr ?_⟩
    · intro m hm
      exact find?_erase_of_disjoint (hm l (Or.inr hbase))
    · apply htarget.of_eq
      intro k hk
      exact find?_erase_of_disjoint (disjoint_comm (happart k l hk hbase))
    · intro l' hl'
      rw [hbase] at hl'
      cases hl'
      exact find?_erase_slot hslot
  · rename_i e hremove
    cases hstep
    refine ⟨Confined.refl base path f, hrefused, htarget, Or.inl ?_⟩
    rcases htemporary with ⟨_, hkept⟩ | ⟨_, l, hbase, hfile⟩
    · exact hkept
    · have hslot : f.slot? (temporaryPath path) = some l := by
        rw [slot?_congr hsame]
        exact hbase
      have hok : f.removeFile (temporaryPath path) = .ok _ :=
        removeFile_eq_ok_iff.2 ⟨l, _, _, hslot, hfile, rfl⟩
      rw [hremove] at hok
      cases hok

/-- A step keeps the invariant of the stages and changes only the two slots. -/
theorem advance_spec (happart : base.SlotsApart path) (hsame : SameFolders base f)
    {stage : WriteStage} (h : stage.Invariant base room now path content f) {piece : Nat}
    {step : WriteStep} (hstep : stage.advance room now path content piece f = (g, step)) :
    Confined base path f g ∧ step.Invariant base room now path content g := by
  cases stage with
  | opening => exact opening_spec happart hsame h hstep
  | writing => exact writing_spec happart hsame h hstep
  | replacing => exact replacing_spec happart hsame h hstep
  | cleaning reason => exact cleaning_spec happart hsame h hstep

/-- A replacement that is not disturbed comes to its end. -/
theorem complete_spec (happart : base.SlotsApart path) {stage : WriteStage}
    (hsame : SameFolders base f) (h : stage.Invariant base room now path content f) :
    Confined base path f (stage.complete room now path content f).1 ∧
      Replaced base room now path content (stage.complete room now path content f).1
        (stage.complete room now path content f).2 := by
  fun_induction WriteStage.complete room now path content f stage with
  | case1 f stage g result hstep => exact advance_spec happart hsame h hstep
  | case2 f stage g next hstep ih =>
    obtain ⟨hconfined, hnext⟩ := advance_spec happart hsame h hstep
    obtain ⟨hrest, hdone⟩ := ih (hsame.trans hconfined.sameFolders) hnext
    exact ⟨hconfined.trans hrest, hdone⟩

/-- A replacement goes through exactly when both slots are free of folders and the content fits. -/
theorem writeAtomically_eq_ok_iff (happart : base.SlotsApart path) :
    (base.writeAtomically room now path content).2 = .ok () ↔
      base.IsReplaceable room path content := by
  have hstart : WriteStage.opening.Invariant base room now path content base :=
    ⟨fun _ _ => rfl, fun _ _ => rfl⟩
  obtain ⟨_, hdone⟩ := complete_spec happart (SameFolders.refl base) hstart
  change Replaced base room now path content _ (base.writeAtomically room now path content).2 at hdone
  cases hresult : (base.writeAtomically room now path content).2 with
  | ok u =>
    rw [hresult] at hdone
    exact iff_of_true rfl hdone.1
  | error e =>
    rw [hresult] at hdone
    exact iff_of_false (by simp) hdone.1

end Files
end ProxyConfig
