import Mathlib.Logic.Relation
import ProxyConfig.Proofs.Files.Destination

/-!
# Replacing a file is atomic

A replacement may go on at any time and write its content in pieces of any size, and the tree in
which it begins may be any.  There can be folders in the way, a temporary file that was left behind,
a name that is only too long with the ending of the temporary file, or no space for the whole
content, so that writing breaks off after any number of bytes.  In all cases the path of the target
leads to what it led to before or to the whole new content, at every moment; and when the
replacement has failed it has left no temporary file behind.

Main results:

- `Underway.move`: what every step keeps, at any time.
- `replacement_atomic`: what is seen at all paths while a file is replaced, and afterwards.
-/

namespace ProxyConfig
namespace Files

/-! ## What is seen at a path -/

/-- What lies at a path.  What lies inside a folder is seen at other paths. -/
inductive Sight where
  | file (content : Content) (modified : Time)
  | folder
deriving Repr, DecidableEq

/-- What an entry looks like from outside. -/
def Entry.sight : Entry → Sight
  | .file content modified => .file content modified
  | .folder _ => .folder

namespace Folder

variable {base f g : Folder} {path : String} {content : Content} {now : Time}

/-- What is seen at a path, if there is anything. -/
def sight? (f : Folder) (path : String) : Option Sight :=
  (f.stat path).toOption.map Entry.sight

/-- Two paths lead to the same place, where a file can be. -/
def LeadAlike (f : Folder) (p q : String) : Prop :=
  ∃ l, f.slot? p = some l ∧ f.slot? q = some l

theorem not_leadAlike {p q : String} {l k : Location} (hp : f.slot? p = some l)
    (hq : f.slot? q = some k) (hne : l ≠ k) : ¬ f.LeadAlike p q := by
  rintro ⟨m, hm, hm'⟩
  rw [hp] at hm
  rw [hq] at hm'
  exact hne (Option.some.inj (hm.trans hm'.symm))

theorem sight?_eq_file_iff :
    f.sight? path = some (.file content now) ↔
      ∃ l, f.slot? path = some l ∧ f.fileAt? l = some (content, now) := by
  rw [← stat_eq_file_iff]
  unfold sight?
  cases f.stat path with
  | error e => simp [Except.toOption]
  | ok entry => cases entry <;> simp [Except.toOption, Entry.sight]

theorem sight?_eq_folder_iff :
    f.sight? path = some .folder ↔
      ∃ p, f.locate path = .ok p ∧ ∀ name, p.name = some name →
        name.utf8ByteSize ≤ longestName ∧ f.holdsFolder p.location = true := by
  unfold sight? stat
  cases hlocate : f.locate path with
  | error e => simp [bind, Except.bind, Except.toOption]
  | ok p =>
    obtain ⟨folder, name, demands⟩ := p
    cases name with
    | none => simp [bind, Except.bind, Except.toOption, entryAt, Entry.sight]
    | some name =>
      simp only [bind, Except.bind, entryAt]
      by_cases hlong : longestName < name.utf8ByteSize
      · simp [hlong, Except.toOption, Nat.not_le.2 hlong]
      · cases hfind : f.find? (Place.location ⟨folder, some name, demands⟩) with
        | none => simp [hlong, Except.toOption, holdsFolder, hfind]
        | some e =>
          cases e <;> cases demands <;>
            simp [hlong, Except.toOption, holdsFolder, hfind, Entry.isFolder, Entry.sight,
              Nat.not_lt.1 hlong]

/-- A path leads to the same place in trees with the same folders. -/
theorem locate_congr (hsame : SameFolders f g) {p : Place} :
    g.locate path = .ok p ↔ f.locate path = .ok p := by
  rw [locate_eq_ok_iff, locate_eq_ok_iff]
  refine and_congr_right fun _ => and_congr_right fun _ => ?_
  exact ⟨placeOf_mono hsame.symm.foldersWithin, placeOf_mono hsame.foldersWithin⟩

/-- What is seen at a path stays as it is if the folders do and the file at its place does. -/
theorem sight?_congr (hsame : SameFolders f g)
    (hfile : ∀ l, f.slot? path = some l → g.fileAt? l = f.fileAt? l) :
    g.sight? path = f.sight? path := by
  refine Option.ext fun sight => ?_
  cases sight with
  | file content modified =>
    rw [sight?_eq_file_iff, sight?_eq_file_iff, slot?_congr hsame]
    refine exists_congr fun l => and_congr_right fun hl => ?_
    rw [hfile l hl]
  | folder =>
    rw [sight?_eq_folder_iff, sight?_eq_folder_iff]
    refine exists_congr fun p => and_congr (locate_congr hsame) ?_
    rw [hsame p.location]

end Folder

open Folder

/-! ## Steps at any time -/

/-- A step of a replacement, at any time and with a piece of any size. -/
def WriteMove (room : Room) (path : String) (content : Content) (s t : Folder × WriteStep) : Prop :=
  ∃ stage now piece, s.2 = .next stage ∧ WriteStage.advance room now path content piece s.1 stage = t

section Moves

variable {base f g : Folder} {room : Room} {path : String} {content : Content}
  {now modified : Time} {piece : Nat} {step : WriteStep}

/-- The temporary file can be put once it has been opened. -/
theorem WriteStage.Invariant.accepts {stage : WriteStage}
    (h : stage.Invariant base room now path content f) (hopened : stage.HasOpened) :
    base.Accepts (temporaryPath path) := by
  cases stage with
  | writing | replacing => exact h.1
  | opening | cleaning => cases hopened

/-- A step keeps the invariant of the stages, even if time has passed since the step before. -/
theorem advance_spec_of_later (hsame : SameFolders base f) {stage : WriteStage}
    (h : stage.Invariant base room modified path content f)
    (hstep : stage.advance room now path content piece f = (g, step)) :
    Confined base path f g ∧ ∃ modified', step.Invariant base room modified' path content g := by
  have happart := base.slotsApart path
  cases stage with
  | opening =>
    have hnow : WriteStage.opening.Invariant base room now path content f := h
    obtain ⟨hconfined, hnext⟩ := opening_spec happart hsame hnow hstep
    exact ⟨hconfined, now, hnext⟩
  | writing left lost =>
    cases left with
    | nil =>
      have hthen :
          (WriteStage.writing [] lost).advance room modified path content piece f = (g, step) := by
        cases lost <;> exact hstep
      obtain ⟨hconfined, hnext⟩ := writing_spec happart hsame h hthen
      exact ⟨hconfined, modified, hnext⟩
    | cons byte left =>
      obtain ⟨hconfined, hnext⟩ := append_spec happart hsame h hstep
      exact ⟨hconfined, now, hnext⟩
  | replacing =>
    have hthen : WriteStage.replacing.advance room modified path content piece f = (g, step) := hstep
    obtain ⟨hconfined, hnext⟩ := replacing_spec happart hsame h hthen
    exact ⟨hconfined, modified, hnext⟩
  | cleaning reason =>
    have hthen :
        (WriteStage.cleaning reason).advance room modified path content piece f = (g, step) :=
      hstep
    obtain ⟨hconfined, hnext⟩ := cleaning_spec happart hsame h hthen
    exact ⟨hconfined, modified, hnext⟩

/-- A temporary file that could be put is gone when the replacement has failed. -/
theorem lacks_of_failed (hsame : SameFolders base f) {stage : WriteStage} {reason : FileError}
    (h : stage.Invariant base room modified path content f)
    (haccepts : base.Accepts (temporaryPath path))
    (hstep : stage.advance room now path content piece f = (g, .done (.error reason))) :
    base.Lacks g (temporaryPath path) := by
  cases stage with
  | opening =>
    simp only [WriteStage.advance] at hstep
    split at hstep <;> cases hstep
  | writing left lost => cases left <;> cases lost <;> cases hstep
  | replacing =>
    simp only [WriteStage.advance] at hstep
    split at hstep <;> cases hstep
  | cleaning =>
    obtain ⟨_, _, ⟨hrefused, _⟩ | ⟨_, l, hbase, hfile⟩⟩ := h
    · exact absurd haccepts hrefused
    · have hslot : f.slot? (temporaryPath path) = some l := by
        rw [slot?_congr hsame]
        exact hbase
      have hremove : f.removeFile (temporaryPath path) = .ok (f.erase l) :=
        removeFile_eq_ok_iff.2 ⟨l, _, _, hslot, hfile, rfl⟩
      simp only [WriteStage.advance, hremove] at hstep
      cases hstep
      intro k hk
      rw [hbase] at hk
      cases hk
      exact find?_erase_slot hslot

/-! ## Runs -/

/-- What is known of a replacement that has come so far, compared with the tree at its start. -/
structure Underway (base : Folder) (room : Room) (path : String) (content : Content) (f : Folder)
    (step : WriteStep) : Prop where
  sameFolders : SameFolders base f
  invariant : ∃ modified, step.Invariant base room modified path content f
  elsewhere : ∀ m, base.slot? path ≠ some m → base.slot? (temporaryPath path) ≠ some m →
    f.fileAt? m = base.fileAt? m
  cleaned : ∀ reason, step = .done (.error reason) → base.Accepts (temporaryPath path) →
    base.Lacks f (temporaryPath path)

theorem underway_start (base : Folder) (room : Room) (path : String) (content : Content) :
    Underway base room path content base (.next .opening) where
  sameFolders := SameFolders.refl base
  invariant := ⟨0, fun _ _ => rfl, fun _ _ => rfl⟩
  elsewhere := fun _ _ _ => rfl
  cleaned := by
    intro reason hdone
    cases hdone

/-- What every step keeps. -/
theorem Underway.move {stage : WriteStage} (h : Underway base room path content f (.next stage))
    (hstep : stage.advance room now path content piece f = (g, step)) :
    Underway base room path content g step := by
  obtain ⟨modified, hinvariant⟩ := h.invariant
  obtain ⟨hconfined, hnext⟩ := advance_spec_of_later h.sameFolders hinvariant hstep
  have heffect := effect_of_advance h.sameFolders hinvariant.accepts hstep
  refine ⟨h.sameFolders.trans hconfined.sameFolders, hnext, ?_, ?_⟩
  · intro m htarget htemporary
    rw [heffect.fileAt?_eq_of_slots htarget htemporary]
    exact h.elsewhere m htarget htemporary
  · rintro reason rfl haccepts
    exact lacks_of_failed h.sameFolders hinvariant haccepts hstep

theorem underway_of_run {s : Folder × WriteStep}
    (hrun : Relation.ReflTransGen (WriteMove room path content) (base, .next .opening) s) :
    Underway base room path content s.1 s.2 := by
  induction hrun with
  | refl => exact underway_start base room path content
  | @tail s t _ hmove ih =>
    obtain ⟨stage, now, piece, hstage, hstep⟩ := hmove
    rw [hstage] at ih
    exact ih.move hstep

/-- A replacement that goes on without a pause is one of the runs. -/
theorem run_complete (stage : WriteStage) :
    Relation.ReflTransGen (WriteMove room path content) (f, .next stage)
      ((stage.complete room now path content f).1,
        .done (stage.complete room now path content f).2) := by
  fun_induction WriteStage.complete room now path content f stage with
  | case1 f stage g result hstep => exact .single ⟨stage, now, _, rfl, hstep⟩
  | case2 f stage g next hstep ih => exact .head ⟨stage, now, _, rfl, hstep⟩ ih

/-! ## What is seen -/

/-- The target is seen as before until the replacement has succeeded. -/
theorem Underway.sight?_target (h : Underway base room path content f step)
    (hstep : step ≠ .done (.ok ())) : f.sight? path = base.sight? path := by
  have hkept : base.Keeps f path := by
    obtain ⟨modified, hinvariant⟩ := h.invariant
    cases step with
    | next stage =>
      cases stage with
      | opening => exact hinvariant.1
      | writing | replacing => exact hinvariant.2.2.1
      | cleaning => exact hinvariant.2.1
    | done result =>
      cases result with
      | ok u => exact absurd rfl hstep
      | error reason => exact hinvariant.2.1
  exact sight?_congr h.sameFolders fun l hl => fileAt?_congr (hkept l hl)

/-- After a success the target has the new content. -/
theorem Underway.sight?_replaced (h : Underway base room path content f (.done (.ok ()))) :
    ∃ modified, f.sight? path = some (.file content modified) := by
  obtain ⟨modified, _, ⟨l, hl, hfile⟩, _⟩ := h.invariant
  rw [← slot?_congr h.sameFolders] at hl
  exact ⟨modified, sight?_eq_file_iff.2 ⟨l, hl, fileAt?_eq_some_iff.2 hfile⟩⟩

/-- Other paths are seen as before. -/
theorem Underway.sight?_other (h : Underway base room path content f step) {other : String}
    (htarget : ¬ base.LeadAlike other path)
    (htemporary : ¬ base.LeadAlike other (temporaryPath path)) :
    f.sight? other = base.sight? other :=
  sight?_congr h.sameFolders fun m hm =>
    h.elsewhere m (fun hslot => htarget ⟨m, hm, hslot⟩) fun hslot => htemporary ⟨m, hm, hslot⟩

/-- After a success there is nothing at the path of the temporary file. -/
theorem Underway.sight?_temporary (h : Underway base room path content f (.done (.ok ()))) :
    f.sight? (temporaryPath path) = none := by
  obtain ⟨_, ⟨⟨l, hl, _⟩, _⟩, _, hlacks⟩ := h.invariant
  have hnone := hlacks l hl
  rw [← slot?_congr h.sameFolders] at hl
  rw [sight?, stat_of_slot hl, hnone]
  rfl

/-- After a failure there is no file at the path of the temporary file. -/
theorem Underway.sight?_temporary_ne_file {reason : FileError}
    (h : Underway base room path content f (.done (.error reason))) (old : Content) :
    f.sight? (temporaryPath path) ≠ some (.file old modified) := by
  rw [Ne, sight?_eq_file_iff]
  rintro ⟨l, hl, hfile⟩
  have hfind := fileAt?_eq_some_iff.1 hfile
  rw [slot?_congr h.sameFolders] at hl
  have hfree : base.holdsFolder l = false := by
    rw [← h.sameFolders l]
    exact holdsFolder_eq_false_of_file hfind
  have hnone := h.cleaned reason rfl ⟨l, hl, hfree⟩ l hl
  rw [hnone] at hfind
  cases hfind

end Moves

/-- A replacement is atomic.  However its steps are spread over time and however much space there
is, the target is seen as it was or with the whole new content, and nothing else is seen to change
but the temporary file.  Of this nothing is left after a success, and no file after a failure. -/
theorem replacement_atomic (base : Folder) (room : Room) (path : String) (content : Content) :
    (∀ now, Relation.ReflTransGen (WriteMove room path content) (base, .next .opening)
      ((base.writeAtomically room now path content).1,
        .done (base.writeAtomically room now path content).2)) ∧
    ∀ f step, Relation.ReflTransGen (WriteMove room path content) (base, .next .opening) (f, step) →
      (f.sight? path = base.sight? path ∨
        ∃ modified, f.sight? path = some (.file content modified)) ∧
      (∀ other, ¬ base.LeadAlike other path → ¬ base.LeadAlike other (temporaryPath path) →
        f.sight? other = base.sight? other) ∧
      (step = .done (.ok ()) →
        (∃ modified, f.sight? path = some (.file content modified)) ∧
          f.sight? (temporaryPath path) = none) ∧
      ∀ reason, step = .done (.error reason) →
        f.sight? path = base.sight? path ∧
          ∀ old modified, f.sight? (temporaryPath path) ≠ some (.file old modified) := by
  refine ⟨fun now => run_complete .opening, fun f step hrun => ?_⟩
  have hunderway : Underway base room path content f step := underway_of_run hrun
  refine ⟨?_, fun other => hunderway.sight?_other, ?_, ?_⟩
  · by_cases hstep : step = .done (.ok ())
    · subst hstep
      exact Or.inr hunderway.sight?_replaced
    · exact Or.inl (hunderway.sight?_target hstep)
  · rintro rfl
    exact ⟨hunderway.sight?_replaced, hunderway.sight?_temporary⟩
  · rintro reason rfl
    exact ⟨hunderway.sight?_target (by simp), fun old _ => hunderway.sight?_temporary_ne_file old⟩

/-- Where a replacement comes to when the time and the size of the piece are given for each step. -/
def WriteStep.along (room : Room) (path : String) (content : Content) :
    List (Time × Nat) → Folder × WriteStep → Folder × WriteStep
  | (now, piece) :: rest, (f, .next stage) =>
    along room path content rest (stage.advance room now path content piece f)
  | _, s => s

theorem run_along {room : Room} {path : String} {content : Content} (turns : List (Time × Nat))
    (s : Folder × WriteStep) :
    Relation.ReflTransGen (WriteMove room path content) s
      (WriteStep.along room path content turns s) := by
  induction turns generalizing s with
  | nil => exact .refl
  | cons turn rest ih =>
    obtain ⟨f, step⟩ := s
    cases step with
    | next stage => exact .head ⟨stage, turn.1, turn.2, rfl, rfl⟩ (ih _)
    | done result => exact .refl

/-- A folder with a file that is to be replaced and a temporary file that was left behind. -/
def sampleTree : Folder :=
  [("d", .folder [("a", .file [1] 0), ("a.tmp", .file [9, 9, 9] 0), ("b", .file [7] 0)])]

/-- There is space for one byte only, and so the temporary file is removed in the end. -/
example : WriteStep.along (fun _ => some 1) "d/a" [2, 3] [(5, 0), (6, 0), (7, 0), (8, 0)]
      (sampleTree, .next .opening) =
    ([("d", .folder [("a", .file [1] 0), ("b", .file [7] 0)])], .done (.error .noSpace)) :=
  rfl

/-- The file of the sample is replaced, whatever was left beside it. -/
theorem replacement_atomic_sample :
    ∃ f, Relation.ReflTransGen (WriteMove .boundless "d/a" [2, 3]) (sampleTree, .next .opening)
        (f, .done (.ok ())) ∧
      sampleTree.sight? "d/a" = some (.file [1] 0) ∧
      (∃ modified, f.sight? "d/a" = some (.file [2, 3] modified)) ∧
      f.sight? "d/a.tmp" = none ∧ f.sight? "d/b" = sampleTree.sight? "d/b" := by
  have hrun : Relation.ReflTransGen (WriteMove .boundless "d/a" [2, 3])
      (sampleTree, .next .opening)
      ([("d", .folder [("a", .file [2, 3] 7), ("b", .file [7] 0)])], .done (.ok ())) :=
    run_along [(5, 0), (6, 0), (7, 0), (8, 0), (9, 0)] (sampleTree, .next .opening)
  obtain ⟨_, hother, hdone, _⟩ := (replacement_atomic sampleTree .boundless "d/a" [2, 3]).2 _ _ hrun
  obtain ⟨hnew, hgone⟩ := hdone rfl
  have hb : sampleTree.slot? "d/b" = some ["d", "b"] := rfl
  have ha : sampleTree.slot? "d/a" = some ["d", "a"] := rfl
  have htemporary : sampleTree.slot? (temporaryPath "d/a") = some ["d", "a.tmp"] := rfl
  exact ⟨_, hrun, rfl, hnew, hgone,
    hother "d/b" (not_leadAlike hb ha (by decide)) (not_leadAlike hb htemporary (by decide))⟩

end Files
end ProxyConfig
