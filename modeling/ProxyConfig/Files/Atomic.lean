import ProxyConfig.Files.Operations

/-!
# Replacing a file in one step

New content is first written to a temporary file beside the target, in pieces of any size, and then
the temporary file takes the place of the target.  If anything fails, be it that no space is left
for the whole content, the temporary file is removed.  So at every moment the target holds either
what it held before or the whole new content.
-/

namespace ProxyConfig
namespace Files

/-- The path of the temporary file of a target. -/
def temporaryPath (path : String) : String :=
  path ++ ".tmp"

/-- How far a replacement has come. -/
inductive WriteStage where
  | opening
  /-- The temporary file is open.  The first part is left to be written, and the other one does not
  fit any more. -/
  | writing (left lost : Content)
  | replacing
  /-- Something failed, and the temporary file is to be removed. -/
  | cleaning (reason : FileError)
deriving Repr, DecidableEq, Inhabited

/-- What a step of a replacement leads to. -/
inductive WriteStep where
  | next (stage : WriteStage)
  | done (result : Except FileError Unit)
deriving Repr

namespace WriteStage

/-- The next step of a replacement.  `piece` is one less than the size of the piece that is written
next, if there is enough left. -/
def advance (room : Room) (now : Time) (path : String) (content : Content) (piece : Nat)
    (f : Folder) : WriteStage → Folder × WriteStep
  | .opening =>
    match f.create now (temporaryPath path) with
    | .ok f =>
      (f, .next (.writing (room.part (temporaryPath path) content)
        (room.rest (temporaryPath path) content)))
    | .error e => (f, .next (.cleaning e))
  | .writing [] [] => (f, .next .replacing)
  | .writing [] (_ :: _) => (f, .next (.cleaning .noSpace))
  | .writing (b :: left) lost =>
    (f.append now (temporaryPath path) ((b :: left).take (piece + 1)),
      .next (.writing (left.drop piece) lost))
  | .replacing =>
    match f.renameFile (temporaryPath path) path with
    | .ok f => (f, .done (.ok ()))
    | .error e => (f, .next (.cleaning e))
  | .cleaning reason =>
    match f.removeFile (temporaryPath path) with
    | .ok f => (f, .done (.error reason))
    | .error _ => (f, .done (.error reason))

/-- A bound on the steps that are left. -/
def stepsLeft (content : Content) : WriteStage → Nat
  | .opening => content.length + 4
  | .writing left _ => left.length + 3
  | .replacing => 2
  | .cleaning _ => 1

theorem stepsLeft_advance {room : Room} {now : Time} {path : String} {content : Content}
    {piece : Nat} {f g : Folder} {stage next : WriteStage}
    (h : stage.advance room now path content piece f = (g, .next next)) :
    next.stepsLeft content < stage.stepsLeft content := by
  cases stage with
  | opening =>
    have hlength := congrArg List.length (room.part_append_rest (temporaryPath path) content)
    rw [List.length_append] at hlength
    simp only [advance] at h
    split at h
    all_goals
      simp only [Prod.mk.injEq, WriteStep.next.injEq] at h
      rw [← h.2]
      simp only [stepsLeft]
      omega
  | writing left lost =>
    cases left with
    | nil =>
      cases lost with
      | nil | cons =>
        simp only [advance, Prod.mk.injEq, WriteStep.next.injEq] at h
        rw [← h.2]
        simp [stepsLeft]
    | cons b left =>
      simp only [advance, Prod.mk.injEq, WriteStep.next.injEq] at h
      rw [← h.2]
      simp only [stepsLeft, List.length_drop, List.length_cons]
      omega
  | replacing =>
    simp only [advance] at h
    split at h
    · simp at h
    · simp only [Prod.mk.injEq, WriteStep.next.injEq] at h
      rw [← h.2]
      simp [stepsLeft]
  | cleaning reason =>
    simp only [advance] at h
    split at h <;> simp at h

/-- Run a replacement to its end; every piece is as large as possible. -/
def complete (room : Room) (now : Time) (path : String) (content : Content) (f : Folder)
    (stage : WriteStage) : Folder × Except FileError Unit :=
  match _h : stage.advance room now path content content.length f with
  | (f, .done result) => (f, result)
  | (f, .next next) => complete room now path content f next
termination_by stage.stepsLeft content
decreasing_by exact stepsLeft_advance _h

end WriteStage

/-- Replace the content of a file. -/
def Folder.writeAtomically (f : Folder) (room : Room) (now : Time) (path : String)
    (content : Content) : Folder × Except FileError Unit :=
  WriteStage.opening.complete room now path content f

end Files
end ProxyConfig
