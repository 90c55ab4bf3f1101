import ProxyConfig.Proofs.Pool.Discipline
import ProxyConfig.RuleSet.Synchronizer

/-!
# Steps of a run

What a step of a run can do, told once for all.  A run makes its folder, looks at one rule-set after
another, and lets a pool download what is needed until all workers have ended.

Main results:

- `advances_of_step`: what a step of a run can do.
- `Advances.now_eq`: no time passes in a step.
- `length_inFlight_le`: a run has no more downloads in flight than it may have workers.
-/

namespace ProxyConfig

open Files

namespace SyncPhase

variable {y : Synchronizer}

/-! ## Steps -/

/-- What a step of a run can do. -/
inductive Advances (request : SyncRequest) (s : SyncState) :
    SyncPhase y → SyncState → SyncPhase y → Prop
  /-- Nothing has to be done. -/
  | skipped (htags : request.tags = []) :
      Advances request s .entered s (.ended (.ok (request.report [])))
  /-- The folder cannot be made, but some of the folders above it may be made. -/
  | blocked {files : Folder} {error : FileError} (htags : request.tags ≠ [])
      (hcreate : s.files.createFolders y.dir = (files, .error error)) :
      Advances request s .entered { s with files := files } (.ended (.error (.folder error)))
  | made {files : Folder} (htags : request.tags ≠ [])
      (hcreate : s.files.createFolders y.dir = (files, .ok ())) :
      Advances request s .entered { s with files := files } (.checking request.tags [])
  | needed {tag : RuleSetTag} {left : List RuleSetTag} {jobs : List DownloadJob}
      (hneeds : y.needs request s.files s.now tag = true) :
      Advances request s (.checking (tag :: left) jobs) s
        (.checking left (y.job request.source tag :: jobs))
  | found {tag : RuleSetTag} {left : List RuleSetTag} {jobs : List DownloadJob}
      (hneeds : y.needs request s.files s.now tag = false) :
      Advances request s (.checking (tag :: left) jobs) s (.checking left jobs)
  /-- No rule-set is needed. -/
  | satisfied : Advances request s (.checking [] []) s (.ended (.ok (request.report [])))
  | started {jobs : List DownloadJob} (hjobs : jobs ≠ []) :
      Advances request s (.checking [] jobs) s
        (.downloading (Pool.start y.handler Synchronizer.width jobs.reverse))
  | worked {pool pool' : Pool y.handler} {t : SyncState}
      (hpool : Pool.Step (s, pool) (t, pool')) :
      Advances request s (.downloading pool) t (.downloading pool')
  | finished {pool : Pool y.handler} (hended : pool.hasEnded = true) :
      Advances request s (.downloading pool) s (.ended (.ok (request.report pool.results)))

variable {request : SyncRequest} {worker choice : Nat} {s t : SyncState} {phase next : SyncPhase y}

/-- What a step of a run can do. -/
theorem advances_of_step (hstep : step request worker choice s phase = some (t, next)) :
    Advances request s phase t next := by
  cases phase with
  | waiting | ended => cases hstep
  | entered =>
    by_cases htags : request.tags = []
    · have hnone : request.tags.isEmpty = true := by simp [htags]
      rw [step, if_pos hnone] at hstep
      cases hstep
      exact .skipped htags
    · have hsome : ¬ request.tags.isEmpty = true := by simp [htags]
      rw [step, if_neg hsome] at hstep
      cases hcreate : s.files.createFolders y.dir with
      | mk files result =>
        cases result with
        | ok u =>
          simp only [hcreate] at hstep
          cases hstep
          exact .made htags hcreate
        | error error =>
          simp only [hcreate] at hstep
          cases hstep
          exact .blocked htags hcreate
  | checking left jobs =>
    cases left with
    | nil =>
      cases jobs with
      | nil =>
        cases hstep
        exact .satisfied
      | cons job jobs =>
        cases hstep
        exact .started (List.cons_ne_nil job jobs)
    | cons tag left =>
      cases hneeds : y.needs request s.files s.now tag <;>
        simp only [step, hneeds, if_true, Bool.false_eq_true, if_false] at hstep <;>
        cases hstep
      · exact .found hneeds
      · exact .needed hneeds
  | downloading pool =>
    cases hended : pool.hasEnded with
    | true =>
      simp only [step, hended, if_true] at hstep
      cases hstep
      exact .finished hended
    | false =>
      simp only [step, hended, Bool.false_eq_true, if_false] at hstep
      obtain ⟨⟨t, pool'⟩, hpool, heq⟩ := Option.map_eq_some_iff.1 hstep
      cases heq
      exact .worked ⟨worker, choice, hpool⟩

/-! ## The clock and the workers -/

/-- No time passes in a step of a download. -/
theorem now_of_advance {fetch : Fetcher} {room : Room} {choice : Nat}
    {state : DownloadJob × DownloadStage} {s t : SyncState}
    {next : JobStep (DownloadJob × DownloadStage) DownloadResult}
    (hstep : Download.advance fetch room choice state s = (t, next)) : t.now = s.now := by
  obtain ⟨job, stage⟩ := state
  cases stage with
  | waiting | inFlight =>
    cases hstep
    rfl
  | storing content write =>
    simp only [Download.advance] at hstep
    split at hstep <;>
      · cases hstep
        rfl

/-- No time passes in a step of a run. -/
theorem Advances.now_eq (h : Advances request s phase t next) : t.now = s.now := by
  cases h with
  | worked hpool =>
    obtain ⟨i, choice, hpool⟩ := hpool
    rcases Pool.step_cases hpool with ⟨_, _, _, rfl, _⟩ | ⟨_, _, _, _, _, rfl, _⟩ |
      ⟨_, _, _, _, _, hadvance, _⟩
    · rfl
    · rfl
    · exact now_of_advance hadvance
  | skipped | blocked | made | needed | found | satisfied | started | finished => rfl

/-- A run has no more workers than it may. -/
def IsNarrow : SyncPhase y → Prop
  | .downloading pool => pool.workers.length ≤ Synchronizer.width
  | _ => True

/-- A step of a pool keeps the number of its workers. -/
theorem length_workers_of_step {Shared Job Result : Type} {h : Handler Shared Job Result}
    {s t : Shared × Pool h} (hstep : Pool.Step s t) :
    t.2.workers.length = s.2.workers.length := by
  obtain ⟨shared, p⟩ := s
  obtain ⟨shared', q⟩ := t
  obtain ⟨i, choice, hstep⟩ := hstep
  obtain ⟨_, _, _, _, hworkers⟩ := Pool.exists_set_of_step hstep
  change q.workers.length = p.workers.length
  rw [hworkers, List.length_set]

/-- A step of a run gives it no more workers than it may have. -/
theorem Advances.isNarrow (h : Advances request s phase t next) (hnarrow : phase.IsNarrow) :
    next.IsNarrow := by
  cases h with
  | started =>
    simp only [IsNarrow, Pool.start, List.length_replicate]
    exact Nat.min_le_left _ _
  | worked hpool => exact Nat.le_trans (Nat.le_of_eq (length_workers_of_step hpool)) hnarrow
  | skipped | blocked | made | needed | found | satisfied | finished => exact trivial

/-- There are no more downloads in flight than the run has workers. -/
theorem length_inFlight_le (hnarrow : phase.IsNarrow) :
    phase.inFlight.length ≤ Synchronizer.width := by
  cases phase with
  | downloading pool => exact Nat.le_trans (List.length_filterMap_le _ _) hnarrow
  | waiting | entered | checking | ended => exact Nat.zero_le _

end SyncPhase
end ProxyConfig
