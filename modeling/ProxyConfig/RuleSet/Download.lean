import ProxyConfig.Failure
import ProxyConfig.Files.Atomic
import ProxyConfig.Pool.Basic
import ProxyConfig.RuleSet.Artifact

/-!
# Downloading one rule-set

A download is a job of the pool: the rule-set is requested, and the answer replaces the file of the
rule-set.  Each step is small, so that downloads may overlap in every way.
-/

namespace ProxyConfig

open Files

/-- What comes back for an address. -/
inductive Fetched where
  | body (content : Content)
  | failed (failure : Failure)
  /-- Fetching breaks down, and the worker with it. -/
  | crashed

/-- How rule-sets are fetched. -/
abbrev Fetcher := String → Fetched

/-- The length of what comes back. -/
def Fetched.length : Fetched → Nat
  | .body content => content.length
  | _ => 0

/-- A rule-set to be downloaded. -/
structure DownloadJob where
  tag : RuleSetTag
  url : String
  path : String
deriving Repr, DecidableEq, Inhabited

/-- What downloads share. -/
structure SyncState where
  files : Folder
  now : Time
  /-- The addresses that were requested, the last one first. -/
  requested : List String := []
deriving Repr, Inhabited

/-- How far a download has come. -/
inductive DownloadStage where
  | waiting
  /-- The request is sent, and the answer is not there yet. -/
  | inFlight
  | storing (content : Content) (stage : WriteStage)
deriving Repr, Inhabited

/-- The outcome of a download: nothing, or the reason of its failure. -/
abbrev DownloadResult := RuleSetTag × Except String Unit

namespace Download

variable (fetch : Fetcher) (room : Room)

/-- What an answer leads to.  An empty rule-set is of no use. -/
def receive (job : DownloadJob) : Fetched → JobStep (DownloadJob × DownloadStage) DownloadResult
  | .body [] =>
    .returned
      (job.tag, .error (Failure.download ("Rule-set " ++ job.tag.label ++ " is empty")).message)
  | .body content => .running (job, .storing content .opening)
  | .failed failure => .returned (job.tag, .error failure.message)
  | .crashed => .crashed

/-- A step of a download. -/
def advance (choice : Nat) (state : DownloadJob × DownloadStage) (s : SyncState) :
    SyncState × JobStep (DownloadJob × DownloadStage) DownloadResult :=
  let job := state.1
  match state.2 with
  | .waiting => ({ s with requested := job.url :: s.requested }, .running (job, .inFlight))
  | .inFlight => (s, receive job (fetch job.url))
  | .storing content stage =>
    match stage.advance room s.now job.path content choice s.files with
    | (files, .next stage) => ({ s with files := files }, .running (job, .storing content stage))
    | (files, .done result) =>
      ({ s with files := files },
        .returned (job.tag, result.mapError fun e => (Failure.files e).message))

/-- A bound on the steps that are left. -/
def stepsLeft (state : DownloadJob × DownloadStage) : Nat :=
  match state.2 with
  | .waiting => (fetch state.1.url).length + 6
  | .inFlight => (fetch state.1.url).length + 5
  | .storing content stage => stage.stepsLeft content

theorem stepsLeft_advance {choice : Nat} {state next : DownloadJob × DownloadStage}
    {s t : SyncState} (h : advance fetch room choice state s = (t, .running next)) :
    stepsLeft fetch next < stepsLeft fetch state := by
  obtain ⟨job, stage⟩ := state
  cases stage with
  | waiting =>
    simp only [advance, Prod.mk.injEq, JobStep.running.injEq] at h
    rw [← h.2]
    simp [stepsLeft]
  | inFlight =>
    simp only [advance, Prod.mk.injEq] at h
    cases hf : fetch job.url with
    | body content =>
      cases content with
      | nil => simp [receive, hf] at h
      | cons b content =>
        simp only [receive, hf, JobStep.running.injEq] at h
        rw [← h.2]
        simp only [stepsLeft, hf, Fetched.length, WriteStage.stepsLeft]
        omega
    | failed failure => simp [receive, hf] at h
    | crashed => simp [receive, hf] at h
  | storing content stage =>
    simp only [advance] at h
    split at h
    · rename_i files stage' hs
      simp only [Prod.mk.injEq, JobStep.running.injEq] at h
      rw [← h.2]
      exact WriteStage.stepsLeft_advance hs
    · simp at h

/-- Downloads as jobs of a pool. -/
def handler : Handler SyncState DownloadJob DownloadResult where
  State := DownloadJob × DownloadStage
  start job := (job, .waiting)
  advance := advance fetch room
  stepsLeft := stepsLeft fetch
  stepsLeft_advance := stepsLeft_advance fetch room

end Download
end ProxyConfig
