import ProxyConfig.RuleSet.Download

/-!
# Synchronization of rule-sets

A synchronizer keeps the rule-sets of a folder up to date.  A run makes the folder, looks for the
rule-sets that are missing or stale, downloads them with a pool of workers and reports what
happened.

Runs exclude each other: a run takes the lock of the synchronizer before its first step and gives it
back with its result.

Main definitions:

- `SyncPhase.step`: a step of a run that has the lock.
- `SyncSystem.Step`: a step of one of several runs, or the passage of time.
- `Synchronizer.run`: a single run from beginning to end, during which no time passes.
-/

namespace ProxyConfig

open Files

/-- What all runs of a synchronizer have in common. -/
structure Synchronizer where
  dir : String
  fetch : Fetcher
  room : Room := .boundless

/-- What a run is asked to do. -/
structure SyncRequest where
  /-- The rule-sets in increasing order, each once. -/
  tags : List RuleSetTag
  source : RuleSetSource
  /-- Download all rule-sets, whether they are fresh or not. -/
  isForced : Bool := false
deriving Repr, DecidableEq, Inhabited

/-- The report on the results of the downloads. -/
def SyncRequest.report (request : SyncRequest) (results : List DownloadResult) : SyncReport :=
  .ofResults request.tags.length results

namespace Synchronizer

/-- The most downloads at the same time. -/
def width : Nat := 5

variable (y : Synchronizer)

/-- Downloads as jobs. -/
abbrev handler : Handler SyncState DownloadJob DownloadResult :=
  Download.handler y.fetch y.room

/-- The download of a rule-set. -/
def job (source : RuleSetSource) (tag : RuleSetTag) : DownloadJob where
  tag := tag
  url := source.url tag
  path := tag.localPath y.dir

/-- A rule-set has to be downloaded. -/
def needs (request : SyncRequest) (files : Folder) (now : Time) (tag : RuleSetTag) : Bool :=
  request.isForced || !Artifact.isFresh files now (tag.localPath y.dir)

end Synchronizer

/-- How far a run has come. -/
inductive SyncPhase (y : Synchronizer) where
  | waiting
  /-- The lock is taken, and nothing is done yet. -/
  | entered
  /-- Some rule-sets are looked at already, and these jobs came out of it, the last one first. -/
  | checking (left : List RuleSetTag) (jobs : List DownloadJob)
  | downloading (pool : Pool y.handler)
  | ended (result : Except SyncError SyncReport)

namespace SyncPhase

variable {y : Synchronizer}

/-- A step of a run that has the lock.  `worker` and `choice` matter only while downloads run. -/
def step (request : SyncRequest) (worker choice : Nat) (s : SyncState) :
    SyncPhase y → Option (SyncState × SyncPhase y)
  | .waiting => none
  | .entered =>
    if request.tags.isEmpty then some (s, .ended (.ok (request.report [])))
    else
      match s.files.createFolders y.dir with
      | (files, .ok _) => some ({ s with files := files }, .checking request.tags [])
      | (files, .error e) => some ({ s with files := files }, .ended (.error (.folder e)))
  | .checking [] jobs =>
    if jobs.isEmpty then some (s, .ended (.ok (request.report [])))
    else some (s, .downloading (Pool.start y.handler Synchronizer.width jobs.reverse))
  | .checking (tag :: left) jobs =>
    if y.needs request s.files s.now tag then
      some (s, .checking left (y.job request.source tag :: jobs))
    else some (s, .checking left jobs)
  | .downloading pool =>
    if pool.hasEnded then some (s, .ended (.ok (request.report pool.results)))
    else (Pool.step worker choice (s, pool)).map fun t => (t.1, .downloading t.2)
  | .ended _ => none

/-- The downloads that are in flight. -/
def inFlight : SyncPhase y → List DownloadJob
  | .downloading pool =>
    pool.workers.filterMap fun w =>
      match w with
      | .busy job (_, DownloadStage.inFlight) _ => some job
      | _ => none
  | _ => []

/-- The run has ended. -/
def hasEnded : SyncPhase y → Bool
  | .ended _ => true
  | _ => false

end SyncPhase

/-! ## Several runs -/

/-- A call of a synchronizer.  It requests no address and writes no file twice, so the answers that
it gets are a function of the address, and the space that it finds is one of the path.  What changes
with time are the answers and the space of different calls. -/
structure SyncCall where
  request : SyncRequest
  fetch : Fetcher
  room : Room := .boundless

/-- The synchronizer of a folder as a call sees it. -/
def SyncCall.synchronizer (call : SyncCall) (dir : String) : Synchronizer where
  dir := dir
  fetch := call.fetch
  room := call.room

/-- A run among others. -/
structure SyncRun (dir : String) where
  call : SyncCall
  phase : SyncPhase (call.synchronizer dir) := .waiting
  /-- The addresses that the run has requested, the last one first. -/
  requested : List String := []

/-- Runs that were started on the synchronizer of a folder. -/
structure SyncSystem (dir : String) where
  files : Folder
  now : Time
  runs : List (SyncRun dir)
  /-- The run that has the lock. -/
  holder : Option Nat := none
  /-- The runs that have taken the lock, the last one first. -/
  entered : List Nat := []

/-- How time may pass, with the files as they are. -/
abbrev Lapse := (files : Folder) → (now later : Time) → Prop

namespace SyncSystem

variable {dir : String}

/-- Runs before their first step. -/
def start (dir : String) (files : Folder) (now : Time) (calls : List SyncCall) :
    SyncSystem dir where
  files := files
  now := now
  runs := calls.map fun call => { call := call }

/-- A step of one run.  A waiting run takes the lock as soon as nobody has it; any other run goes on by
itself, and gives the lock back when it ends. -/
def step (i worker choice : Nat) (s : SyncSystem dir) : Option (SyncSystem dir) :=
  match s.runs[i]? with
  | none => none
  | some ⟨call, .waiting, requested⟩ =>
    if s.holder.isSome then none
    else
      some
        { s with
          runs := s.runs.set i ⟨call, .entered, requested⟩
          holder := some i
          entered := i :: s.entered }
  | some ⟨call, phase, requested⟩ =>
    (phase.step call.request worker choice ⟨s.files, s.now, requested⟩).map fun t =>
      { s with
        files := t.1.files
        runs := s.runs.set i ⟨call, t.2, t.1.requested⟩
        holder := if t.2.hasEnded then none else s.holder }

/-- Let time pass. -/
def wait (seconds : Nat) (s : SyncSystem dir) : SyncSystem dir :=
  { s with now := s.now + seconds }

/-- A step of some run, or the passage of time. -/
def Step (lapse : Lapse) (s t : SyncSystem dir) : Prop :=
  (∃ i worker choice, s.step i worker choice = some t) ∨
    ∃ seconds : Nat, lapse s.files s.now (s.now + seconds) ∧ s.wait seconds = t

/-- The runs that have taken the lock, in the order in which they took it. -/
def inOrder (s : SyncSystem dir) : List (SyncRun dir) :=
  s.entered.reverse.filterMap fun i => s.runs[i]?

/-- The downloads that are in flight, with the runs to which they belong. -/
def inFlight (s : SyncSystem dir) : List (Nat × DownloadJob) :=
  s.runs.zipIdx.flatMap fun e => e.1.phase.inFlight.map fun job => (e.2, job)

/-- All runs have ended. -/
def hasEnded (s : SyncSystem dir) : Bool :=
  s.runs.all fun run => run.phase.hasEnded

end SyncSystem

/-! ## A single run -/

/-- What a run leaves behind. -/
structure SyncOutcome where
  result : Except SyncError SyncReport
  files : Folder
  /-- The addresses that were requested, in order. -/
  requested : List String

namespace Synchronizer

/-- The downloads that a run has to do. -/
def jobs (y : Synchronizer) (request : SyncRequest) (files : Folder) (now : Time) :
    List DownloadJob :=
  (request.tags.filter (y.needs request files now)).map (y.job request.source)

/-- How much of a body is written at a time when nothing disturbs. -/
def wholePiece : Nat := 1048576

/-- A run from beginning to end, in which the workers take turns. -/
def run (y : Synchronizer) (request : SyncRequest) (now : Time) (files : Folder) : SyncOutcome :=
  if request.tags.isEmpty then ⟨.ok (request.report []), files, []⟩
  else
    match files.createFolders y.dir with
    | (files, .error e) => ⟨.error (.folder e), files, []⟩
    | (files, .ok _) =>
      let jobs := y.jobs request files now
      let (s, pool) :=
        Pool.complete wholePiece ({ files := files, now := now }, Pool.start y.handler width jobs)
      ⟨.ok (request.report pool.results), s.files, s.requested.reverse⟩

/-- The rule-sets in the folder. -/
def available (y : Synchronizer) (files : Folder) : List String :=
  Artifact.available files y.dir

end Synchronizer
end ProxyConfig
