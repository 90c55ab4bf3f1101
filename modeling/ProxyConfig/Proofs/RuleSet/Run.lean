import ProxyConfig.Proofs.Files.NewFolders
import ProxyConfig.Proofs.RuleSet.Place

/-!
# A run from its first step to its end

A run makes its folder, finds out which rule-sets it needs, and lets a pool download them.  What a
run has done when it ends is what its pool has done, in whatever order the workers took their steps.

Main results:

- `SyncPhase.follows_run`: what is known at every phase of a run.
- `SyncPhase.ended_spec`: the results of the downloads when a run ends with a report.
-/

namespace ProxyConfig

open Files Files.Folder

namespace Synchronizer

variable (y : Synchronizer)

/-- The tree in which a run looks at the rule-sets, unless its folder cannot be made.  A run without
rule-sets makes no folder. -/
def prepare (request : SyncRequest) (files : Folder) : Folder × Except FileError Unit :=
  if request.tags.isEmpty then (files, .ok ()) else files.createFolders y.dir

/-- The rule-sets that a run downloads. -/
def attempted (request : SyncRequest) (made : Folder) (now : Time) : List RuleSetTag :=
  request.tags.filter (y.needs request made now)

/-- The pool of a run can come to this point. -/
def Downloads (request : SyncRequest) (made : Folder) (now : Time) (s : SyncState)
    (pool : Pool y.handler) : Prop :=
  Relation.ReflTransGen Pool.Step
    (⟨made, now, []⟩, Pool.start y.handler width (y.jobs request made now)) (s, pool)

end Synchronizer

namespace SyncPhase

variable {y : Synchronizer}

/-- A step of a run that has the lock, by some worker. -/
def Step (request : SyncRequest) (a b : SyncState × SyncPhase y) : Prop :=
  ∃ worker choice, a.2.step request worker choice a.1 = some b

/-- Where a run comes to when the worker and the choice of every step are prescribed. -/
def along (request : SyncRequest) :
    List (Nat × Nat) → SyncState × SyncPhase y → Option (SyncState × SyncPhase y)
  | [], a => some a
  | (worker, choice) :: rest, a => (a.2.step request worker choice a.1).bind (along request rest)

/-- A run can come to where a prescription leads. -/
theorem reaches_of_along {request : SyncRequest} {prescribed : List (Nat × Nat)}
    {a b : SyncState × SyncPhase y} (h : along request prescribed a = some b) :
    Relation.ReflTransGen (Step request) a b := by
  induction prescribed generalizing a with
  | nil =>
    cases h
    exact Relation.ReflTransGen.refl
  | cons turn rest ih =>
    obtain ⟨worker, choice⟩ := turn
    obtain ⟨next, hstep, hrest⟩ := Option.bind_eq_some_iff.1 h
    exact Relation.ReflTransGen.head ⟨worker, choice, hstep⟩ (ih hrest)

/-- What is known at a phase of a run that took the lock when these were the files. -/
def Follows (request : SyncRequest) (files : Folder) (now : Time) (s : SyncState) :
    SyncPhase y → Prop
  | .waiting => False
  | .entered => s = ⟨files, now, []⟩
  | .checking left jobs =>
    ∃ made, y.prepare request files = (made, .ok ()) ∧ s = ⟨made, now, []⟩ ∧
      ∃ looked, looked ++ left = request.tags ∧
        jobs.reverse = (looked.filter (y.needs request made now)).map (y.job request.source)
  | .downloading pool =>
    ∃ made, y.prepare request files = (made, .ok ()) ∧ y.Downloads request made now s pool
  | .ended (.ok report) =>
    ∃ made pool, y.prepare request files = (made, .ok ()) ∧ y.Downloads request made now s pool ∧
      pool.hasEnded = true ∧ report = request.report pool.results
  | .ended (.error _) => True

variable {request : SyncRequest} {files made : Folder} {now : Time} {s : SyncState}

/-- A run without downloads ends like a pool that has nothing to do. -/
theorem follows_ended_of_jobs_eq_nil (hprepare : y.prepare request files = (made, .ok ()))
    (hjobs : y.jobs request made now = []) :
    Follows request files now ⟨made, now, []⟩ (.ended (y := y) (.ok (request.report []))) := by
  refine ⟨made, Pool.start y.handler Synchronizer.width [], hprepare, ?_, rfl, rfl⟩
  unfold Synchronizer.Downloads
  rw [hjobs]

/-- A run that has the lock makes its folder. -/
theorem follows_entered {worker choice : Nat} {b : SyncState × SyncPhase y}
    (hstep : step request worker choice ⟨files, now, []⟩ (.entered (y := y)) = some b) :
    Follows request files now b.1 b.2 := by
  simp only [step] at hstep
  by_cases htags : request.tags.isEmpty = true
  · rw [if_pos htags] at hstep
    cases hstep
    refine follows_ended_of_jobs_eq_nil (if_pos htags) ?_
    simp [Synchronizer.jobs, List.isEmpty_iff.1 htags]
  · rw [if_neg htags] at hstep
    cases hcreate : files.createFolders y.dir with
    | mk made result =>
      cases result with
      | ok u =>
        simp only [hcreate] at hstep
        cases hstep
        refine ⟨made, ?_, rfl, [], rfl, rfl⟩
        rw [Synchronizer.prepare, if_neg htags]
        exact hcreate
      | error e =>
        simp only [hcreate] at hstep
        cases hstep
        exact trivial

/-- A run looks at one rule-set after another. -/
theorem follows_checking {left : List RuleSetTag} {jobs : List DownloadJob} {worker choice : Nat}
    {b : SyncState × SyncPhase y} (h : Follows request files now s (.checking (y := y) left jobs))
    (hstep : step request worker choice s (.checking (y := y) left jobs) = some b) :
    Follows request files now b.1 b.2 := by
  obtain ⟨made, hprepare, rfl, looked, hlooked, hjobs⟩ := h
  cases left with
  | nil =>
    have hall : jobs.reverse = y.jobs request made now := by
      rw [hjobs, Synchronizer.jobs, ← hlooked, List.append_nil]
    simp only [step] at hstep
    split at hstep
    · rename_i hnone
      cases hstep
      refine follows_ended_of_jobs_eq_nil hprepare ?_
      rw [← hall, List.isEmpty_iff.1 hnone]
      rfl
    · cases hstep
      refine ⟨made, hprepare, ?_⟩
      rw [hall]
      exact Relation.ReflTransGen.refl
  | cons tag left =>
    have hnext : (looked ++ [tag]) ++ left = request.tags := by
      rw [List.append_assoc, List.singleton_append]
      exact hlooked
    simp only [step] at hstep
    by_cases hneeds : y.needs request made now tag = true
    · rw [if_pos hneeds] at hstep
      cases hstep
      refine ⟨made, hprepare, rfl, looked ++ [tag], hnext, ?_⟩
      rw [List.reverse_cons, hjobs, List.filter_append, List.map_append,
        List.filter_cons_of_pos hneeds]
      rfl
    · rw [if_neg hneeds] at hstep
      cases hstep
      refine ⟨made, hprepare, rfl, looked ++ [tag], hnext, ?_⟩
      rw [hjobs, List.filter_append, List.filter_cons_of_neg hneeds, List.filter_nil,
        List.append_nil]

/-- A run lets its pool take steps until all workers have ended. -/
theorem follows_downloading {pool : Pool y.handler} {worker choice : Nat}
    {b : SyncState × SyncPhase y} (h : Follows request files now s (.downloading pool))
    (hstep : step request worker choice s (.downloading pool) = some b) :
    Follows request files now b.1 b.2 := by
  obtain ⟨made, hprepare, hrun⟩ := h
  simp only [step] at hstep
  split at hstep
  · rename_i hended
    cases hstep
    exact ⟨made, pool, hprepare, hrun, hended, rfl⟩
  · obtain ⟨⟨t, pool'⟩, hpool, heq⟩ := Option.map_eq_some_iff.1 hstep
    cases heq
    exact ⟨made, hprepare, hrun.tail ⟨worker, choice, hpool⟩⟩

/-- A step of a run leads from what is known to what is known. -/
theorem follows_step {a b : SyncState × SyncPhase y} (h : Follows request files now a.1 a.2)
    (hstep : Step request a b) : Follows request files now b.1 b.2 := by
  obtain ⟨worker, choice, hstep⟩ := hstep
  obtain ⟨s, phase⟩ := a
  cases phase with
  | waiting => exact absurd h id
  | entered =>
    change s = _ at h
    subst h
    exact follows_entered hstep
  | checking left jobs => exact follows_checking h hstep
  | downloading pool => exact follows_downloading h hstep
  | ended result => cases hstep

/-- What is known at every phase that a run can come to. -/
theorem follows_run {b : SyncState × SyncPhase y}
    (hrun : Relation.ReflTransGen (Step request) (⟨files, now, []⟩, .entered) b) :
    Follows request files now b.1 b.2 := by
  induction hrun with
  | refl => exact rfl
  | tail _ hstep ih => exact follows_step ih hstep

end SyncPhase

/-! ## Results -/

/-- What is known of the downloads of a run when all of them have ended. -/
structure Synchronizer.Settled (y : Synchronizer) (request : SyncRequest) (made : Folder)
    (now : Time) (s : SyncState) (results : List DownloadResult) : Prop where
  common : Download.Common made now (y.jobs request made now) s
  tags_perm : (results.map Prod.fst).Perm (y.attempted request made now)
  settles : ∀ tag ∈ y.attempted request made now, ∃ outcome, (tag, outcome) ∈ results ∧
    s.requested.count (request.source.url tag) = 1 ∧
      Download.Settles y.fetch y.room made now s.files (y.job request.source tag) outcome

section Results

variable {y : Synchronizer} {request : SyncRequest} {files made : Folder} {now : Time}
  {s : SyncState}

/-- Whether or not a run can make its folder, it touches no file before it looks at the rule-sets.
-/
theorem Synchronizer.sameFiles_of_prepare {result : Except FileError Unit}
    (hprepare : y.prepare request files = (made, result)) :
    FoldersWithin files made ∧ SameFiles files made := by
  unfold prepare at hprepare
  split at hprepare
  · cases hprepare
    exact ⟨FoldersWithin.refl files, SameFiles.refl files⟩
  · have hmade := createFolders_spec hprepare
    exact ⟨hmade.foldersWithin, hmade.sameFiles⟩

/-- A run that needs a rule-set can reach its folder. -/
theorem Synchronizer.exists_walk_of_prepare (hprepare : y.prepare request files = (made, .ok ()))
    (htags : request.tags ≠ []) : ∃ l, made.walk [] (Path.names y.dir) = .ok l := by
  unfold prepare at hprepare
  rw [if_neg (by simpa using htags)] at hprepare
  exact (createFolders_spec hprepare).walk rfl

/-- The downloads of a run are apart from each other. -/
theorem Synchronizer.apart_of_prepare (hnames : ∀ tag ∈ request.tags, '/' ∉ tag.name.toList)
    (hprepare : y.prepare request files = (made, .ok ())) :
    Download.Apart made (y.jobs request made now) := by
  by_cases htags : request.tags = []
  · have hnil : y.jobs request made now = [] := by
      simp [Synchronizer.jobs, htags]
    rw [hnil]
    constructor
    all_goals
      intro job hjob
      cases hjob
  · obtain ⟨l, hwalk⟩ := exists_walk_of_prepare hprepare htags
    apply apart_jobs hwalk rfl
    intro tag htag
    exact hnames tag (List.mem_filter.1 htag).1

/-- When the pool of a run has ended, every rule-set that was needed has one result. -/
theorem Synchronizer.settled_of_hasEnded (hnodup : request.tags.Nodup)
    (hnames : ∀ tag ∈ request.tags, '/' ∉ tag.name.toList) (hsafe : ∀ url, y.fetch url ≠ .crashed)
    (hprepare : y.prepare request files = (made, .ok ())) {pool : Pool y.handler}
    (hrun : y.Downloads request made now s pool) (hended : pool.hasEnded = true) :
    y.Settled request made now s pool.results := by
  have hjobs : (y.jobs request made now).Nodup := by
    refine (hnodup.filter _).map ?_
    intro a b hab
    exact congrArg DownloadJob.tag hab
  obtain ⟨hcommon, done, hperm, hresults, hdone⟩ :=
    Download.ended_spec hsafe (apart_of_prepare hnames hprepare) hjobs hrun hended
  refine ⟨hcommon, ?_, ?_⟩
  · have htags : (done.map Prod.snd).map Prod.fst = (done.map Prod.fst).map DownloadJob.tag := by
      rw [List.map_map, List.map_map]
      exact List.map_congr_left fun e he => (hdone e he).1
    have hself : (y.jobs request made now).map DownloadJob.tag = y.attempted request made now := by
      unfold jobs
      rw [List.map_map]
      exact List.map_id _
    have hfst := (hresults.map Prod.fst).trans (List.Perm.of_eq htags)
    exact hfst.trans ((hperm.map DownloadJob.tag).trans (List.Perm.of_eq hself))
  · intro tag htag
    have hjob : y.job request.source tag ∈ y.jobs request made now := List.mem_map_of_mem htag
    obtain ⟨⟨job, result⟩, he, rfl⟩ := List.mem_map.1 (hperm.mem_iff.2 hjob)
    obtain ⟨htag', hcount, hsettles⟩ := hdone _ he
    refine ⟨result.2, ?_, hcount, hsettles⟩
    have hmem : result ∈ pool.results := hresults.mem_iff.2 (List.mem_map_of_mem he)
    have heq : (tag, result.2) = result := Prod.ext htag'.symm rfl
    rw [heq]
    exact hmem

/-- When a run ends with a report, the report is about the results of its downloads. -/
theorem SyncPhase.ended_spec (hnodup : request.tags.Nodup)
    (hnames : ∀ tag ∈ request.tags, '/' ∉ tag.name.toList) (hsafe : ∀ url, y.fetch url ≠ .crashed)
    {report : SyncReport}
    (hrun : Relation.ReflTransGen (Step request) (⟨files, now, []⟩, .entered (y := y))
      (s, .ended (.ok report))) :
    ∃ made results, y.prepare request files = (made, .ok ()) ∧ report = request.report results ∧
      y.Settled request made now s results := by
  obtain ⟨made, pool, hprepare, hdownloads, hended, rfl⟩ := follows_run hrun
  exact ⟨made, pool.results, hprepare, rfl,
    Synchronizer.settled_of_hasEnded hnodup hnames hsafe hprepare hdownloads hended⟩

end Results
end ProxyConfig
