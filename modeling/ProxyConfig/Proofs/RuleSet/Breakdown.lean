import Mathlib.Data.List.Pairwise
import ProxyConfig.Proofs.Pool.Crash
import ProxyConfig.Proofs.RuleSet.Fate
import ProxyConfig.Proofs.RuleSet.Schedule

/-!
# Downloads that break down

When fetching a rule-set breaks down, the worker of the download ends, and the report lists none of
the rule-sets that this worker had dealt with before.  The other workers go on; as long as one of
them is left, every rule-set that is needed is requested.

Main results:

- `told_of_logged`: results are results of their own rule-sets, and a download crashes exactly if its
  fetch breaks down.
- `SyncAccount.of_downloads`: what a report lists, told by the log of the downloads.
- `crash_costs_worker`: what a crash costs, in any pool and in a synchronization.
-/

namespace ProxyConfig

open Files Pool

/-- Fetching has broken down. -/
def Fetched.isCrash : Fetched → Bool
  | .crashed => true
  | _ => false

namespace Download

variable {fetch : Fetcher} {room : Room} {job : DownloadJob} {stage : DownloadStage} {choice : Nat}
  {s t : SyncState}

/-- A download that stores a content has got an answer. -/
def Answered (fetch : Fetcher) (job : DownloadJob) : DownloadStage → Prop
  | .storing _ _ => (fetch job.url).isCrash = false
  | .waiting | .inFlight => True

/-- A step of a download goes on with it, returns a result of its rule-set, or crashes because
fetching the rule-set breaks down. -/
theorem ends_of_advance {next : JobStep (DownloadJob × DownloadStage) DownloadResult}
    (hanswered : Answered fetch job stage)
    (hstep : advance fetch room choice (job, stage) s = (t, next)) :
    (∃ stage', next = .running (job, stage') ∧ Answered fetch job stage') ∨
      (∃ outcome, next = .returned (job.tag, outcome) ∧ (fetch job.url).isCrash = false) ∨
      (next = .crashed ∧ (fetch job.url).isCrash = true) := by
  cases stage with
  | waiting =>
    cases hstep
    exact Or.inl ⟨_, rfl, trivial⟩
  | inFlight =>
    cases hstep
    cases hfetch : fetch job.url with
    | body content =>
      have hbody : (fetch job.url).isCrash = false := by rw [hfetch]; rfl
      cases content with
      | nil => exact Or.inr (Or.inl ⟨_, rfl, rfl⟩)
      | cons byte rest => exact Or.inl ⟨_, rfl, hbody⟩
    | failed failure => exact Or.inr (Or.inl ⟨_, rfl, rfl⟩)
    | crashed => exact Or.inr (Or.inr ⟨rfl, rfl⟩)
  | storing content write =>
    simp only [advance] at hstep
    split at hstep <;> cases hstep
    · exact Or.inl ⟨_, rfl, hanswered⟩
    · exact Or.inr (Or.inl ⟨_, rfl, hanswered⟩)

/-- What an event of a download tells of it. -/
def Told (fetch : Fetcher) : Event DownloadJob DownloadResult → Prop
  | .handed _ _ => True
  | .returned _ job result => result.1 = job.tag ∧ (fetch job.url).isCrash = false
  | .crashed _ job => (fetch job.url).isCrash = true

/-- What the end of a step tells of a download. -/
theorem told_ofJobStep {i : Nat} {next : JobStep (DownloadJob × DownloadStage) DownloadResult}
    (hanswered : Answered fetch job stage)
    (hstep : advance fetch room choice (job, stage) s = (t, next)) :
    ∀ e ∈ Event.ofJobStep i job next, Told fetch e := by
  intro e he
  rcases ends_of_advance hanswered hstep with ⟨_, rfl, _⟩ | ⟨outcome, rfl, hanswer⟩ |
    ⟨rfl, hcrash⟩
  · cases he
  · rw [List.mem_singleton.1 he]
    exact ⟨rfl, hanswer⟩
  · rw [List.mem_singleton.1 he]
    exact hcrash

/-- What the log of downloads tells of them. -/
theorem told_of_logged {width : Nat} {jobs : List DownloadJob}
    {log : List (Event DownloadJob DownloadResult)} {u : SyncState × Pool (handler fetch room)}
    (hlogged : Logged (s, Pool.start (handler fetch room) width jobs) log u) :
    ∀ e ∈ log, Told fetch e := by
  let owns : DownloadJob → (handler fetch room).State → Prop :=
    fun job state => state.1 = job ∧ Answered fetch job state.2
  refine (forall_of_logged owns (Told fetch) (fun _ => ⟨rfl, trivial⟩) (fun _ _ => trivial) ?_ ?_
    hlogged).2
  · rintro choice job ⟨_, stage⟩ s t state' ⟨rfl, hanswered⟩ hadvance
    rcases ends_of_advance hanswered hadvance with ⟨stage', hnext, hanswered'⟩ |
      ⟨_, hnext, _⟩ | ⟨hnext, _⟩ <;> cases hnext
    exact ⟨rfl, hanswered'⟩
  · rintro choice job ⟨_, stage⟩ s t next ⟨rfl, hanswered⟩ hadvance i
    exact told_ofJobStep hanswered hadvance

end Download

/-! ## Reports -/

variable {y : Synchronizer} {request : SyncRequest} {files made : Folder} {now : Time}
  {s : SyncState} {pool : Pool y.handler} {log : List (Event DownloadJob DownloadResult)}

/-- What the log of the downloads of a run tells about its report. -/
structure SyncAccount (y : Synchronizer) (request : SyncRequest) (made : Folder) (now : Time)
    (log : List (Event DownloadJob DownloadResult)) (report : SyncReport) : Prop where
  /-- A rule-set is listed if its download came to an end and the worker was not lost later. -/
  listed_iff : ∀ tag, tag ∈ report.downloaded ∨ tag ∈ report.missing ↔
    ∃ i result, Event.returned i (y.job request.source tag) result ∈ log ∧ i ∉ crashedWorkers log
  /-- All rule-sets that can be fetched are listed exactly if no worker is lost that had completed a
  download, and the download of each of them was begun. -/
  complete_iff : request.tags.Nodup →
    ((∀ tag ∈ y.attempted request made now, (y.fetch (request.source.url tag)).isCrash = false →
        tag ∈ report.downloaded ∨ tag ∈ report.missing) ↔
      (∀ i ∈ crashedWorkers log, returnsOf log i = []) ∧
        ∀ tag ∈ y.attempted request made now, (y.fetch (request.source.url tag)).isCrash = false →
          y.job request.source tag ∈ handedJobs log)
  /-- Only a fetch that breaks down costs a worker. -/
  crashed_isCrash : ∀ i job, Event.crashed i job ∈ log → (y.fetch job.url).isCrash = true
  /-- Every rule-set that is needed is dealt with, as long as there are more workers than fetches
  that break down. -/
  handedJobs_eq : ((y.attempted request made now).filter fun tag =>
      (y.fetch (request.source.url tag)).isCrash).length <
        min Synchronizer.width (y.attempted request made now).length →
    handedJobs log = y.jobs request made now

/-- A rule-set is listed exactly when there is a result for it. -/
theorem listed_iff_exists_result {results : List DownloadResult} {tag : RuleSetTag} :
    tag ∈ (request.report results).downloaded ∨ tag ∈ (request.report results).missing ↔
      ∃ outcome, (tag, outcome) ∈ results := by
  unfold SyncRequest.report
  rw [SyncReport.mem_downloaded_iff, SyncReport.mem_missing_iff]
  constructor
  · rintro (hok | ⟨reason, herror⟩)
    · exact ⟨_, hok⟩
    · exact ⟨_, herror⟩
  · rintro ⟨outcome, hmem⟩
    cases outcome with
    | ok u => exact Or.inl hmem
    | error reason => exact Or.inr ⟨reason, hmem⟩

section Downloads

variable {n : Nat} (hsettled : Settled (y.jobs request made now) n log pool)
  (htold : ∀ e ∈ log, Download.Told y.fetch e)

include hsettled

/-- A download that has ended is the one of a rule-set that was needed. -/
theorem exists_attempted_of_ended {job : DownloadJob} (hended : job ∈ endedJobs log) :
    ∃ tag ∈ y.attempted request made now, job = y.job request.source tag := by
  have hhanded : job ∈ handedJobs log := hsettled.ended_perm.mem_iff.1 hended
  have hmem : job ∈ y.jobs request made now := by
    rw [← hsettled.handed_append]
    exact List.mem_append_left _ hhanded
  obtain ⟨tag, htag, rfl⟩ := List.mem_map.1 hmem
  exact ⟨tag, htag, rfl⟩

/-- The download of a rule-set ends at most once. -/
theorem eq_of_ended (hnodup : request.tags.Nodup) {job : DownloadJob}
    {a b : Event DownloadJob DownloadResult} (ha : a ∈ log) (hb : b ∈ log)
    (hajob : a.endedJob? = some job) (hbjob : b.endedJob? = some job) : a = b := by
  have hjobs : (y.jobs request made now).Nodup :=
    (hnodup.filter _).map fun _ _ heq => congrArg DownloadJob.tag heq
  rw [← hsettled.handed_append] at hjobs
  have hended : (endedJobs log).Nodup :=
    hsettled.ended_perm.nodup_iff.2 (List.nodup_append.1 hjobs).1
  by_contra hne
  have hpairs := List.pairwise_filterMap.1 hended
  have hsymm : Std.Symm fun a b : Event DownloadJob DownloadResult =>
      ∀ c, a.endedJob? = some c → ∀ d, b.endedJob? = some d → c ≠ d :=
    ⟨fun _ _ hab d hd c hc => (hab c hc d hd).symm⟩
  exact hpairs.forall ha hb hne job hajob job hbjob rfl

include htold

/-- What is listed is what was returned by workers that were not lost. -/
theorem listed_iff_returned {tag : RuleSetTag} :
    tag ∈ (request.report pool.results).downloaded ∨ tag ∈ (request.report pool.results).missing ↔
      ∃ i result, Event.returned i (y.job request.source tag) result ∈ log ∧
        i ∉ crashedWorkers log := by
  rw [listed_iff_exists_result]
  constructor
  · rintro ⟨outcome, hmem⟩
    obtain ⟨i, job, he, hcrashed⟩ := hsettled.mem_results_iff.1 hmem
    have htag : tag = job.tag := (htold _ he).1
    obtain ⟨other, _, rfl⟩ :=
      exists_attempted_of_ended hsettled (List.mem_filterMap.2 ⟨_, he, rfl⟩)
    rw [htag]
    exact ⟨i, _, he, hcrashed⟩
  · rintro ⟨i, ⟨tag', outcome⟩, he, hcrashed⟩
    have htag : tag' = tag := (htold _ he).1
    subst htag
    exact ⟨outcome, hsettled.mem_results_iff.2 ⟨i, _, he, hcrashed⟩⟩

/-- A rule-set that can be fetched is listed if its download was begun and no worker is lost that had
completed a download. -/
theorem listed_of_handed (hreturns : ∀ i ∈ crashedWorkers log, returnsOf log i = [])
    {tag : RuleSetTag} (hfetch : (y.fetch (request.source.url tag)).isCrash = false)
    (hhanded : y.job request.source tag ∈ handedJobs log) :
    tag ∈ (request.report pool.results).downloaded ∨
      tag ∈ (request.report pool.results).missing := by
  obtain ⟨e, he, hjob⟩ := List.mem_filterMap.1 (hsettled.ended_perm.mem_iff.2 hhanded)
  cases e with
  | handed => cases hjob
  | returned i job result =>
    cases hjob
    refine (listed_iff_returned hsettled htold).2 ⟨i, result, he, ?_⟩
    intro hcrashed
    have hmem := mem_returnsOf.2 ⟨_, he⟩
    rw [hreturns i hcrashed] at hmem
    cases hmem
  | crashed i job =>
    cases hjob
    have hcrash : (y.fetch (request.source.url tag)).isCrash = true := htold _ he
    rw [hfetch] at hcrash
    cases hcrash

/-- If all rule-sets that can be fetched are listed, no worker is lost that had completed a download. -/
theorem returnsOf_eq_nil_of_listed (hnodup : request.tags.Nodup)
    (hlisted : ∀ tag ∈ y.attempted request made now,
      (y.fetch (request.source.url tag)).isCrash = false →
        tag ∈ (request.report pool.results).downloaded ∨
          tag ∈ (request.report pool.results).missing)
    {i : Nat} (hcrashed : i ∈ crashedWorkers log) : returnsOf log i = [] := by
  rw [List.eq_nil_iff_forall_not_mem]
  intro result hresult
  obtain ⟨job, he⟩ := mem_returnsOf.1 hresult
  obtain ⟨tag, htag, rfl⟩ :=
    exists_attempted_of_ended hsettled (List.mem_filterMap.2 ⟨_, he, rfl⟩)
  have hfetch : (y.fetch (request.source.url tag)).isCrash = false := (htold _ he).2
  obtain ⟨j, result', he', hnot⟩ :=
    (listed_iff_returned hsettled htold).1 (hlisted tag htag hfetch)
  cases eq_of_ended hsettled hnodup he he' rfl rfl
  exact hnot hcrashed

end Downloads

/-- The log of the downloads accounts for what the report lists. -/
theorem SyncAccount.of_downloads
    (hlogged : Logged (⟨made, now, []⟩,
      Pool.start y.handler Synchronizer.width (y.jobs request made now)) log (s, pool))
    (hended : pool.hasEnded = true) :
    SyncAccount y request made now log (request.report pool.results) := by
  have hsettled := settled_of_hasEnded hlogged hended
  have htold := Download.told_of_logged hlogged
  refine ⟨fun tag => listed_iff_returned hsettled htold, ?_, fun i job he => htold _ he, ?_⟩
  · intro hnodup
    constructor
    · intro hlisted
      refine ⟨fun i hi => returnsOf_eq_nil_of_listed hsettled htold hnodup hlisted hi, ?_⟩
      intro tag htag hfetch
      obtain ⟨i, result, he, _⟩ := (listed_iff_returned hsettled htold).1 (hlisted tag htag hfetch)
      exact hsettled.ended_perm.mem_iff.1 (List.mem_filterMap.2 ⟨_, he, rfl⟩)
    · rintro ⟨hreturns, hhanded⟩ tag htag hfetch
      exact listed_of_handed hsettled htold hreturns hfetch (hhanded tag htag hfetch)
  · intro hfew
    refine hsettled.handedJobs_eq (fun job => (y.fetch job.url).isCrash)
      (fun i job he => htold _ he) ?_
    have hfilter : (y.jobs request made now).filter (fun job => (y.fetch job.url).isCrash) =
        ((y.attempted request made now).filter fun tag =>
          (y.fetch (request.source.url tag)).isCrash).map (y.job request.source) := by
      unfold Synchronizer.jobs Synchronizer.attempted
      rw [List.filter_map]
      rfl
    rw [hfilter, List.length_map]
    simpa [Synchronizer.jobs, Synchronizer.attempted, effectiveWidth, Synchronizer.width] using hfew

/-- What a crash costs.

Consider any pool, any jobs and any order of the steps, in which all workers have ended.  There is a
log of the run, and any log of it tells the same: the jobs are handed out in order, each at most once;
every job that is handed out ends once; each crash ends another worker; the pool returns exactly what
was returned by the jobs of workers that did not crash; and as long as a worker is left every job is
handed out.  So a crash costs no more than its own result exactly if no job is left in the queue and no
worker that crashes has a result already.

When a synchronization ends with a report, this holds for its downloads.  The report lists exactly the
rule-sets whose downloads were completed by workers that did not crash, and only a fetch that breaks
down makes a worker crash.  With fewer of these than workers, every rule-set that is needed is dealt
with.  All that can be fetched are listed exactly if none of them is left and no worker that crashes has
completed a download. -/
theorem crash_costs_worker {Shared Job Result : Type} {h : Handler Shared Job Result} {width : Nat}
    {jobs : List Job} {shared final : Shared} {p : Pool h}
    (hrun : Relation.ReflTransGen Pool.Step (shared, Pool.start h width jobs) (final, p))
    (hended : p.hasEnded = true) :
    ((∃ log, Logged (shared, Pool.start h width jobs) log (final, p)) ∧
      ∀ log, Logged (shared, Pool.start h width jobs) log (final, p) →
        Settled jobs (min (effectiveWidth width) jobs.length) log p ∧
        (handedJobs log = jobs ↔ p.queue = []) ∧
        (p.results.Perm (returns log) ↔ ∀ i ∈ crashedWorkers log, returnsOf log i = [])) ∧
    ∀ (y : Synchronizer) (request : SyncRequest) (now : Time) (files : Folder)
      (sync : SyncOutcome) (report : SyncReport),
      y.CanEnd request now files sync → sync.result = .ok report →
        ∃ made s pool log, y.prepare request files = (made, .ok ()) ∧ sync.files = s.files ∧
          Logged (⟨made, now, []⟩,
            Pool.start y.handler Synchronizer.width (y.jobs request made now)) log (s, pool) ∧
          Settled (y.jobs request made now)
            (min Synchronizer.width (y.attempted request made now).length) log pool ∧
          report = request.report pool.results ∧ SyncAccount y request made now log report := by
  refine ⟨⟨exists_logged hrun, ?_⟩, ?_⟩
  · intro log hlogged
    have hsettled := settled_of_hasEnded hlogged hended
    exact ⟨hsettled, hsettled.handedJobs_eq_iff, hsettled.results_perm_iff⟩
  · intro y request now files sync report hend hreport
    obtain ⟨s, hrun, hfiles, _⟩ := hend
    rw [hreport] at hrun
    obtain ⟨made, pool, hprepare, hdownloads, hended, rfl⟩ := SyncPhase.follows_run hrun
    obtain ⟨log, hlogged⟩ := exists_logged hdownloads
    have hsettled := settled_of_hasEnded hlogged hended
    have hlength : (y.jobs request made now).length = (y.attempted request made now).length :=
      List.length_map _
    rw [hlength] at hsettled
    exact ⟨made, s, pool, log, hprepare, hfiles, hlogged, hsettled, rfl,
      SyncAccount.of_downloads hlogged hended⟩

/-- A synchronizer for which fetching one rule-set breaks down, and all others can be fetched. -/
def crashingSynchronizer (dir : String) : Synchronizer where
  dir := dir
  fetch url := if url = "r/geosite-b.srs" then .crashed else .body [7]

/-- In the pool of the sample a worker goes on after the other one has crashed.  In the
synchronization of the sample the workers take turns, and the rule-set is listed that can be fetched. -/
theorem crash_costs_worker_sample :
    (∃ log final, Relation.ReflTransGen Pool.Step
        ((), Pool.start doubling 2 [some 1, none, some 3]) ((), final) ∧ final.hasEnded = true ∧
      final.results = [2, 6] ∧ Settled [some 1, none, some 3] 2 log final) ∧
    ∃ sync report, (crashingSynchronizer "d").CanEnd (sampleRequest ["a", "b"]) 5 [] sync ∧
      sync.result = .ok report ∧ report.downloaded = [⟨.geosite, "a"⟩] ∧ report.missing = [] ∧
      ∃ made log, SyncAccount (crashingSynchronizer "d") (sampleRequest ["a", "b"]) made 5 log
        report := by
  have hrun := (Pool.complete_spec 0 ((), Pool.start doubling 2 [some 1, none, some 3])).1
  have hended : (Pool.complete 0 ((), Pool.start doubling 2 [some 1, none, some 3])).2.hasEnded =
      true := rfl
  obtain ⟨⟨⟨log, hlogged⟩, htold⟩, hsynchronizations⟩ := crash_costs_worker hrun hended
  refine ⟨⟨log, _, hrun, hended, rfl, (htold log hlogged).1⟩, ?_⟩
  have hend := (crashingSynchronizer "d").canEnd_run (sampleRequest ["a", "b"]) 5 []
  obtain ⟨made, _, _, log, _, _, _, _, _, haccount⟩ := hsynchronizations _ _ _ _ _ _ hend rfl
  exact ⟨_, _, hend, rfl, rfl, rfl, made, log, haccount⟩

/-- One worker downloads a rule-set and then breaks down over another one. -/
theorem along_crashing :
    SyncPhase.along (sampleRequest ["a", "b"]) (List.replicate 14 (0, 0) ++ [(1, 0), (0, 0)])
      (⟨[], 5, []⟩, .entered (y := crashingSynchronizer "d")) =
    some
      (⟨[("d", .folder [("geosite-a.srs", .file [7] 5)])], 5,
        ["r/geosite-b.srs", "r/geosite-a.srs"]⟩,
      .ended (.ok { checked := 2 })) := rfl

/-- A crash can cost more than its own result.  A pool with one worker returns nothing although two
jobs have returned, and it leaves a job to nobody.  In a synchronization of two rule-sets, one of
which breaks down, the other one is downloaded and yet not listed, and the report calls itself
complete. -/
theorem crash_loses_earlier_results :
    (∃ log p, Logged ((), Pool.start doubling 1 [some 1, some 2, none, some 4]) log ((), p) ∧
      p.hasEnded = true ∧ crashedJobs log = [none] ∧ returnsOf log 0 = [2, 4] ∧ p.results = [] ∧
      handedJobs log = [some 1, some 2, none] ∧ p.queue = [some 4]) ∧
    ∃ sync report, (crashingSynchronizer "d").CanEnd (sampleRequest ["a", "b"]) 5 [] sync ∧
      sync.requested = ["r/geosite-a.srs", "r/geosite-b.srs"] ∧
      ((crashingSynchronizer "d").fetch "r/geosite-a.srs").isCrash = false ∧
      Artifact.isFresh sync.files 5 (RuleSetTag.localPath ⟨.geosite, "a"⟩ "d") = true ∧
      sync.result = .ok report ∧ report.downloaded = [] ∧ report.missing = [] ∧
      report.isComplete = true := by
  refine ⟨?_, ?_⟩
  · have hlogged := logged_of_along .start along_doubling
    exact ⟨_, _, hlogged, rfl, rfl, rfl, rfl, rfl, rfl⟩
  · have hrun := SyncPhase.reaches_of_along along_crashing
    exact ⟨⟨.ok { checked := 2 }, _, _⟩, _, ⟨_, hrun, rfl, rfl⟩, rfl, rfl, rfl, rfl, rfl, rfl, rfl⟩

end ProxyConfig
