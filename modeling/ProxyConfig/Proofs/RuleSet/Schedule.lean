import ProxyConfig.Proofs.Pool.Turns
import ProxyConfig.Proofs.RuleSet.Solo

/-!
# The ends of a run

A run can end in many ways, since its workers may take their steps in any order.  The run in which they
take turns is one of them.  Every end is either a report, and then the folder could be made and a report
without failures means that all rule-sets are fresh; or the error of a folder that could not be made, and
then nothing has happened.

Main results:

- `Synchronizer.canEnd_run`: the run in which the workers take turns is one of the possible runs.
- `CanEnd.cases`: how a run can end.
- `CanEnd.fresh`: after a report without failures all rule-sets are fresh.
-/

namespace ProxyConfig

open Files

/-- A run can end like this, for some order of the steps of its workers. -/
def Synchronizer.CanEnd (y : Synchronizer) (request : SyncRequest) (now : Time) (files : Folder)
    (sync : SyncOutcome) : Prop :=
  ∃ s, Relation.ReflTransGen (SyncPhase.Step request) (⟨files, now, []⟩, .entered (y := y))
      (s, .ended sync.result) ∧
    sync.files = s.files ∧ sync.requested = s.requested.reverse

variable {y : Synchronizer} {request : SyncRequest} {now : Time} {files : Folder} {s : SyncState}

/-! ## Turns -/

namespace SyncPhase

/-- No time passes in a run by itself. -/
theorem now_of_run {a b : SyncState × SyncPhase y}
    (hrun : Relation.ReflTransGen (Step request) a b) : b.1.now = a.1.now := by
  induction hrun with
  | refl => rfl
  | tail _ hstep ih =>
    obtain ⟨worker, choice, hstep⟩ := hstep
    exact (advances_of_step hstep).now_eq.trans ih

/-- A run looks at all rule-sets that are left. -/
theorem reaches_checking (left : List RuleSetTag) (jobs : List DownloadJob) :
    Relation.ReflTransGen (Step request) (s, .checking (y := y) left jobs)
      (s, .checking [] (((left.filter (y.needs request s.files s.now)).map
        (y.job request.source)).reverse ++ jobs)) := by
  induction left generalizing jobs with
  | nil => exact .refl
  | cons tag left ih =>
    by_cases hneeds : y.needs request s.files s.now tag = true
    · have hstep : Step request (s, .checking (y := y) (tag :: left) jobs)
          (s, .checking left (y.job request.source tag :: jobs)) := ⟨0, 0, by simp [step, hneeds]⟩
      simpa [List.filter_cons, hneeds] using (ih (y.job request.source tag :: jobs)).head hstep
    · have hstep : Step request (s, .checking (y := y) (tag :: left) jobs)
          (s, .checking left jobs) := ⟨0, 0, by simp [step, hneeds]⟩
      simpa [List.filter_cons, hneeds] using (ih jobs).head hstep

/-- The steps of its pool are steps of a run. -/
theorem reaches_downloading {a b : SyncState × Pool y.handler}
    (hrun : Relation.ReflTransGen Pool.Step a b) :
    Relation.ReflTransGen (Step request) (a.1, .downloading a.2) (b.1, .downloading b.2) := by
  refine hrun.lift (fun c => (c.1, SyncPhase.downloading c.2)) ?_
  rintro ⟨s, p⟩ ⟨t, q⟩ ⟨i, choice, hstep⟩
  have hactive : p.hasEnded = false := Pool.hasEnded_of_step hstep
  exact ⟨i, choice, by simp [step, hactive, hstep]⟩

/-- A run whose pool can come to its end can end with what the pool has done. -/
theorem reaches_ended_of_jobs {jobs : List DownloadJob} {pool : Pool y.handler} {t : SyncState}
    (hjobs : jobs ≠ [])
    (hrun : Relation.ReflTransGen Pool.Step
      (s, Pool.start y.handler Synchronizer.width jobs.reverse) (t, pool))
    (hended : pool.hasEnded = true) :
    Relation.ReflTransGen (Step request) (s, .checking (y := y) [] jobs)
      (t, .ended (.ok (request.report pool.results))) := by
  have hfirst : Step request (s, .checking (y := y) [] jobs)
      (s, .downloading (Pool.start y.handler Synchronizer.width jobs.reverse)) :=
    ⟨0, 0, by simp [step, hjobs]⟩
  have hlast : Step request (t, .downloading pool)
      (t, .ended (.ok (request.report pool.results))) := ⟨0, 0, by simp [step, hended]⟩
  exact .head hfirst ((reaches_downloading hrun).tail hlast)

end SyncPhase

namespace Synchronizer

/-- The run in which the workers take turns is one of the possible runs. -/
theorem canEnd_run (y : Synchronizer) (request : SyncRequest) (now : Time) (files : Folder) :
    y.CanEnd request now files (y.run request now files) := by
  by_cases htags : request.tags = []
  · have hrun : y.run request now files = ⟨.ok (request.report []), files, []⟩ := by
      simp [run, htags]
    rw [hrun]
    exact ⟨⟨files, now, []⟩, .single ⟨0, 0, by simp [SyncPhase.step, htags]⟩, rfl, rfl⟩
  obtain ⟨⟨made, result⟩, hcreate⟩ : ∃ prepared, files.createFolders y.dir = prepared := ⟨_, rfl⟩
  cases result with
  | error e =>
    have hrun : y.run request now files = ⟨.error (.folder e), made, []⟩ := by
      simp [run, htags, hcreate]
    rw [hrun]
    exact ⟨⟨made, now, []⟩, .single ⟨0, 0, by simp [SyncPhase.step, htags, hcreate]⟩, rfl, rfl⟩
  | ok u =>
    have hfirst : SyncPhase.Step request (⟨files, now, []⟩, .entered (y := y))
        (⟨made, now, []⟩, .checking request.tags []) :=
      ⟨0, 0, by simp [SyncPhase.step, htags, hcreate]⟩
    have hchecked : Relation.ReflTransGen (SyncPhase.Step request)
        (⟨made, now, []⟩, .checking (y := y) request.tags [])
        (⟨made, now, []⟩, .checking [] ((y.jobs request made now).reverse ++ [])) :=
      SyncPhase.reaches_checking request.tags []
    rw [List.append_nil] at hchecked
    have hbefore := hchecked.head hfirst
    by_cases hjobs : y.jobs request made now = []
    · have hrun : y.run request now files = ⟨.ok (request.report []), made, []⟩ := by
        simp only [run, List.isEmpty_iff, htags, if_false, hcreate, hjobs]
        rfl
      rw [hrun]
      rw [hjobs] at hbefore
      exact ⟨⟨made, now, []⟩, hbefore.tail ⟨0, 0, by simp [SyncPhase.step]⟩, rfl, rfl⟩
    · obtain ⟨⟨t, pool⟩, hfinal⟩ : ∃ final, Pool.complete wholePiece
          (⟨made, now, []⟩, Pool.start y.handler width (y.jobs request made now)) = final :=
        ⟨_, rfl⟩
      have hrun : y.run request now files =
          ⟨.ok (request.report pool.results), t.files, t.requested.reverse⟩ := by
        simp [run, htags, hcreate, hfinal]
      obtain ⟨hpool, hended⟩ := Pool.complete_spec wholePiece
          ((⟨made, now, []⟩, Pool.start y.handler width (y.jobs request made now)) :
            SyncState × Pool y.handler)
      rw [hfinal] at hpool hended
      rw [hrun]
      refine ⟨t, hbefore.trans (SyncPhase.reaches_ended_of_jobs (by simpa using hjobs) ?_ hended),
        rfl, rfl⟩
      rw [List.reverse_reverse]
      exact hpool

/-! ## Ends -/

/-- A run ends with a report if its folder can be made; otherwise it ends with the error, and nothing
else has happened. -/
theorem CanEnd.cases {sync : SyncOutcome} (h : y.CanEnd request now files sync) :
    (∃ made report, y.prepare request files = (made, .ok ()) ∧ sync.result = .ok report) ∨
      ∃ made error, y.prepare request files = (made, .error error) ∧
        sync = ⟨.error (.folder error), made, []⟩ := by
  obtain ⟨result, after, requested⟩ := sync
  obtain ⟨s, hrun, hfiles, hrequested⟩ := h
  cases result with
  | ok report =>
    obtain ⟨made, _, hprepare, _⟩ := SyncPhase.follows_run hrun
    exact Or.inl ⟨made, report, hprepare, rfl⟩
  | error e =>
    -- only a run that has just taken the lock ends with an error
    rcases hrun.cases_tail with heq | ⟨⟨t, phase⟩, hbefore, worker, choice, hstep⟩
    · cases heq
    · have hfollows := SyncPhase.follows_run hbefore
      cases SyncPhase.advances_of_step hstep with
      | @blocked made error htags hcreate =>
        have hstart : t = ⟨files, now, []⟩ := hfollows
        subst hstart
        refine Or.inr ⟨made, error, ?_, ?_⟩
        · rw [prepare, if_neg (by simpa using htags)]
          exact hcreate
        · have hfiles' : after = made := hfiles
          have hrequested' : requested = [] := hrequested
          rw [hfiles', hrequested']

/-- After a report without failures all rule-sets are fresh. -/
theorem CanEnd.fresh {sync : SyncOutcome} (h : y.CanEnd request now files sync)
    (hforced : request.isForced = false) (hnodup : request.tags.Nodup)
    (hanswers : ∀ url, y.fetch url ≠ .crashed) {report : SyncReport}
    (hreport : sync.result = .ok report) (hcomplete : report.failures = []) :
    ∀ tag ∈ request.tags, Artifact.isFresh sync.files now (tag.localPath y.dir) = true := by
  obtain ⟨s, hrun, hfiles, _⟩ := h
  rw [hreport] at hrun
  have hproceeds : Relation.ReflTransGen (SyncPhase.Proceeds (fun _ _ _ => False) request)
      (⟨files, now, []⟩, .entered (y := y)) (s, .ended (.ok report)) :=
    Relation.ReflTransGen.mono (fun _ _ => Or.inl) _ _ hrun
  have hstays : SyncPhase.Stays (fun _ => True) (fun _ => False) request s
      (.ended (y := y) (.ok report)) :=
    SyncPhase.stays_run hforced hnodup hanswers (by simp) (by simp) (by simp) hproceeds
      ⟨rfl, by simp [SyncPhase.KeepsFresh]⟩
  have hnow : s.now = now := SyncPhase.now_of_run hrun
  intro tag htag
  rw [hfiles, ← hnow]
  exact hstays.2.2 hcomplete tag (Or.inr htag)

end Synchronizer
end ProxyConfig
