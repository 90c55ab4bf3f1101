import Mathlib.Data.List.Perm.Basic
import Mathlib.Data.List.Nodup
import Mathlib.Logic.Relation
import ProxyConfig.Pool.Basic

/-!
# Jobs that keep out of each other's way

Jobs of one pool change what they share in steps that may interleave in every way.  A discipline
assigns to every job and its progress an assertion on the shared state; the own steps of the job carry
the assertion on, and the steps of the others leave it alone.  Then it holds in every run, whatever the
order of the steps: each job is always accounted for exactly once, as waiting, with a worker, or done,
and in the end every job is done and its result is among the results of the pool.

Main results:

- `step_cases`: what a step of the pool can do.
- `Accounts.step`: a step changes the record of at most one job.
- `Discipline.of_hasEnded`: what is known when all workers have ended.
-/

namespace ProxyConfig
namespace Pool

variable {Shared Job Result : Type} {h : Handler Shared Job Result}

/-! ## Steps -/

/-- The worker after a step of its job. -/
def workerAfter (job : Job) (gathered : List Result) : JobStep h.State Result → Worker h
  | .running state => .busy job state gathered
  | .returned result => .idle (gathered ++ [result])
  | .crashed => .crashed

/-- A step lets a worker end, lets it take the next job, or goes on with its job. -/
theorem step_cases {i choice : Nat} {s t : Shared} {p q : Pool h}
    (hstep : step i choice (s, p) = some (t, q)) :
    (∃ gathered, p.workers[i]? = some (.idle gathered) ∧ p.queue = [] ∧ t = s ∧
      q = p.setWorker i (.finished gathered)) ∨
    (∃ gathered job rest, p.workers[i]? = some (.idle gathered) ∧ p.queue = job :: rest ∧ t = s ∧
      q = notePeak { p.setWorker i (.busy job (h.start job) gathered) with
        queue := rest, taken := job :: p.taken }) ∨
    ∃ job state gathered next, p.workers[i]? = some (.busy job state gathered) ∧
      h.advance choice state s = (t, next) ∧ q = p.setWorker i (workerAfter job gathered next) := by
  unfold step at hstep
  split at hstep
  · rename_i gathered hworker
    split at hstep
    · rename_i hqueue
      cases hstep
      exact Or.inl ⟨gathered, hworker, hqueue, rfl, rfl⟩
    · rename_i job rest hqueue
      cases hstep
      exact Or.inr (Or.inl ⟨gathered, job, rest, hworker, hqueue, rfl, rfl⟩)
  · rename_i job state gathered hworker
    cases hadvance : h.advance choice state s with
    | mk shared next =>
      rw [hadvance] at hstep
      refine Or.inr (Or.inr ⟨job, state, gathered, next, hworker, ?_, ?_⟩)
      · cases hstep
        exact hadvance
      · cases next <;> cases hstep <;> rfl
  · cases hstep

/-- A step replaces a worker that has not ended. -/
theorem exists_set_of_step {i choice : Nat} {s t : Shared} {p q : Pool h}
    (hstep : step i choice (s, p) = some (t, q)) :
    ∃ w w', p.workers[i]? = some w ∧ w.hasEnded = false ∧ q.workers = p.workers.set i w' := by
  rcases step_cases hstep with ⟨_, hw, _, _, rfl⟩ | ⟨_, _, _, hw, _, _, rfl⟩ |
    ⟨_, _, _, _, hw, _, rfl⟩ <;> exact ⟨_, _, hw, rfl, rfl⟩

/-! ## Accounts -/

/-- How far a job has come. -/
inductive Progress (h : Handler Shared Job Result) where
  | waiting
  | running (state : h.State)
  | returned (result : Result)

/-- The job of a worker with its progress. -/
def workerRecord? : Worker h → Option (Job × Progress h)
  | .busy job state _ => some (job, .running state)
  | _ => none

/-- What a worker has gathered so far. -/
def gatheredBy : Worker h → List Result
  | .idle gathered | .busy _ _ gathered | .finished gathered => gathered
  | .crashed => []

/-- All jobs with their progress, when these jobs have returned these results. -/
def records (p : Pool h) (done : List (Job × Result)) : List (Job × Progress h) :=
  p.queue.map (fun job => (job, .waiting)) ++ p.workers.filterMap workerRecord? ++
    done.map fun d => (d.1, .returned d.2)

/-- The books of a pool: every job has one record, and the results of the jobs that are done are
gathered by the workers. -/
structure Accounts (jobs : List Job) (p : Pool h) (done : List (Job × Result)) : Prop where
  jobs_perm : ((p.records done).map Prod.fst).Perm jobs
  results_perm : (p.workers.flatMap gatheredBy).Perm (done.map Prod.snd)
  crashed_notMem : Worker.crashed ∉ p.workers
  queue_eq_nil : ∀ gathered, Worker.finished gathered ∈ p.workers → p.queue = []
  workers_ne_nil : jobs ≠ [] → p.workers ≠ []

/-- Replacing an element of a list. -/
theorem set_eq_of_getElem? {α : Type} {l : List α} {i : Nat} {x : α} (hx : l[i]? = some x) :
    ∃ front back, l = front ++ x :: back ∧ ∀ y, l.set i y = front ++ y :: back := by
  obtain ⟨hi, rfl⟩ := List.getElem?_eq_some_iff.1 hx
  refine ⟨l.take i, l.drop (i + 1), ?_, ?_⟩
  · rw [List.getElem_cons_drop, List.take_append_drop]
  · intro y
    rw [List.set_eq_take_append_cons_drop, if_pos hi]

/-- Entries that give nothing can be left out, and the order of the others changes only the order of what
they give. -/
theorem flatMap_perm {β : Type} {f : Nat → List β} {l k : List Nat} (hl : l.Nodup) (hk : k.Nodup)
    (hsubset : k ⊆ l) (houtside : ∀ i, i ∉ k → f i = []) : (l.flatMap f).Perm (k.flatMap f) := by
  have hinside : (l.filter fun i => k.contains i).Perm k := by
    refine (List.perm_ext_iff_of_nodup (hl.filter _) hk).2 fun i => ?_
    simpa using @hsubset i
  have hnone : (l.filter fun i => !k.contains i).flatMap f = [] := by
    rw [List.flatMap_eq_nil_iff]
    intro i hi
    exact houtside i (by simpa using (List.mem_filter.1 hi).2)
  have hsplit := (List.filter_append_perm (fun i => k.contains i) l).symm.flatMap_right f
  rw [List.flatMap_append, hnone, List.append_nil] at hsplit
  exact hsplit.trans (hinside.flatMap_right f)

/-- The records of all jobs but that of one worker. -/
def recordsBeside (queue : List Job) (front back : List (Worker h)) (done : List (Job × Result)) :
    List (Job × Progress h) :=
  queue.map (fun job => (job, .waiting)) ++
    (front.filterMap workerRecord? ++ back.filterMap workerRecord?) ++
    done.map fun d => (d.1, .returned d.2)

section Records

variable {p : Pool h} {queue : List Job} {front back : List (Worker h)} {w : Worker h}
  {d : List (Job × Result)}

/-- The record of a worker among the others. -/
theorem records_perm (hqueue : p.queue = queue) (hworkers : p.workers = front ++ w :: back) :
    (p.records d).Perm ((workerRecord? w).toList ++ recordsBeside queue front back d) := by
  have hfilter : (w :: back).filterMap workerRecord? =
      (workerRecord? w).toList ++ back.filterMap workerRecord? := by
    cases hw : workerRecord? w with
    | none => rw [List.filterMap_cons_none hw, Option.toList_none, List.nil_append]
    | some r => rw [List.filterMap_cons_some hw, Option.toList_some, List.singleton_append]
  classical
  rw [List.perm_iff_count]
  intro r
  simp only [records, recordsBeside, hqueue, hworkers, List.filterMap_append, hfilter,
    List.count_append]
  omega

/-- The last job that was done has returned. -/
theorem recordsBeside_done (job : Job) (result : Result) :
    (recordsBeside queue front back ((job, result) :: d)).Perm
      ((job, .returned result) :: recordsBeside queue front back d) :=
  List.perm_middle

end Records

/-- The progress of a job after a step that is no crash. -/
def progressAfter? : JobStep h.State Result → Option (Progress h)
  | .running state => some (.running state)
  | .returned result => some (.returned result)
  | .crashed => none

/-- What a step does to the records. -/
inductive RecordStep (s t : Shared) (choice : Nat) (before after : List (Job × Progress h)) : Prop
  /-- A worker ends. -/
  | none (hshared : t = s) (hafter : after.Perm before)
  /-- A worker takes a job. -/
  | take (job : Job) (others : List (Job × Progress h)) (hshared : t = s)
      (hbefore : before.Perm ((job, .waiting) :: others))
      (hafter : after.Perm ((job, .running (h.start job)) :: others))
  /-- A worker goes on with its job. -/
  | advance (job : Job) (state : h.State) (step : JobStep h.State Result) (progress : Progress h)
      (others : List (Job × Progress h)) (hadvance : h.advance choice state s = (t, step))
      (hprogress : progressAfter? step = some progress)
      (hbefore : before.Perm ((job, .running state) :: others))
      (hafter : after.Perm ((job, progress) :: others))

/-- A step replaces no record but that of one job. -/
theorem RecordStep.map_fst_perm {s t : Shared} {choice : Nat}
    {before after : List (Job × Progress h)} (hstep : RecordStep s t choice before after) :
    (after.map Prod.fst).Perm (before.map Prod.fst) := by
  cases hstep with
  | none _ hafter => exact hafter.map _
  | take job others _ hbefore hafter => exact (hafter.map _).trans (hbefore.map Prod.fst).symm
  | advance job state step progress others _ _ hbefore hafter =>
    exact (hafter.map _).trans (hbefore.map Prod.fst).symm

/-- The books after one worker was replaced. -/
theorem Accounts.replace {jobs : List Job} {p q : Pool h} {done done' : List (Job × Result)}
    (ha : Accounts jobs p done) {front back : List (Worker h)} {w w' : Worker h}
    (hp : p.workers = front ++ w :: back) (hq : q.workers = front ++ w' :: back)
    (hjobs : ((q.records done').map Prod.fst).Perm ((p.records done).map Prod.fst))
    (hresults : (gatheredBy w' ++ done.map Prod.snd).Perm (gatheredBy w ++ done'.map Prod.snd))
    (hcrashed : w' ≠ .crashed) (hqueue : p.queue = [] → q.queue = [])
    (hfinished : ∀ gathered, w' = .finished gathered → q.queue = []) : Accounts jobs q done' := by
  have hothers : ∀ x ∈ front ++ back, x ∈ p.workers := by
    intro x hx
    rw [hp]
    rcases List.mem_append.1 hx with hfront | hback
    · exact List.mem_append_left _ hfront
    · exact List.mem_append_right _ (List.mem_cons_of_mem _ hback)
  have hcases : ∀ x ∈ q.workers, x = w' ∨ x ∈ front ++ back := by
    intro x hx
    rw [hq] at hx
    simp only [List.mem_append, List.mem_cons] at hx ⊢
    tauto
  refine ⟨hjobs.trans ha.jobs_perm, ?_, ?_, ?_, ?_⟩
  · have hold := ha.results_perm
    rw [hp] at hold
    rw [hq]
    classical
    rw [List.perm_iff_count] at hold hresults ⊢
    intro r
    have hr := hold r
    have hr' := hresults r
    simp only [List.flatMap_append, List.flatMap_cons, List.count_append] at hr hr' ⊢
    omega
  · intro hmem
    rcases hcases _ hmem with hnew | hother
    · exact hcrashed hnew.symm
    · exact ha.crashed_notMem (hothers _ hother)
  · intro gathered hmem
    rcases hcases _ hmem with hnew | hother
    · exact hfinished gathered hnew.symm
    · exact hqueue (ha.queue_eq_nil gathered (hothers _ hother))
  · intro _
    rw [hq]
    exact List.append_ne_nil_of_right_ne_nil _ (List.cons_ne_nil _ _)

section Steps

variable {jobs : List Job} {i choice : Nat} {s t : Shared} {p q : Pool h}
  {done : List (Job × Result)} {gathered : List Result}

/-- The books after a worker has ended. -/
theorem Accounts.finish (ha : Accounts jobs p done)
    (hworker : p.workers[i]? = some (.idle gathered)) (hqueue : p.queue = []) :
    Accounts jobs (p.setWorker i (.finished gathered)) done ∧
      ((p.setWorker i (.finished gathered)).records done).Perm (p.records done) := by
  obtain ⟨front, back, hsplit, hset⟩ := set_eq_of_getElem? hworker
  have hbefore := records_perm (d := done) rfl hsplit
  have hafter := records_perm (p := p.setWorker i (.finished gathered)) (d := done) rfl (hset _)
  have hrecords := hafter.trans hbefore.symm
  refine ⟨ha.replace hsplit (hset _) (hrecords.map _) (List.Perm.refl _) (by simp) ?_ ?_, hrecords⟩
  · intro _
    exact hqueue
  · intro _ _
    exact hqueue

/-- The books after a worker has taken a job. -/
theorem Accounts.take {job : Job} {rest : List Job} (ha : Accounts jobs p done)
    (hworker : p.workers[i]? = some (.idle gathered)) (hqueue : p.queue = job :: rest)
    (hq : q = notePeak { p.setWorker i (.busy job (h.start job) gathered) with
      queue := rest, taken := job :: p.taken }) :
    Accounts jobs q done ∧ RecordStep s s choice (p.records done) (q.records done) := by
  obtain ⟨front, back, hsplit, hset⟩ := set_eq_of_getElem? hworker
  have hworkers : q.workers = front ++ .busy job (h.start job) gathered :: back := by
    rw [hq]
    exact hset _
  have hqqueue : q.queue = rest := by
    rw [hq]
    rfl
  have hbefore := records_perm (d := done) hqueue hsplit
  have hafter := records_perm (d := done) hqqueue hworkers
  have hrecords : RecordStep s s choice (p.records done) (q.records done) :=
    .take job _ rfl hbefore hafter
  refine ⟨ha.replace hsplit hworkers hrecords.map_fst_perm (List.Perm.refl _) (by simp) ?_ ?_,
    hrecords⟩
  · intro hnil
    rw [hqueue] at hnil
    cases hnil
  · intro _ hfinished
    cases hfinished

/-- The books after a worker has gone on with its job. -/
theorem Accounts.advance {job : Job} {state : h.State} {next : JobStep h.State Result}
    (ha : Accounts jobs p done) (hworker : p.workers[i]? = some (.busy job state gathered))
    (hadvance : h.advance choice state s = (t, next)) (hsafe : next ≠ .crashed)
    (hq : q = p.setWorker i (workerAfter job gathered next)) :
    ∃ done', Accounts jobs q done' ∧ RecordStep s t choice (p.records done) (q.records done') := by
  obtain ⟨front, back, hsplit, hset⟩ := set_eq_of_getElem? hworker
  have hworkers : q.workers = front ++ workerAfter job gathered next :: back := by
    rw [hq]
    exact hset _
  have hqqueue : q.queue = p.queue := by
    rw [hq]
    rfl
  have hbefore := records_perm (d := done) rfl hsplit
  cases next with
  | running state' =>
    have hafter := records_perm (d := done) hqqueue hworkers
    have hrecords : RecordStep s t choice (p.records done) (q.records done) :=
      .advance job state _ _ _ hadvance rfl hbefore hafter
    refine ⟨done, ?_, hrecords⟩
    refine ha.replace hsplit hworkers hrecords.map_fst_perm (List.Perm.refl _)
      (by simp [workerAfter]) (fun hnil => hqqueue.trans hnil) ?_
    intro _ hfinished
    cases hfinished
  | returned result =>
    have hafter := (records_perm (d := (job, result) :: done) hqqueue hworkers).trans
      (recordsBeside_done job result)
    have hrecords : RecordStep s t choice (p.records done) (q.records ((job, result) :: done)) :=
      .advance job state _ _ _ hadvance rfl hbefore hafter
    refine ⟨(job, result) :: done, ?_, hrecords⟩
    refine ha.replace hsplit hworkers hrecords.map_fst_perm ?_
      (by simp [workerAfter]) (fun hnil => hqqueue.trans hnil) ?_
    · simp only [workerAfter, gatheredBy, List.map_cons, List.append_assoc,
        List.singleton_append]
      exact List.Perm.refl _
    · intro _ hfinished
      cases hfinished
  | crashed => exact absurd rfl hsafe

/-- A step keeps the books, as long as no job crashes. -/
theorem Accounts.step (ha : Accounts jobs p done)
    (hsafe : ∀ job state, (job, Progress.running state) ∈ p.records done →
      ∀ u, h.advance choice state s ≠ (u, .crashed))
    (hstep : Pool.step i choice (s, p) = some (t, q)) :
    ∃ done', Accounts jobs q done' ∧
      RecordStep s t choice (p.records done) (q.records done') := by
  rcases step_cases hstep with ⟨gathered, hworker, hqueue, rfl, rfl⟩ |
    ⟨gathered, job, rest, hworker, hqueue, rfl, hq⟩ |
    ⟨job, state, gathered, next, hworker, hadvance, hq⟩
  · obtain ⟨haccounts, hrecords⟩ := ha.finish hworker hqueue
    exact ⟨done, haccounts, .none rfl hrecords⟩
  · exact ⟨done, ha.take hworker hqueue hq⟩
  · refine ha.advance hworker hadvance ?_ hq
    rintro rfl
    obtain ⟨front, back, hsplit, _⟩ := set_eq_of_getElem? hworker
    have hmem : (job, Progress.running state) ∈ p.records done :=
      (records_perm rfl hsplit).mem_iff.2 (List.mem_append_left _ (List.mem_singleton.2 rfl))
    exact hsafe job state hmem t hadvance

end Steps

/-! ## Disciplines -/

/-- Assertions for jobs that share something.  A step of a job carries its own assertion on and leaves
those of the others alone, and no job crashes. -/
structure Discipline (h : Handler Shared Job Result) (jobs : List Job) where
  /-- What holds of the shared state at all times. -/
  Common : Shared → Prop
  /-- What holds for a job with its progress. -/
  Holds : Shared → Job → Progress h → Prop
  start : ∀ {s : Shared} {job : Job}, Holds s job .waiting → Holds s job (.running (h.start job))
  advance : ∀ {s t : Shared} {job : Job} {state : h.State} {choice : Nat}
    {step : JobStep h.State Result}, job ∈ jobs → Common s → Holds s job (.running state) →
      h.advance choice state s = (t, step) →
        Common t ∧ ∃ progress, progressAfter? step = some progress ∧ Holds t job progress
  stable : ∀ {s t : Shared} {job other : Job} {state : h.State} {choice : Nat}
    {step : JobStep h.State Result} {progress : Progress h}, job ∈ jobs → other ∈ jobs →
      other ≠ job → Common s → Holds s job (.running state) →
        h.advance choice state s = (t, step) → Holds s other progress → Holds t other progress

namespace Discipline

variable {jobs : List Job} (d : Discipline h jobs)

/-- The assertions hold for all jobs of a pool. -/
structure Invariant (s : Shared × Pool h) (done : List (Job × Result)) : Prop where
  accounts : Accounts jobs s.2 done
  common : d.Common s.1
  holds : ∀ r ∈ s.2.records done, d.Holds s.1 r.1 r.2

variable {d} {done : List (Job × Result)} {s t : Shared × Pool h}

/-- Before the first step all jobs are waiting. -/
theorem invariant_start {shared : Shared} {width : Nat} (hcommon : d.Common shared)
    (hwaiting : ∀ job ∈ jobs, d.Holds shared job .waiting) :
    d.Invariant (shared, Pool.start h width jobs) [] := by
  have hworkers : (Pool.start h width jobs).workers =
      List.replicate (min (effectiveWidth width) jobs.length) (.idle []) := rfl
  have hidle : ∀ w ∈ (Pool.start h width jobs).workers, w = .idle [] := by
    intro w hw
    rw [hworkers] at hw
    exact List.eq_of_mem_replicate hw
  have hrecords : (Pool.start h width jobs).records [] =
      jobs.map fun job => (job, Progress.waiting) := by
    have hnone : (Pool.start h width jobs).workers.filterMap workerRecord? = [] := by
      rw [List.filterMap_eq_nil_iff]
      intro w hw
      rw [hidle w hw]
      rfl
    simp only [records, hnone, List.map_nil, List.append_nil]
    rfl
  refine ⟨⟨?_, ?_, ?_, ?_, ?_⟩, hcommon, ?_⟩
  · rw [hrecords, List.map_map]
    exact List.Perm.of_eq (List.map_id _)
  · have hnone : (Pool.start h width jobs).workers.flatMap gatheredBy = [] := by
      rw [List.flatMap_eq_nil_iff]
      intro w hw
      rw [hidle w hw]
      rfl
    rw [hnone, List.map_nil]
  · intro hcrashed
    cases hidle _ hcrashed
  · intro gathered hfinished
    cases hidle _ hfinished
  · intro hjobs
    rw [hworkers]
    have hlength := List.length_pos_iff.2 hjobs
    have hwidth : 0 < effectiveWidth width := by
      unfold effectiveWidth
      omega
    intro hnil
    rw [List.replicate_eq_nil_iff] at hnil
    omega
  · intro r hr
    rw [hrecords] at hr
    obtain ⟨job, hjob, rfl⟩ := List.mem_map.1 hr
    exact hwaiting job hjob

/-- A step of the pool keeps the assertions. -/
theorem invariant_step (hnodup : jobs.Nodup) (hinv : d.Invariant s done)
    (hstep : Pool.Step s t) : ∃ done', d.Invariant t done' := by
  obtain ⟨i, choice, hstep⟩ := hstep
  have hmem : ∀ r ∈ s.2.records done, r.1 ∈ jobs := by
    intro r hr
    exact hinv.accounts.jobs_perm.mem_iff.1 (List.mem_map_of_mem hr)
  have hsafe : ∀ job state, (job, Progress.running state) ∈ s.2.records done →
      ∀ u, h.advance choice state s.1 ≠ (u, .crashed) := by
    intro job state hjob u hcrash
    obtain ⟨_, progress, hprogress, _⟩ :=
      d.advance (hmem _ hjob) hinv.common (hinv.holds _ hjob) hcrash
    cases hprogress
  obtain ⟨done', haccounts, hrecords⟩ := hinv.accounts.step hsafe hstep
  suffices hrest : d.Common t.1 ∧ ∀ r ∈ t.2.records done', d.Holds t.1 r.1 r.2 from
    ⟨done', haccounts, hrest.1, hrest.2⟩
  cases hrecords with
  | none hshared hafter =>
    rw [hshared]
    exact ⟨hinv.common, fun r hr => hinv.holds r (hafter.mem_iff.1 hr)⟩
  | take job others hshared hbefore hafter =>
    rw [hshared]
    refine ⟨hinv.common, ?_⟩
    intro r hr
    rcases List.mem_cons.1 (hafter.mem_iff.1 hr) with rfl | hother
    · exact d.start (hinv.holds _ (hbefore.mem_iff.2 List.mem_cons_self))
    · exact hinv.holds r (hbefore.mem_iff.2 (List.mem_cons_of_mem _ hother))
  | advance job state step progress others hadvance hprogress hbefore hafter =>
    have hjob := hbefore.mem_iff.2 List.mem_cons_self
    have hrunning := hinv.holds _ hjob
    obtain ⟨hcommon, progress', hprogress', hown⟩ :=
      d.advance (hmem _ hjob) hinv.common hrunning hadvance
    rw [hprogress] at hprogress'
    cases hprogress'
    refine ⟨hcommon, ?_⟩
    intro r hr
    rcases List.mem_cons.1 (hafter.mem_iff.1 hr) with rfl | hother
    · exact hown
    · have hr' := hbefore.mem_iff.2 (List.mem_cons_of_mem _ hother)
      -- The other records belong to other jobs, since no job occurs twice.
      have hne : r.1 ≠ job := by
        have hfst := (hbefore.map Prod.fst).symm.trans hinv.accounts.jobs_perm
        have hcons := hfst.nodup_iff.2 hnodup
        rw [List.map_cons, List.nodup_cons] at hcons
        intro heq
        exact hcons.1 (List.mem_map.2 ⟨r, hother, heq⟩)
      exact d.stable (hmem _ hjob) (hmem r hr') hne hinv.common hrunning hadvance
        (hinv.holds r hr')

/-- A run of the pool keeps the assertions. -/
theorem invariant_run (hnodup : jobs.Nodup) (hinv : d.Invariant s done)
    (hrun : Relation.ReflTransGen Pool.Step s t) : ∃ done', d.Invariant t done' := by
  induction hrun with
  | refl => exact ⟨done, hinv⟩
  | tail _ hstep ih =>
    obtain ⟨done', hinv'⟩ := ih
    exact invariant_step hnodup hinv' hstep

/-- When all workers have ended, all jobs are done, and the pool hands over their results. -/
theorem Invariant.of_hasEnded {shared : Shared} {p : Pool h} (hinv : d.Invariant (shared, p) done)
    (hended : p.hasEnded = true) :
    (done.map Prod.fst).Perm jobs ∧ p.results.Perm (done.map Prod.snd) ∧
      ∀ e ∈ done, d.Holds shared e.1 (.returned e.2) := by
  obtain ⟨haccounts, _, hholds⟩ := hinv
  have hfinished : ∀ w ∈ p.workers, ∃ gathered, w = .finished gathered := by
    intro w hw
    have hend : w.hasEnded = true := List.all_eq_true.1 hended w hw
    cases w with
    | idle gathered => cases hend
    | busy job state gathered => cases hend
    | finished gathered => exact ⟨gathered, rfl⟩
    | crashed => exact absurd hw haccounts.crashed_notMem
  have hresults : p.workers.flatMap gatheredBy = p.results := by
    unfold results
    apply List.flatMap_congr
    intro w hw
    obtain ⟨gathered, rfl⟩ := hfinished w hw
    rfl
  have hworkers : p.workers.filterMap workerRecord? = [] := by
    rw [List.filterMap_eq_nil_iff]
    intro w hw
    obtain ⟨gathered, rfl⟩ := hfinished w hw
    rfl
  have hqueue : p.queue = [] := by
    by_cases hjobs : jobs = []
    · have hperm := haccounts.jobs_perm
      rw [hjobs] at hperm
      have hnil := hperm.eq_nil
      simp only [records, List.map_append, List.append_eq_nil_iff, List.map_eq_nil_iff] at hnil
      exact hnil.1.1
    · obtain ⟨w, hw⟩ := List.exists_mem_of_ne_nil _ (haccounts.workers_ne_nil hjobs)
      obtain ⟨gathered, rfl⟩ := hfinished w hw
      exact haccounts.queue_eq_nil gathered hw
  have hrecords : p.records done = done.map fun e => (e.1, .returned e.2) := by
    rw [records, hqueue, hworkers]
    rfl
  refine ⟨?_, ?_, ?_⟩
  · have hperm := haccounts.jobs_perm
    rw [hrecords, List.map_map] at hperm
    exact hperm
  · rw [← hresults]
    exact haccounts.results_perm
  · intro e he
    apply hholds (e.1, .returned e.2)
    rw [hrecords]
    exact List.mem_map_of_mem he

/-- When all workers of a run have ended, every job is done and has its assertion. -/
theorem of_hasEnded (hnodup : jobs.Nodup) {shared : Shared} {width : Nat} {p : Pool h}
    {final : Shared} (hcommon : d.Common shared)
    (hwaiting : ∀ job ∈ jobs, d.Holds shared job .waiting)
    (hrun : Relation.ReflTransGen Pool.Step (shared, Pool.start h width jobs) (final, p))
    (hended : p.hasEnded = true) :
    d.Common final ∧ ∃ done : List (Job × Result), (done.map Prod.fst).Perm jobs ∧
      p.results.Perm (done.map Prod.snd) ∧ ∀ e ∈ done, d.Holds final e.1 (.returned e.2) := by
  obtain ⟨done, hinv⟩ := invariant_run hnodup (invariant_start hcommon hwaiting) hrun
  exact ⟨hinv.common, done, hinv.of_hasEnded hended⟩

end Discipline
end Pool
end ProxyConfig
