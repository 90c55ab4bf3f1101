import ProxyConfig.Proofs.Pool.Discipline

/-!
# Jobs that crash

A crash ends the worker of the job, and with it goes everything that the worker had gathered.  The log
of a run tells which worker was handed which job, and how the job ended.  From it one can say exactly
what a pool returns and which jobs it leaves in the queue.

Main results:

- `exists_logged`: every run has a log.
- `Books.step`: what the log and the pool have to do with each other, kept by every step.
- `settled_of_hasEnded`: what the log of a run tells when all workers have ended.
- `Settled.results_perm_iff`, `Settled.handedJobs_eq_iff`: when crashes cost no more than their jobs.
-/

namespace ProxyConfig
namespace Pool

variable {Shared Job Result : Type} {h : Handler Shared Job Result}

/-! ## The log of a run -/

/-- What can happen to a job. -/
inductive Event (Job Result : Type) where
  | handed (worker : Nat) (job : Job)
  | returned (worker : Nat) (job : Job) (result : Result)
  | crashed (worker : Nat) (job : Job)
deriving DecidableEq

namespace Event

/-- The worker of the job. -/
def worker : Event Job Result → Nat
  | handed i _ | returned i _ _ | crashed i _ => i

/-- The job that a worker takes. -/
def handedJob? : Event Job Result → Option Job
  | handed _ job => some job
  | _ => none

/-- The job that ends. -/
def endedJob? : Event Job Result → Option Job
  | returned _ job _ | crashed _ job => some job
  | handed .. => none

/-- The result that a job of this worker returns. -/
def resultOf? (i : Nat) : Event Job Result → Option Result
  | returned j _ result => if j = i then some result else none
  | _ => none

/-- The result that a job returns. -/
def result? : Event Job Result → Option Result
  | returned _ _ result => some result
  | _ => none

/-- The worker that a crash ends. -/
def crashedWorker? : Event Job Result → Option Nat
  | crashed i _ => some i
  | _ => none

/-- The job that crashes. -/
def crashedJob? : Event Job Result → Option Job
  | crashed _ job => some job
  | _ => none

/-- How a step of its job shows. -/
def ofJobStep {State : Type} (i : Nat) (job : Job) : JobStep State Result → List (Event Job Result)
  | .running _ => []
  | .returned result => [returned i job result]
  | .crashed => [crashed i job]

end Event

section Logs

variable (log : List (Event Job Result))

/-- The jobs that were handed to workers, in order. -/
def handedJobs : List Job :=
  log.filterMap Event.handedJob?

/-- The jobs that have ended, with a result or by a crash. -/
def endedJobs : List Job :=
  log.filterMap Event.endedJob?

/-- The results that the jobs of a worker have returned. -/
def returnsOf (i : Nat) : List Result :=
  log.filterMap (Event.resultOf? i)

/-- The results that jobs have returned. -/
def returns : List Result :=
  log.filterMap Event.result?

/-- The workers that have ended by a crash. -/
def crashedWorkers : List Nat :=
  log.filterMap Event.crashedWorker?

/-- The jobs that have crashed. -/
def crashedJobs : List Job :=
  log.filterMap Event.crashedJob?

end Logs

/-- How a step of a worker shows. -/
def events (i choice : Nat) (s : Shared × Pool h) : List (Event Job Result) :=
  match s.2.workers[i]? with
  | some (.idle _) => (s.2.queue.head?.map (Event.handed i)).toList
  | some (.busy job state _) => Event.ofJobStep i job (h.advance choice state s.1).2
  | _ => []

/-- What a step of a worker does, with how it shows. -/
theorem step_events {i choice : Nat} {s t : Shared} {p q : Pool h}
    (hstep : step i choice (s, p) = some (t, q)) :
    (∃ gathered, p.workers[i]? = some (.idle gathered) ∧ p.queue = [] ∧
      q = p.setWorker i (.finished gathered) ∧ events i choice (s, p) = []) ∨
    (∃ gathered job rest, p.workers[i]? = some (.idle gathered) ∧ p.queue = job :: rest ∧
      q = notePeak { p.setWorker i (.busy job (h.start job) gathered) with
        queue := rest, taken := job :: p.taken } ∧ events i choice (s, p) = [.handed i job]) ∨
    ∃ job state gathered next, p.workers[i]? = some (.busy job state gathered) ∧
      h.advance choice state s = (t, next) ∧ q = p.setWorker i (workerAfter job gathered next) ∧
      events i choice (s, p) = Event.ofJobStep i job next := by
  rcases step_cases hstep with ⟨gathered, hw, hqueue, _, hq⟩ |
    ⟨gathered, job, rest, hw, hqueue, _, hq⟩ | ⟨job, state, gathered, next, hw, hadvance, hq⟩
  · exact Or.inl ⟨gathered, hw, hqueue, hq, by simp [events, hw, hqueue]⟩
  · exact Or.inr (Or.inl ⟨gathered, job, rest, hw, hqueue, hq, by simp [events, hw, hqueue]⟩)
  · exact Or.inr (Or.inr
      ⟨job, state, gathered, next, hw, hadvance, hq, by simp [events, hw, hadvance]⟩)

/-- A run with its log. -/
inductive Logged (s : Shared × Pool h) : List (Event Job Result) → Shared × Pool h → Prop
  | start : Logged s [] s
  | step {log : List (Event Job Result)} {t u : Shared × Pool h} {i choice : Nat}
      (hlogged : Logged s log t) (hstep : step i choice t = some u) :
      Logged s (log ++ events i choice t) u

/-- Every run has a log. -/
theorem exists_logged {s t : Shared × Pool h} (hrun : Relation.ReflTransGen Step s t) :
    ∃ log, Logged s log t := by
  induction hrun with
  | refl => exact ⟨[], .start⟩
  | tail _ hstep ih =>
    obtain ⟨log, hlogged⟩ := ih
    obtain ⟨i, choice, hstep⟩ := hstep
    exact ⟨_, hlogged.step hstep⟩

/-- Where a run comes to when the worker and the choice of every step are prescribed, with what shows
on the way. -/
def along : List (Nat × Nat) → Shared × Pool h →
    Option (List (Event Job Result) × (Shared × Pool h))
  | [], s => some ([], s)
  | (i, choice) :: rest, s =>
    (step i choice s).bind fun t => (along rest t).map fun r => (events i choice s ++ r.1, r.2)

/-- A prescription that can be followed leads on with a run. -/
theorem logged_of_along {prescribed : List (Nat × Nat)} {log more : List (Event Job Result)}
    {s t u : Shared × Pool h} (hlogged : Logged s log t)
    (halong : along prescribed t = some (more, u)) : Logged s (log ++ more) u := by
  induction prescribed generalizing log more t with
  | nil =>
    cases halong
    rwa [List.append_nil]
  | cons turn rest ih =>
    obtain ⟨i, choice⟩ := turn
    obtain ⟨t', hstep, hrest⟩ := Option.bind_eq_some_iff.1 halong
    obtain ⟨⟨later, u'⟩, hlater, heq⟩ := Option.map_eq_some_iff.1 hrest
    cases heq
    rw [← List.append_assoc]
    exact ih (hlogged.step hstep) hlater

/-! ## Books -/

/-- The job of a worker. -/
def currentJob? : Worker h → Option Job
  | .busy job _ _ => some job
  | _ => none

/-- A worker has gathered what the log says, or it has crashed and the log says so. -/
def Recorded (log : List (Event Job Result)) (i : Nat) : Worker h → Prop
  | .crashed => i ∈ crashedWorkers log
  | w => i ∉ crashedWorkers log ∧ gatheredBy w = returnsOf log i

/-- What the log of a run has to do with the pool. -/
structure Books (jobs : List Job) (n : Nat) (log : List (Event Job Result)) (p : Pool h) :
    Prop where
  length_workers : p.workers.length = n
  worker_lt : ∀ e ∈ log, e.worker < n
  handed_append : handedJobs log ++ p.queue = jobs
  ended_perm : (endedJobs log ++ p.workers.filterMap currentJob?).Perm (handedJobs log)
  nodup_crashed : (crashedWorkers log).Nodup
  recorded : ∀ i w, p.workers[i]? = some w → Recorded log i w
  queue_eq_nil : ∀ gathered, Worker.finished gathered ∈ p.workers → p.queue = []

/-- Before the first step nothing has happened. -/
theorem books_start (width : Nat) (jobs : List Job) :
    Books jobs (min (effectiveWidth width) jobs.length) [] (Pool.start h width jobs) where
  length_workers := List.length_replicate
  worker_lt := by simp
  handed_append := rfl
  ended_perm := by
    have hidle : (Pool.start h width jobs).workers.filterMap currentJob? = [] := by
      rw [List.filterMap_eq_nil_iff]
      intro w hw
      rw [List.eq_of_mem_replicate hw]
      rfl
    rw [hidle]
    exact List.Perm.refl _
  nodup_crashed := List.nodup_nil
  recorded := by
    intro i w hw
    rw [List.eq_of_mem_replicate (List.mem_of_getElem? hw)]
    exact ⟨List.not_mem_nil, rfl⟩
  queue_eq_nil := by
    intro gathered hw
    cases List.eq_of_mem_replicate hw

section Events

variable {log es : List (Event Job Result)} {i j : Nat}

theorem handedJobs_append : handedJobs (log ++ es) = handedJobs log ++ handedJobs es :=
  List.filterMap_append

theorem endedJobs_append : endedJobs (log ++ es) = endedJobs log ++ endedJobs es :=
  List.filterMap_append

theorem returnsOf_append : returnsOf (log ++ es) i = returnsOf log i ++ returnsOf es i :=
  List.filterMap_append

theorem crashedWorkers_append :
    crashedWorkers (log ++ es) = crashedWorkers log ++ crashedWorkers es :=
  List.filterMap_append

/-- A worker has crashed if the log has a crash of one of its jobs. -/
theorem mem_crashedWorkers : i ∈ crashedWorkers log ↔ ∃ job, Event.crashed i job ∈ log := by
  unfold crashedWorkers
  rw [List.mem_filterMap]
  constructor
  · rintro ⟨e, he, hi⟩
    cases e with
    | crashed j job =>
      cases hi
      exact ⟨job, he⟩
    | handed | returned => cases hi
  · rintro ⟨job, he⟩
    exact ⟨_, he, rfl⟩

/-- A result of a worker is one that the log has for one of its jobs. -/
theorem mem_returnsOf {result : Result} :
    result ∈ returnsOf log i ↔ ∃ job, Event.returned i job result ∈ log := by
  unfold returnsOf
  rw [List.mem_filterMap]
  constructor
  · rintro ⟨e, he, hi⟩
    cases e with
    | returned j job r =>
      by_cases hj : j = i
      · subst hj
        simp only [Event.resultOf?, if_true, Option.some.injEq] at hi
        subst hi
        exact ⟨job, he⟩
      · simp [Event.resultOf?, hj] at hi
    | handed | crashed => cases hi
  · rintro ⟨job, he⟩
    exact ⟨_, he, by simp [Event.resultOf?]⟩

/-- Every crash ends one worker. -/
theorem length_crashedWorkers : (crashedWorkers log).length = (crashedJobs log).length := by
  unfold crashedWorkers crashedJobs
  induction log with
  | nil => rfl
  | cons e rest ih =>
    cases e with
    | handed | returned => exact ih
    | crashed => exact congrArg Nat.succ ih

/-- A job that has crashed has ended. -/
theorem crashedJobs_sublist : (crashedJobs log).Sublist (endedJobs log) := by
  unfold crashedJobs endedJobs
  induction log with
  | nil => exact List.Sublist.refl []
  | cons e rest ih =>
    cases e with
    | handed => exact ih
    | returned i job result => exact ih.cons job
    | crashed i job => exact ih.cons_cons job

/-- What happens to the jobs of one worker says nothing about another one. -/
theorem recorded_append_of_ne {w : Worker h} (hes : ∀ e ∈ es, e.worker = i) (hne : j ≠ i)
    (hw : Recorded log j w) : Recorded (log ++ es) j w := by
  have hreturns : returnsOf es j = [] := by
    rw [List.eq_nil_iff_forall_not_mem]
    intro result hmem
    obtain ⟨job, he⟩ := mem_returnsOf.1 hmem
    exact hne (hes _ he)
  have hcrashed : j ∉ crashedWorkers es := by
    intro hmem
    obtain ⟨job, he⟩ := mem_crashedWorkers.1 hmem
    exact hne (hes _ he)
  have hiff : j ∈ crashedWorkers (log ++ es) ↔ j ∈ crashedWorkers log := by
    simp [crashedWorkers_append, hcrashed]
  have hsame : returnsOf (log ++ es) j = returnsOf log j := by
    rw [returnsOf_append, hreturns, List.append_nil]
  cases w with
  | crashed => exact hiff.2 hw
  | idle | busy | finished => exact ⟨fun hmem => hw.1 (hiff.1 hmem), hw.2.trans hsame.symm⟩

end Events

/-- The books after one worker was replaced. -/
theorem Books.replace {jobs : List Job} {n i : Nat} {log es : List (Event Job Result)}
    {p q : Pool h} {w w' : Worker h} (hb : Books jobs n log p) (hw : p.workers[i]? = some w)
    (hworkers : q.workers = p.workers.set i w') (hes : ∀ e ∈ es, e.worker = i)
    (hqueue : handedJobs es ++ q.queue = p.queue)
    (hjobs : (endedJobs es ++ (currentJob? w').toList).Perm
      ((currentJob? w).toList ++ handedJobs es))
    (hcrashed : (crashedWorkers (log ++ es)).Nodup) (hrecorded : Recorded (log ++ es) i w')
    (hfinished : ∀ gathered, w' = .finished gathered → q.queue = []) :
    Books jobs n (log ++ es) q := by
  have hlt : i < p.workers.length := (List.getElem?_eq_some_iff.1 hw).1
  refine ⟨?_, ?_, ?_, ?_, hcrashed, ?_, ?_⟩
  · rw [hworkers, List.length_set, hb.length_workers]
  · intro e he
    rcases List.mem_append.1 he with hold | hnew
    · exact hb.worker_lt e hold
    · rw [hes e hnew, ← hb.length_workers]
      exact hlt
  · rw [handedJobs_append, List.append_assoc, hqueue, hb.handed_append]
  · obtain ⟨front, back, hp, hset⟩ := set_eq_of_getElem? hw
    have hold := hb.ended_perm
    have hcons : ∀ v : Worker h, (v :: back).filterMap currentJob? =
        (currentJob? v).toList ++ back.filterMap currentJob? := by
      intro v
      cases hv : currentJob? v with
      | none => rw [List.filterMap_cons_none hv, Option.toList_none, List.nil_append]
      | some job => rw [List.filterMap_cons_some hv, Option.toList_some, List.singleton_append]
    rw [hp] at hold
    rw [hworkers, hset, endedJobs_append, handedJobs_append]
    classical
    rw [List.perm_iff_count] at hold hjobs ⊢
    intro job
    have holdjob := hold job
    have hnewjob := hjobs job
    simp only [List.filterMap_append, hcons, List.count_append] at holdjob hnewjob ⊢
    omega
  · intro j v hv
    rw [hworkers] at hv
    by_cases hji : j = i
    · subst hji
      rw [List.getElem?_set_self hlt, Option.some.injEq] at hv
      subst hv
      exact hrecorded
    · rw [List.getElem?_set_ne (Ne.symm hji)] at hv
      exact recorded_append_of_ne hes hji (hb.recorded j v hv)
  · intro gathered hmem
    rw [hworkers] at hmem
    rcases List.mem_or_eq_of_mem_set hmem with hold | hnew
    · have hnil := hb.queue_eq_nil gathered hold
      rw [← hqueue, List.append_eq_nil_iff] at hnil
      exact hnil.2
    · exact hfinished gathered hnew.symm

section Steps

variable {jobs : List Job} {n i : Nat} {log : List (Event Job Result)} {p : Pool h}
  {job : Job} {gathered : List Result}

/-- The books after a worker has found the queue empty. -/
theorem Books.finish (hb : Books jobs n log p) (hw : p.workers[i]? = some (.idle gathered))
    (hqueue : p.queue = []) : Books jobs n (log ++ []) (p.setWorker i (.finished gathered)) := by
  have hidle : Recorded log i (Worker.idle gathered : Worker h) := hb.recorded i _ hw
  refine hb.replace hw rfl (by simp) rfl (List.Perm.refl _) ?_ ?_ fun _ _ => hqueue
  · simpa using hb.nodup_crashed
  · rw [List.append_nil]
    exact hidle

/-- The books after a worker has taken a job. -/
theorem Books.take (hb : Books jobs n log p) (hw : p.workers[i]? = some (.idle gathered))
    {rest : List Job} (hqueue : p.queue = job :: rest) :
    Books jobs n (log ++ [.handed i job])
      (notePeak { p.setWorker i (.busy job (h.start job) gathered) with
        queue := rest, taken := job :: p.taken }) := by
  have hidle : Recorded log i (Worker.idle gathered : Worker h) := hb.recorded i _ hw
  have hcrashed : crashedWorkers (log ++ [.handed i job]) = crashedWorkers log := by
    rw [crashedWorkers_append]
    exact List.append_nil _
  have hreturns : returnsOf (log ++ [.handed i job]) i = returnsOf log i := by
    rw [returnsOf_append]
    exact List.append_nil _
  refine hb.replace hw rfl (by simp [Event.worker]) hqueue.symm (List.Perm.refl _) ?_ ?_ ?_
  · rw [hcrashed]
    exact hb.nodup_crashed
  · refine ⟨?_, ?_⟩
    · rw [hcrashed]
      exact hidle.1
    · rw [hreturns]
      exact hidle.2
  · intro _ heq
    cases heq

/-- The books after a job has returned. -/
theorem Books.returned {state : h.State} {result : Result} (hb : Books jobs n log p)
    (hw : p.workers[i]? = some (.busy job state gathered)) :
    Books jobs n (log ++ [.returned i job result])
      (p.setWorker i (.idle (gathered ++ [result]))) := by
  have hbusy : Recorded log i (Worker.busy job state gathered : Worker h) := hb.recorded i _ hw
  have hcrashed : crashedWorkers (log ++ [.returned i job result]) = crashedWorkers log := by
    rw [crashedWorkers_append]
    exact List.append_nil _
  have hone : returnsOf [Event.returned i job result] i = [result] := by
    simp [returnsOf, Event.resultOf?]
  refine hb.replace hw rfl (by simp [Event.worker]) rfl (List.Perm.refl _) ?_ ?_ ?_
  · rw [hcrashed]
    exact hb.nodup_crashed
  · refine ⟨?_, ?_⟩
    · rw [hcrashed]
      exact hbusy.1
    · rw [returnsOf_append, hone, ← hbusy.2]
      rfl
  · intro _ heq
    cases heq

/-- The books after a job has crashed. -/
theorem Books.crash {state : h.State} (hb : Books jobs n log p)
    (hw : p.workers[i]? = some (.busy job state gathered)) :
    Books jobs n (log ++ [.crashed i job]) (p.setWorker i .crashed) := by
  have hbusy : Recorded log i (Worker.busy job state gathered : Worker h) := hb.recorded i _ hw
  have hcrashed : crashedWorkers (log ++ [Event.crashed i job]) = crashedWorkers log ++ [i] :=
    crashedWorkers_append
  refine hb.replace hw rfl (by simp [Event.worker]) rfl (List.Perm.refl _) ?_ ?_ ?_
  · rw [hcrashed]
    exact List.nodup_append_comm.1 (List.nodup_cons.2 ⟨hbusy.1, hb.nodup_crashed⟩)
  · change i ∈ crashedWorkers (log ++ [Event.crashed i job])
    rw [hcrashed]
    exact List.mem_append_right _ List.mem_cons_self
  · intro _ heq
    cases heq

/-- The books while a job goes on. -/
theorem Books.go {state state' : h.State} (hb : Books jobs n log p)
    (hw : p.workers[i]? = some (.busy job state gathered)) :
    Books jobs n (log ++ []) (p.setWorker i (.busy job state' gathered)) := by
  have hbusy : Recorded log i (Worker.busy job state gathered : Worker h) := hb.recorded i _ hw
  refine hb.replace hw rfl (by simp) rfl (List.Perm.refl _) ?_ ?_ ?_
  · simpa using hb.nodup_crashed
  · rw [List.append_nil]
    exact hbusy
  · intro _ heq
    cases heq

/-- A step keeps the books. -/
theorem Books.step {choice : Nat} {s t : Shared} {q : Pool h} (hb : Books jobs n log p)
    (hstep : step i choice (s, p) = some (t, q)) :
    Books jobs n (log ++ events i choice (s, p)) q := by
  rcases step_events hstep with ⟨gathered, hw, hqueue, rfl, hevents⟩ |
    ⟨gathered, job, rest, hw, hqueue, rfl, hevents⟩ |
    ⟨job, state, gathered, next, hw, _, rfl, hevents⟩
  · rw [hevents]
    exact hb.finish hw hqueue
  · rw [hevents]
    exact hb.take hw hqueue
  · rw [hevents]
    cases next with
    | running state' => exact hb.go hw
    | returned result => exact hb.returned hw
    | crashed => exact hb.crash hw

end Steps

/-- The books are kept in every run. -/
theorem books_of_logged {width : Nat} {jobs : List Job} {shared : Shared}
    {log : List (Event Job Result)} {t : Shared × Pool h}
    (hlogged : Logged (shared, Pool.start h width jobs) log t) :
    Books jobs (min (effectiveWidth width) jobs.length) log t.2 := by
  induction hlogged with
  | start => exact books_start width jobs
  | step _ hstep ih => exact ih.step hstep

/-! ## The end of a run -/

/-- What the log of a run tells when all workers have ended. -/
structure Settled (jobs : List Job) (n : Nat) (log : List (Event Job Result)) (p : Pool h) :
    Prop where
  /-- The jobs are handed out in order, each once; what is left was handed to nobody. -/
  handed_append : handedJobs log ++ p.queue = jobs
  /-- Every job that was handed out has ended. -/
  ended_perm : (endedJobs log).Perm (handedJobs log)
  /-- The pool returns what the workers have gathered that did not crash. -/
  results_eq : p.results =
    (List.range n).flatMap fun i => if i ∈ crashedWorkers log then [] else returnsOf log i
  worker_lt : ∀ e ∈ log, e.worker < n
  /-- No worker crashes twice. -/
  nodup_crashed : (crashedWorkers log).Nodup
  /-- Jobs are left only when all workers have crashed. -/
  queue_eq_nil : (crashedWorkers log).length < n → p.queue = []

/-- The images of the items of a list, told by their places. -/
theorem flatMap_eq_flatMap_range {α β : Type} {l : List α} {f : α → List β} {g : Nat → List β}
    (hg : ∀ i x, l[i]? = some x → f x = g i) : l.flatMap f = (List.range l.length).flatMap g := by
  have hmap : l.map f = (List.range l.length).map g := by
    apply List.ext_getElem (by simp)
    intro i hi hi'
    rw [List.getElem_map, List.getElem_map, List.getElem_range]
    exact hg i _ (List.getElem?_eq_getElem (by simpa using hi))
  rw [List.flatMap_def, List.flatMap_def, hmap]

/-- When all workers have ended, each has finished or crashed. -/
theorem Books.settled {jobs : List Job} {n : Nat} {log : List (Event Job Result)} {p : Pool h}
    (hb : Books jobs n log p) (hended : p.hasEnded = true) : Settled jobs n log p := by
  have hworker : ∀ w ∈ p.workers, (∃ gathered, w = .finished gathered) ∨ w = .crashed := by
    intro w hw
    have hend : w.hasEnded = true := List.all_eq_true.1 hended w hw
    cases w with
    | idle | busy => cases hend
    | finished gathered => exact Or.inl ⟨gathered, rfl⟩
    | crashed => exact Or.inr rfl
  have hidle : p.workers.filterMap currentJob? = [] := by
    rw [List.filterMap_eq_nil_iff]
    intro w hw
    rcases hworker w hw with ⟨gathered, rfl⟩ | rfl <;> rfl
  refine ⟨hb.handed_append, ?_, ?_, hb.worker_lt, hb.nodup_crashed, ?_⟩
  · have hperm := hb.ended_perm
    rwa [hidle, List.append_nil] at hperm
  · rw [← hb.length_workers]
    refine flatMap_eq_flatMap_range ?_
    intro i w hw
    have hrecorded := hb.recorded i w hw
    rcases hworker w (List.mem_of_getElem? hw) with ⟨gathered, rfl⟩ | rfl
    · rw [if_neg hrecorded.1]
      exact hrecorded.2
    · exact (if_pos hrecorded).symm
  · intro hfew
    -- Some worker has not crashed, so it has found the queue empty.
    by_contra hqueue
    have hall : List.range n ⊆ crashedWorkers log := by
      intro i hi
      obtain ⟨w, hw⟩ : ∃ w, p.workers[i]? = some w := by
        rw [List.mem_range, ← hb.length_workers] at hi
        exact ⟨_, List.getElem?_eq_getElem hi⟩
      rcases hworker w (List.mem_of_getElem? hw) with ⟨gathered, rfl⟩ | rfl
      · exact absurd (hb.queue_eq_nil gathered (List.mem_of_getElem? hw)) hqueue
      · exact hb.recorded i _ hw
    have hle := (List.subperm_of_subset List.nodup_range hall).length_le
    rw [List.length_range] at hle
    omega

/-- What the log of a run tells when all workers have ended. -/
theorem settled_of_hasEnded {width : Nat} {jobs : List Job} {shared final : Shared}
    {log : List (Event Job Result)} {p : Pool h}
    (hlogged : Logged (shared, Pool.start h width jobs) log (final, p))
    (hended : p.hasEnded = true) :
    Settled jobs (min (effectiveWidth width) jobs.length) log p :=
  (books_of_logged hlogged).settled hended

/-- A pool returns a result exactly when a worker has gathered it that did not crash. -/
theorem Settled.mem_results_iff {jobs : List Job} {n : Nat} {log : List (Event Job Result)}
    {p : Pool h} (hsettled : Settled jobs n log p) {result : Result} :
    result ∈ p.results ↔
      ∃ i job, Event.returned i job result ∈ log ∧ i ∉ crashedWorkers log := by
  rw [hsettled.results_eq]
  constructor
  · intro hmem
    obtain ⟨i, _, hi⟩ := List.mem_flatMap.1 hmem
    split at hi
    · cases hi
    · rename_i hcrashed
      obtain ⟨job, he⟩ := mem_returnsOf.1 hi
      exact ⟨i, job, he, hcrashed⟩
  · rintro ⟨i, job, he, hcrashed⟩
    refine List.mem_flatMap.2 ⟨i, List.mem_range.2 (hsettled.worker_lt _ he), ?_⟩
    rw [if_neg hcrashed]
    exact mem_returnsOf.2 ⟨job, he⟩

/-- What the jobs of one worker return is what jobs return, worker by worker. -/
theorem flatMap_returnsOf_perm {n : Nat} {log : List (Event Job Result)}
    (hlt : ∀ e ∈ log, e.worker < n) :
    ((List.range n).flatMap (returnsOf log)).Perm (returns log) := by
  induction log with
  | nil =>
    have hnone : (List.range n).flatMap (returnsOf ([] : List (Event Job Result))) = [] :=
      List.flatMap_eq_nil_iff.2 fun _ _ => rfl
    rw [hnone]
    exact List.Perm.refl _
  | cons e rest ih =>
    obtain ⟨hworker, hrest⟩ := List.forall_mem_cons.1 hlt
    have hcons : returnsOf (e :: rest) = fun i => (e.resultOf? i).toList ++ returnsOf rest i := by
      funext i
      unfold returnsOf
      cases hresult : e.resultOf? i <;> simp [hresult]
    have hone : ((List.range n).flatMap fun i => (e.resultOf? i).toList).Perm e.result?.toList := by
      have hself : [e.worker].flatMap (fun i => (e.resultOf? i).toList) = e.result?.toList := by
        cases e <;> simp [Event.worker, Event.resultOf?, Event.result?]
      rw [← hself]
      refine flatMap_perm List.nodup_range (List.nodup_singleton _) ?_ ?_
      · simpa using hworker
      · intro i hi
        have hne : e.worker ≠ i := fun heq => hi (List.mem_singleton.2 heq.symm)
        cases e with
        | returned j job result => simp [Event.resultOf?, show j ≠ i from hne]
        | handed | crashed => rfl
    have hreturns : returns (e :: rest) = e.result?.toList ++ returns rest := by
      unfold returns
      cases hresult : e.result? <;> simp [hresult]
    rw [hcons, hreturns]
    exact (List.flatMap_append_perm _ _ _).symm.trans (hone.append (ih hrest))

section Losses

variable {jobs : List Job} {n : Nat} {log : List (Event Job Result)} {p : Pool h}

/-- What jobs have returned is returned by the pool, or it is lost with a worker that has crashed. -/
theorem Settled.results_append_perm (hsettled : Settled jobs n log p) :
    (p.results ++ (crashedWorkers log).flatMap (returnsOf log)).Perm (returns log) := by
  let kept := fun i => if i ∈ crashedWorkers log then [] else returnsOf log i
  let lost := fun i => if i ∈ crashedWorkers log then returnsOf log i else []
  have hsplit : returnsOf log = fun i => kept i ++ lost i := by
    funext i
    by_cases hi : i ∈ crashedWorkers log <;> simp [kept, lost, hi]
  have hsubset : crashedWorkers log ⊆ List.range n := by
    intro i hi
    obtain ⟨job, he⟩ := mem_crashedWorkers.1 hi
    exact List.mem_range.2 (hsettled.worker_lt _ he)
  have hlost : ((List.range n).flatMap lost).Perm ((crashedWorkers log).flatMap (returnsOf log)) := by
    have hsame : (crashedWorkers log).flatMap (returnsOf log) = (crashedWorkers log).flatMap lost :=
      List.flatMap_congr fun i hi => (if_pos hi).symm
    rw [hsame]
    exact flatMap_perm List.nodup_range hsettled.nodup_crashed hsubset fun i hi => if_neg hi
  have hall := flatMap_returnsOf_perm hsettled.worker_lt
  rw [hsplit] at hall
  rw [hsettled.results_eq]
  exact ((List.Perm.refl _).append hlost.symm).trans
    ((List.flatMap_append_perm _ kept lost).trans hall)

/-- The pool returns all results exactly if no worker has a result when it crashes. -/
theorem Settled.results_perm_iff (hsettled : Settled jobs n log p) :
    p.results.Perm (returns log) ↔ ∀ i ∈ crashedWorkers log, returnsOf log i = [] := by
  have hperm := hsettled.results_append_perm
  rw [← List.flatMap_eq_nil_iff]
  constructor
  · intro hall
    have hlength := (hperm.trans hall.symm).length_eq
    rw [List.length_append] at hlength
    exact List.length_eq_zero_iff.1 (by omega)
  · intro hnone
    rwa [hnone, List.append_nil] at hperm

/-- All jobs are handed out exactly if none is left. -/
theorem Settled.handedJobs_eq_iff (hsettled : Settled jobs n log p) :
    handedJobs log = jobs ↔ p.queue = [] := by
  constructor
  · intro hall
    have happend := hsettled.handed_append
    rwa [hall, List.append_right_eq_self] at happend
  · intro hqueue
    have happend := hsettled.handed_append
    rwa [hqueue, List.append_nil] at happend

end Losses

/-- If fewer jobs can crash than there are workers, every job is handed to a worker. -/
theorem Settled.handedJobs_eq {jobs : List Job} {n : Nat} {log : List (Event Job Result)}
    {p : Pool h} (hsettled : Settled jobs n log p) (canCrash : Job → Bool)
    (hcrashes : ∀ i job, Event.crashed i job ∈ log → canCrash job = true)
    (hfew : (jobs.filter canCrash).length < n) : handedJobs log = jobs := by
  have hself : (crashedJobs log).filter canCrash = crashedJobs log := by
    rw [List.filter_eq_self]
    intro job hjob
    obtain ⟨e, he, hcrashed⟩ := List.mem_filterMap.1 hjob
    cases e with
    | crashed i job' =>
      cases hcrashed
      exact hcrashes i _ he
    | handed | returned => cases hcrashed
  have hsub : (crashedJobs log).Subperm jobs := by
    refine crashedJobs_sublist.subperm.trans (hsettled.ended_perm.subperm.trans ?_)
    rw [← hsettled.handed_append]
    exact (List.sublist_append_left _ _).subperm
  have hle := (hsub.filter canCrash).length_le
  rw [hself, ← length_crashedWorkers] at hle
  exact hsettled.handedJobs_eq_iff.2 (hsettled.queue_eq_nil (Nat.lt_of_le_of_lt hle hfew))

/-- What the log says of the jobs holds if it holds whenever a job ends. -/
theorem forall_of_logged (owns : Job → h.State → Prop) (told : Event Job Result → Prop)
    (hstart : ∀ job, owns job (h.start job)) (hhanded : ∀ i job, told (.handed i job))
    (hgoes : ∀ {choice job state s t state'}, owns job state →
      h.advance choice state s = (t, .running state') → owns job state')
    (hends : ∀ {choice job state s t next}, owns job state →
      h.advance choice state s = (t, next) → ∀ i, ∀ e ∈ Event.ofJobStep i job next, told e)
    {width : Nat} {jobs : List Job} {shared : Shared} {log : List (Event Job Result)}
    {t : Shared × Pool h} (hlogged : Logged (shared, Pool.start h width jobs) log t) :
    (∀ job state gathered, Worker.busy job state gathered ∈ t.2.workers → owns job state) ∧
      ∀ e ∈ log, told e := by
  induction hlogged with
  | start =>
    refine ⟨?_, by simp⟩
    intro job state gathered hw
    cases List.eq_of_mem_replicate hw
  | @step log t u i choice _ hstep ih =>
    obtain ⟨s, p⟩ := t
    obtain ⟨s', q⟩ := u
    obtain ⟨howns, htold⟩ := ih
    have hset : ∀ w : Worker h, (∀ job state gathered, w = .busy job state gathered →
        owns job state) → ∀ job state gathered,
          Worker.busy job state gathered ∈ p.workers.set i w → owns job state := by
      intro w hnew job state gathered hmem
      rcases List.mem_or_eq_of_mem_set hmem with hold | heq
      · exact howns job state gathered hold
      · exact hnew job state gathered heq.symm
    rcases step_events hstep with ⟨gathered, hw, hqueue, rfl, hevents⟩ |
      ⟨gathered, job, rest, hw, hqueue, rfl, hevents⟩ |
      ⟨job, state, gathered, next, hw, hadvance, rfl, hevents⟩
    · rw [hevents, List.append_nil]
      exact ⟨hset _ (by simp), htold⟩
    · rw [hevents]
      refine ⟨hset _ ?_, List.forall_mem_append.2 ⟨htold, by simpa using hhanded i job⟩⟩
      intro job' state' gathered' heq
      cases heq
      exact hstart job
    · have hown := howns job state gathered (List.mem_of_getElem? hw)
      rw [hevents]
      refine ⟨hset _ ?_, List.forall_mem_append.2 ⟨htold, hends hown hadvance i⟩⟩
      intro job' state' gathered' heq
      cases next with
      | running state'' =>
        cases heq
        exact hgoes hown hadvance
      | returned | crashed => cases heq

/-! ## A pool that loses results -/

/-- Jobs that take one step, and crash if the function has no value. -/
def immediate (f : Job → Option Result) : Handler Shared Job Result where
  State := Job
  start := id
  advance _ job shared := (shared, (f job).elim .crashed .returned)
  stepsLeft _ := 0
  stepsLeft_advance := by
    intro choice job next shared shared' hadvance
    cases hf : f job <;> simp [hf] at hadvance

/-- Numbers are doubled; a job without a number crashes. -/
def doubling : Handler Unit (Option Nat) Nat :=
  immediate fun job => job.map (2 * ·)

/-- With a single worker all results before a crash are lost, and no job after it is handed out. -/
theorem along_doubling :
    along (List.replicate 6 (0, 0)) ((), Pool.start doubling 1 [some 1, some 2, none, some 4]) =
      some
        ([.handed 0 (some 1), .returned 0 (some 1) 2, .handed 0 (some 2), .returned 0 (some 2) 4,
          .handed 0 none, .crashed 0 none],
        ((),
          { queue := [some 4]
            workers := [.crashed]
            taken := [none, some 2, some 1]
            peak := 1 })) :=
  rfl

end Pool
end ProxyConfig
