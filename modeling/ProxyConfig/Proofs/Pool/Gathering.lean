import ProxyConfig.Proofs.Pool.Crash
import ProxyConfig.Proofs.Pool.Turns

/-!
# Gathering the results of a pool

Whoever has started the workers of a pool waits for them.  They are joined one by one, in any order
in which they end, while the others go on; joining a worker appends what it hands over to what was
gathered before.  As long as no job crashes nothing gets lost on this way: at every moment each
worker is either still waited for, or it has ended and its results are gathered.

Main results:

- `Gathered.isJoined`: no worker is forgotten or joined twice, in every run.
- `exists_step_of_waiting`: as long as a worker is waited for, there is a step.
- `pool_runs_every_job_once`: what a pool does with its jobs when none of them crashes.
-/

namespace ProxyConfig

variable {Shared Job Result : Type}

/-! ## Handlers that return -/

namespace Handler

variable (h : Handler Shared Job Result)

/-- A state to which a job can come, whatever others do to what they share with it. -/
inductive Reaches (job : Job) : h.State → Prop
  | start : Reaches job (h.start job)
  | advance {choice : Nat} {state next : h.State} {shared shared' : Shared}
      (hreach : Reaches job state)
      (hadvance : h.advance choice state shared = (shared', .running next)) : Reaches job next

/-- The job does not crash.  That it comes to an end is part of every handler. -/
def Returns (job : Job) : Prop :=
  ∀ state, h.Reaches job state → ∀ choice shared, (h.advance choice state shared).2 ≠ .crashed

/-- The job can return the result. -/
def Yields (job : Job) (result : Result) : Prop :=
  ∃ state, h.Reaches job state ∧
    ∃ choice shared shared', h.advance choice state shared = (shared', .returned result)

end Handler

namespace Pool

variable {h : Handler Shared Job Result}

/-! ## Joining workers -/

/-- A pool whose results are being gathered. -/
structure Gathering (h : Handler Shared Job Result) where
  shared : Shared
  pool : Pool h
  /-- The workers that were not joined yet. -/
  waiting : List Nat
  collected : List Result

/-- What can happen next. -/
inductive Move where
  | work (worker choice : Nat)
  | join (worker : Nat)
deriving Repr, DecidableEq

namespace Gathering

/-- Before the first step all workers are waited for. -/
def start (h : Handler Shared Job Result) (width : Nat) (jobs : List Job) (shared : Shared) :
    Gathering h where
  shared := shared
  pool := Pool.start h width jobs
  waiting := List.range (Pool.start h width jobs).workers.length
  collected := []

/-- A step of a worker, or joining a worker that has ended, with what shows of it. -/
def move? (g : Gathering h) : Move → Option (List (Event Job Result) × Gathering h)
  | .work i choice =>
    (step i choice (g.shared, g.pool)).map fun s =>
      (events i choice (g.shared, g.pool), { g with shared := s.1, pool := s.2 })
  | .join i =>
    (g.pool.workers[i]?).bind fun w =>
      if w.hasEnded = true ∧ i ∈ g.waiting then
        some ([], { g with waiting := g.waiting.erase i, collected := g.collected ++ w.results })
      else none

/-- Something happens. -/
def Step (g g' : Gathering h) : Prop :=
  ∃ move log, g.move? move = some (log, g')

/-- A bound on the steps that are left. -/
def stepsLeft (g : Gathering h) : Nat :=
  g.pool.stepsLeft + g.waiting.length

/-- What can happen: a worker takes a step, or a worker that has ended is joined. -/
theorem move?_cases {g g' : Gathering h} {move : Move} {es : List (Event Job Result)}
    (hmove : g.move? move = some (es, g')) :
    (∃ i choice shared p, step i choice (g.shared, g.pool) = some (shared, p) ∧
      es = events i choice (g.shared, g.pool) ∧ g' = { g with shared := shared, pool := p }) ∨
    ∃ i w, g.pool.workers[i]? = some w ∧ w.hasEnded = true ∧ i ∈ g.waiting ∧ es = [] ∧
      g' = { g with waiting := g.waiting.erase i, collected := g.collected ++ w.results } := by
  cases move with
  | work i choice =>
    obtain ⟨⟨shared, p⟩, hstep, heq⟩ := Option.map_eq_some_iff.1 hmove
    cases heq
    exact Or.inl ⟨i, choice, shared, p, hstep, rfl, rfl⟩
  | join i =>
    obtain ⟨w, hw, hjoin⟩ := Option.bind_eq_some_iff.1 hmove
    split at hjoin
    · rename_i hcan
      cases hjoin
      exact Or.inr ⟨i, w, hw, hcan.1, hcan.2, rfl, rfl⟩
    · cases hjoin

/-- Every step brings the end nearer. -/
theorem stepsLeft_of_step {g g' : Gathering h} (hstep : g.Step g') :
    g'.stepsLeft < g.stepsLeft := by
  obtain ⟨move, log, hmove⟩ := hstep
  rcases move?_cases hmove with ⟨i, choice, shared, p, hwork, _, rfl⟩ | ⟨i, w, _, _, hi, _, rfl⟩
  · exact Nat.add_lt_add_right (stepsLeft_step hwork) _
  · have hlength := List.length_erase_of_mem hi
    have hpos := List.length_pos_of_mem hi
    simp only [stepsLeft, hlength]
    omega

end Gathering

/-- A run with its log. -/
inductive Gathered (s : Gathering h) : List (Event Job Result) → Gathering h → Prop
  | start : Gathered s [] s
  | move {log es : List (Event Job Result)} {g g' : Gathering h} {move : Move}
      (hrun : Gathered s log g) (hmove : g.move? move = some (es, g')) :
      Gathered s (log ++ es) g'

/-- Where prescribed steps lead, with what shows on the way. -/
def Gathering.along : List Move → Gathering h → Option (List (Event Job Result) × Gathering h)
  | [], g => some ([], g)
  | move :: rest, g =>
    (g.move? move).bind fun t => (along rest t.2).map fun r => (t.1 ++ r.1, r.2)

variable {width : Nat} {jobs : List Job} {shared : Shared} {log : List (Event Job Result)}
  {g : Gathering h}

/-- A prescription that can be followed leads on with a run. -/
theorem Gathered.along {s g' : Gathering h} {moves : List Move} {more : List (Event Job Result)}
    (hrun : Gathered s log g) (halong : g.along moves = some (more, g')) :
    Gathered s (log ++ more) g' := by
  induction moves generalizing log more g with
  | nil =>
    cases halong
    rwa [List.append_nil]
  | cons move rest ih =>
    obtain ⟨⟨es, next⟩, hmove, hrest⟩ := Option.bind_eq_some_iff.1 halong
    obtain ⟨⟨later, last⟩, hlater, heq⟩ := Option.map_eq_some_iff.1 hrest
    cases heq
    rw [← List.append_assoc]
    exact ih (hrun.move hmove) hlater

/-- Joining does not change the pool, so its run is one like any other. -/
theorem Gathered.logged (hrun : Gathered (.start h width jobs shared) log g) :
    Logged (shared, Pool.start h width jobs) log (g.shared, g.pool) := by
  induction hrun with
  | start => exact .start
  | move _ hmove ih =>
    rcases Gathering.move?_cases hmove with ⟨i, choice, shared, p, hstep, rfl, rfl⟩ |
      ⟨i, w, _, _, _, rfl, rfl⟩
    · exact ih.step hstep
    · rwa [List.append_nil]

/-! ## Nobody is forgotten -/

/-- What the worker with this number hands over. -/
def resultsAt (p : Pool h) (i : Nat) : List Result :=
  p.workers[i]?.elim [] Worker.results

/-- Every worker is either waited for, or it was joined once after it had ended. -/
structure Gathering.IsJoined (joined : List Nat) (g : Gathering h) : Prop where
  perm : (joined ++ g.waiting).Perm (List.range g.pool.workers.length)
  ended : ∀ i ∈ joined, ∃ w, g.pool.workers[i]? = some w ∧ w.hasEnded = true
  collected : g.collected = joined.flatMap (resultsAt g.pool)

/-- What was gathered stays as it is when a worker takes a step; that worker was not joined. -/
theorem Gathering.IsJoined.work {joined : List Nat} {i choice : Nat} {t : Shared} {q : Pool h}
    (hjoined : g.IsJoined joined) (hstep : step i choice (g.shared, g.pool) = some (t, q)) :
    Gathering.IsJoined joined { g with shared := t, pool := q } := by
  obtain ⟨w, w', hw, hactive, hworkers⟩ := exists_set_of_step hstep
  have hsame : ∀ j ∈ joined, q.workers[j]? = g.pool.workers[j]? := by
    intro j hj
    obtain ⟨v, hv, hended⟩ := hjoined.ended j hj
    have hne : i ≠ j := by
      rintro rfl
      rw [hw, Option.some.injEq] at hv
      subst hv
      rw [hactive] at hended
      cases hended
    rw [hworkers, List.getElem?_set_ne hne]
  refine ⟨?_, ?_, ?_⟩
  · simpa [hworkers] using hjoined.perm
  · intro j hj
    obtain ⟨v, hv, hended⟩ := hjoined.ended j hj
    exact ⟨v, (hsame j hj).trans hv, hended⟩
  · rw [hjoined.collected]
    refine List.flatMap_congr fun j hj => ?_
    simp only [resultsAt, hsame j hj]

/-- Joining a worker gathers its results. -/
theorem Gathering.IsJoined.join {joined : List Nat} {i : Nat} {w : Worker h}
    (hjoined : g.IsJoined joined) (hw : g.pool.workers[i]? = some w) (hended : w.hasEnded = true)
    (hi : i ∈ g.waiting) :
    Gathering.IsJoined (joined ++ [i])
      { g with waiting := g.waiting.erase i, collected := g.collected ++ w.results } := by
  refine ⟨?_, ?_, ?_⟩
  · rw [List.append_assoc]
    exact ((List.perm_cons_erase hi).symm.append_left joined).trans hjoined.perm
  · intro j hj
    rcases List.mem_append.1 hj with hold | hnew
    · exact hjoined.ended j hold
    · rw [List.mem_singleton.1 hnew]
      exact ⟨w, hw, hended⟩
  · simp [hjoined.collected, resultsAt, hw]

/-- Whatever happens, no worker is forgotten. -/
theorem Gathering.IsJoined.move {joined : List Nat} {g' : Gathering h} {move : Move}
    {es : List (Event Job Result)} (hjoined : g.IsJoined joined)
    (hmove : g.move? move = some (es, g')) : ∃ joined', g'.IsJoined joined' := by
  rcases Gathering.move?_cases hmove with ⟨i, choice, shared, p, hstep, _, rfl⟩ |
    ⟨i, w, hw, hended, hi, _, rfl⟩
  · exact ⟨joined, hjoined.work hstep⟩
  · exact ⟨joined ++ [i], hjoined.join hw hended hi⟩

/-- In every run each worker is either waited for, or it was joined once after it had ended. -/
theorem Gathered.isJoined (hrun : Gathered (.start h width jobs shared) log g) :
    ∃ joined, g.IsJoined joined := by
  induction hrun with
  | start => exact ⟨[], List.Perm.refl _, by simp, rfl⟩
  | move _ hmove ih =>
    obtain ⟨joined, hjoined⟩ := ih
    exact hjoined.move hmove

/-- When nobody is waited for any more, the pool has ended and its results are gathered. -/
theorem Gathering.IsJoined.of_waiting_eq_nil {joined : List Nat} (hjoined : g.IsJoined joined)
    (hwaiting : g.waiting = []) : g.pool.hasEnded = true ∧ g.collected.Perm g.pool.results := by
  have hperm := hjoined.perm
  rw [hwaiting, List.append_nil] at hperm
  have hresults : g.pool.results =
      (List.range g.pool.workers.length).flatMap (resultsAt g.pool) :=
    flatMap_eq_flatMap_range fun i w hw => by simp [resultsAt, hw]
  refine ⟨List.all_eq_true.2 fun w hw => ?_, ?_⟩
  · obtain ⟨i, hi⟩ := List.getElem?_of_mem hw
    have hmem : i ∈ joined :=
      hperm.mem_iff.2 (List.mem_range.2 (List.getElem?_eq_some_iff.1 hi).1)
    obtain ⟨v, hv, hended⟩ := hjoined.ended i hmem
    rw [hi, Option.some.injEq] at hv
    rwa [hv]
  · rw [hjoined.collected, hresults]
    exact hperm.flatMap_right _

/-- As long as a worker is waited for, it can take a step or be joined. -/
theorem exists_step_of_waiting {joined : List Nat} (hjoined : g.IsJoined joined)
    (hwaiting : g.waiting ≠ []) : ∃ g', g.Step g' := by
  obtain ⟨i, hi⟩ := List.exists_mem_of_ne_nil _ hwaiting
  have hlt : i < g.pool.workers.length :=
    List.mem_range.1 (hjoined.perm.mem_iff.1 (List.mem_append_right joined hi))
  obtain ⟨w, hw⟩ : ∃ w, g.pool.workers[i]? = some w := ⟨_, List.getElem?_eq_getElem hlt⟩
  cases hended : w.hasEnded with
  | true =>
    have hmove : g.move? (.join i) = some ([],
        { g with waiting := g.waiting.erase i, collected := g.collected ++ w.results }) := by
      simp [Gathering.move?, hw, hended, hi]
    exact ⟨_, .join i, [], hmove⟩
  | false =>
    have hcan : step i 0 (g.shared, g.pool) ≠ none := exists_step hw hended 0
    obtain ⟨s, hs⟩ := Option.ne_none_iff_exists'.1 hcan
    have hmove : g.move? (.work i 0) = some (events i 0 (g.shared, g.pool),
        { g with shared := s.1, pool := s.2 }) := by
      simp [Gathering.move?, hs]
    exact ⟨_, .work i 0, _, hmove⟩

/-- Every run leads on until nobody is waited for. -/
theorem Gathered.exists_end {s : Gathering h} {joined : List Nat} (hrun : Gathered s log g)
    (hjoined : g.IsJoined joined) :
    ∃ more g', Gathered s (log ++ more) g' ∧ g'.waiting = [] := by
  induction hn : g.stepsLeft using Nat.strongRecOn generalizing log g joined with
  | ind n ih =>
    by_cases hwaiting : g.waiting = []
    · exact ⟨[], g, by rwa [List.append_nil], hwaiting⟩
    · obtain ⟨next, hstep⟩ := exists_step_of_waiting hjoined hwaiting
      have hless : next.stepsLeft < n := hn ▸ Gathering.stepsLeft_of_step hstep
      obtain ⟨move, es, hmove⟩ := hstep
      obtain ⟨joined', hjoined'⟩ := hjoined.move hmove
      obtain ⟨more, g', hrest, hend⟩ := ih _ hless (hrun.move hmove) hjoined' rfl
      rw [List.append_assoc] at hrest
      exact ⟨es ++ more, g', hrest, hend⟩

/-! ## Results -/

/-- A job that has returned, with its result. -/
def Event.outcome? : Event Job Result → Option (Job × Result)
  | returned _ job result => some (job, result)
  | _ => none

/-- The jobs that have returned, each with its result. -/
def outcomes (log : List (Event Job Result)) : List (Job × Result) :=
  log.filterMap Event.outcome?

theorem map_snd_outcomes : (outcomes log).map Prod.snd = returns log := by
  unfold outcomes returns
  rw [List.map_filterMap]
  congr 1
  funext e
  cases e <;> rfl

/-- Without crashes jobs end by returning. -/
theorem map_fst_outcomes (hcrashed : crashedJobs log = []) :
    (outcomes log).map Prod.fst = endedJobs log := by
  unfold outcomes endedJobs
  unfold crashedJobs at hcrashed
  rw [List.filterMap_eq_nil_iff] at hcrashed
  rw [List.map_filterMap]
  refine List.filterMap_congr fun e he => ?_
  cases e with
  | crashed i job => cases hcrashed _ he
  | handed | returned => rfl

/-- What happens to a job is something that its handler can do. -/
def Event.IsPossible (h : Handler Shared Job Result) : Event Job Result → Prop
  | handed _ _ => True
  | returned _ job result => h.Yields job result
  | crashed _ job => ¬ h.Returns job

/-- A job returns what it can return, and it crashes only if it can. -/
theorem outcomes_of_logged {t : Shared × Pool h}
    (hlogged : Logged (shared, Pool.start h width jobs) log t) :
    (∀ o ∈ outcomes log, h.Yields o.1 o.2) ∧ ∀ job ∈ crashedJobs log, ¬ h.Returns job := by
  have htold : ∀ e ∈ log, e.IsPossible h := by
    refine (forall_of_logged h.Reaches _ (fun _ => .start) (fun _ _ => trivial)
      (fun howns hadvance => .advance howns hadvance) ?_ hlogged).2
    intro choice job state s t next howns hadvance i e he
    cases next with
    | running => cases he
    | returned result =>
      rw [List.mem_singleton.1 he]
      exact ⟨state, howns, choice, s, t, hadvance⟩
    | crashed =>
      rw [List.mem_singleton.1 he]
      exact fun hreturns => hreturns state howns choice s (by rw [hadvance])
  constructor
  · intro o ho
    obtain ⟨e, he, heq⟩ := List.mem_filterMap.1 ho
    cases e with
    | returned i job result =>
      cases heq
      exact htold _ he
    | handed | crashed => cases heq
  · intro job hjob
    obtain ⟨e, he, heq⟩ := List.mem_filterMap.1 hjob
    cases e with
    | crashed i job' =>
      cases heq
      exact htold _ he
    | handed | returned => cases heq

/-- A job that has ended is one of those that the pool was given. -/
theorem Books.endedJobs_subset {n : Nat} {p : Pool h} (hb : Books jobs n log p) :
    endedJobs log ⊆ jobs := by
  intro job hjob
  rw [← hb.handed_append]
  exact List.mem_append_left _ (hb.ended_perm.mem_iff.1 (List.mem_append_left _ hjob))

/-- A pool whose jobs all return runs each of them once, with no more jobs at a time than it is
wide.  Its run comes to an end whatever happens, and what is gathered then are the results of all
jobs. -/
theorem pool_runs_every_job_once (hreturns : ∀ job ∈ jobs, h.Returns job)
    (hrun : Gathered (.start h width jobs shared) log g) :
    g.pool.running ≤ min (max width 1) jobs.length ∧
    (g.waiting = [] ∨ ∃ g', g.Step g') ∧
    (∀ g', g.Step g' → g'.stepsLeft < g.stepsLeft) ∧
    (∃ more g', Gathered (.start h width jobs shared) (log ++ more) g' ∧ g'.waiting = []) ∧
    handedJobs log ++ g.pool.queue = jobs ∧
    (g.waiting = [] →
      handedJobs log = jobs ∧
      ((outcomes log).map Prod.fst).Perm jobs ∧
      (∀ o ∈ outcomes log, h.Yields o.1 o.2) ∧
      g.collected.Perm ((outcomes log).map Prod.snd) ∧
      ∀ f : Job → Result, (∀ job ∈ jobs, ∀ result, h.Yields job result → result = f job) →
        g.collected.Perm (jobs.map f)) := by
  have hbooks := books_of_logged hrun.logged
  obtain ⟨joined, hjoined⟩ := hrun.isJoined
  obtain ⟨hyields, hcrashes⟩ := outcomes_of_logged hrun.logged
  have hnone : crashedJobs log = [] := by
    rw [List.eq_nil_iff_forall_not_mem]
    intro job hjob
    have hgiven : job ∈ jobs := hbooks.endedJobs_subset (crashedJobs_sublist.subset hjob)
    exact hcrashes job hjob (hreturns job hgiven)
  have hrunning : g.pool.running ≤ min (max width 1) jobs.length := by
    have hle : g.pool.running ≤ g.pool.workers.length := List.countP_le_length
    rwa [hbooks.length_workers] at hle
  refine ⟨hrunning, ?_, fun _ => Gathering.stepsLeft_of_step, hrun.exists_end hjoined,
    hbooks.handed_append, ?_⟩
  · by_cases hwaiting : g.waiting = []
    · exact Or.inl hwaiting
    · exact Or.inr (exists_step_of_waiting hjoined hwaiting)
  · intro hwaiting
    obtain ⟨hended, hcollected⟩ := hjoined.of_waiting_eq_nil hwaiting
    have hsettled := hbooks.settled hended
    have hhanded : handedJobs log = jobs := by
      rcases Nat.eq_zero_or_pos (min (effectiveWidth width) jobs.length) with hzero | hpos
      · -- There are no workers only if there are no jobs.
        have hempty : jobs = [] := by
          unfold effectiveWidth at hzero
          exact List.length_eq_zero_iff.1 (by omega)
        have happend := hbooks.handed_append
        rw [hempty] at happend ⊢
        exact (List.append_eq_nil_iff.1 happend).1
      · refine hsettled.handedJobs_eq_iff.2 (hsettled.queue_eq_nil ?_)
        rwa [length_crashedWorkers, hnone]
    have hfirst : ((outcomes log).map Prod.fst).Perm jobs := by
      rw [map_fst_outcomes hnone]
      exact hhanded ▸ hsettled.ended_perm
    have hsecond : g.collected.Perm ((outcomes log).map Prod.snd) := by
      rw [map_snd_outcomes]
      refine hcollected.trans (hsettled.results_perm_iff.2 fun i hi => ?_)
      obtain ⟨job, he⟩ := mem_crashedWorkers.1 hi
      have hjob : job ∈ crashedJobs log := List.mem_filterMap.2 ⟨_, he, rfl⟩
      rw [hnone] at hjob
      cases hjob
    refine ⟨hhanded, hfirst, hyields, hsecond, fun f hf => hsecond.trans ?_⟩
    have hvalues : (outcomes log).map Prod.snd = ((outcomes log).map Prod.fst).map f := by
      rw [List.map_map]
      refine List.map_congr_left fun o ho => ?_
      exact hf o.1 (hfirst.subset (List.mem_map_of_mem ho)) o.2 (hyields o ho)
    rw [hvalues]
    exact hfirst.map f

/-- Jobs that double their number. -/
def doublingAll : Handler Unit Nat Nat :=
  immediate fun n => some (2 * n)

theorem returns_doublingAll (job : Nat) : doublingAll.Returns job := by
  intro state _ choice shared hcrash
  cases hcrash

theorem eq_of_yields_doublingAll {job result : Nat} (h : doublingAll.Yields job result) :
    result = 2 * job := by
  obtain ⟨state, hreach, choice, shared, shared', hadvance⟩ := h
  cases hreach with
  | start =>
    cases hadvance
    rfl
  | advance _ hrunning => cases hrunning

/-- Two workers share three jobs, two of which are alike.  The second worker is joined first. -/
theorem along_doublingAll :
    Gathering.along [.work 0 0, .work 1 0, .work 1 0, .work 1 0, .work 1 0, .work 1 0, .join 1,
        .work 0 0, .work 0 0, .join 0] (.start doublingAll 2 [3, 3, 5] ()) =
      some
        ([.handed 0 3, .handed 1 3, .returned 1 3 6, .handed 1 5, .returned 1 5 10,
          .returned 0 3 6],
        { shared := ()
          pool :=
            { queue := []
              workers := [.finished [6], .finished [6, 10]]
              taken := [5, 3, 3]
              peak := 2 }
          waiting := []
          collected := [6, 10, 6] }) :=
  rfl

/-- What the run of the sample gathers are the results of all jobs. -/
theorem pool_runs_every_job_once_sample :
    ∃ log g, (∀ job ∈ [3, 3, 5], doublingAll.Returns job) ∧
      Gathered (.start doublingAll 2 [3, 3, 5] ()) log g ∧ g.waiting = [] ∧
      handedJobs log = [3, 3, 5] ∧ g.collected = [6, 10, 6] ∧
      g.collected.Perm ([3, 3, 5].map (2 * ·)) := by
  have hreturns : ∀ job ∈ [3, 3, 5], doublingAll.Returns job :=
    fun job _ => returns_doublingAll job
  have hrun := Gathered.start.along along_doublingAll
  obtain ⟨_, _, _, _, _, hend⟩ := pool_runs_every_job_once hreturns hrun
  obtain ⟨hhanded, _, _, _, hvalues⟩ := hend rfl
  exact ⟨_, _, hreturns, hrun, rfl, hhanded, rfl, hvalues _ fun _ _ _ => eq_of_yields_doublingAll⟩

end Pool
end ProxyConfig
