/-!
# A pool of workers

Jobs wait in a queue, and a fixed number of workers take them from it.  A worker gathers the
results of its jobs and hands them over when the queue is empty; a worker whose job crashes ends,
and what it had gathered is lost.

Workers proceed in steps, in any order.  What a single job does in a step, and how many steps it can
take, is described by a handler.

Main definitions:

- `Handler`: how one job proceeds, with a proof that it comes to an end.
- `Pool.step`: one step of one worker, which is all that a schedule is made of.
- `Pool.complete`: the schedule in which the workers take turns.
-/

namespace ProxyConfig

/-- What a step of a job leads to. -/
inductive JobStep (State Result : Type) where
  | running (state : State)
  | returned (result : Result)
  | crashed

/-- How jobs proceed.  A step may change what all workers share, and it may depend on a choice of
the surroundings. -/
structure Handler (Shared Job Result : Type) where
  State : Type
  start : Job → State
  advance : (choice : Nat) → State → Shared → Shared × JobStep State Result
  /-- A bound on the steps that are left. -/
  stepsLeft : State → Nat
  stepsLeft_advance : ∀ {choice : Nat} {s next : State} {sh sh' : Shared},
    advance choice s sh = (sh', .running next) → stepsLeft next < stepsLeft s

variable {Shared Job Result : Type}

/-- A worker of a pool. -/
inductive Worker (h : Handler Shared Job Result) where
  /-- Between two jobs. -/
  | idle (gathered : List Result)
  | busy (job : Job) (state : h.State) (gathered : List Result)
  /-- Ended because no job was left. -/
  | finished (gathered : List Result)
  /-- Ended because its job crashed. -/
  | crashed

namespace Worker

variable {h : Handler Shared Job Result}

/-- The worker has a job. -/
def isBusy : Worker h → Bool
  | .busy .. => true
  | _ => false

/-- The worker has ended. -/
def hasEnded : Worker h → Bool
  | .finished _ | .crashed => true
  | _ => false

/-- The results that the worker hands over when it has ended. -/
def results : Worker h → List Result
  | .finished gathered => gathered
  | _ => []

/-- A bound on the steps that are left until the worker is between two jobs or has ended. -/
def stepsLeft : Worker h → Nat
  | .idle _ => 1
  | .busy _ state _ => h.stepsLeft state + 2
  | .finished _ | .crashed => 0

end Worker

/-- A pool of workers. -/
structure Pool (h : Handler Shared Job Result) where
  /-- The jobs that nobody has taken yet. -/
  queue : List Job
  workers : List (Worker h)
  /-- The jobs that were taken, the last one first. -/
  taken : List Job := []
  /-- The most jobs that ran at the same time so far. -/
  peak : Nat := 0

namespace Pool

variable {h : Handler Shared Job Result}

/-- The number of workers for a requested width; there is at least one. -/
def effectiveWidth (width : Nat) : Nat :=
  max width 1

/-- A pool before its first step.  There are not more workers than jobs. -/
def start (h : Handler Shared Job Result) (width : Nat) (jobs : List Job) : Pool h where
  queue := jobs
  workers := List.replicate (min (effectiveWidth width) jobs.length) (.idle [])

/-- The number of jobs that run now. -/
def running (p : Pool h) : Nat :=
  p.workers.countP Worker.isBusy

/-- All workers have ended. -/
def hasEnded (p : Pool h) : Bool :=
  p.workers.all Worker.hasEnded

/-- The results of all workers that have finished. -/
def results (p : Pool h) : List Result :=
  p.workers.flatMap Worker.results

/-- Replace a worker. -/
def setWorker (p : Pool h) (i : Nat) (w : Worker h) : Pool h :=
  { p with workers := p.workers.set i w }

/-- Note how many jobs run. -/
def notePeak (p : Pool h) : Pool h :=
  { p with peak := max p.peak p.running }

/-- One step of one worker.  An idle worker takes the next job, or finishes if there is none; a busy
one goes on with its job. -/
def step (i choice : Nat) (s : Shared × Pool h) : Option (Shared × Pool h) :=
  match s.2.workers[i]? with
  | some (.idle gathered) =>
    match s.2.queue with
    | [] => some (s.1, s.2.setWorker i (.finished gathered))
    | job :: rest =>
      let p := s.2.setWorker i (.busy job (h.start job) gathered)
      some (s.1, notePeak { p with queue := rest, taken := job :: p.taken })
  | some (.busy job state gathered) =>
    let (shared, next) := h.advance choice state s.1
    let w : Worker h :=
      match next with
      | .running state => .busy job state gathered
      | .returned result => .idle (gathered ++ [result])
      | .crashed => .crashed
    some (shared, s.2.setWorker i w)
  | _ => none

/-- A step of some worker. -/
def Step (s t : Shared × Pool h) : Prop :=
  ∃ i choice, step i choice s = some t

/-- A bound on the steps that are left. -/
def stepsLeft (p : Pool h) : Nat :=
  p.queue.foldr (fun job n => h.stepsLeft (h.start job) + 2 + n) 0 +
    p.workers.foldr (fun w n => w.stepsLeft + n) 0

/-- Every worker takes one step, if it can. -/
def round (choice : Nat) (s : Shared × Pool h) : Shared × Pool h :=
  (List.range s.2.workers.length).foldl (fun s i => (step i choice s).getD s) s

/-- Several rounds, as long as there is a worker that has not ended. -/
def rounds (choice : Nat) : Nat → Shared × Pool h → Shared × Pool h
  | 0, s => s
  | n + 1, s => if s.2.hasEnded then s else rounds choice n (round choice s)

/-- Take turns until all workers have ended. -/
def complete (choice : Nat) (s : Shared × Pool h) : Shared × Pool h :=
  rounds choice s.2.stepsLeft s

end Pool
end ProxyConfig
