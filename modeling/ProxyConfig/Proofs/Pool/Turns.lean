import ProxyConfig.Proofs.Pool.Discipline

/-!
# Workers that take turns

Every step of a pool brings it nearer to its end, and as long as a worker has not ended there is a
step.  Hence workers that take turns come to the end of all jobs, and what they do on the way are steps
like any others.

Main results:

- `stepsLeft_step`: a step brings the pool nearer to its end.
- `complete_spec`: where workers come to that take turns.
-/

namespace ProxyConfig
namespace Pool

variable {Shared Job Result : Type} {h : Handler Shared Job Result} {i choice : Nat}

/-! ## The steps that are left -/

/-- A sum over a list in which one item is replaced. -/
theorem foldr_add_replace {α : Type} (f : α → Nat) (front back : List α) (a b : α) :
    (front ++ b :: back).foldr (fun x n => f x + n) 0 + f a =
      (front ++ a :: back).foldr (fun x n => f x + n) 0 + f b := by
  induction front with
  | nil =>
    simp only [List.nil_append, List.foldr_cons]
    omega
  | cons x front ih =>
    simp only [List.cons_append, List.foldr_cons]
    omega

/-- If a sum over a list is zero all its terms are. -/
theorem eq_zero_of_foldr_add {α : Type} {f : α → Nat} {l : List α}
    (h : l.foldr (fun x n => f x + n) 0 = 0) : ∀ a ∈ l, f a = 0 := by
  induction l with
  | nil => simp
  | cons x l ih =>
    simp only [List.foldr_cons, Nat.add_eq_zero_iff] at h
    exact List.forall_mem_cons.2 ⟨h.1, ih h.2⟩

/-- Replacing a worker exchanges its steps. -/
theorem stepsLeft_setWorker {p : Pool h} {v w : Worker h} (hv : p.workers[i]? = some v) :
    (p.setWorker i w).stepsLeft + v.stepsLeft = p.stepsLeft + w.stepsLeft := by
  obtain ⟨front, back, hworkers, hset⟩ := set_eq_of_getElem? hv
  have hreplace := foldr_add_replace Worker.stepsLeft front back v w
  simp only [stepsLeft, setWorker, hset]
  rw [hworkers]
  omega

/-- A job is finished in fewer steps after each of its steps. -/
theorem stepsLeft_workerAfter {job : Job} {state : h.State} {gathered : List Result}
    {shared shared' : Shared} {next : JobStep h.State Result}
    (hadvance : h.advance choice state shared = (shared', next)) :
    (workerAfter job gathered next).stepsLeft < (Worker.busy job state gathered).stepsLeft := by
  cases next with
  | running state' =>
    have hless : h.stepsLeft state' < h.stepsLeft state := h.stepsLeft_advance hadvance
    simpa [workerAfter, Worker.stepsLeft] using hless
  | returned | crashed => simp [workerAfter, Worker.stepsLeft]

/-- A step brings the pool nearer to its end. -/
theorem stepsLeft_step {s t : Shared} {p q : Pool h} (hstep : step i choice (s, p) = some (t, q)) :
    q.stepsLeft < p.stepsLeft := by
  rcases step_cases hstep with ⟨gathered, hworker, _, _, rfl⟩ |
    ⟨gathered, job, rest, hworker, hqueue, _, rfl⟩ |
    ⟨job, state, gathered, next, hworker, hadvance, rfl⟩
  · have hset := stepsLeft_setWorker (w := .finished gathered) hworker
    simp only [Worker.stepsLeft] at hset
    omega
  · -- the steps of the job that was taken pass from the queue to the worker
    have hset := stepsLeft_setWorker (w := .busy job (h.start job) gathered) hworker
    have hidle : (Worker.idle gathered : Worker h).stepsLeft = 1 := rfl
    have hbusy : (Worker.busy job (h.start job) gathered).stepsLeft =
        h.stepsLeft (h.start job) + 2 := rfl
    rw [hidle, hbusy] at hset
    simp only [stepsLeft, setWorker, hqueue, List.foldr_cons] at hset
    simp only [stepsLeft, notePeak, setWorker, hqueue, List.foldr_cons]
    omega
  · have hset := stepsLeft_setWorker (w := workerAfter job gathered next) hworker
    have hless : (workerAfter job gathered next).stepsLeft <
        (Worker.busy job state gathered).stepsLeft := stepsLeft_workerAfter hadvance
    omega

/-- No run of a pool leads farther from its end. -/
theorem stepsLeft_run {s t : Shared × Pool h} (hrun : Relation.ReflTransGen Step s t) :
    t.2.stepsLeft ≤ s.2.stepsLeft := by
  induction hrun with
  | refl => exact Nat.le_refl _
  | tail _ hstep ih =>
    obtain ⟨i, choice, hstep⟩ := hstep
    exact Nat.le_trans (Nat.le_of_lt (stepsLeft_step hstep)) ih

/-- A worker that has not ended can take a step. -/
theorem exists_step {s : Shared} {p : Pool h} {w : Worker h} (hw : p.workers[i]? = some w)
    (hactive : w.hasEnded = false) (choice : Nat) : step i choice (s, p) ≠ none := by
  cases w with
  | finished | crashed => cases hactive
  | busy job state gathered => simp [step, hw]
  | idle gathered => cases hqueue : p.queue <;> simp [step, hw, hqueue]

/-- A pool that can take a step has not ended. -/
theorem hasEnded_of_step {s t : Shared} {p q : Pool h} (hstep : step i choice (s, p) = some (t, q)) :
    p.hasEnded = false := by
  obtain ⟨w, _, hw, hactive, _⟩ := exists_set_of_step hstep
  exact List.all_eq_false.2 ⟨w, List.mem_of_getElem? hw, by simp [hactive]⟩

/-- A pool without steps that are left has ended. -/
theorem hasEnded_of_stepsLeft {p : Pool h} (hleft : p.stepsLeft = 0) : p.hasEnded = true := by
  rw [stepsLeft, Nat.add_eq_zero_iff] at hleft
  refine List.all_eq_true.2 fun w hw => ?_
  have hzero : w.stepsLeft = 0 := eq_zero_of_foldr_add hleft.2 w hw
  cases w with
  | idle | busy => simp [Worker.stepsLeft] at hzero
  | finished | crashed => rfl

/-! ## Turns -/

/-- Some workers take a step, one after another, if they can. -/
def turns (choice : Nat) (indices : List Nat) (s : Shared × Pool h) : Shared × Pool h :=
  indices.foldl (fun s i => (step i choice s).getD s) s

/-- Turns are steps, and if one of the workers can take a step the pool comes nearer to its end. -/
theorem turns_spec (indices : List Nat) (s : Shared × Pool h) :
    Relation.ReflTransGen Step s (turns choice indices s) ∧
      ∀ i ∈ indices, step i choice s ≠ none →
        (turns choice indices s).2.stepsLeft < s.2.stepsLeft := by
  induction indices generalizing s with
  | nil => exact ⟨.refl, by simp⟩
  | cons i indices ih =>
    cases hstep : step i choice s with
    | none =>
      have hsame : turns choice (i :: indices) s = turns choice indices s := by
        simp [turns, hstep]
      rw [hsame]
      refine ⟨(ih s).1, fun j hj hcan => ?_⟩
      rcases List.mem_cons.1 hj with rfl | hj
      · exact absurd hstep hcan
      · exact (ih s).2 j hj hcan
    | some t =>
      have hnext : turns choice (i :: indices) s = turns choice indices t := by
        simp [turns, hstep]
      rw [hnext]
      have hless : t.2.stepsLeft < s.2.stepsLeft := stepsLeft_step hstep
      exact ⟨.head ⟨i, choice, hstep⟩ (ih t).1,
        fun _ _ _ => Nat.lt_of_le_of_lt (stepsLeft_run (ih t).1) hless⟩

/-- As long as a worker has not ended, a round brings the pool nearer to its end. -/
theorem stepsLeft_round {s : Shared × Pool h} (hactive : s.2.hasEnded = false) :
    (round choice s).2.stepsLeft < s.2.stepsLeft := by
  obtain ⟨w, hw, hwactive⟩ := List.all_eq_false.1 hactive
  obtain ⟨i, hi⟩ := List.getElem?_of_mem hw
  have hmem : i ∈ List.range s.2.workers.length :=
    List.mem_range.2 (List.getElem?_eq_some_iff.1 hi).1
  exact (turns_spec _ s).2 i hmem (exists_step hi (by simpa using hwactive) choice)

/-- Enough rounds lead to the end. -/
theorem rounds_spec (n : Nat) (s : Shared × Pool h) (hn : s.2.stepsLeft ≤ n) :
    Relation.ReflTransGen Step s (rounds choice n s) ∧ (rounds choice n s).2.hasEnded = true := by
  induction n generalizing s with
  | zero => exact ⟨.refl, hasEnded_of_stepsLeft (Nat.le_zero.1 hn)⟩
  | succ n ih =>
    rw [rounds]
    by_cases hended : s.2.hasEnded = true
    · rw [if_pos hended]
      exact ⟨.refl, hended⟩
    · rw [if_neg hended]
      have hless : (round choice s).2.stepsLeft < s.2.stepsLeft :=
        stepsLeft_round (by simpa using hended)
      obtain ⟨hreach, hend⟩ := ih (round choice s) (by omega)
      exact ⟨(turns_spec _ s).1.trans hreach, hend⟩

/-- Workers that take turns come to the end, by steps like any others. -/
theorem complete_spec (choice : Nat) (s : Shared × Pool h) :
    Relation.ReflTransGen Step s (complete choice s) ∧ (complete choice s).2.hasEnded = true :=
  rounds_spec _ s (Nat.le_refl _)

end Pool
end ProxyConfig
