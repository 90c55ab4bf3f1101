import ProxyConfig.Proofs.RuleSet.Serial

/-!
# The lock of a synchronizer

The steps of runs on one synchronizer may interleave in every way, and time may pass between them.
Since a run holds the lock from its first step to its last, what comes out is what comes out when the
runs are carried out one after another, in the order in which they took the lock.  While a run has the
lock no other run has a download in flight; and runs that force nothing do not repeat the work of those
before them.

Main results:

- `SyncSystem.orderly_run`: who has the lock, at every moment.
- `synchronizations_serialize`: what is known of runs on one synchronizer at every moment.
-/

namespace ProxyConfig

open Files
open scoped List

variable {dir : String} {lapse : Lapse}

namespace SyncSystem

/-! ## Steps -/

/-- A step lets a waiting run take the lock, or a run goes on by itself. -/
theorem step_cases {s t : SyncSystem dir} {i worker choice : Nat}
    (hstep : s.step i worker choice = some t) :
    (∃ call requested, s.runs[i]? = some ⟨call, .waiting, requested⟩ ∧ s.holder = none ∧
      t = { s with
        runs := s.runs.set i ⟨call, .entered, requested⟩
        holder := some i
        entered := i :: s.entered }) ∨
    ∃ call phase requested u next, s.runs[i]? = some ⟨call, phase, requested⟩ ∧
      phase.step call.request worker choice ⟨s.files, s.now, requested⟩ = some (u, next) ∧
      t = { s with
        files := u.files
        runs := s.runs.set i ⟨call, next, u.requested⟩
        holder := if next.hasEnded then none else s.holder } := by
  unfold step at hstep
  split at hstep
  · cases hstep
  · rename_i call requested hrun
    split at hstep
    · cases hstep
    · rename_i hfree
      cases hstep
      exact Or.inl ⟨call, requested, hrun, by simpa using hfree, rfl⟩
  · rename_i call phase requested _ hrun
    obtain ⟨⟨u, next⟩, hnext, rfl⟩ := Option.map_eq_some_iff.1 hstep
    exact Or.inr ⟨call, phase, requested, u, next, hrun, hnext, rfl⟩

/-- A run that has not taken the lock, or has ended, has no step of its own. -/
theorem phase_of_step {y : Synchronizer} {phase next : SyncPhase y} {request : SyncRequest}
    {worker choice : Nat} {u v : SyncState}
    (hstep : phase.step request worker choice u = some (v, next)) :
    phase ≠ .waiting ∧ phase.hasEnded = false := by
  cases SyncPhase.advances_of_step hstep <;> exact ⟨by simp, rfl⟩

/-! ## The lock -/

/-- Some runs, the last one first. -/
def pick (runs : List (SyncRun dir)) (indices : List Nat) : List (SyncRun dir) :=
  indices.reverse.filterMap fun i => runs[i]?

/-- The run has ended. -/
def RunEnded (runs : List (SyncRun dir)) (i : Nat) : Prop :=
  ∃ run, runs[i]? = some run ∧ run.phase.hasEnded = true

/-- Either nobody has the lock, and all runs that have taken it have ended; or the last one of them has
it, and the others have ended. -/
inductive Locked (lapse : Lapse) (a : Folder × Time) (s : SyncSystem dir) : Prop
  | free (hholder : s.holder = none) (hended : ∀ i ∈ s.entered, RunEnded s.runs i)
      (hserial : Serial lapse a (pick s.runs s.entered) (s.files, s.now))
  | held {i : Nat} {before : List Nat} {run : SyncRun dir} {b : Folder × Time}
      (hholder : s.holder = some i) (hentered : s.entered = i :: before)
      (hrun : s.runs[i]? = some run) (hactive : run.phase.hasEnded = false)
      (hended : ∀ j ∈ before, RunEnded s.runs j)
      (hserial : Serial lapse a (pick s.runs before) b)
      (hsolo : run.Solo lapse b (s.files, s.now))

/-- What holds of runs on one synchronizer at all times. -/
structure Orderly (lapse : Lapse) (a : Folder × Time) (calls : List SyncCall)
    (s : SyncSystem dir) : Prop where
  calls : s.runs.map SyncRun.call = calls
  nodup : s.entered.Nodup
  outside : ∀ i run, s.runs[i]? = some run → i ∉ s.entered →
    run.phase = .waiting ∧ run.requested = []
  lock : Locked lapse a s

section Lock

variable {runs : List (SyncRun dir)} {indices : List Nat} {i j : Nat} {run : SyncRun dir}
  {a : Folder × Time} {calls : List SyncCall} {s t : SyncSystem dir}

theorem pick_cons (h : runs[i]? = some run) :
    pick runs (i :: indices) = pick runs indices ++ [run] := by
  rw [pick, List.reverse_cons, List.filterMap_append, ← pick]
  simp [h]

/-- Runs that are not picked do not matter. -/
theorem pick_set (h : i ∉ indices) : pick (runs.set i run) indices = pick runs indices := by
  unfold pick
  apply List.filterMap_congr
  intro j hj
  apply List.getElem?_set_ne
  rintro rfl
  exact h (List.mem_reverse.1 hj)

theorem runEnded_set (h : i ∉ indices) (hended : ∀ j ∈ indices, RunEnded runs j) :
    ∀ j ∈ indices, RunEnded (runs.set i run) j := by
  intro j hj
  obtain ⟨other, hother, hphase⟩ := hended j hj
  refine ⟨other, ?_, hphase⟩
  rw [List.getElem?_set_ne]
  · exact hother
  · rintro rfl
    exact h hj

/-- All picked runs have ended. -/
theorem hasEnded_of_mem_pick (hended : ∀ j ∈ indices, RunEnded runs j) :
    ∀ run ∈ pick runs indices, run.phase.hasEnded = true := by
  intro run hrun
  obtain ⟨j, hj, hget⟩ := List.mem_filterMap.1 hrun
  obtain ⟨other, hother, hphase⟩ := hended j (List.mem_reverse.1 hj)
  rw [hget] at hother
  cases hother
  exact hphase

/-- Replacing a run keeps the calls if it keeps its own. -/
theorem map_call_set {call : SyncCall} {phase phase' : SyncPhase (call.synchronizer dir)}
    {requested requested' : List String} (h : runs[i]? = some ⟨call, phase, requested⟩) :
    (runs.set i ⟨call, phase', requested'⟩).map SyncRun.call = runs.map SyncRun.call := by
  apply List.ext_getElem?
  intro j
  rw [List.getElem?_map, List.getElem?_map]
  by_cases hj : i = j
  · subst hj
    rw [List.getElem?_set_self (List.getElem?_eq_some_iff.1 h).1, h]
    rfl
  · rw [List.getElem?_set_ne hj]

theorem orderly_start (files : Folder) (now : Time) (calls : List SyncCall) :
    Orderly lapse (files, now) calls (start dir files now calls) where
  calls := by simp [start, Function.comp_def]
  nodup := List.nodup_nil
  outside := by
    intro i run hrun _
    obtain ⟨call, _, rfl⟩ := List.mem_map.1 (List.mem_of_getElem? hrun)
    exact ⟨rfl, rfl⟩
  lock := .free rfl (by simp [start]) .nil

/-- A run that waits takes the lock. -/
theorem orderly_enter {call : SyncCall} {requested : List String} (h : Orderly lapse a calls s)
    (hrun : s.runs[i]? = some ⟨call, .waiting, requested⟩) (hfree : s.holder = none) :
    Orderly lapse a calls
      { s with
        runs := s.runs.set i ⟨call, .entered, requested⟩
        holder := some i
        entered := i :: s.entered } := by
  cases h.lock with
  | held hholder => simp [hfree] at hholder
  | free _ hended hserial =>
    have hnew : i ∉ s.entered := by
      intro hmem
      obtain ⟨run, hget, hphase⟩ := hended i hmem
      rw [hrun] at hget
      cases hget
      cases hphase
    have hnone : requested = [] := (h.outside i _ hrun hnew).2
    have hlength : i < s.runs.length := (List.getElem?_eq_some_iff.1 hrun).1
    refine ⟨(map_call_set hrun).trans h.calls, List.nodup_cons.2 ⟨hnew, h.nodup⟩, ?_, ?_⟩
    · intro j run hget hj
      rw [List.mem_cons, not_or] at hj
      rw [List.getElem?_set_ne (Ne.symm hj.1)] at hget
      exact h.outside j run hget hj.2
    · refine .held (b := (s.files, s.now)) rfl rfl (List.getElem?_set_self hlength) rfl
        (runEnded_set hnew hended) ?_ ?_
      · rw [pick_set hnew]
        exact hserial
      · rw [hnone]
        exact .refl

/-- A run that is under way has the lock, since no other run is. -/
theorem Orderly.held_of_active (h : Orderly lapse a calls s) (hrun : s.runs[i]? = some run)
    (hwaiting : run.phase ≠ .waiting) (hactive : run.phase.hasEnded = false) :
    ∃ before b, s.holder = some i ∧ s.entered = i :: before ∧
      (∀ j ∈ before, RunEnded s.runs j) ∧ Serial lapse a (pick s.runs before) b ∧
      run.Solo lapse b (s.files, s.now) := by
  have hinside : i ∈ s.entered := by
    by_contra hout
    exact hwaiting (h.outside i _ hrun hout).1
  have hnotEnded : ¬ RunEnded s.runs i := by
    rintro ⟨other, hother, hphase⟩
    rw [hrun] at hother
    cases hother
    simp [hactive] at hphase
  cases h.lock with
  | free _ hended _ => exact absurd (hended i hinside) hnotEnded
  | @held k before other b hholder hentered hholding _ hended hserial hsolo =>
    have hk : i = k := by
      rw [hentered, List.mem_cons] at hinside
      exact hinside.resolve_right fun hmem => hnotEnded (hended i hmem)
    subst hk
    rw [hrun] at hholding
    cases hholding
    exact ⟨before, b, hholder, hentered, hended, hserial, hsolo⟩

/-- A run that is under way goes on, and gives the lock back when it ends. -/
theorem orderly_advance {call : SyncCall} {phase next : SyncPhase (call.synchronizer dir)}
    {requested : List String} {worker choice : Nat} {u : SyncState} (h : Orderly lapse a calls s)
    (hrun : s.runs[i]? = some ⟨call, phase, requested⟩)
    (hstep : phase.step call.request worker choice ⟨s.files, s.now, requested⟩ = some (u, next)) :
    Orderly lapse a calls
      { s with
        files := u.files
        runs := s.runs.set i ⟨call, next, u.requested⟩
        holder := if next.hasEnded then none else s.holder } := by
  obtain ⟨hwaiting, hactive⟩ := phase_of_step hstep
  obtain ⟨before, b, hholder, hentered, hended, hserial, hsolo⟩ :=
    h.held_of_active hrun hwaiting hactive
  have hnew : i ∉ before := by
    have hnodup := h.nodup
    rw [hentered, List.nodup_cons] at hnodup
    exact hnodup.1
  have hget : (s.runs.set i ⟨call, next, u.requested⟩)[i]? = some ⟨call, next, u.requested⟩ :=
    List.getElem?_set_self (List.getElem?_eq_some_iff.1 hrun).1
  have hserial' : Serial lapse a (pick (s.runs.set i ⟨call, next, u.requested⟩) before) b := by
    rw [pick_set hnew]
    exact hserial
  have hended' : ∀ j ∈ before, RunEnded (s.runs.set i ⟨call, next, u.requested⟩) j :=
    runEnded_set hnew hended
  have hsolo' : SyncRun.Solo lapse ⟨call, next, u.requested⟩ b (u.files, s.now) := by
    have hstate : u = ⟨u.files, s.now, u.requested⟩ := by
      rw [← show u.now = s.now from (SyncPhase.advances_of_step hstep).now_eq]
    rw [hstate] at hstep
    exact Relation.ReflTransGen.tail hsolo (Or.inl ⟨worker, choice, hstep⟩)
  refine ⟨(map_call_set hrun).trans h.calls, h.nodup, ?_, ?_⟩
  · intro j run hother hj
    have hji : i ≠ j := by
      rintro rfl
      exact hj (by simp [hentered])
    rw [List.getElem?_set_ne hji] at hother
    exact h.outside j run hother hj
  · cases hnext : next.hasEnded with
    | false => exact .held (by simpa using hholder) hentered hget hnext hended' hserial' hsolo'
    | true =>
      refine .free (by simp) ?_ ?_
      · intro j hj
        rw [hentered, List.mem_cons] at hj
        rcases hj with rfl | hj
        · exact ⟨_, hget, hnext⟩
        · exact hended' j hj
      · rw [hentered, pick_cons hget]
        exact .run hserial' (hasEnded_of_mem_pick hended') hsolo'

/-- Time passes, for the run that has the lock or after all runs that have taken it. -/
theorem orderly_wait {seconds : Nat} (h : Orderly lapse a calls s)
    (hpass : lapse s.files s.now (s.now + seconds)) : Orderly lapse a calls (s.wait seconds) := by
  refine ⟨h.calls, h.nodup, h.outside, ?_⟩
  cases h.lock with
  | free hholder hended hserial =>
    exact .free hholder hended (.wait hserial (hasEnded_of_mem_pick hended) hpass)
  | held hholder hentered hrun hactive hended hserial hsolo =>
    exact .held hholder hentered hrun hactive hended hserial
      (hsolo.tail (Or.inr ⟨seconds, hpass, rfl⟩))

theorem orderly_run (hrun : Relation.ReflTransGen (Step lapse) s t) (h : Orderly lapse a calls s) :
    Orderly lapse a calls t := by
  induction hrun with
  | refl => exact h
  | tail _ hstep ih =>
    rcases hstep with ⟨i, worker, choice, hstep⟩ | ⟨seconds, hpass, rfl⟩
    · rcases step_cases hstep with ⟨_, _, hrun, hfree, rfl⟩ | ⟨_, _, _, _, _, hrun, hnext, rfl⟩
      · exact orderly_enter ih hrun hfree
      · exact orderly_advance ih hrun hnext
    · exact orderly_wait ih hpass

/-! ## What follows for the runs -/

/-- A run that has taken the lock is one of the runs. -/
theorem Orderly.lt_length (h : Orderly lapse a calls s) (hi : i ∈ s.entered) :
    i < calls.length := by
  rw [← h.calls, List.length_map]
  by_contra hout
  rw [Nat.not_lt, ← List.getElem?_eq_none_iff] at hout
  cases h.lock with
  | free _ hended _ =>
    obtain ⟨run, hrun, _⟩ := hended i hi
    rw [hout] at hrun
    cases hrun
  | held _ hentered hrun _ hended _ _ =>
    rw [hentered, List.mem_cons] at hi
    rcases hi with rfl | hi
    · rw [hout] at hrun
      cases hrun
    · obtain ⟨run, hrun, _⟩ := hended i hi
      rw [hout] at hrun
      cases hrun

/-- The runs that have taken the lock can be carried out one after another. -/
theorem Orderly.serial (h : Orderly lapse a calls s) :
    Serial lapse a s.inOrder (s.files, s.now) := by
  change Serial lapse a (pick s.runs s.entered) (s.files, s.now)
  cases h.lock with
  | free _ _ hserial => exact hserial
  | held _ hentered hrun _ hended hserial hsolo =>
    rw [hentered, pick_cons hrun]
    exact .run hserial (hasEnded_of_mem_pick hended) hsolo

/-- When all runs have ended, all of them have taken the lock. -/
theorem Orderly.perm_range (h : Orderly lapse a calls s) (hended : s.hasEnded = true) :
    s.entered.Perm (List.range calls.length) := by
  refine (List.perm_ext_iff_of_nodup h.nodup List.nodup_range).2 fun i => ?_
  rw [List.mem_range]
  refine ⟨h.lt_length, fun hi => ?_⟩
  rw [← h.calls, List.length_map] at hi
  by_contra hout
  have hwaiting := (h.outside i _ (List.getElem?_eq_getElem hi) hout).1
  have hphase := List.all_eq_true.1 hended _ (List.getElem_mem hi)
  rw [hwaiting] at hphase
  cases hphase

/-! ## Downloads in flight -/

/-- The downloads in flight of a run among others. -/
def inFlightOf (e : SyncRun dir × Nat) : List (Nat × DownloadJob) :=
  e.1.phase.inFlight.map fun job => (e.2, job)

/-- A run that has ended or still waits has no download in flight. -/
theorem inFlightOf_eq_nil {e : SyncRun dir × Nat}
    (h : e.1.phase = .waiting ∨ e.1.phase.hasEnded = true) : inFlightOf e = [] := by
  obtain ⟨⟨call, phase, requested⟩, i⟩ := e
  cases phase with
  | downloading => simp [SyncPhase.hasEnded] at h
  | waiting | entered | checking | ended => rfl

/-- If all entries but one give nothing, that one gives everything. -/
theorem flatMap_eq_of_alone {α β : Type} {f : α → List β} {l : List α} {i : Nat} {x : α}
    (hx : l[i]? = some x) (hothers : ∀ j y, l[j]? = some y → j ≠ i → f y = []) :
    l.flatMap f = f x := by
  induction l generalizing i with
  | nil => simp at hx
  | cons y l ih =>
    rw [List.flatMap_cons]
    cases i with
    | zero =>
      have hy : y = x := by simpa using hx
      have hrest : l.flatMap f = [] := by
        rw [List.flatMap_eq_nil_iff]
        intro z hz
        obtain ⟨j, hj⟩ := List.getElem?_of_mem hz
        exact hothers (j + 1) z (by simpa using hj) (by omega)
      rw [hy, hrest, List.append_nil]
    | succ i =>
      have hfirst : f y = [] := hothers 0 y rfl (by omega)
      have hrest : l.flatMap f = f x :=
        ih (by simpa using hx) fun j z hj hne => hothers (j + 1) z (by simpa using hj) (by omega)
      rw [hfirst, hrest, List.nil_append]

/-- All downloads in flight are those of the run that has the lock. -/
theorem Orderly.inFlight_cases (h : Orderly lapse a calls s) :
    s.inFlight = [] ∨ ∃ i run b, s.holder = some i ∧ s.runs[i]? = some run ∧
      s.inFlight = inFlightOf (run, i) ∧ run.Solo lapse b (s.files, s.now) := by
  have hidle : ∀ j run, s.runs[j]? = some run → j ∉ s.entered ∨ RunEnded s.runs j →
      inFlightOf (run, j) = [] := by
    rintro j run hrun (hout | ⟨other, hother, hended⟩)
    · exact inFlightOf_eq_nil (Or.inl (h.outside j run hrun hout).1)
    · rw [hrun] at hother
      cases hother
      exact inFlightOf_eq_nil (Or.inr hended)
  have hzip : ∀ (j : Nat) (e : SyncRun dir × Nat), s.runs.zipIdx[j]? = some e → s.runs[j]? = some e.1 ∧ e.2 = j := by
    intro j e he
    rw [List.getElem?_zipIdx, Option.map_eq_some_iff] at he
    obtain ⟨run, hrun, rfl⟩ := he
    exact ⟨hrun, by simp⟩
  cases h.lock with
  | free _ hended _ =>
    refine Or.inl (List.flatMap_eq_nil_iff.2 fun e he => ?_)
    obtain ⟨j, hj⟩ := List.getElem?_of_mem he
    obtain ⟨hrun, rfl⟩ := hzip j e hj
    exact hidle e.2 e.1 hrun (or_iff_not_imp_left.2 fun hin => hended e.2 (not_not.1 hin))
  | @held i before run b hholder hentered hrun _ hended _ hsolo =>
    refine Or.inr ⟨i, run, b, hholder, hrun, ?_, hsolo⟩
    refine flatMap_eq_of_alone (i := i) (x := (run, i)) ?_ ?_
    · rw [List.getElem?_zipIdx, hrun]
      simp
    · intro j e hj hne
      obtain ⟨hget, rfl⟩ := hzip j e hj
      refine hidle e.2 e.1 hget (or_iff_not_imp_left.2 fun hin => ?_)
      have hmem : e.2 ∈ i :: before := hentered ▸ not_not.1 hin
      exact hended e.2 ((List.mem_cons.1 hmem).resolve_left hne)

/-- There are never more downloads in flight than one run may have workers. -/
theorem Orderly.length_inFlight_le (h : Orderly lapse a calls s) :
    s.inFlight.length ≤ Synchronizer.width := by
  rcases h.inFlight_cases with hnone | ⟨i, run, b, _, _, hown, hsolo⟩
  · simp [hnone]
  · have hnarrow : run.phase.IsNarrow := SyncPhase.isNarrow_run hsolo trivial
    rw [hown, inFlightOf, List.length_map]
    exact SyncPhase.length_inFlight_le hnarrow

/-! ## Requests of all runs -/

/-- The addresses that the run with an index has requested. -/
def requestedAt (runs : List (SyncRun dir)) (i : Nat) : List String :=
  (runs[i]?).elim [] SyncRun.requested

theorem requestedBy_filterMap (runs : List (SyncRun dir)) (indices : List Nat) :
    requestedBy (indices.filterMap fun i => runs[i]?) = indices.flatMap (requestedAt runs) := by
  induction indices with
  | nil => rfl
  | cons i indices ih =>
    rw [List.flatMap_cons, ← ih]
    cases hget : runs[i]? <;> simp [hget, requestedAt, requestedBy]

theorem requestedBy_eq_flatMap_range (runs : List (SyncRun dir)) :
    requestedBy runs = (List.range runs.length).flatMap (requestedAt runs) := by
  have hmap : runs.map SyncRun.requested = (List.range runs.length).map (requestedAt runs) :=
    List.ext_getElem (by simp) (by simp +contextual [requestedAt])
  rw [requestedBy, List.flatMap_def, hmap, ← List.flatMap_def]

/-- Those who have not taken the lock have requested nothing. -/
theorem Orderly.requested_perm (h : Orderly lapse a calls s) :
    (requestedBy s.runs).Perm (requestedBy s.inOrder) := by
  have hlength : calls.length = s.runs.length := by
    rw [← h.calls, List.length_map]
  rw [requestedBy_eq_flatMap_range, inOrder, requestedBy_filterMap]
  refine Pool.flatMap_perm List.nodup_range (List.nodup_reverse.2 h.nodup) ?_ ?_
  · intro i hi
    rw [List.mem_range, ← hlength]
    exact h.lt_length (List.mem_reverse.1 hi)
  · intro i hi
    have hout : i ∉ s.entered := fun hmem => hi (List.mem_reverse.2 hmem)
    unfold requestedAt
    cases hget : s.runs[i]? with
    | none => rfl
    | some run => exact (h.outside i run hget hout).2

end Lock

/-! ## The theorem -/

/-- What is known at every moment of runs on the synchronizer of a folder that began with these files at
this time. -/
structure Serialized (lapse : Lapse) (files : Folder) (now : Time) (calls : List SyncCall)
    (s : SyncSystem dir) : Prop where
  /-- There is one run for each call. -/
  runs : s.runs.map SyncRun.call = calls
  /-- A run takes the lock once, -/
  nodup : s.entered.Nodup
  /-- a run that has not taken it has done nothing, -/
  outside : ∀ i run, s.runs[i]? = some run → i ∉ s.entered →
    run.phase = .waiting ∧ run.requested = []
  /-- and if all runs have ended all have taken it. -/
  complete : s.hasEnded = true → s.entered.Perm (List.range calls.length)
  /-- The runs that have taken the lock have come as far, with these results and these requests, as
  they come one after another in the order in which they took it; and the files are the same. -/
  serial : Serial lapse (files, now) s.inOrder (s.files, s.now)
  /-- All downloads in flight belong to one run, -/
  alone : ∀ a ∈ s.inFlight, ∀ b ∈ s.inFlight, a.1 = b.1
  /-- and they are few. -/
  few : s.inFlight.length ≤ 5
  /-- If all calls only ensure rule-sets of one source, no download of a run fails and no rule-set
  becomes stale meanwhile, no address is requested twice. -/
  once : ∀ source known, (∀ call ∈ calls, call.IsPlain source known) →
    (∀ run ∈ s.runs, run.IsSmooth) →
    (∀ files now later, lapse files now later → NoneExpires dir known files now later) →
    (requestedBy s.runs).Nodup

end SyncSystem

/-- Runs on one synchronizer, whatever they are called for and however their steps interleave, do what
they do one after another in the order in which they take the lock. -/
theorem synchronizations_serialize {files : Folder} {now : Time} {calls : List SyncCall}
    {s : SyncSystem dir}
    (hrun : Relation.ReflTransGen (SyncSystem.Step lapse) (.start dir files now calls) s) :
    s.Serialized lapse files now calls := by
  have horderly : s.Orderly lapse (files, now) calls :=
    SyncSystem.orderly_run hrun (SyncSystem.orderly_start files now calls)
  refine ⟨horderly.calls, horderly.nodup, horderly.outside, horderly.perm_range,
    horderly.serial, ?_, horderly.length_inFlight_le, ?_⟩
  · intro a ha b hb
    rcases horderly.inFlight_cases with hnone | ⟨i, run, _, _, _, hown, _⟩
    · simp [hnone] at ha
    · have hindex : ∀ e ∈ s.inFlight, e.1 = i := by
        rw [hown]
        simp [SyncSystem.inFlightOf]
      rw [hindex a ha, hindex b hb]
  · intro source known hplain hsmooth hlapse
    have hruns : ∀ run ∈ s.inOrder, run ∈ s.runs := by
      intro run hmem
      obtain ⟨i, _, hget⟩ := List.mem_filterMap.1 hmem
      exact List.mem_of_getElem? hget
    have hcalls : ∀ run ∈ s.runs, run.call ∈ calls := by
      intro run hmem
      rw [← horderly.calls]
      exact List.mem_map_of_mem hmem
    refine horderly.requested_perm.nodup_iff.2 ?_
    exact (horderly.serial.fresh (fun run hmem => hplain _ (hcalls run (hruns run hmem)))
      (fun run hmem => hsmooth run (hruns run hmem)) hlapse).1

namespace SyncSystem

/-- Where runs come to when the run, the worker and the choice of every step are prescribed. -/
def along : List (Nat × Nat × Nat) → SyncSystem dir → Option (SyncSystem dir)
  | [], s => some s
  | (i, worker, choice) :: rest, s => (s.step i worker choice).bind (along rest)

/-- Runs can come to where a prescription leads. -/
theorem reaches_of_along {prescribed : List (Nat × Nat × Nat)} {s t : SyncSystem dir}
    (h : along prescribed s = some t) : Relation.ReflTransGen (Step lapse) s t := by
  induction prescribed generalizing s with
  | nil =>
    cases h
    exact .refl
  | cons turn rest ih =>
    obtain ⟨i, worker, choice⟩ := turn
    obtain ⟨next, hstep, hrest⟩ := Option.bind_eq_some_iff.1 h
    exact .head (Or.inl ⟨i, worker, choice, hstep⟩) (ih hrest)

end SyncSystem

/-- A call that gets an answer for every rule-set. -/
def sampleCall (names : List String) : SyncCall where
  request := ⟨names.map fun name => ⟨.geosite, name⟩, ⟨"r", none⟩, false⟩
  fetch := fun _ => .body [7]

/-- Two calls that have a rule-set in common. -/
def sampleCalls : List SyncCall :=
  [sampleCall ["a", "b"], sampleCall ["b", "c"]]

/-- The rule-sets of the calls. -/
def IsSampleTag (tag : RuleSetTag) : Prop :=
  tag ∈ (["a", "b", "c"].map fun name => ⟨.geosite, name⟩ : List RuleSetTag)

/-- What the first of the calls leaves behind. -/
def sampleLeft : Folder :=
  [("d", .folder [("geosite-a.srs", .file [7] 0), ("geosite-b.srs", .file [7] 0)])]

/-- The runs of the calls in the end.  The second one has found a rule-set of the first one. -/
def sampleRuns : List (SyncRun "d") :=
  [⟨sampleCall ["a", "b"],
    .ended (.ok { checked := 2, downloaded := [⟨.geosite, "a"⟩, ⟨.geosite, "b"⟩] }),
    ["r/geosite-b.srs", "r/geosite-a.srs"]⟩,
   ⟨sampleCall ["b", "c"], .ended (.ok { checked := 2, downloaded := [⟨.geosite, "c"⟩] }),
    ["r/geosite-c.srs"]⟩]

/-- Two downloads of the first call take turns; when it has ended a minute passes, and then the second
call downloads what is left. -/
theorem along_sampleCalls :
    ∃ s t : SyncSystem "d",
      SyncSystem.along
        [(0, 0, 0), (0, 1, 0), (0, 0, 0), (0, 1, 0), (0, 0, 0), (0, 1, 0), (0, 0, 0), (0, 1, 0),
          (0, 0, 0), (0, 1, 0), (0, 0, 0), (0, 1, 0), (0, 0, 0), (0, 1, 0), (0, 0, 0), (0, 1, 0),
          (0, 0, 0), (0, 1, 0), (0, 0, 0), (0, 1, 0), (0, 0, 0), (0, 1, 0)]
        (.start "d" [] 0 sampleCalls) = some s ∧
      s.files = sampleLeft ∧ s.now = 0 ∧
      SyncSystem.along
        [(1, 0, 0), (1, 1, 0), (1, 0, 0), (1, 1, 0), (1, 0, 0), (1, 0, 0), (1, 0, 0), (1, 0, 0),
          (1, 0, 0), (1, 0, 0), (1, 0, 0), (1, 0, 0), (1, 0, 0), (1, 1, 0)]
        (s.wait 60) = some t ∧
      t.runs = sampleRuns :=
  ⟨_, _, rfl, rfl, rfl, rfl, rfl⟩

/-- Nothing that the first call leaves behind becomes stale within a minute. -/
theorem noneExpires_sampleLeft : NoneExpires "d" IsSampleTag sampleLeft 0 60 := by
  intro tag htag path hpath
  simp only [IsSampleTag, List.map_cons, List.map_nil, List.mem_cons, List.not_mem_nil,
    or_false] at htag
  rcases htag with rfl | rfl | rfl <;> rcases hpath with rfl | rfl <;> decide

theorem isPlain_sampleCall {names : List String} (hnodup : names.Nodup)
    (hnames : names ⊆ ["a", "b", "c"]) :
    (sampleCall names).IsPlain ⟨"r", none⟩ IsSampleTag where
  isForced := rfl
  source := rfl
  nodup := hnodup.map fun _ _ heq => congrArg RuleSetTag.name heq
  known := List.map_subset _ hnames
  answers := by simp [sampleCall]

/-- The two calls serialize, and the second one does not repeat the work of the first one. -/
theorem synchronizations_serialize_sample :
    ∃ s : SyncSystem "d",
      Relation.ReflTransGen (SyncSystem.Step (NoneExpires "d" IsSampleTag))
        (.start "d" [] 0 sampleCalls) s ∧
      s.runs = sampleRuns ∧
      s.Serialized (NoneExpires "d" IsSampleTag) [] 0 sampleCalls ∧
      (requestedBy s.runs).Nodup := by
  obtain ⟨s, t, hfirst, hfiles, hnow, hsecond, hruns⟩ := along_sampleCalls
  have hpass : SyncSystem.Step (NoneExpires "d" IsSampleTag) s (s.wait 60) := by
    refine Or.inr ⟨60, ?_, rfl⟩
    rw [hfiles, hnow]
    exact noneExpires_sampleLeft
  have hrun : Relation.ReflTransGen (SyncSystem.Step (NoneExpires "d" IsSampleTag))
      (.start "d" [] 0 sampleCalls) t :=
    ((SyncSystem.reaches_of_along hfirst).tail hpass).trans (SyncSystem.reaches_of_along hsecond)
  have hserialized := synchronizations_serialize hrun
  have hplain : ∀ call ∈ sampleCalls, call.IsPlain ⟨"r", none⟩ IsSampleTag := by
    rw [sampleCalls, List.forall_mem_cons, List.forall_mem_singleton]
    exact ⟨isPlain_sampleCall (by decide) (by decide), isPlain_sampleCall (by decide) (by decide)⟩
  have hsmooth : ∀ run ∈ t.runs, run.IsSmooth := by
    rw [hruns, sampleRuns, List.forall_mem_cons, List.forall_mem_singleton]
    exact ⟨by rintro _ ⟨⟩; rfl, by rintro _ ⟨⟩; rfl⟩
  exact ⟨t, hrun, hruns, hserialized,
    hserialized.once _ _ hplain hsmooth fun _ _ _ hexpires => hexpires⟩

end ProxyConfig
