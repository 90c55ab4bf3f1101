import ProxyConfig.Proofs.Pool.Discipline
import ProxyConfig.Proofs.RuleSet.Fresh

/-!
# Downloads that meet in a temporary file

The name of a rule-set may hold slashes, and so the files of different rule-sets may be the same.
Downloads that meet in a temporary file disturb each other, but not unnoticed: the temporary file takes
the place of a target only once, so one of them fails.  Whatever the workers do, a pool that is spoiled
in this way stays so.

Main results:

- `stepEffect_of_advance`: what a step of a download does to the files.
- `Spoiled.step`: a failure, or one that is to come, is not undone by a step.
-/

namespace ProxyConfig

open Files Files.Folder

namespace Download

variable {fetch : Fetcher} {room : Room}

/-! ## Steps of one download -/

/-- What a step of a download does, told from a tree with the same folders. -/
inductive StepEffect (base : Folder) (choice : Nat) (job : DownloadJob) (s t : SyncState) :
    DownloadStage → JobStep (DownloadJob × DownloadStage) DownloadResult → Prop
  | requested (hfiles : t.files = s.files) :
      StepEffect base choice job s t .waiting (.running (job, .inFlight))
  | received {content : Content} (hne : content ≠ []) (hfiles : t.files = s.files) :
      StepEffect base choice job s t .inFlight (.running (job, .storing content .opening))
  | failed {reason : String} (hfiles : t.files = s.files) :
      StepEffect base choice job s t .inFlight (.returned (job.tag, .error reason))
  | wrote {content : Content} {stage next : WriteStage}
      (heffect : WriteEffect base s.now job.path content choice s.files t.files stage (.next next)) :
      StepEffect base choice job s t (.storing content stage)
        (.running (job, .storing content next))
  | stored {content : Content} {stage : WriteStage}
      (heffect : WriteEffect base s.now job.path content choice s.files t.files stage
        (.done (.ok ()))) :
      StepEffect base choice job s t (.storing content stage) (.returned (job.tag, .ok ()))
  | gaveUp {content : Content} {stage : WriteStage} {error : FileError} {reason : String}
      (heffect : WriteEffect base s.now job.path content choice s.files t.files stage
        (.done (.error error))) :
      StepEffect base choice job s t (.storing content stage) (.returned (job.tag, .error reason))

variable {base : Folder} {choice : Nat} {job : DownloadJob} {s t : SyncState}

theorem stepEffect_of_advance (hsafe : fetch job.url ≠ .crashed) {stage : DownloadStage}
    {next : JobStep (DownloadJob × DownloadStage) DownloadResult}
    (hsame : SameFolders base s.files)
    (hopened : ∀ content write, stage = .storing content write → write.HasOpened →
      base.Accepts (temporaryPath job.path))
    (hstep : advance fetch room choice (job, stage) s = (t, next)) :
    t.now = s.now ∧ StepEffect base choice job s t stage next := by
  cases stage with
  | waiting =>
    cases hstep
    exact ⟨rfl, .requested rfl⟩
  | inFlight =>
    cases hstep
    cases hfetch : fetch job.url with
    | body content =>
      cases content with
      | nil => exact ⟨rfl, .failed rfl⟩
      | cons byte rest => exact ⟨rfl, .received (List.cons_ne_nil byte rest) rfl⟩
    | failed failure => exact ⟨rfl, .failed rfl⟩
    | crashed => exact absurd hfetch hsafe
  | storing content write =>
    cases hwrite : write.advance room s.now job.path content choice s.files with
    | mk files step =>
      have heffect := effect_of_advance hsame (hopened content write rfl) hwrite
      simp only [advance, hwrite] at hstep
      cases step with
      | next write' =>
        cases hstep
        exact ⟨rfl, .wrote heffect⟩
      | done result =>
        cases hstep
        cases result with
        | ok u => exact ⟨rfl, .stored heffect⟩
        | error e => exact ⟨rfl, .gaveUp heffect⟩

/-- A step of a download leaves the folders at their places. -/
theorem StepEffect.sameFolders {stage : DownloadStage}
    {next : JobStep (DownloadJob × DownloadStage) DownloadResult}
    (h : StepEffect base choice job s t stage next) : SameFolders s.files t.files := by
  cases h with
  | requested hfiles | received _ hfiles | failed hfiles =>
    rw [hfiles]
    exact SameFolders.refl s.files
  | wrote heffect | stored heffect | gaveUp heffect => exact heffect.sameFolders

/-! ## Workers -/

/-- The write that a worker is at. -/
def write? : Worker (handler fetch room) → Option (DownloadJob × WriteStage)
  | .busy _ (job, DownloadStage.storing _ stage) _ => some (job, stage)
  | _ => none

/-- The worker has opened the temporary file in a slot. -/
def Opened (base : Folder) (w : Worker (handler fetch room)) (l : Location) : Prop :=
  ∃ job stage, write? w = some (job, stage) ∧ stage.HasOpened ∧
    base.slot? (temporaryPath job.path) = some l

/-- A download of the worker has failed or is about to. -/
def Fails (w : Worker (handler fetch room)) : Prop :=
  (∃ r ∈ Pool.gatheredBy w, ∃ reason, r.2 = .error reason) ∨
    ∃ job reason, write? w = some (job, .cleaning reason)

section Definitions

variable (dir : String) (known : RuleSetTag → Prop) (base : Folder)

/-- The download is one of a rule-set of the folder. -/
def IsLocal (job : DownloadJob) : Prop :=
  known job.tag ∧ job.path = job.tag.localPath dir

/-- What holds of a worker in any case. -/
structure Proper (w : Worker (handler fetch room)) : Prop where
  ne_crashed : w ≠ .crashed
  isLocal : ∀ job (state : DownloadJob × DownloadStage) gathered,
    w = .busy job state gathered → IsLocal dir known state.1
  content : ∀ job state content stage gathered,
    w = .busy job (state, DownloadStage.storing content stage) gathered → content ≠ []
  opened : ∀ job stage, write? w = some (job, stage) → stage.HasOpened →
    base.Accepts (temporaryPath job.path)
  gathered : ∀ r ∈ Pool.gatheredBy w, known r.1

/-- A worker has opened a temporary file that is gone, or that another worker has opened too. -/
def Meets (files : Location → Option (Content × Time))
    (workers : List (Worker (handler fetch room))) :
    Prop :=
  ∃ (i : Nat) (w : Worker (handler fetch room)) (l : Location), workers[i]? = some w ∧
    Opened base w l ∧ (files l = none ∨
      ∃ (j : Nat) (w' : Worker (handler fetch room)), j ≠ i ∧ workers[j]? = some w' ∧ Opened base w' l)

/-- A download has failed, or one of them is going to. -/
def Spoiled (files : Location → Option (Content × Time))
    (workers : List (Worker (handler fetch room))) : Prop :=
  (∃ w ∈ workers, Fails w) ∨ Meets base files workers

end Definitions

variable {dir : String} {known kept : RuleSetTag → Prop} {w w' : Worker (handler fetch room)}
  {workers : List (Worker (handler fetch room))} {i : Nat} {l k : Location}

theorem write?_eq_some_iff {write : WriteStage} :
    write? w = some (job, write) ↔
      ∃ own content gathered,
        w = .busy own (job, DownloadStage.storing content write) gathered := by
  unfold write?
  split
  · constructor
    · intro h
      cases h
      exact ⟨_, _, _, rfl⟩
    · rintro ⟨_, _, _, h⟩
      cases h
      rfl
  · rename_i hnone
    simp only [reduceCtorEq, false_iff, not_exists]
    rintro own content gathered rfl
    exact hnone _ _ _ _ _ rfl

theorem Proper.isLocal_of_write (h : Proper dir known base w) {write : WriteStage}
    (hwrite : write? w = some (job, write)) : IsLocal dir known job := by
  obtain ⟨own, content, gathered, hw⟩ := write?_eq_some_iff.1 hwrite
  exact h.isLocal own _ gathered hw

/-- What a worker opens is a temporary file and not the file of a rule-set. -/
theorem Proper.slot_ne (h : Proper dir known base w) (hopened : Opened base w l) {tag : RuleSetTag}
    (hk : base.slot? (tag.localPath dir) = some k) : k ≠ l := by
  obtain ⟨job, stage, hwrite, _, hslot⟩ := hopened
  rw [(h.isLocal_of_write hwrite).2] at hslot
  exact slot_ne_temporary hk hslot

/-! ## Replacing one worker -/

theorem getElem?_set_of_ne {α : Type} {items : List α} {i j : Nat} {x : α} (h : j ≠ i) :
    (items.set i x)[j]? = items[j]? :=
  List.getElem?_set_ne (Ne.symm h)

theorem getElem?_set_of_eq_some {α : Type} {items : List α} {i : Nat} {x y : α}
    (h : items[i]? = some y) : (items.set i x)[i]? = some x :=
  List.getElem?_set_self (List.getElem?_eq_some_iff.1 h).1

/-- A worker that fails spoils the pool. -/
theorem spoiled_of_fails {files : Location → Option (Content × Time)} (hw : workers[i]? = some w)
    (hfails : Fails w') : Spoiled base files (workers.set i w') :=
  Or.inl ⟨w', List.mem_of_getElem? (getElem?_set_of_eq_some hw), hfails⟩

/-- A temporary file that is opened a second time spoils the pool. -/
theorem spoiled_of_shared {files : Location → Option (Content × Time)}
    (hw : workers[i]? = some w) (hopened : Opened base w' l) {j : Nat}
    {v : Worker (handler fetch room)} (hj : j ≠ i) (hv : workers[j]? = some v)
    (hshared : Opened base v l) : Spoiled base files (workers.set i w') :=
  Or.inr ⟨i, w', l, getElem?_set_of_eq_some hw, hopened,
    Or.inr ⟨j, v, hj, (getElem?_set_of_ne hj).trans hv, hshared⟩⟩

/-- A temporary file is opened by one worker only, or downloads meet. -/
theorem ne_of_opened {files : Location → Option (Content × Time)}
    (hmeets : ¬ Meets base files workers) (hw : workers[i]? = some w) (hopened : Opened base w l)
    {j : Nat} {v : Worker (handler fetch room)} (hj : j ≠ i) (hv : workers[j]? = some v)
    (hother : Opened base v k) : k ≠ l := by
  rintro rfl
  exact hmeets ⟨i, w, k, hw, hopened, Or.inr ⟨j, v, hj, hv, hother⟩⟩

/-- A failure is not undone by a step of a worker, provided that the worker keeps the temporary file
that it has opened or gives it away, and that it makes no file but by opening one. -/
theorem Spoiled.set {files files' : Location → Option (Content × Time)}
    (h : Spoiled base files workers) (hproper : ∀ w ∈ workers, Proper dir known base w)
    (hw : workers[i]? = some w) (hfails : Fails w → Fails w')
    (hopened : ∀ l, Opened base w l →
      Fails w' ∨ Opened base w' l ∨ (files l ≠ none ∧ files' l = none))
    (hfiles : ∀ l, (∀ tag k, base.slot? (RuleSetTag.localPath tag dir) = some k → k ≠ l) →
      files l = none → files' l = none ∨ (Opened base w' l ∧ ¬ Opened base w l)) :
    Spoiled base files' (workers.set i w') := by
  have hnew := getElem?_set_of_eq_some (x := w') hw
  have hmem : Fails w' → Spoiled base files' (workers.set i w') :=
    fun hfails => Or.inl ⟨w', List.mem_of_getElem? hnew, hfails⟩
  have hold : ∀ {j : Nat} {v : Worker (handler fetch room)}, j ≠ i → workers[j]? = some v →
      (workers.set i w')[j]? = some v := fun hj hv => (getElem?_set_of_ne hj).trans hv
  have htemporary : ∀ {j : Nat} {v : Worker (handler fetch room)} {l : Location},
      workers[j]? = some v → Opened base v l →
        ∀ tag k, base.slot? (RuleSetTag.localPath tag dir) = some k → k ≠ l :=
    fun hv hopen _ _ hk => (hproper _ (List.mem_of_getElem? hv)).slot_ne hopen hk
  rcases h with ⟨v, hv, hvfails⟩ | ⟨j, v, l, hv, hvopened, hmeets⟩
  · obtain ⟨j, hj⟩ := List.mem_iff_getElem?.1 hv
    by_cases hji : j = i
    · rw [hji, hw] at hj
      cases hj
      exact hmem (hfails hvfails)
    · exact Or.inl ⟨v, List.mem_of_getElem? (hold hji hj), hvfails⟩
  · rcases hmeets with hnone | ⟨j', v', hne, hv', hv'opened⟩
    · -- The temporary file of a worker is gone.
      by_cases hji : j = i
      · rw [hji, hw] at hv
        cases hv
        rcases hopened l hvopened with hfail | hstill | ⟨hsome, _⟩
        · exact hmem hfail
        · rcases hfiles l (htemporary hw hvopened) hnone with hnone' | ⟨_, hnot⟩
          · exact Or.inr ⟨i, w', l, hnew, hstill, Or.inl hnone'⟩
          · exact absurd hvopened hnot
        · exact absurd hnone hsome
      · rcases hfiles l (htemporary hv hvopened) hnone with hnone' | ⟨hopen, _⟩
        · exact Or.inr ⟨j, v, l, hold hji hv, hvopened, Or.inl hnone'⟩
        · exact Or.inr ⟨j, v, l, hold hji hv, hvopened,
            Or.inr ⟨i, w', Ne.symm hji, hnew, hopen⟩⟩
    · -- Two workers have opened the same temporary file.
      have hstep : ∀ {j : Nat} {v : Worker (handler fetch room)}, j ≠ i → workers[j]? = some v →
          Opened base v l → Opened base w l → Spoiled base files' (workers.set i w') := by
        intro j v hji hv hvopened hwopened
        rcases hopened l hwopened with hfail | hstill | ⟨_, hgone⟩
        · exact hmem hfail
        · exact Or.inr ⟨j, v, l, hold hji hv, hvopened,
            Or.inr ⟨i, w', Ne.symm hji, hnew, hstill⟩⟩
        · exact Or.inr ⟨j, v, l, hold hji hv, hvopened, Or.inl hgone⟩
      by_cases hji : j = i
      · rw [hji] at hne
        rw [hji, hw] at hv
        cases hv
        exact hstep hne hv' hv'opened hvopened
      · by_cases hj'i : j' = i
        · rw [hj'i, hw] at hv'
          cases hv'
          exact hstep hji hv hvopened hv'opened
        · exact Or.inr ⟨j, v, l, hold hji hv, hvopened,
            Or.inr ⟨j', v', hne, hold hj'i hv', hv'opened⟩⟩

/-! ## Steps of a worker -/

section WorkerStep

variable {own : DownloadJob} {stage : DownloadStage} {gathered : List DownloadResult}
  {next : JobStep (DownloadJob × DownloadStage) DownloadResult}

/-- A worker that is at a write. -/
theorem write?_busy {content : Content} {write : WriteStage} :
    write? (.busy own (job, DownloadStage.storing content write) gathered :
      Worker (handler fetch room)) = some (job, write) :=
  rfl

/-- A step of a download keeps what holds of its worker in any case. -/
theorem Proper.step
    (h : Proper dir known base (.busy own (job, stage) gathered : Worker (handler fetch room)))
    (heffect : StepEffect base choice job s t stage next) :
    Proper dir known base (Pool.workerAfter (h := handler fetch room) own gathered next) := by
  have hlocal := h.isLocal own (job, stage) gathered rfl
  have hrunning : ∀ {stage' : DownloadStage},
      (∀ content write, stage' = .storing content write → content ≠ []) →
      (∀ content write, stage' = .storing content write → write.HasOpened →
        base.Accepts (temporaryPath job.path)) →
      Proper dir known base (.busy own (job, stage') gathered : Worker (handler fetch room)) := by
    intro stage' hcontent hopened
    refine ⟨by simp, ?_, ?_, ?_, h.gathered⟩
    · intro own' state gathered' heq
      cases heq
      exact hlocal
    · intro own' job' content write gathered' heq
      cases heq
      exact hcontent content write rfl
    · intro job' write hwrite
      obtain ⟨own', content, gathered', heq⟩ := write?_eq_some_iff.1 hwrite
      cases heq
      exact hopened content write rfl
  have hreturned : ∀ outcome : Except String Unit,
      Proper dir known base
        (.idle (gathered ++ [(job.tag, outcome)]) : Worker (handler fetch room)) := by
    intro outcome
    refine ⟨by simp, by simp, by simp, by simp [write?], ?_⟩
    intro r hr
    rcases List.mem_append.1 hr with hold | hnew
    · exact h.gathered r hold
    · rw [List.mem_singleton.1 hnew]
      exact hlocal.1
  cases heffect with
  | requested => exact hrunning (by simp) (by simp)
  | received hne =>
    refine hrunning ?_ ?_
    · intro content write heq
      cases heq
      exact hne
    · intro content write heq hopened
      cases heq
      exact hopened.elim
  | failed => exact hreturned _
  | @wrote content write write' hwrite =>
    refine hrunning ?_ ?_
    · intro content' write'' heq
      cases heq
      exact h.content own job content write gathered rfl
    · intro content' write'' heq hopened
      cases heq
      cases hwrite with
      | opened hslot hfree => exact ⟨_, hslot, hfree⟩
      | refused => exact hopened.elim
      | written | wrote | missed => exact h.opened job _ write?_busy trivial
  | stored => exact hreturned _
  | gaveUp => exact hreturned _

/-- What it means that a worker at a write has opened a temporary file. -/
theorem opened_busy_iff {content : Content} {write : WriteStage} :
    Opened base (.busy own (job, DownloadStage.storing content write) gathered :
      Worker (handler fetch room)) l ↔
      write.HasOpened ∧ base.slot? (temporaryPath job.path) = some l := by
  constructor
  · rintro ⟨job', write', heq, hopened, hslot⟩
    rw [write?_busy] at heq
    cases heq
    exact ⟨hopened, hslot⟩
  · rintro ⟨hopened, hslot⟩
    exact ⟨job, write, write?_busy, hopened, hslot⟩

/-- A worker goes on failing. -/
theorem Fails.step (h : Fails (.busy own (job, stage) gathered : Worker (handler fetch room)))
    (heffect : StepEffect base choice job s t stage next) :
    Fails (Pool.workerAfter (h := handler fetch room) own gathered next) := by
  rcases h with ⟨r, hr, reason, herror⟩ | ⟨job', reason, hcleaning⟩
  · refine Or.inl ⟨r, ?_, reason, herror⟩
    cases heffect with
    | requested | received | wrote => exact hr
    | failed | stored | gaveUp => exact List.mem_append_left _ hr
  · cases heffect with
    | requested | received | failed => cases hcleaning
    | wrote hwrite =>
      cases hcleaning
      cases hwrite with
      | refused => exact Or.inr ⟨job, _, write?_busy⟩
    | stored hwrite =>
      cases hcleaning
      cases hwrite
    | gaveUp => exact Or.inl ⟨_, List.mem_append_right _ List.mem_cons_self, _, rfl⟩

/-- A worker keeps the temporary file that it has opened, or gives it away, or fails. -/
theorem Opened.step
    (h : Opened base (.busy own (job, stage) gathered : Worker (handler fetch room)) l)
    (hlocal : IsLocal dir known job) (heffect : StepEffect base choice job s t stage next) :
    Fails (Pool.workerAfter (h := handler fetch room) own gathered next) ∨
      Opened base (Pool.workerAfter (h := handler fetch room) own gathered next) l ∨
      (s.files.fileAt? l ≠ none ∧ t.files.fileAt? l = none) := by
  cases heffect with
  | requested | received | failed =>
    obtain ⟨_, _, heq, _⟩ := h
    cases heq
  | wrote hwrite =>
    obtain ⟨hopened, hslot⟩ := opened_busy_iff.1 h
    cases hwrite with
    | opened => exact hopened.elim
    | refused => exact Or.inl (Or.inr ⟨job, _, write?_busy⟩)
    | written | wrote | missed => exact Or.inr (Or.inl (opened_busy_iff.2 ⟨trivial, hslot⟩))
  | stored hwrite =>
    obtain ⟨_, hslot⟩ := opened_busy_iff.1 h
    cases hwrite with
    | replaced hslot' htarget hfile hfiles =>
      rw [hslot] at hslot'
      cases hslot'
      rw [hlocal.2] at hslot htarget
      have hne := slot_ne_temporary htarget hslot
      refine Or.inr (Or.inr ⟨?_, ?_⟩)
      · rw [hfile]
        exact Option.some_ne_none _
      · rw [hfiles.files, Function.update_of_ne (Ne.symm hne), Function.update_self]
  | gaveUp hwrite =>
    obtain ⟨hopened, _⟩ := opened_busy_iff.1 h
    cases hwrite with
    | removed | unremoved => exact hopened.elim

/-- Taking a file away makes no file. -/
theorem update_none_eq_none {files : Location → Option (Content × Time)} (hnone : files l = none) :
    Function.update files k none l = none := by
  by_cases hl : l = k
  · rw [hl, Function.update_self]
  · rw [Function.update_of_ne hl, hnone]

/-- A worker makes no file but that of a rule-set and the temporary one that it opens. -/
theorem StepEffect.fileAt?_eq_none (heffect : StepEffect base choice job s t stage next)
    (hlocal : IsLocal dir known job)
    (htemporary : ∀ tag k, base.slot? (RuleSetTag.localPath tag dir) = some k → k ≠ l)
    (hnone : s.files.fileAt? l = none) :
    t.files.fileAt? l = none ∨
      (Opened base (Pool.workerAfter (h := handler fetch room) own gathered next) l ∧
        ¬ Opened base (.busy own (job, stage) gathered : Worker (handler fetch room)) l) := by
  cases heffect with
  | requested hfiles | received _ hfiles | failed hfiles =>
    rw [hfiles]
    exact Or.inl hnone
  | wrote hwrite =>
    cases hwrite with
    | @opened l' _ _ hslot hfree _ hfiles =>
      rw [hfiles.files]
      by_cases hl : l = l'
      · rw [hl]
        exact Or.inr ⟨opened_busy_iff.2 ⟨trivial, hslot⟩, fun h => (opened_busy_iff.1 h).1⟩
      · rw [Function.update_of_ne hl]
        exact Or.inl hnone
    | refused hsame | written hsame | missed _ _ hsame =>
      rw [hsame]
      exact Or.inl hnone
    | wrote hslot hfile hfiles =>
      rw [hfiles.files, Function.update_of_ne]
      · exact Or.inl hnone
      · rintro rfl
        rw [hnone] at hfile
        cases hfile
  | stored hwrite =>
    cases hwrite with
    | replaced hslot htarget hfile hfiles =>
      rw [hlocal.2] at htarget
      rw [hfiles.files, Function.update_of_ne (Ne.symm (htemporary _ _ htarget))]
      exact Or.inl (update_none_eq_none hnone)
  | gaveUp hwrite =>
    cases hwrite with
    | removed hslot hfiles =>
      rw [hfiles.files]
      exact Or.inl (update_none_eq_none hnone)
    | unremoved hsame =>
      rw [hsame]
      exact Or.inl hnone

variable (hproper : ∀ w ∈ workers, Proper dir known base w)
  (hw : workers[i]? = some (.busy own (job, stage) gathered : Worker (handler fetch room)))
  (heffect : StepEffect base choice job s t stage next)

include hproper hw heffect

/-- A failure is not undone by a step of a download. -/
theorem Spoiled.step (h : Spoiled base s.files.fileAt? workers) :
    Spoiled base t.files.fileAt?
      (workers.set i (Pool.workerAfter (h := handler fetch room) own gathered next)) := by
  have hlocal : IsLocal dir known job :=
    (hproper _ (List.mem_of_getElem? hw)).isLocal own (job, stage) gathered rfl
  exact h.set hproper hw (fun hfails => hfails.step heffect)
    (fun l hopened => hopened.step hlocal heffect)
    (fun l htemporary hnone => heffect.fileAt?_eq_none hlocal htemporary hnone)

end WorkerStep

end Download
end ProxyConfig
