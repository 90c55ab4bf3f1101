import ProxyConfig.Proofs.RuleSet.Collision

/-!
# Downloads whose files meet

The files of different rule-sets may be the same, and then their downloads may disturb each other.
As long as no download fails, rule-sets that were fresh stay fresh and those that were downloaded are
fresh, whatever their names are.

Main results:

- `Sound.step`, `Sound.elapse`: what steps of a pool and the passage of time keep.
- `Sound.fresh_of_hasEnded`: what is known of the files when all workers have ended.
-/

namespace ProxyConfig

open Files Files.Folder

namespace Download

variable {fetch : Fetcher} {room : Room} {base : Folder} {choice : Nat} {job : DownloadJob}
  {s t : SyncState}

/-! ## Pools in which nothing has failed -/

section Definitions

variable (dir : String) (known : RuleSetTag → Prop) (base : Folder)

/-- What holds of a worker as long as nothing fails: the rule-sets that it has downloaded are fresh, and
the temporary file that it has opened is there, and recent when all is written. -/
structure Thriving (s : SyncState) (w : Worker (handler fetch room)) : Prop where
  gathered : ∀ r ∈ Pool.gatheredBy w, r.2 = .ok () →
    Artifact.isFresh s.files s.now (r.1.localPath dir) = true
  temporary : ∀ job stage, write? w = some (job, stage) → stage.HasOpened →
    ∃ l file, base.slot? (temporaryPath job.path) = some l ∧ s.files.fileAt? l = some file ∧
      (stage.IsWritten → IsRecentFile s.now file)

/-- Nothing has failed: the rule-sets that are to be kept are fresh, and all workers thrive. -/
structure Thrives (kept : RuleSetTag → Prop) (s : SyncState)
    (workers : List (Worker (handler fetch room))) : Prop where
  kept : ∀ tag, kept tag → Artifact.isFresh s.files s.now (tag.localPath dir) = true
  workers : ∀ w ∈ workers, Thriving dir base s w

/-- What holds of a pool at all times, compared with the tree in which its downloads began. -/
structure Sound (kept : RuleSetTag → Prop) (s : SyncState) (p : Pool (handler fetch room)) :
    Prop where
  sameFolders : SameFolders base s.files
  queue : ∀ job ∈ p.queue, IsLocal dir known job
  proper : ∀ w ∈ p.workers, Proper dir known base w
  outcome : Spoiled base s.files.fileAt? p.workers ∨ Thrives dir base kept s p.workers

end Definitions

variable {dir : String} {known kept : RuleSetTag → Prop} {w w' : Worker (handler fetch room)}
  {workers : List (Worker (handler fetch room))} {i : Nat} {l k : Location}

/-- All is well after a step of a worker, provided that files of rule-sets stay recent, that the
temporary files of the other workers stay as they are, and that the worker thrives. -/
theorem Thrives.set (h : Thrives dir base kept s workers) (hs : SameFolders base s.files)
    (ht : SameFolders base t.files) (hnow : t.now = s.now) (hw : workers[i]? = some w)
    (hfiles : ∀ tag k file, base.slot? (RuleSetTag.localPath tag dir) = some k →
      s.files.fileAt? k = some file → IsRecentFile s.now file →
        ∃ file', t.files.fileAt? k = some file' ∧ IsRecentFile s.now file')
    (hothers : ∀ j v l, j ≠ i → workers[j]? = some v → Opened base v l →
      t.files.fileAt? l = s.files.fileAt? l)
    (hgathered : ∀ r ∈ Pool.gatheredBy w', r.2 = .ok () → r ∈ Pool.gatheredBy w ∨
      Artifact.isFresh t.files t.now (r.1.localPath dir) = true)
    (htemporary : ∀ job stage, write? w' = some (job, stage) → stage.HasOpened →
      ∃ l file, base.slot? (temporaryPath job.path) = some l ∧ t.files.fileAt? l = some file ∧
        (stage.IsWritten → IsRecentFile t.now file)) :
    Thrives dir base kept t (workers.set i w') := by
  have hfresh : ∀ tag : RuleSetTag,
      Artifact.isFresh s.files s.now (tag.localPath dir) = true →
        Artifact.isFresh t.files t.now (tag.localPath dir) = true := by
    intro tag hfresh
    rw [hnow]
    exact isFresh_of_files hs ht (fun k file hk => hfiles tag k file hk) hfresh
  refine ⟨fun tag htag => hfresh tag (h.kept tag htag), ?_⟩
  intro v hv
  obtain ⟨j, hj⟩ := List.mem_iff_getElem?.1 hv
  by_cases hji : j = i
  · rw [hji, getElem?_set_of_eq_some hw] at hj
    cases hj
    refine ⟨?_, htemporary⟩
    intro r hr hok
    rcases hgathered r hr hok with hold | hnew
    · exact hfresh r.1 ((h.workers w (List.mem_of_getElem? hw)).gathered r hold hok)
    · exact hnew
  · rw [getElem?_set_of_ne hji] at hj
    have hthriving := h.workers v (List.mem_of_getElem? hj)
    refine ⟨fun r hr hok => hfresh r.1 (hthriving.gathered r hr hok), ?_⟩
    intro job stage hwrite hopened
    obtain ⟨l, file, hslot, hfile, hwritten⟩ := hthriving.temporary job stage hwrite hopened
    refine ⟨l, file, hslot, ?_, ?_⟩
    · rw [hothers j v l hji hj ⟨job, stage, hwrite, hopened, hslot⟩]
      exact hfile
    · rw [hnow]
      exact hwritten

/-! ## Steps that go well -/

section GoingWell

variable {own : DownloadJob} {content : Content} {gathered : List DownloadResult}
  (h : Thrives dir base kept s workers)

include h

/-- The file that a worker has opened. -/
theorem Thrives.temporary {write : WriteStage}
    (hw : workers[i]? =
      some (.busy own (job, DownloadStage.storing content write) gathered :
        Worker (handler fetch room)))
    (hopened : write.HasOpened) (hslot : base.slot? (temporaryPath job.path) = some l) :
    ∃ file, s.files.fileAt? l = some file ∧ (write.IsWritten → IsRecentFile s.now file) := by
  obtain ⟨l', file, hslot', hfile, hwritten⟩ :=
    (h.workers _ (List.mem_of_getElem? hw)).temporary job write write?_busy hopened
  rw [hslot] at hslot'
  cases hslot'
  exact ⟨file, hfile, hwritten⟩

variable (hs : SameFolders base s.files) (hnow : t.now = s.now)

include hs hnow

/-- A step that changes no file goes well if the worker has not opened its temporary file. -/
theorem Thrives.of_files_eq (hw : workers[i]? = some w) (hfiles : t.files = s.files)
    (hgathered : ∀ r ∈ Pool.gatheredBy w', r.2 = .ok () → r ∈ Pool.gatheredBy w)
    (hclosed : ∀ job write, write? w' = some (job, write) → ¬ write.HasOpened) :
    Thrives dir base kept t (workers.set i w') := by
  refine h.set hs (by rwa [hfiles]) hnow hw ?_ ?_ (fun r hr hok => Or.inl (hgathered r hr hok)) ?_
  · intro tag k file _ hfile hrecent
    rw [hfiles]
    exact ⟨file, hfile, hrecent⟩
  · intro j v l _ _ _
    rw [hfiles]
  · intro job write hwrite hopened
    exact absurd hopened (hclosed job write hwrite)

/-- The temporary file gets a sound state, and nobody else has opened it. -/
theorem Thrives.of_temporary {write : WriteStage} {file : Content × Time} (hw : workers[i]? = some w)
    (hlocal : job.path = job.tag.localPath dir)
    (hslot : base.slot? (temporaryPath job.path) = some l)
    (hfiles : s.files.Alters (Function.update s.files.fileAt? l (some file)) t.files)
    (halone : ∀ j v k, j ≠ i → workers[j]? = some v → Opened base v k → k ≠ l)
    (hgathered : Pool.gatheredBy w = gathered) (hwritten : write.IsWritten → IsRecentFile s.now file) :
    Thrives dir base kept t
      (workers.set i (.busy own (job, DownloadStage.storing content write) gathered)) := by
  have ht := hs.trans hfiles.sameFolders
  refine h.set hs ht hnow hw ?_ ?_ ?_ ?_
  · intro tag k file' hk hfile' hrecent
    rw [hlocal] at hslot
    rw [hfiles.files, Function.update_of_ne (slot_ne_temporary hk hslot)]
    exact ⟨file', hfile', hrecent⟩
  · intro j v k hj hv hopened
    rw [hfiles.files, Function.update_of_ne (halone j v k hj hv hopened)]
  · intro r hr _
    rw [hgathered]
    exact Or.inl hr
  · intro job' write' heq _
    rw [write?_busy] at heq
    cases heq
    refine ⟨l, file, hslot, ?_, ?_⟩
    · rw [hfiles.files, Function.update_self]
    · rw [hnow]
      exact hwritten

/-- A temporary file takes the place of a target, and nobody else has opened it. -/
theorem Thrives.of_replacement {file : Content × Time}
    (hproper : ∀ w ∈ workers, Proper dir known base w) (hw : workers[i]? = some w)
    (hlocal : job.path = job.tag.localPath dir)
    (hslot : base.slot? (temporaryPath job.path) = some l)
    (htarget : base.slot? job.path = some k) (hrecent : IsRecentFile s.now file)
    (hfiles : s.files.Alters
      (Function.update (Function.update s.files.fileAt? l none) k (some file)) t.files)
    (halone : ∀ j v k, j ≠ i → workers[j]? = some v → Opened base v k → k ≠ l)
    (hgathered : Pool.gatheredBy w = gathered) :
    Thrives dir base kept t (workers.set i (.idle (gathered ++ [(job.tag, .ok ())]))) := by
  have ht := hs.trans hfiles.sameFolders
  have hk : t.files.fileAt? k = some file := by
    rw [hfiles.files, Function.update_self]
  rw [hlocal] at hslot htarget
  refine h.set hs ht hnow hw ?_ ?_ ?_ (by simp [write?])
  · intro tag k' file' hk' hfile' hrecent'
    by_cases heq : k' = k
    · rw [heq]
      exact ⟨file, hk, hrecent⟩
    · rw [hfiles.files, Function.update_of_ne heq,
        Function.update_of_ne (slot_ne_temporary hk' hslot)]
      exact ⟨file', hfile', hrecent'⟩
  · intro j v l' hj hv hopened
    have hne := (hproper v (List.mem_of_getElem? hv)).slot_ne hopened htarget
    rw [hfiles.files, Function.update_of_ne (Ne.symm hne),
      Function.update_of_ne (halone j v l' hj hv hopened)]
  · intro r hr _
    rw [hgathered]
    rcases List.mem_append.1 hr with hold | hnew
    · exact Or.inl hold
    · rw [List.mem_singleton.1 hnew]
      refine Or.inr (Artifact.isFresh_iff.2 ⟨k, file, ?_, hk, by rwa [hnow]⟩)
      rw [slot?_congr ht]
      exact htarget

/-- If nothing has failed, a step of a download goes well or spoils the pool. -/
theorem Thrives.step (hmeets : ¬ Meets base s.files.fileAt? workers)
    (hproper : ∀ w ∈ workers, Proper dir known base w) {stage : DownloadStage}
    {next : JobStep (DownloadJob × DownloadStage) DownloadResult}
    (hw : workers[i]? = some (.busy own (job, stage) gathered : Worker (handler fetch room)))
    (heffect : StepEffect base choice job s t stage next) :
    Spoiled base t.files.fileAt?
        (workers.set i (Pool.workerAfter (h := handler fetch room) own gathered next)) ∨
      Thrives dir base kept t
        (workers.set i (Pool.workerAfter (h := handler fetch room) own gathered next)) := by
  have hworker := hproper _ (List.mem_of_getElem? hw)
  have hlocal := (hworker.isLocal own (job, stage) gathered rfl).2
  cases heffect with
  | requested hfiles =>
    refine Or.inr (h.of_files_eq hs hnow hw hfiles (fun r hr _ => hr) ?_)
    intro job' write heq
    cases heq
  | received hne hfiles =>
    refine Or.inr (h.of_files_eq hs hnow hw hfiles (fun r hr _ => hr) ?_)
    intro job' write heq
    cases heq
    exact id
  | failed | gaveUp =>
    exact Or.inl (spoiled_of_fails hw
      (Or.inl ⟨_, List.mem_append_right _ List.mem_cons_self, _, rfl⟩))
  | @wrote content write next hwrite =>
    cases hwrite with
    | @opened l _ _ hslot hfree hcontent hfiles =>
      by_cases hshared : ∃ (j : Nat) (v : Worker (handler fetch room)), j ≠ i ∧
          workers[j]? = some v ∧ Opened base v l
      · obtain ⟨j, v, hj, hv, hopened⟩ := hshared
        exact Or.inl (spoiled_of_shared hw (opened_busy_iff.2 ⟨trivial, hslot⟩) hj hv hopened)
      · refine Or.inr (h.of_temporary hs hnow hw hlocal hslot hfiles ?_ rfl ?_)
        · rintro j v k hj hv hopened rfl
          exact hshared ⟨j, v, hj, hv, hopened⟩
        · intro hwritten
          have hne := hworker.content own job content _ gathered rfl
          rw [← hcontent] at hne
          exact absurd hwritten (WriteStage.not_isWritten hne)
    | refused => exact Or.inl (spoiled_of_fails hw (Or.inr ⟨job, _, write?_busy⟩))
    | written hsame =>
      obtain ⟨l, hslot, _⟩ := hworker.opened job _ write?_busy trivial
      obtain ⟨file, hfile, hrecent⟩ := h.temporary hw trivial hslot
      have hfiles : s.files.Alters (Function.update s.files.fileAt? l (some file)) t.files := by
        rw [hsame, ← hfile, Function.update_eq_self]
        exact ⟨SameFolders.refl s.files, rfl⟩
      exact Or.inr (h.of_temporary hs hnow hw hlocal hslot hfiles
        (fun _ _ _ => ne_of_opened hmeets hw (opened_busy_iff.2 ⟨trivial, hslot⟩)) rfl
        fun _ => hrecent trivial)
    | wrote hslot hfile hfiles =>
      exact Or.inr (h.of_temporary hs hnow hw hlocal hslot hfiles
        (fun _ _ _ => ne_of_opened hmeets hw (opened_busy_iff.2 ⟨trivial, hslot⟩)) rfl
        fun _ => isRecentFile_of_write (by simp))
    | missed hslot hnone =>
      obtain ⟨file, hfile, _⟩ := h.temporary hw trivial hslot
      rw [hnone] at hfile
      cases hfile
  | stored hwrite =>
    cases hwrite with
    | replaced hslot htarget hfile hfiles =>
      obtain ⟨file, hfile', hrecent⟩ := h.temporary hw trivial hslot
      rw [hfile] at hfile'
      cases hfile'
      exact Or.inr (h.of_replacement hs hnow hproper hw hlocal hslot htarget (hrecent trivial)
        hfiles (fun _ _ _ => ne_of_opened hmeets hw (opened_busy_iff.2 ⟨trivial, hslot⟩)) rfl)

end GoingWell

/-! ## Steps of a pool -/

section PoolStep

variable {p q : Pool (handler fetch room)}

/-- A worker that has no job has written nothing. -/
theorem not_opened_of_write?_eq_none (h : write? w = none) : ¬ Opened base w l := by
  rintro ⟨job, stage, heq, _⟩
  rw [h] at heq
  cases heq

/-- A worker without a write gets another state without a write. -/
theorem Sound.set (h : Sound dir known base kept s p) (hw : p.workers[i]? = some w)
    (hproper : Proper dir known base w') (hgathered : Pool.gatheredBy w' = Pool.gatheredBy w)
    (hwrite : write? w = none) (hwrite' : write? w' = none)
    (hworkers : q.workers = p.workers.set i w') (hqueue : ∀ job ∈ q.queue, job ∈ p.queue) :
    Sound dir known base kept s q := by
  refine ⟨h.sameFolders, fun job hjob => h.queue job (hqueue job hjob), ?_, ?_⟩
  · intro v hv
    rw [hworkers] at hv
    rcases List.mem_or_eq_of_mem_set hv with hold | rfl
    · exact h.proper v hold
    · exact hproper
  · rw [hworkers]
    refine h.outcome.imp ?_ ?_
    · intro hspoiled
      refine hspoiled.set h.proper hw ?_ ?_ fun l _ hnone => Or.inl hnone
      · rintro (⟨r, hr, hfails⟩ | ⟨job, reason, hcleaning⟩)
        · exact Or.inl ⟨r, by rwa [hgathered], hfails⟩
        · rw [hwrite] at hcleaning
          cases hcleaning
      · intro l hopened
        exact absurd hopened (not_opened_of_write?_eq_none hwrite)
    · intro hthrives
      refine hthrives.of_files_eq h.sameFolders rfl hw rfl ?_ ?_
      · intro r hr _
        rwa [← hgathered]
      · intro job write heq
        rw [hwrite'] at heq
        cases heq

/-- What a worker does that goes on with its job. -/
theorem Sound.stepEffect (hsafe : ∀ url, fetch url ≠ .crashed) (h : Sound dir known base kept s p)
    {own : DownloadJob} {stage : DownloadStage} {gathered : List DownloadResult}
    {next : JobStep (DownloadJob × DownloadStage) DownloadResult}
    (hw : p.workers[i]? = some (.busy own (job, stage) gathered))
    (hadvance : advance fetch room choice (job, stage) s = (t, next)) :
    IsLocal dir known job ∧ t.now = s.now ∧ StepEffect base choice job s t stage next := by
  have hproper := h.proper _ (List.mem_of_getElem? hw)
  refine ⟨hproper.isLocal own (job, stage) gathered rfl,
    stepEffect_of_advance (hsafe job.url) h.sameFolders ?_ hadvance⟩
  rintro content write rfl hopened
  exact hproper.opened job write write?_busy hopened

/-- A step of a pool keeps what holds at all times. -/
theorem Sound.step (hsafe : ∀ url, fetch url ≠ .crashed) (h : Sound dir known base kept s p)
    (hstep : Pool.Step (s, p) (t, q)) : Sound dir known base kept t q := by
  obtain ⟨i, choice, hstep⟩ := hstep
  rcases Pool.step_cases hstep with ⟨gathered, hw, hqueue, rfl, rfl⟩ |
    ⟨gathered, job, rest, hw, hqueue, rfl, rfl⟩ |
    ⟨own, ⟨job, stage⟩, gathered, next, hw, hadvance, rfl⟩
  · -- A worker ends.
    have hproper := h.proper _ (List.mem_of_getElem? hw)
    have hended : Proper dir known base (.finished gathered : Worker (handler fetch room)) :=
      ⟨by simp, by simp, by simp, by simp [write?], hproper.gathered⟩
    exact h.set hw hended rfl rfl rfl rfl fun _ hjob => hjob
  · -- A worker takes a job.
    have hproper := h.proper _ (List.mem_of_getElem? hw)
    have hjob : job ∈ p.queue := by
      rw [hqueue]
      exact List.mem_cons_self
    have hbusy : Proper dir known base
        (.busy job (job, DownloadStage.waiting) gathered : Worker (handler fetch room)) := by
      refine ⟨by simp, ?_, ?_, by simp [write?], hproper.gathered⟩
      · intro own state gathered' heq
        cases heq
        exact h.queue job hjob
      · intro own job' content write gathered' heq
        cases heq
    refine h.set hw hbusy rfl rfl rfl rfl ?_
    intro job' hjob'
    rw [hqueue]
    exact List.mem_cons_of_mem job hjob'
  · -- A worker goes on with its job.
    have hproper := h.proper _ (List.mem_of_getElem? hw)
    obtain ⟨_, hnow, heffect⟩ := h.stepEffect hsafe hw hadvance
    refine ⟨h.sameFolders.trans heffect.sameFolders, h.queue, ?_, ?_⟩
    · intro v hv
      rcases List.mem_or_eq_of_mem_set hv with hold | rfl
      · exact h.proper v hold
      · exact hproper.step heffect
    · rcases h.outcome with hspoiled | hthrives
      · exact Or.inl (hspoiled.step h.proper hw heffect)
      · by_cases hmeets : Meets base s.files.fileAt? p.workers
        · exact Or.inl (Spoiled.step h.proper hw heffect (Or.inr hmeets))
        · exact hthrives.step h.sameFolders hnow hmeets h.proper hw heffect

/-- Before the first step nothing has failed. -/
theorem sound_start {jobs : List DownloadJob} {width : Nat}
    (hjobs : ∀ job ∈ jobs, IsLocal dir known job)
    (hkept : ∀ tag, kept tag → Artifact.isFresh s.files s.now (tag.localPath dir) = true) :
    Sound dir known s.files kept s (Pool.start (handler fetch room) width jobs) := by
  have hidle : ∀ w ∈ (Pool.start (handler fetch room) width jobs).workers, w = .idle [] :=
    fun w hw => List.eq_of_mem_replicate hw
  refine ⟨SameFolders.refl s.files, hjobs, ?_, Or.inr ⟨hkept, ?_⟩⟩
  · intro w hw
    rw [hidle w hw]
    exact ⟨by simp, by simp, by simp, by simp [write?], by simp [Pool.gatheredBy]⟩
  · intro w hw
    rw [hidle w hw]
    exact ⟨by simp [Pool.gatheredBy], by simp [write?]⟩

/-- Time may pass as long as no fresh file becomes stale. -/
theorem Sound.elapse (h : Sound dir known base kept s p) (hkept : ∀ tag, kept tag → known tag)
    {later : Time} (hexpires : NoneExpires dir known s.files s.now later) :
    Sound dir known base kept { s with now := later } p := by
  refine ⟨h.sameFolders, h.queue, h.proper, h.outcome.imp id ?_⟩
  intro hthrives
  refine ⟨fun tag htag => hexpires tag (hkept tag htag) _ (Or.inl rfl) (hthrives.kept tag htag), ?_⟩
  intro w hw
  have hproper := h.proper w hw
  have hthriving := hthrives.workers w hw
  refine ⟨?_, ?_⟩
  · intro r hr hok
    exact hexpires r.1 (hproper.gathered r hr) _ (Or.inl rfl) (hthriving.gathered r hr hok)
  · intro job stage hwrite hopened
    obtain ⟨l, file, hslot, hfile, hrecent⟩ := hthriving.temporary job stage hwrite hopened
    refine ⟨l, file, hslot, hfile, ?_⟩
    intro hwritten
    obtain ⟨hknown, hlocal⟩ := hproper.isLocal_of_write hwrite
    have hslot' : s.files.slot? (temporaryPath job.path) = some l := by
      rw [slot?_congr h.sameFolders]
      exact hslot
    have hfresh := hexpires job.tag hknown (temporaryPath job.path) (Or.inr (by rw [hlocal]))
      (Artifact.isFresh_iff.2 ⟨l, file, hslot', hfile, hrecent hwritten⟩)
    obtain ⟨l', file', hslot'', hfile', hrecent'⟩ := Artifact.isFresh_iff.1 hfresh
    rw [hslot'] at hslot''
    cases hslot''
    rw [hfile] at hfile'
    cases hfile'
    exact hrecent'

/-- When all workers have ended and no download has failed, the rule-sets that were to be kept are
fresh, and so are those that were downloaded. -/
theorem Sound.fresh_of_hasEnded (h : Sound dir known base kept s p) (hended : p.hasEnded = true)
    (hok : ∀ r ∈ p.results, r.2 = .ok ()) :
    (∀ tag, kept tag → Artifact.isFresh s.files s.now (tag.localPath dir) = true) ∧
      ∀ r ∈ p.results, Artifact.isFresh s.files s.now (r.1.localPath dir) = true := by
  have hfinished : ∀ w ∈ p.workers, write? w = none ∧ Pool.gatheredBy w = w.results := by
    intro w hw
    have hend : w.hasEnded = true := List.all_eq_true.1 hended w hw
    cases w with
    | idle | busy => cases hend
    | finished | crashed => exact ⟨rfl, rfl⟩
  have hresults : ∀ w ∈ p.workers, ∀ r ∈ Pool.gatheredBy w, r ∈ p.results := by
    intro w hw r hr
    rw [(hfinished w hw).2] at hr
    exact List.mem_flatMap_of_mem hw hr
  rcases h.outcome with (⟨w, hw, hfails⟩ | ⟨i, w, l, hw, hopened, _⟩) | hthrives
  · rcases hfails with ⟨r, hr, reason, herror⟩ | ⟨job, reason, hcleaning⟩
    · rw [hok r (hresults w hw r hr)] at herror
      cases herror
    · rw [(hfinished w hw).1] at hcleaning
      cases hcleaning
  · exact absurd hopened
      (not_opened_of_write?_eq_none (hfinished w (List.mem_of_getElem? hw)).1)
  · refine ⟨hthrives.kept, ?_⟩
    intro r hr
    obtain ⟨w, hw, hrw⟩ := List.mem_flatMap.1 hr
    rw [← (hfinished w hw).2] at hrw
    exact (hthrives.workers w hw).gathered r hrw (hok r hr)

end PoolStep

end Download
end ProxyConfig
