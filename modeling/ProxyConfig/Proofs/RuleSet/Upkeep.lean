import ProxyConfig.Proofs.RuleSet.Available
import ProxyConfig.Proofs.RuleSet.Breakdown

/-!
# Rule-sets stay while others are downloaded

A download writes to a temporary file of its own, and this takes the place of a rule-set only when
the whole content, which is not empty, stands in it.  So whatever the workers of a pool do, and even
if some of them crash, a file with content stays one, and what was downloaded is there.

Main results:

- `upholds_of_advance`: what a step of a download does to the files.
- `Upkeep.step`: what a step of a pool keeps.
- `Upkeep.exists_result`: without a crash every download has a result when all workers have ended.
-/

namespace ProxyConfig

open Files Files.Folder Pool

variable {base f g : Folder} {dir path : String}

/-- A file with content stays one if the folders stay, and if its slot keeps some content. -/
theorem HoldsRuleSet.of_slot (h : HoldsRuleSet f path) (hsame : SameFolders f g)
    (hslot : ∀ l, f.slot? path = some l → HasContent f l → HasContent g l) :
    HoldsRuleSet g path := by
  obtain ⟨l, hl, hcontent⟩ := holdsRuleSet_iff.1 h
  refine holdsRuleSet_iff.2 ⟨l, ?_, hslot l hl hcontent⟩
  rw [slot?_congr hsame]
  exact hl

namespace Files

/-! ## Steps of a write -/

/-- The temporary file that a write has opened is there, and it has content when all is written. -/
def WriteStage.IsSecured (base f : Folder) (path : String) (stage : WriteStage) : Prop :=
  stage.HasOpened → ∃ l file, base.slot? (temporaryPath path) = some l ∧
    f.fileAt? l = some file ∧ (stage.IsWritten → file.1 ≠ [])

section Effects

variable {now : Time} {content : Content} {piece : Nat} {stage : WriteStage} {step : WriteStep}
  {l : Location}

/-- The file that a secured write has opened. -/
theorem WriteStage.IsSecured.exists_file (h : stage.IsSecured base f path)
    (hopened : stage.HasOpened) (hl : base.slot? (temporaryPath path) = some l) :
    ∃ file, f.fileAt? l = some file ∧ (stage.IsWritten → file.1 ≠ []) := by
  obtain ⟨k, file, hk, hfile⟩ := h hopened
  rw [hl] at hk
  cases hk
  exact ⟨file, hfile⟩

theorem WriteStage.IsSecured.accepts (h : stage.IsSecured base f path)
    (hsame : SameFolders base f) (hopened : stage.HasOpened) :
    base.Accepts (temporaryPath path) := by
  obtain ⟨l, file, hl, hfile, _⟩ := h hopened
  refine ⟨l, hl, ?_⟩
  rw [← hsame l]
  exact holdsFolder_eq_false_of_file (fileAt?_eq_some_iff.1 hfile)

/-- A write does not depend on files other than its temporary one. -/
theorem WriteStage.IsSecured.congr (h : stage.IsSecured base f path)
    (hsame : ∀ l, base.slot? (temporaryPath path) = some l → g.fileAt? l = f.fileAt? l) :
    stage.IsSecured base g path := by
  intro hopened
  obtain ⟨l, file, hl, hfile, hwritten⟩ := h hopened
  exact ⟨l, file, hl, (hsame l hl).trans hfile, hwritten⟩

/-- A step changes no file but the temporary one, unless the target gets a content. -/
theorem WriteEffect.fileAt?_eq_or_hasContent
    (h : WriteEffect base now path content piece f g stage step)
    (hsecured : stage.IsSecured base f path) (hl : base.slot? (temporaryPath path) ≠ some l) :
    g.fileAt? l = f.fileAt? l ∨ (base.slot? path = some l ∧ HasContent g l) := by
  have hupdate : ∀ {k : Location} {file : Option (Content × Time)},
      base.slot? (temporaryPath path) = some k →
        Function.update f.fileAt? k file l = f.fileAt? l := by
    rintro k file hk
    refine Function.update_of_ne ?_ _ _
    rintro rfl
    exact hl hk
  cases h with
  | opened hslot _ _ hfiles | wrote hslot _ hfiles | removed hslot hfiles =>
    rw [hfiles.files]
    exact Or.inl (hupdate hslot)
  | refused hsame | written hsame | missed _ _ hsame | unremoved hsame =>
    rw [hsame]
    exact Or.inl rfl
  | @replaced _ k _ _ hslot htarget hfile hfiles =>
    by_cases hlk : l = k
    · subst hlk
      obtain ⟨file, hfile', hwritten⟩ := hsecured.exists_file trivial hslot
      rw [hfile] at hfile'
      cases hfile'
      refine Or.inr ⟨htarget, _, ?_, hwritten trivial⟩
      rw [hfiles.files, Function.update_self]
    · rw [hfiles.files, Function.update_of_ne hlk]
      exact Or.inl (hupdate hslot)

/-- A write of some content stays secured from step to step. -/
theorem WriteEffect.isSecured_next {next : WriteStage}
    (h : WriteEffect base now path content piece f g stage (.next next)) (hne : content ≠ [])
    (hsecured : stage.IsSecured base f path) : next.IsSecured base g path := by
  cases h with
  | opened hslot _ hcontent hfiles =>
    intro _
    refine ⟨_, _, hslot, by rw [hfiles.files, Function.update_self], ?_⟩
    intro hwritten
    rw [← hcontent] at hne
    exact absurd hwritten (WriteStage.not_isWritten hne)
  | refused => exact False.elim
  | written hsame =>
    rw [hsame]
    exact hsecured
  | wrote hslot _ hfiles =>
    intro _
    refine ⟨_, _, hslot, by rw [hfiles.files, Function.update_self], ?_⟩
    intro _
    simp
  | missed hslot hnone =>
    obtain ⟨file, hfile, _⟩ := hsecured.exists_file trivial hslot
    rw [hnone] at hfile
    cases hfile

/-- After a success there is content at the target. -/
theorem WriteEffect.hasContent_target
    (h : WriteEffect base now path content piece f g stage (.done (.ok ())))
    (hsecured : stage.IsSecured base f path) :
    ∃ l, base.slot? path = some l ∧ HasContent g l := by
  cases h with
  | replaced hslot htarget hfile hfiles =>
    obtain ⟨file, hfile', hwritten⟩ := hsecured.exists_file trivial hslot
    rw [hfile] at hfile'
    cases hfile'
    exact ⟨_, htarget, _, by rw [hfiles.files, Function.update_self], hwritten trivial⟩

end Effects
end Files

namespace Download

variable {fetch : Fetcher} {room : Room} {choice : Nat} {job : DownloadJob} {stage : DownloadStage}
  {s t : SyncState} {next : JobStep (DownloadJob × DownloadStage) DownloadResult}

/-! ## Steps of a download -/

/-- A download that stores something stores some content, and its write is secured. -/
def IsSecured (base f : Folder) (job : DownloadJob) : DownloadStage → Prop
  | .storing content write => content ≠ [] ∧ write.IsSecured base f job.path
  | .waiting | .inFlight => True

/-- What a step of a download does to the files. -/
structure Upholds (base : Folder) (job : DownloadJob) (f g : Folder)
    (next : JobStep (DownloadJob × DownloadStage) DownloadResult) : Prop where
  sameFolders : SameFolders f g
  spares : ∀ l, base.slot? (temporaryPath job.path) ≠ some l →
    g.fileAt? l = f.fileAt? l ∨ (base.slot? job.path = some l ∧ HasContent g l)
  secured : ∀ stage, next = .running (job, stage) → IsSecured base g job stage
  stored : next = .returned (job.tag, .ok ()) → ∃ l, base.slot? job.path = some l ∧ HasContent g l

/-- A step that changes no file and stores nothing. -/
theorem upholds_of_files_eq (hfiles : g = f)
    (hsecured : ∀ stage, next = .running (job, stage) → IsSecured base f job stage)
    (hstored : next ≠ .returned (job.tag, .ok ())) : Upholds base job f g next := by
  subst hfiles
  exact ⟨SameFolders.refl g, fun _ _ => Or.inl rfl, hsecured, fun h => absurd h hstored⟩

theorem upholds_of_advance (hsame : SameFolders base s.files)
    (hsecured : IsSecured base s.files job stage)
    (hstep : advance fetch room choice (job, stage) s = (t, next)) :
    Upholds base job s.files t.files next := by
  cases stage with
  | waiting =>
    cases hstep
    refine upholds_of_files_eq rfl ?_ (by simp)
    intro stage heq
    cases heq
    exact trivial
  | inFlight =>
    cases hstep
    cases fetch job.url with
    | body content =>
      cases content with
      | nil => exact upholds_of_files_eq rfl (by simp [receive]) (by simp [receive])
      | cons byte rest =>
        refine upholds_of_files_eq rfl ?_ (by simp [receive])
        intro stage heq
        cases heq
        exact ⟨List.cons_ne_nil byte rest, False.elim⟩
    | failed | crashed => exact upholds_of_files_eq rfl (by simp [receive]) (by simp [receive])
  | storing content write =>
    obtain ⟨hne, hwrite⟩ := hsecured
    cases hadvance : write.advance room s.now job.path content choice s.files with
    | mk files step =>
      have heffect := effect_of_advance hsame (hwrite.accepts hsame) hadvance
      have hspares := fun l => heffect.fileAt?_eq_or_hasContent (l := l) hwrite
      simp only [advance, hadvance] at hstep
      cases step with
      | next write' =>
        cases hstep
        refine ⟨heffect.sameFolders, hspares, ?_, by simp⟩
        intro stage heq
        cases heq
        exact ⟨hne, heffect.isSecured_next hne hwrite⟩
      | done result =>
        cases hstep
        refine ⟨heffect.sameFolders, hspares, by simp, ?_⟩
        intro heq
        cases result with
        | ok u => exact heffect.hasContent_target hwrite
        | error e => simp [Except.mapError] at heq

section Upholding

variable (h : Upholds base job f g next) (hsame : SameFolders base f)
  (hlocal : job.path = job.tag.localPath dir)

include h hsame hlocal

/-- A step of a download leaves all rule-sets at their places. -/
theorem Upholds.holdsRuleSet {tag : RuleSetTag} (htag : HoldsRuleSet f (tag.localPath dir)) :
    HoldsRuleSet g (tag.localPath dir) := by
  refine htag.of_slot h.sameFolders ?_
  rintro l hl ⟨file, hfile, hne⟩
  rw [slot?_congr hsame] at hl
  have htemporary : base.slot? (temporaryPath job.path) ≠ some l := by
    intro hslot
    rw [hlocal] at hslot
    exact slot_ne_temporary hl hslot rfl
  rcases h.spares l htemporary with heq | ⟨_, hcontent⟩
  · exact ⟨file, heq.trans hfile, hne⟩
  · exact hcontent

omit hsame in
/-- A step of a download leaves those alone that have temporary files of their own. -/
theorem Upholds.isSecured {other : DownloadJob} {stage : DownloadStage}
    (hother : other.path = other.tag.localPath dir)
    (hne : ∀ l k, base.slot? (temporaryPath job.path) = some l →
      base.slot? (temporaryPath other.path) = some k → l ≠ k)
    (hsecured : IsSecured base f other stage) : IsSecured base g other stage := by
  cases stage with
  | waiting | inFlight => exact trivial
  | storing content write =>
    refine ⟨hsecured.1, hsecured.2.congr ?_⟩
    intro l hl
    refine (h.spares l fun hslot => hne l l hslot hl rfl).resolve_right ?_
    -- The temporary file of a download is not the target of another one.
    rintro ⟨htarget, _⟩
    rw [hlocal] at htarget
    rw [hother] at hl
    exact slot_ne_temporary htarget hl rfl

omit hlocal in
/-- What a download has stored is there. -/
theorem Upholds.holdsRuleSet_of_stored (hnext : next = .returned (job.tag, .ok ())) :
    HoldsRuleSet g job.path := by
  obtain ⟨l, hl, hcontent⟩ := h.stored hnext
  refine holdsRuleSet_iff.2 ⟨l, ?_, hcontent⟩
  rw [slot?_congr h.sameFolders, slot?_congr hsame]
  exact hl

end Upholding

/-! ## Pools -/

/-- What holds of a worker at all times. -/
structure Diligent (dir : String) (base f : Folder) (w : Worker (handler fetch room)) : Prop where
  busy : ∀ own job stage gathered, w = .busy own (job, stage) gathered →
    own = job ∧ Answered fetch job stage ∧ IsSecured base f job stage
  gathered : ∀ r ∈ gatheredBy w, r.2 = .ok () → HoldsRuleSet f (r.1.localPath dir)

/-- What holds of a pool at all times, compared with the tree in which its downloads began. -/
structure Upkeep (dir : String) (base : Folder) (kept : RuleSetTag → Prop)
    (jobs : List DownloadJob) (n : Nat) (f : Folder) (p : Pool (handler fetch room)) : Prop where
  sameFolders : SameFolders base f
  kept : ∀ tag, kept tag → HoldsRuleSet f (tag.localPath dir)
  books : ∃ log, Books jobs n log p ∧ ∀ e ∈ log, Told fetch e
  workers : ∀ w ∈ p.workers, Diligent dir base f w

section Pools

variable {kept : RuleSetTag → Prop} {jobs : List DownloadJob} {n i : Nat}
  {p q : Pool (handler fetch room)} {w w' : Worker (handler fetch room)}

theorem diligent_of_currentJob?_eq_none (hnone : currentJob? w = none)
    (hgathered : ∀ r ∈ gatheredBy w, r.2 = .ok () → HoldsRuleSet f (r.1.localPath dir)) :
    Diligent dir base f w := by
  refine ⟨?_, hgathered⟩
  rintro own job stage gathered rfl
  cases hnone

/-- Before the first step all workers are idle. -/
theorem upkeep_start (width : Nat) (jobs : List DownloadJob)
    (hkept : ∀ tag, kept tag → HoldsRuleSet base (tag.localPath dir)) :
    Upkeep dir base kept jobs (min (effectiveWidth width) jobs.length) base
      (Pool.start (handler fetch room) width jobs) := by
  refine ⟨SameFolders.refl base, hkept, ⟨[], books_start width jobs, by simp⟩, ?_⟩
  intro w hw
  rw [List.eq_of_mem_replicate hw]
  exact diligent_of_currentJob?_eq_none rfl (by simp [gatheredBy])

/-- A worker that goes on with its job stays diligent. -/
theorem Diligent.workerAfter {gathered : List DownloadResult}
    (h : Diligent dir base s.files (.busy job (job, stage) gathered : Worker (handler fetch room)))
    (hsame : SameFolders base s.files) (hlocal : job.path = job.tag.localPath dir)
    (hstep : advance fetch room choice (job, stage) s = (t, next)) :
    Diligent dir base t.files (Pool.workerAfter (h := handler fetch room) job gathered next) := by
  obtain ⟨_, hanswered, hsecured⟩ := h.busy job job stage gathered rfl
  have hupholds := upholds_of_advance hsame hsecured hstep
  have hgathered : ∀ r ∈ gathered, r.2 = .ok () → HoldsRuleSet t.files (r.1.localPath dir) :=
    fun r hr hok => hupholds.holdsRuleSet hsame hlocal (h.gathered r hr hok)
  rcases ends_of_advance hanswered hstep with ⟨stage', rfl, hanswered'⟩ | ⟨outcome, rfl, _⟩ |
    ⟨rfl, _⟩
  · refine ⟨?_, hgathered⟩
    intro own job' stage'' gathered' heq
    cases heq
    exact ⟨rfl, hanswered', hupholds.secured stage' rfl⟩
  · refine diligent_of_currentJob?_eq_none rfl ?_
    intro r hr hok
    rcases List.mem_append.1 hr with hold | hnew
    · exact hgathered r hold hok
    · have heq : r = (job.tag, outcome) := List.mem_singleton.1 hnew
      subst heq
      have houtcome : outcome = .ok () := hok
      subst houtcome
      rw [← hlocal]
      exact hupholds.holdsRuleSet_of_stored hsame rfl
  · exact diligent_of_currentJob?_eq_none rfl (by simp [gatheredBy, Pool.workerAfter])

/-- A worker stays diligent while another one goes on that has a temporary file of its own. -/
theorem Diligent.of_upholds (h : Diligent dir base f w) (hupholds : Upholds base job f g next)
    (hsame : SameFolders base f) (hlocal : job.path = job.tag.localPath dir)
    (hother : ∀ other, currentJob? w = some other → other.path = other.tag.localPath dir ∧
      ∀ l k, base.slot? (temporaryPath job.path) = some l →
        base.slot? (temporaryPath other.path) = some k → l ≠ k) : Diligent dir base g w := by
  refine ⟨?_, fun r hr hok => hupholds.holdsRuleSet hsame hlocal (h.gathered r hr hok)⟩
  rintro own other stage gathered rfl
  obtain ⟨rfl, hanswered, hsecured⟩ := h.busy own other stage gathered rfl
  obtain ⟨hpath, hne⟩ := hother own rfl
  exact ⟨rfl, hanswered, hupholds.isSecured hlocal hpath hne hsecured⟩

/-- The job of a worker is one of the jobs, and no other worker has it. -/
theorem currentJob_unique_of_books {log : List (Event DownloadJob DownloadResult)}
    {front back : List (Worker (handler fetch room))} (hbooks : Books jobs n log p)
    (hnodup : jobs.Nodup) (hworkers : p.workers = front ++ w :: back)
    (hjob : currentJob? w = some job) :
    job ∈ jobs ∧ ∀ v ∈ front ++ back, ∀ other, currentJob? v = some other →
      other ∈ jobs ∧ job ≠ other := by
  have hhanded : (handedJobs log).Sublist jobs := by
    rw [← hbooks.handed_append]
    exact List.sublist_append_left _ _
  have hcurrent : (p.workers.filterMap currentJob?).Subperm (handedJobs log) :=
    (List.sublist_append_right _ _).subperm.trans hbooks.ended_perm.subperm
  have hmem : ∀ v ∈ p.workers, ∀ other, currentJob? v = some other → other ∈ jobs :=
    fun v hv other hother =>
      hhanded.subset (hcurrent.subset (List.mem_filterMap.2 ⟨v, hv, hother⟩))
  have hdistinct : (p.workers.filterMap currentJob?).Nodup := by
    obtain ⟨held, hperm, hsublist⟩ := hcurrent
    exact hperm.nodup_iff.1 (hnodup.sublist (hsublist.trans hhanded))
  rw [hworkers] at hmem hdistinct
  rw [List.filterMap_append, List.filterMap_cons_some hjob, List.nodup_middle,
    List.nodup_cons, ← List.filterMap_append] at hdistinct
  refine ⟨hmem w (by simp) job hjob, ?_⟩
  intro v hv other hother
  refine ⟨hmem v ?_ other hother, ?_⟩
  · rcases List.mem_append.1 hv with hfront | hback
    · exact List.mem_append_left _ hfront
    · exact List.mem_append_right _ (List.mem_cons_of_mem w hback)
  · rintro rfl
    exact hdistinct.1 (List.mem_filterMap.2 ⟨v, hv, hother⟩)

section Steps

variable (hnodup : jobs.Nodup) (hlocal : ∀ job ∈ jobs, job.path = job.tag.localPath dir)
  (hapart : Apart base jobs)

include hnodup hlocal hapart

/-- A worker that goes on with its job leaves the others diligent, since downloads that are apart
have temporary files of their own. -/
theorem Upkeep.advance {gathered : List DownloadResult} (h : Upkeep dir base kept jobs n s.files p)
    (hw : p.workers[i]? = some (.busy job (job, stage) gathered))
    (hstep : Download.advance fetch room choice (job, stage) s = (t, next)) :
    SameFolders base t.files ∧ (∀ tag, kept tag → HoldsRuleSet t.files (tag.localPath dir)) ∧
      ∀ w ∈ p.workers.set i (Pool.workerAfter (h := handler fetch room) job gathered next),
        Diligent dir base t.files w := by
  obtain ⟨log, hbooks, _⟩ := h.books
  obtain ⟨front, back, hworkers, hset⟩ := set_eq_of_getElem? hw
  obtain ⟨hjob, hothers⟩ := currentJob_unique_of_books hbooks hnodup hworkers rfl
  have hdiligent := h.workers _ (List.mem_of_getElem? hw)
  have hupholds := upholds_of_advance h.sameFolders (hdiligent.busy _ _ _ _ rfl).2.2 hstep
  have hpath := hlocal job hjob
  refine ⟨h.sameFolders.trans hupholds.sameFolders,
    fun tag htag => hupholds.holdsRuleSet h.sameFolders hpath (h.kept tag htag), ?_⟩
  have hrest : ∀ v ∈ front ++ back, Diligent dir base t.files v := by
    intro v hv
    have hmem : v ∈ p.workers := by
      rw [hworkers]
      rcases List.mem_append.1 hv with hfront | hback
      · exact List.mem_append_left _ hfront
      · exact List.mem_append_right _ (List.mem_cons_of_mem _ hback)
    refine (h.workers v hmem).of_upholds hupholds h.sameFolders hpath ?_
    intro other hother
    obtain ⟨hin, hne⟩ := hothers v hv other hother
    refine ⟨hlocal other hin, ?_⟩
    rintro l k hl hk rfl
    exact (hapart.outside job hjob other hin hne l (Or.inr hk) l (Or.inr hl)).1
      (List.prefix_refl l)
  intro v hv
  rw [hset] at hv
  rcases List.mem_append.1 hv with hfront | hback
  · exact hrest v (List.mem_append_left _ hfront)
  · rcases List.mem_cons.1 hback with rfl | hback
    · exact hdiligent.workerAfter h.sameFolders hpath hstep
    · exact hrest v (List.mem_append_right _ hback)

/-- A step of a pool keeps what holds at all times. -/
theorem Upkeep.step (h : Upkeep dir base kept jobs n s.files p)
    (hstep : Pool.Step (s, p) (t, q)) : Upkeep dir base kept jobs n t.files q := by
  obtain ⟨i, choice, hstep⟩ := hstep
  obtain ⟨log, hbooks, htold⟩ := h.books
  have hbooks' := hbooks.step hstep
  have hset : ∀ w : Worker (handler fetch room), Diligent dir base s.files w →
      ∀ v ∈ p.workers.set i w, Diligent dir base s.files v := by
    intro w hnew v hv
    rcases List.mem_or_eq_of_mem_set hv with hold | rfl
    · exact h.workers v hold
    · exact hnew
  have hidle : ∀ gathered, p.workers[i]? = some (.idle gathered) → ∀ r ∈ gathered,
      r.2 = .ok () → HoldsRuleSet s.files (r.1.localPath dir) :=
    fun gathered hw => (h.workers _ (List.mem_of_getElem? hw)).gathered
  rcases step_cases hstep with ⟨gathered, hw, hqueue, rfl, rfl⟩ |
    ⟨gathered, job, rest, hw, hqueue, rfl, rfl⟩ |
    ⟨own, ⟨job, stage⟩, gathered, next, hw, hadvance, rfl⟩
  · -- A worker ends.
    have hevents : events i choice (t, p) = [] := by simp [events, hw, hqueue]
    rw [hevents] at hbooks'
    refine ⟨h.sameFolders, h.kept, ⟨_, hbooks', by simpa using htold⟩, hset _ ?_⟩
    exact diligent_of_currentJob?_eq_none rfl (hidle gathered hw)
  · -- A worker takes a job.
    have hevents : events i choice (t, p) = [.handed i job] := by simp [events, hw, hqueue]
    rw [hevents] at hbooks'
    refine ⟨h.sameFolders, h.kept, ⟨_, hbooks', ?_⟩, hset _ ⟨?_, hidle gathered hw⟩⟩
    · simpa [Told, or_imp, forall_and] using htold
    · intro own job' stage gathered' heq
      cases heq
      exact ⟨rfl, trivial, trivial⟩
  · -- A worker goes on with its job.
    obtain ⟨rfl, hanswered, _⟩ :=
      (h.workers _ (List.mem_of_getElem? hw)).busy own job stage gathered rfl
    have hevents : events i choice (s, p) = Event.ofJobStep i own next := by
      have hsnd : ((handler fetch room).advance choice (own, stage) s).2 = next := by rw [hadvance]
      simp [events, hw, hsnd]
    rw [hevents] at hbooks'
    obtain ⟨hsame, hkept, hworkers⟩ := h.advance hnodup hlocal hapart hw hadvance
    exact ⟨hsame, hkept,
      ⟨_, hbooks', List.forall_mem_append.2 ⟨htold, told_ofJobStep hanswered hadvance⟩⟩, hworkers⟩

end Steps

/-! ## The end -/

/-- What was downloaded is there when all workers have ended. -/
theorem Upkeep.holdsRuleSet_of_hasEnded (h : Upkeep dir base kept jobs n f p)
    (hended : p.hasEnded = true) {tag : RuleSetTag} (htag : (tag, .ok ()) ∈ p.results) :
    HoldsRuleSet f (tag.localPath dir) := by
  obtain ⟨w, hw, hr⟩ := List.mem_flatMap.1 htag
  have hend : w.hasEnded = true := List.all_eq_true.1 hended w hw
  cases w with
  | idle | busy => cases hend
  | finished gathered => exact (h.workers _ hw).gathered (tag, .ok ()) hr rfl
  | crashed => cases hr

/-- Every download has a result when all workers have ended, if none of them crashes. -/
theorem Upkeep.exists_result (h : Upkeep dir base kept jobs n f p) (hended : p.hasEnded = true)
    (hn : jobs ≠ [] → 0 < n) (hanswers : ∀ job ∈ jobs, fetch job.url ≠ .crashed)
    (hjob : job ∈ jobs) : ∃ outcome, (job.tag, outcome) ∈ p.results := by
  obtain ⟨log, hbooks, htold⟩ := h.books
  have hsettled := hbooks.settled hended
  have hanswer : ∀ job ∈ jobs, (fetch job.url).isCrash = false := by
    intro job hjob
    cases hfetch : fetch job.url with
    | body | failed => rfl
    | crashed => exact absurd hfetch (hanswers job hjob)
  have hhanded : handedJobs log = jobs := by
    refine hsettled.handedJobs_eq (fun job => (fetch job.url).isCrash)
      (fun i job he => htold _ he) ?_
    rw [List.filter_eq_nil_iff.2 fun job hjob => by simp [hanswer job hjob]]
    exact hn (List.ne_nil_of_mem hjob)
  have hended' : ∀ job, job ∈ endedJobs log ↔ job ∈ jobs := by
    intro job
    rw [hsettled.ended_perm.mem_iff, hhanded]
  have hnone : ∀ i other, Event.crashed i other ∉ log := by
    intro i other he
    have hcrash : (fetch other.url).isCrash = true := htold _ he
    rw [hanswer other ((hended' other).1 (List.mem_filterMap.2 ⟨_, he, rfl⟩))] at hcrash
    cases hcrash
  obtain ⟨e, he, hown⟩ := List.mem_filterMap.1 ((hended' job).2 hjob)
  cases e with
  | handed => cases hown
  | crashed i other => exact absurd he (hnone i other)
  | returned i other result =>
    cases hown
    have htag : result.1 = job.tag := (htold _ he).1
    refine ⟨result.2, ?_⟩
    rw [← htag]
    refine hsettled.mem_results_iff.2 ⟨i, job, he, ?_⟩
    intro hcrashed
    obtain ⟨other, hother⟩ := mem_crashedWorkers.1 hcrashed
    exact hnone i other hother

end Pools
end Download
end ProxyConfig
