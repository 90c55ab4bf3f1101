import ProxyConfig.Proofs.RuleSet.Ledger
import ProxyConfig.Proofs.RuleSet.Overlap
import ProxyConfig.Proofs.RuleSet.Phase
import ProxyConfig.Proofs.RuleSet.Report
import ProxyConfig.Proofs.RuleSet.Run

/-!
# A run while time passes

A run that has the lock goes on by itself, and between its steps time may pass.  As long as no
rule-set becomes stale meanwhile, a run that does not force anything leaves fresh rule-sets alone; and
if nothing fails all its rule-sets are fresh in the end, whatever their names are.

Main results:

- `stays_run`: what a run keeps and what it requests, at all its phases.
- `isNarrow_run`: a run has no more workers than it may.
-/

namespace ProxyConfig

open Files Files.Folder

namespace SyncPhase

variable {y : Synchronizer}

/-- A step of a run that has the lock, or the passage of time. -/
def Proceeds (lapse : Lapse) (request : SyncRequest) (a b : SyncState × SyncPhase y) : Prop :=
  Step request a b ∨ ∃ seconds : Nat, lapse a.1.files a.1.now (a.1.now + seconds) ∧
    ({ a.1 with now := a.1.now + seconds }, a.2) = b

/-! ## What a run keeps -/

section Keeping

variable (known kept : RuleSetTag → Prop) (request : SyncRequest)

/-- The rule-sets that are to be kept are fresh. -/
def KeepsFresh (y : Synchronizer) (kept : RuleSetTag → Prop) (s : SyncState) : Prop :=
  ∀ tag, kept tag → Artifact.isFresh s.files s.now (tag.localPath y.dir) = true

/-- Every rule-set of the run was found fresh and is to be kept, or it is to be downloaded. -/
def KeptBeside (chosen : List RuleSetTag) (tag : RuleSetTag) : Prop :=
  kept tag ∨ (tag ∈ request.tags ∧ tag ∉ chosen)

/-- The downloads of rule-sets. -/
def jobsOf (y : Synchronizer) (chosen : List RuleSetTag) : List DownloadJob :=
  chosen.map (y.job request.source)

/-- What is known at a phase of a run. -/
def Stays (s : SyncState) : SyncPhase y → Prop
  | .waiting => False
  | .entered => s.requested = [] ∧ KeepsFresh y kept s
  | .checking left jobs =>
    s.requested = [] ∧ ∃ looked chosen, looked ++ left = request.tags ∧
      jobs.reverse = jobsOf request y chosen ∧ chosen.Sublist looked ∧
      (∀ tag ∈ chosen, ¬ kept tag) ∧
      KeepsFresh y (fun tag => kept tag ∨ (tag ∈ looked ∧ tag ∉ chosen)) s
  | .downloading pool =>
    ∃ chosen, chosen.Sublist request.tags ∧ (∀ tag ∈ chosen, ¬ kept tag) ∧
      (∃ hsafe hurl done,
        (Download.ledger y.fetch y.room (jobsOf request y chosen) hsafe hurl).Invariant (s, pool) done) ∧
      ∃ base, Download.Sound y.dir known base (KeptBeside kept request chosen) s pool
  | .ended (.ok report) =>
    s.requested.Nodup ∧
      (∀ url ∈ s.requested, ∃ tag ∈ request.tags, ¬ kept tag ∧ request.source.url tag = url) ∧
      (report.failures = [] → KeepsFresh y (fun tag => kept tag ∨ tag ∈ request.tags) s)
  | .ended (.error _) => s.requested = [] ∧ KeepsFresh y kept s

end Keeping

section Steps

variable {known kept : RuleSetTag → Prop} {request : SyncRequest} {s t : SyncState}
  {phase next : SyncPhase y}

/-- A report without failures is one about downloads that went well. -/
theorem eq_ok_of_failures_eq_nil {results : List DownloadResult}
    (h : (request.report results).failures = []) : ∀ r ∈ results, r.2 = .ok () := by
  rintro ⟨tag, outcome⟩ hr
  cases outcome with
  | ok u => rfl
  | error reason =>
    have hmem : (tag, reason) ∈ (request.report results).failures :=
      SyncReport.mem_failures_iff.2 hr
    rw [h] at hmem
    cases hmem

/-- A run ends well if it has nothing to do. -/
theorem stays_ended_of_nothing {chosen : List RuleSetTag} (hrequested : s.requested = [])
    (hkeeps : KeepsFresh y (KeptBeside kept request chosen) s) (hchosen : chosen = []) :
    Stays known kept request s (.ended (y := y) (.ok (request.report []))) := by
  refine ⟨by simp [hrequested], by simp [hrequested], ?_⟩
  rintro - tag (hkept | htag)
  · exact hkeeps tag (Or.inl hkept)
  · exact hkeeps tag (Or.inr ⟨htag, by simp [hchosen]⟩)

/-- The downloads of different rule-sets have different addresses. -/
theorem eq_of_url_jobsOf {chosen : List RuleSetTag} :
    ∀ a ∈ jobsOf request y chosen, ∀ b ∈ jobsOf request y chosen, a.url = b.url → a = b := by
  intro a ha b hb hurl
  obtain ⟨tag, _, rfl⟩ := List.mem_map.1 ha
  obtain ⟨tag', _, rfl⟩ := List.mem_map.1 hb
  rw [RuleSetTag.url_inj hurl]

theorem map_tag_jobsOf (chosen : List RuleSetTag) :
    (jobsOf request y chosen).map DownloadJob.tag = chosen := by
  rw [jobsOf, List.map_map]
  exact List.map_id chosen

theorem nodup_jobsOf {chosen : List RuleSetTag} (h : chosen.Nodup) :
    (jobsOf request y chosen).Nodup :=
  h.map fun _ _ heq => congrArg DownloadJob.tag heq

/-- What a run has requested, whatever phase it is at. -/
theorem Stays.requested (h : Stays known kept request s phase) :
    s.requested.Nodup ∧
      ∀ url ∈ s.requested, ∃ tag ∈ request.tags, ¬ kept tag ∧ request.source.url tag = url := by
  cases phase with
  | waiting => exact absurd h id
  | entered => simp [h.1]
  | checking left jobs => simp [h.1]
  | downloading pool =>
    obtain ⟨chosen, hsublist, hnew, ⟨hsafe, hurl, done, hledger⟩, _⟩ := h
    refine ⟨Download.nodup_of_ledger hledger, ?_⟩
    intro url hmem
    obtain ⟨job, hjob, rfl⟩ := hledger.common url hmem
    obtain ⟨tag, htag, rfl⟩ := List.mem_map.1 hjob
    exact ⟨tag, hsublist.subset htag, hnew tag htag, rfl⟩
  | ended result =>
    cases result with
    | ok report => exact ⟨h.1, h.2.1⟩
    | error e => simp [h.1]

/-- A rule-set that is needed joins those that are to be downloaded.  It is none of those to be kept,
since it is not fresh. -/
theorem stays_needed (hforced : request.isForced = false) {tag : RuleSetTag}
    {left : List RuleSetTag} {jobs : List DownloadJob}
    (h : Stays known kept request s (.checking (y := y) (tag :: left) jobs))
    (hneeds : y.needs request s.files s.now tag = true) :
    Stays known kept request s (.checking (y := y) left (y.job request.source tag :: jobs)) := by
  obtain ⟨hrequested, looked, chosen, hlooked, hjobs, hsublist, hnew, hkeeps⟩ := h
  have hstale : Artifact.isFresh s.files s.now (tag.localPath y.dir) = false := by
    simpa [Synchronizer.needs, hforced] using hneeds
  refine ⟨hrequested, looked ++ [tag], chosen ++ [tag], by simpa using hlooked, ?_, ?_, ?_, ?_⟩
  · simp [hjobs, jobsOf]
  · exact hsublist.append (List.Sublist.refl [tag])
  · intro other hother hkept
    rcases List.mem_append.1 hother with hold | hlast
    · exact hnew other hold hkept
    · have hfresh := hkeeps other (Or.inl hkept)
      rw [List.mem_singleton.1 hlast, hstale] at hfresh
      cases hfresh
  · rintro other (hkept | ⟨hlook, hnot⟩)
    · exact hkeeps other (Or.inl hkept)
    · rw [List.mem_append, not_or] at hnot
      rcases List.mem_append.1 hlook with hold | hlast
      · exact hkeeps other (Or.inr ⟨hold, hnot.1⟩)
      · exact absurd hlast hnot.2

/-- A rule-set that is not needed is fresh. -/
theorem stays_found (hforced : request.isForced = false) {tag : RuleSetTag}
    {left : List RuleSetTag} {jobs : List DownloadJob}
    (h : Stays known kept request s (.checking (y := y) (tag :: left) jobs))
    (hneeds : y.needs request s.files s.now tag = false) :
    Stays known kept request s (.checking (y := y) left jobs) := by
  obtain ⟨hrequested, looked, chosen, hlooked, hjobs, hsublist, hnew, hkeeps⟩ := h
  have hfresh : Artifact.isFresh s.files s.now (tag.localPath y.dir) = true := by
    simpa [Synchronizer.needs, hforced] using hneeds
  refine ⟨hrequested, looked ++ [tag], chosen, by simpa using hlooked, hjobs, ?_, hnew, ?_⟩
  · exact hsublist.trans (List.sublist_append_left looked [tag])
  · rintro other (hkept | ⟨hlook, hnot⟩)
    · exact hkeeps other (Or.inl hkept)
    · rcases List.mem_append.1 hlook with hold | hlast
      · exact hkeeps other (Or.inr ⟨hold, hnot⟩)
      · rw [List.mem_singleton.1 hlast]
        exact hfresh

/-- When all rule-sets are looked at the downloads begin. -/
theorem stays_started (hsafe : ∀ url, y.fetch url ≠ .crashed)
    (hknown : ∀ tag ∈ request.tags, known tag) {jobs : List DownloadJob}
    (h : Stays known kept request s (.checking (y := y) [] jobs)) :
    Stays known kept request s
      (.downloading (Pool.start y.handler Synchronizer.width jobs.reverse)) := by
  obtain ⟨hrequested, looked, chosen, hlooked, hjobs, hsublist, hnew, hkeeps⟩ := h
  have hall : looked = request.tags := by simpa using hlooked
  subst hall
  rw [hjobs]
  refine ⟨chosen, hsublist, hnew, ⟨hsafe, eq_of_url_jobsOf, [], ?_⟩, s.files, ?_⟩
  · exact Download.ledger_start hrequested
  · refine Download.sound_start ?_ hkeeps
    intro job hjob
    obtain ⟨tag, htag, rfl⟩ := List.mem_map.1 hjob
    exact ⟨hknown tag (hsublist.subset htag), rfl⟩

/-- The downloads proceed. -/
theorem stays_worked (hnodup : request.tags.Nodup) {pool pool' : Pool y.handler}
    (h : Stays known kept request s (.downloading pool))
    (hpool : Pool.Step (s, pool) (t, pool')) :
    Stays known kept request t (.downloading pool') := by
  obtain ⟨chosen, hsublist, hnew, ⟨hsafe, hurl, done, hledger⟩, base, hsound⟩ := h
  obtain ⟨done', hledger'⟩ := Pool.Discipline.invariant_step
    (nodup_jobsOf (hnodup.sublist hsublist)) hledger hpool
  exact ⟨chosen, hsublist, hnew, ⟨hsafe, hurl, done', hledger'⟩, base, hsound.step hsafe hpool⟩

/-- When all downloads have ended without a failure, all rule-sets are fresh. -/
theorem stays_finished {pool : Pool y.handler}
    (h : Stays known kept request s (.downloading pool)) (hended : pool.hasEnded = true) :
    Stays known kept request s (.ended (y := y) (.ok (request.report pool.results))) := by
  have hrequested := h.requested
  obtain ⟨chosen, hsublist, hnew, ⟨hsafe, hurl, done, hledger⟩, base, hsound⟩ := h
  refine ⟨hrequested.1, hrequested.2, ?_⟩
  intro hfailures
  obtain ⟨hkeeps, hresults⟩ :=
    hsound.fresh_of_hasEnded hended (eq_ok_of_failures_eq_nil hfailures)
  have htags := Download.tags_perm_of_ledger hledger hended
  rw [map_tag_jobsOf] at htags
  rintro tag (hkept | htag)
  · exact hkeeps tag (Or.inl hkept)
  · by_cases hchosen : tag ∈ chosen
    · obtain ⟨r, hr, rfl⟩ := List.mem_map.1 (htags.mem_iff.2 hchosen)
      exact hresults r hr
    · exact hkeeps tag (Or.inr ⟨htag, hchosen⟩)

/-- A step of a run that forces nothing keeps what is known. -/
theorem Stays.step (hforced : request.isForced = false) (hnodup : request.tags.Nodup)
    (hsafe : ∀ url, y.fetch url ≠ .crashed) (hknown : ∀ tag ∈ request.tags, known tag)
    (h : Stays known kept request s phase) (hstep : Advances request s phase t next) :
    Stays known kept request t next := by
  cases hstep with
  | skipped htags =>
    refine stays_ended_of_nothing h.1 ?_ rfl
    rintro tag (hkept | ⟨htag, _⟩)
    · exact h.2 tag hkept
    · simp [htags] at htag
  | blocked _ hcreate =>
    exact ⟨h.1, fun tag hkept => isFresh_createFolders hcreate (h.2 tag hkept)⟩
  | made _ hcreate =>
    refine ⟨h.1, [], [], rfl, rfl, List.Sublist.refl [], by simp, ?_⟩
    rintro tag (hkept | ⟨hnone, _⟩)
    · exact isFresh_createFolders hcreate (h.2 tag hkept)
    · cases hnone
  | needed hneeds => exact stays_needed hforced h hneeds
  | found hneeds => exact stays_found hforced h hneeds
  | satisfied =>
    obtain ⟨hrequested, looked, chosen, hlooked, hjobs, _, _, hkeeps⟩ := h
    have hall : looked = request.tags := by simpa using hlooked
    have hchosen : chosen = [] := List.map_eq_nil_iff.1 hjobs.symm
    subst hall
    exact stays_ended_of_nothing hrequested hkeeps hchosen
  | started => exact stays_started hsafe hknown h
  | worked hpool => exact stays_worked hnodup h hpool
  | finished hended => exact stays_finished h hended

/-- Time may pass as long as no rule-set becomes stale. -/
theorem stays_elapse (hknown : ∀ tag ∈ request.tags, known tag)
    (hkept : ∀ tag, kept tag → known tag) {phase : SyncPhase y} {later : Time}
    (hexpires : NoneExpires y.dir known s.files s.now later)
    (h : Stays known kept request s phase) :
    Stays known kept request { s with now := later } phase := by
  have hkeeps : ∀ {want : RuleSetTag → Prop}, (∀ tag, want tag → known tag) →
      KeepsFresh y want s → KeepsFresh y want { s with now := later } :=
    fun hwant hfresh tag htag => hexpires tag (hwant tag htag) _ (Or.inl rfl) (hfresh tag htag)
  cases phase with
  | waiting => exact h
  | entered => exact ⟨h.1, hkeeps hkept h.2⟩
  | checking left jobs =>
    obtain ⟨hrequested, looked, chosen, hlooked, hjobs, hsublist, hnew, hfresh⟩ := h
    refine ⟨hrequested, looked, chosen, hlooked, hjobs, hsublist, hnew, hkeeps ?_ hfresh⟩
    rintro tag (htag | ⟨htag, _⟩)
    · exact hkept tag htag
    · refine hknown tag ?_
      rw [← hlooked]
      exact List.mem_append_left left htag
  | downloading pool =>
    obtain ⟨chosen, hsublist, hnew, ⟨hsafe, hurl, done, hledger⟩, base, hsound⟩ := h
    refine ⟨chosen, hsublist, hnew,
      ⟨hsafe, hurl, done, Download.ledger_congr hledger rfl⟩, base, hsound.elapse ?_ hexpires⟩
    rintro tag (htag | ⟨htag, _⟩)
    · exact hkept tag htag
    · exact hknown tag htag
  | ended result =>
    cases result with
    | ok report =>
      obtain ⟨hrequested, hfrom, hfresh⟩ := h
      refine ⟨hrequested, hfrom, fun hfailures => hkeeps ?_ (hfresh hfailures)⟩
      rintro tag (htag | htag)
      · exact hkept tag htag
      · exact hknown tag htag
    | error e => exact ⟨h.1, hkeeps hkept h.2⟩

end Steps

/-! ## Whole runs -/

section Runs

variable {known kept : RuleSetTag → Prop} {request : SyncRequest} {lapse : Lapse}
  {a b : SyncState × SyncPhase y}

/-- What a run that forces nothing keeps and requests while no rule-set becomes stale. -/
theorem stays_run (hforced : request.isForced = false) (hnodup : request.tags.Nodup)
    (hsafe : ∀ url, y.fetch url ≠ .crashed) (hknown : ∀ tag ∈ request.tags, known tag)
    (hkept : ∀ tag, kept tag → known tag)
    (hlapse : ∀ files now later, lapse files now later → NoneExpires y.dir known files now later)
    (hrun : Relation.ReflTransGen (Proceeds lapse request) a b)
    (h : Stays known kept request a.1 a.2) : Stays known kept request b.1 b.2 := by
  induction hrun with
  | refl => exact h
  | tail _ hstep ih =>
    rcases hstep with ⟨worker, choice, hstep⟩ | ⟨seconds, hpass, rfl⟩
    · exact ih.step hforced hnodup hsafe hknown (advances_of_step hstep)
    · exact stays_elapse hknown hkept (hlapse _ _ _ hpass) ih

theorem isNarrow_run (hrun : Relation.ReflTransGen (Proceeds lapse request) a b)
    (h : a.2.IsNarrow) : b.2.IsNarrow := by
  induction hrun with
  | refl => exact h
  | tail _ hstep ih =>
    rcases hstep with ⟨worker, choice, hstep⟩ | ⟨seconds, _, rfl⟩
    · exact (advances_of_step hstep).isNarrow ih
    · exact ih

end Runs
end SyncPhase
end ProxyConfig
