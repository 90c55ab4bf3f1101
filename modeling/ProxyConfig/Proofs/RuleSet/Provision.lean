import ProxyConfig.Proofs.RuleSet.Lock
import ProxyConfig.Proofs.RuleSet.Place
import ProxyConfig.Proofs.RuleSet.Upkeep

/-!
# What synchronizations provide

A rule-set that a run finds or downloads lies in the folder from then on, whatever this run and
others do later.  So after a run all of its rule-sets are listed that it does not call missing.

Main results:

- `Retains.step`: what a step of a run keeps.
- `Serial.provided`: what a run has provided lies in the folder, also after later runs.
- `available_inverts_naming`: what the listing of a folder tells, and what it tells after a run.
-/

namespace ProxyConfig

open Files Files.Folder

/-- Making a folder leaves all rule-sets at their places. -/
theorem holdsRuleSet_createFolders {f g : Folder} {dir path : String} {r : Except FileError Unit}
    (hmade : f.createFolders dir = (g, r)) (h : HoldsRuleSet f path) : HoldsRuleSet g path := by
  obtain ⟨hfolders, hfiles, _⟩ := createFolders_spec hmade
  obtain ⟨l, hslot, ⟨content, modified⟩, hfile, hne⟩ := holdsRuleSet_iff.1 h
  refine holdsRuleSet_iff.2 ⟨l, slot?_mono hfolders hslot, (content, modified), ?_, hne⟩
  rw [fileAt?_eq_some_iff] at hfile ⊢
  exact (hfiles l content modified).2 hfile

/-- A fresh rule-set is there. -/
theorem holdsRuleSet_of_isFresh {f : Folder} {now : Time} {path : String}
    (h : Artifact.isFresh f now path = true) : HoldsRuleSet f path := by
  obtain ⟨content, modified, hstat, hne, _⟩ := Artifact.exists_file_of_isFresh h
  exact ⟨content, modified, hstat, hne⟩

namespace SyncPhase

variable {y : Synchronizer}

/-! ## What a run keeps -/

section Keeping

variable (kept : RuleSetTag → Prop) (request : SyncRequest)

/-- The rule-sets that are to be kept lie in the folder. -/
def KeepsFiles (y : Synchronizer) (kept : RuleSetTag → Prop) (f : Folder) : Prop :=
  ∀ tag, kept tag → HoldsRuleSet f (tag.localPath y.dir)

/-- A report promises a rule-set of the request: it was downloaded, or it is not called missing and
no fetch can have crashed. -/
def Promises (y : Synchronizer) (request : SyncRequest) (report : SyncReport)
    (tag : RuleSetTag) : Prop :=
  tag ∈ request.tags ∧ (tag ∈ report.downloaded ∨ (tag ∉ report.missing ∧
    ∀ other ∈ request.tags, y.fetch (request.source.url other) ≠ .crashed))

/-- What is known of the files at a phase of a run. -/
def Retains (f : Folder) : SyncPhase y → Prop
  | .waiting => False
  | .entered => KeepsFiles y kept f
  | .checking left jobs =>
    (∃ l, f.walk [] (Path.names y.dir) = .ok l) ∧ ∃ looked chosen,
      looked ++ left = request.tags ∧ jobs.reverse = jobsOf request y chosen ∧
      chosen.Sublist looked ∧
      KeepsFiles y (fun tag => kept tag ∨ (tag ∈ looked ∧ tag ∉ chosen)) f
  | .downloading pool =>
    ∃ chosen base n, chosen.Sublist request.tags ∧ (jobsOf request y chosen ≠ [] → 0 < n) ∧
      Download.Apart base (jobsOf request y chosen) ∧
      Download.Upkeep y.dir base (KeptBeside kept request chosen) (jobsOf request y chosen) n f pool
  | .ended (.ok report) => KeepsFiles y (fun tag => kept tag ∨ Promises y request report tag) f
  | .ended (.error _) => KeepsFiles y kept f

end Keeping

section Steps

variable {kept : RuleSetTag → Prop} {request : SyncRequest} {s t : SyncState}
  {phase next : SyncPhase y} {f : Folder}

/-- A run without downloads promises what it has found. -/
theorem retains_ended_of_nothing
    (h : KeepsFiles y (fun tag => kept tag ∨ tag ∈ request.tags) f) :
    Retains kept request f (.ended (y := y) (.ok (request.report []))) := by
  rintro tag (hkept | ⟨htag, _⟩)
  · exact h tag (Or.inl hkept)
  · exact h tag (Or.inr htag)

/-- A rule-set that is needed joins those that are to be downloaded. -/
theorem retains_needed {tag : RuleSetTag} {left : List RuleSetTag} {jobs : List DownloadJob}
    (h : Retains kept request f (.checking (y := y) (tag :: left) jobs)) :
    Retains kept request f (.checking (y := y) left (y.job request.source tag :: jobs)) := by
  obtain ⟨hwalk, looked, chosen, hlooked, hjobs, hsublist, hkeeps⟩ := h
  refine ⟨hwalk, looked ++ [tag], chosen ++ [tag], by simpa using hlooked, ?_,
    hsublist.append (List.Sublist.refl [tag]), ?_⟩
  · simp [hjobs, jobsOf]
  · rintro other (hkept | ⟨hlook, hnot⟩)
    · exact hkeeps other (Or.inl hkept)
    · rw [List.mem_append, not_or] at hnot
      exact hkeeps other (Or.inr ⟨(List.mem_append.1 hlook).resolve_right hnot.2, hnot.1⟩)

/-- A rule-set that is not needed is there. -/
theorem retains_found {tag : RuleSetTag} {left : List RuleSetTag} {jobs : List DownloadJob}
    (h : Retains kept request s.files (.checking (y := y) (tag :: left) jobs))
    (hneeds : y.needs request s.files s.now tag = false) :
    Retains kept request s.files (.checking (y := y) left jobs) := by
  obtain ⟨hwalk, looked, chosen, hlooked, hjobs, hsublist, hkeeps⟩ := h
  refine ⟨hwalk, looked ++ [tag], chosen, by simpa using hlooked, hjobs,
    hsublist.trans (List.sublist_append_left looked [tag]), ?_⟩
  rintro other (hkept | ⟨hlook, hnot⟩)
  · exact hkeeps other (Or.inl hkept)
  · rcases List.mem_append.1 hlook with hold | hlast
    · exact hkeeps other (Or.inr ⟨hold, hnot⟩)
    · rw [List.mem_singleton.1 hlast]
      unfold Synchronizer.needs at hneeds
      simp only [Bool.or_eq_false_iff, Bool.not_eq_false'] at hneeds
      exact holdsRuleSet_of_isFresh hneeds.2

/-- When all rule-sets are looked at the downloads begin. -/
theorem retains_started (hnames : ∀ tag ∈ request.tags, '/' ∉ tag.name.toList)
    {jobs : List DownloadJob} (h : Retains kept request f (.checking (y := y) [] jobs)) :
    Retains kept request f
      (.downloading (Pool.start y.handler Synchronizer.width jobs.reverse)) := by
  obtain ⟨⟨l, hwalk⟩, looked, chosen, hlooked, hjobs, hsublist, hkeeps⟩ := h
  have hall : looked = request.tags := by simpa using hlooked
  subst hall
  rw [hjobs]
  refine ⟨chosen, f, _, hsublist, ?_,
    Synchronizer.apart_jobs hwalk rfl fun tag htag => hnames tag (hsublist.subset htag),
    Download.upkeep_start Synchronizer.width _ hkeeps⟩
  intro hne
  have hlength := List.length_pos_iff.2 hne
  simp only [Synchronizer.width, Pool.effectiveWidth]
  omega

/-- The downloads proceed. -/
theorem retains_worked (hnodup : request.tags.Nodup) {pool pool' : Pool y.handler}
    (h : Retains kept request s.files (.downloading pool))
    (hpool : Pool.Step (s, pool) (t, pool')) :
    Retains kept request t.files (.downloading pool') := by
  obtain ⟨chosen, base, n, hsublist, hn, hapart, hupkeep⟩ := h
  refine ⟨chosen, base, n, hsublist, hn, hapart,
    hupkeep.step (nodup_jobsOf (hnodup.sublist hsublist)) ?_ hapart hpool⟩
  intro job hjob
  obtain ⟨tag, _, rfl⟩ := List.mem_map.1 hjob
  rfl

/-- When all downloads have ended, what was downloaded is there; and if none of them has crashed,
what is not called missing was downloaded or found. -/
theorem retains_finished {pool : Pool y.handler}
    (h : Retains kept request f (.downloading pool)) (hended : pool.hasEnded = true) :
    Retains kept request f (.ended (y := y) (.ok (request.report pool.results))) := by
  obtain ⟨chosen, base, n, hsublist, hn, _, hupkeep⟩ := h
  rintro tag (hkept | ⟨htag, hdownloaded | ⟨hmissing, hanswers⟩⟩)
  · exact hupkeep.kept tag (Or.inl hkept)
  · exact hupkeep.holdsRuleSet_of_hasEnded hended (SyncReport.mem_downloaded_iff.1 hdownloaded)
  · by_cases hchosen : tag ∈ chosen
    · have hsafe : ∀ job ∈ jobsOf request y chosen, y.fetch job.url ≠ .crashed := by
        intro job hjob
        obtain ⟨other, hother, rfl⟩ := List.mem_map.1 hjob
        exact hanswers other (hsublist.subset hother)
      obtain ⟨outcome, hresult⟩ :=
        hupkeep.exists_result hended hn hsafe (List.mem_map_of_mem hchosen)
      cases outcome with
      | ok u => exact hupkeep.holdsRuleSet_of_hasEnded hended hresult
      | error reason => exact absurd (SyncReport.mem_missing_iff.2 ⟨reason, hresult⟩) hmissing
    · exact hupkeep.kept tag (Or.inr ⟨htag, hchosen⟩)

/-- A step of a run keeps what is known of the files. -/
theorem Retains.step (hnodup : request.tags.Nodup)
    (hnames : ∀ tag ∈ request.tags, '/' ∉ tag.name.toList)
    (h : Retains kept request s.files phase) (hstep : Advances request s phase t next) :
    Retains kept request t.files next := by
  cases hstep with
  | skipped htags =>
    refine retains_ended_of_nothing ?_
    rintro tag (hkept | htag)
    · exact h tag hkept
    · simp [htags] at htag
  | blocked _ hcreate => exact fun tag hkept => holdsRuleSet_createFolders hcreate (h tag hkept)
  | made _ hcreate =>
    refine ⟨(createFolders_spec hcreate).walk rfl, [], [], rfl, rfl, List.Sublist.refl [], ?_⟩
    rintro tag (hkept | ⟨hnone, _⟩)
    · exact holdsRuleSet_createFolders hcreate (h tag hkept)
    · cases hnone
  | needed => exact retains_needed h
  | found hneeds => exact retains_found h hneeds
  | satisfied =>
    obtain ⟨_, looked, chosen, hlooked, hjobs, _, hkeeps⟩ := h
    have hall : looked = request.tags := by simpa using hlooked
    have hchosen : chosen = [] := List.map_eq_nil_iff.1 hjobs.symm
    subst hall hchosen
    refine retains_ended_of_nothing ?_
    rintro tag (hkept | htag)
    · exact hkeeps tag (Or.inl hkept)
    · exact hkeeps tag (Or.inr ⟨htag, List.not_mem_nil⟩)
  | started => exact retains_started hnames h
  | worked hpool => exact retains_worked hnodup h hpool
  | finished hended => exact retains_finished h hended

/-- What is known of the files at all phases of a run, while time may pass. -/
theorem retains_run {lapse : Lapse} {a b : SyncState × SyncPhase y} (hnodup : request.tags.Nodup)
    (hnames : ∀ tag ∈ request.tags, '/' ∉ tag.name.toList)
    (hrun : Relation.ReflTransGen (Proceeds lapse request) a b)
    (h : Retains kept request a.1.files a.2) : Retains kept request b.1.files b.2 := by
  induction hrun with
  | refl => exact h
  | tail _ hstep ih =>
    rcases hstep with ⟨worker, choice, hstep⟩ | ⟨seconds, _, rfl⟩
    · exact ih.step hnodup hnames (advances_of_step hstep)
    · exact ih

/-- What was to be kept is kept at all phases. -/
theorem Retains.keepsFiles (h : Retains kept request f phase) : KeepsFiles y kept f := by
  intro tag hkept
  cases phase with
  | waiting => exact absurd h id
  | entered => exact h tag hkept
  | checking left jobs =>
    obtain ⟨_, _, _, _, _, _, hkeeps⟩ := h
    exact hkeeps tag (Or.inl hkept)
  | downloading pool =>
    obtain ⟨_, _, _, _, _, _, hupkeep⟩ := h
    exact hupkeep.kept tag (Or.inl hkept)
  | ended result =>
    cases result with
    | ok report => exact h tag (Or.inl hkept)
    | error e => exact h tag hkept

end Steps
end SyncPhase

/-! ## Runs one after another -/

variable {dir : String} {lapse : Lapse}

/-- The call is for no rule-set twice, and no name of them has a slash. -/
structure SyncCall.IsOrdinary (call : SyncCall) : Prop where
  nodup : call.request.tags.Nodup
  names : ∀ tag ∈ call.request.tags, '/' ∉ tag.name.toList

/-- The run has ended with a report that promises the rule-set. -/
def SyncRun.Provides (run : SyncRun dir) (tag : RuleSetTag) : Prop :=
  ∃ report, run.phase = .ended (.ok report) ∧
    SyncPhase.Promises (run.call.synchronizer dir) run.call.request report tag

/-- A run of an ordinary call keeps the rule-sets of the folder, and in the end there is what it
provides. -/
theorem SyncRun.Solo.retains {b c : Folder × Time} {run : SyncRun dir}
    (hsolo : run.Solo lapse b c) (hcall : run.call.IsOrdinary) {tag : RuleSetTag}
    (h : HoldsRuleSet b.1 (tag.localPath dir) ∨ run.Provides tag) :
    HoldsRuleSet c.1 (tag.localPath dir) := by
  let kept : RuleSetTag → Prop := fun other => HoldsRuleSet b.1 (other.localPath dir)
  have hkept : SyncPhase.KeepsFiles (run.call.synchronizer dir) kept b.1 := fun _ => id
  have hretains : SyncPhase.Retains kept run.call.request c.1 run.phase :=
    SyncPhase.retains_run hcall.nodup hcall.names hsolo hkept
  rcases h with hold | ⟨report, hphase, hpromises⟩
  · exact hretains.keepsFiles tag hold
  · rw [hphase] at hretains
    exact hretains tag (Or.inr hpromises)

/-- What a run has provided lies in the folder, also after those that took the lock later. -/
theorem Serial.provided {a b : Folder × Time} {runs before after : List (SyncRun dir)}
    {run : SyncRun dir} (hserial : Serial lapse a runs b) (hruns : runs = before ++ run :: after)
    (hcalls : ∀ r ∈ run :: after, r.call.IsOrdinary) {tag : RuleSetTag}
    (hprovides : run.Provides tag) : HoldsRuleSet b.1 (tag.localPath dir) := by
  induction hserial generalizing after with
  | nil => simp at hruns
  | wait _ _ _ ih => exact ih hruns hcalls
  | @run runs b c last _ _ hsolo ih =>
    rcases List.eq_nil_or_concat after with rfl | ⟨rest, other, rfl⟩
    · obtain ⟨_, hlast⟩ := List.append_inj' hruns rfl
      cases hlast
      exact hsolo.retains (hcalls run List.mem_cons_self) (Or.inr hprovides)
    · rw [List.concat_eq_append, ← List.cons_append] at hcalls
      rw [List.concat_eq_append, ← List.cons_append, ← List.append_assoc] at hruns
      obtain ⟨hbefore, hlast⟩ := List.append_inj' hruns rfl
      cases hlast
      obtain ⟨hfirst, hsecond⟩ := List.forall_mem_append.1 hcalls
      exact hsolo.retains (hsecond last List.mem_cons_self) (Or.inl (ih hbefore hfirst))

/-- A run that has ended is one of those that have taken the lock. -/
theorem SyncSystem.Orderly.mem_inOrder {a : Folder × Time} {calls : List SyncCall}
    {s : SyncSystem dir} (h : s.Orderly lapse a calls) {run : SyncRun dir} (hmem : run ∈ s.runs)
    (hended : run.phase.hasEnded = true) : run ∈ s.inOrder := by
  obtain ⟨i, hget⟩ := List.getElem?_of_mem hmem
  refine List.mem_filterMap.2 ⟨i, List.mem_reverse.2 ?_, hget⟩
  by_contra hout
  rw [(h.outside i run hget hout).1] at hended
  cases hended

/-! ## The theorem -/

/-- The listing of a folder tells which rule-sets lie in it. -/
structure Artifact.ListsFiles (f : Folder) (dir : String) : Prop where
  /-- The label of a rule-set is listed exactly if its file is there and not empty. -/
  label_iff : ∀ tag : RuleSetTag, '/' ∉ tag.name.toList →
    (tag.label ∈ available f dir ↔ HoldsRuleSet f (tag.localPath dir))
  /-- What is listed is, without the ending, the name of a file of the folder that is not empty, -/
  listed : ∀ s ∈ available f dir, s ≠ "" ∧ HoldsRuleSet f (Path.join dir (s ++ ".srs")) ∧
    ∃ entries, f.entriesAt dir = .ok entries ∧ s ++ ".srs" ∈ entries.map Prod.fst
  /-- and this file is no temporary one. -/
  ne_temporary : ∀ s ∈ available f dir, ∀ path, Path.join dir (s ++ ".srs") ≠ temporaryPath path
  /-- Whatever happens to a temporary file, the listing stays as it is. -/
  temporary : ∀ (s path : String) (l : Location) (file : Option (Content × Time)) (g : Folder),
    '/' ∉ s.toList → f.slot? (temporaryPath path) = some l →
      f.Alters (Function.update f.fileAt? l file) g →
        (s ∈ available g dir ↔ s ∈ available f dir)

/-- Whoever fetches the rule-sets of a call gets a body or a failure for each of them. -/
def SyncCall.IsAnswered (call : SyncCall) : Prop :=
  ∀ tag ∈ call.request.tags, call.fetch (call.request.source.url tag) ≠ .crashed

/-- The listing of a folder inverts the naming of files.  In every tree the label of a rule-set is
listed exactly if its file is there and not empty, all that is listed comes from such a file, and
temporary files do not matter.

So it tells what synchronizations have done, whatever they are called for, however their steps
interleave and whatever time passes.  When a run has ended with a report, its rule-sets that are not
called missing are listed; and should one of its fetches crash, at least those are listed that are
called downloaded.  This stays so while other runs follow.  No slash may be in the names of the
rule-sets of the run and of the runs after it.

The empty text is left out because it is the path of no folder: nothing is listed there, and yet the
files of rule-sets would be put into the folder in which the program runs.  No command line gives
it. -/
theorem available_inverts_naming (hdir : dir ≠ "") :
    (∀ f : Folder, Artifact.ListsFiles f dir) ∧
    ∀ (lapse : Lapse) (files : Folder) (now : Time) (calls : List SyncCall) (s : SyncSystem dir),
      Relation.ReflTransGen (SyncSystem.Step lapse) (.start dir files now calls) s →
      (∀ run ∈ s.runs, run.phase.hasEnded = true → run ∈ s.inOrder) ∧
      ∀ before run after, s.inOrder = before ++ run :: after →
        (∀ r ∈ run :: after, r.call.IsOrdinary) →
        ∀ report, run.phase = .ended (.ok report) → ∀ tag ∈ run.call.request.tags,
          tag ∈ report.downloaded ∨ (tag ∉ report.missing ∧ run.call.IsAnswered) →
            tag.label ∈ Artifact.available s.files dir := by
  refine ⟨fun f => ⟨?_, ?_, ?_, ?_⟩, ?_⟩
  · intro tag hname
    exact Artifact.label_mem_available_iff hdir hname
  · intro s hs
    exact Artifact.mem_available_iff_exists.1 hs
  · intro s _ path
    exact Artifact.join_ne_temporaryPath dir s path
  · intro s path l file g hs hslot hfiles
    exact Artifact.mem_available_of_temporary hdir hs hslot hfiles
  · intro lapse files now calls s hrun
    have horderly : s.Orderly lapse (files, now) calls :=
      SyncSystem.orderly_run hrun (SyncSystem.orderly_start files now calls)
    refine ⟨fun run => horderly.mem_inOrder, ?_⟩
    intro before run after horder hcalls report hphase tag htag hreport
    have hname := (hcalls run List.mem_cons_self).names tag htag
    rw [Artifact.label_mem_available_iff hdir hname]
    exact horderly.serial.provided horder hcalls ⟨report, hphase, htag, hreport⟩

example : Artifact.available
    [("d", .folder [("a.srs.tmp", .file [7] 0), ("b.x.srs", .file [7] 0), (".srs", .file [7] 0),
      ("c.srs", .folder []), ("a.srs", .file [] 0)])] "d" = ["b.x"] := by
  decide +kernel

theorem isOrdinary_sampleCall {names : List String} (hnodup : names.Nodup)
    (hnames : ∀ name ∈ names, '/' ∉ name.toList) : (sampleCall names).IsOrdinary where
  nodup := hnodup.map fun _ _ heq => congrArg RuleSetTag.name heq
  names := by simpa [sampleCall] using hnames

/-- In the sample the second call finds a rule-set that the first one has downloaded.  In the end it
is listed, and so there is a file that is not empty. -/
theorem available_inverts_naming_sample :
    ∃ s : SyncSystem "d",
      Relation.ReflTransGen (SyncSystem.Step (NoneExpires "d" IsSampleTag))
        (.start "d" [] 0 sampleCalls) s ∧
      s.runs = sampleRuns ∧ "geosite-b" ∈ Artifact.available s.files "d" ∧
      HoldsRuleSet s.files "d/geosite-b.srs" := by
  obtain ⟨s, t, hfirst, hfiles, hnow, hsecond, hruns⟩ := along_sampleCalls
  have hpass : SyncSystem.Step (NoneExpires "d" IsSampleTag) s (s.wait 60) := by
    refine Or.inr ⟨60, ?_, rfl⟩
    rw [hfiles, hnow]
    exact noneExpires_sampleLeft
  have hrun : Relation.ReflTransGen (SyncSystem.Step (NoneExpires "d" IsSampleTag))
      (.start "d" [] 0 sampleCalls) t :=
    ((SyncSystem.reaches_of_along hfirst).tail hpass).trans (SyncSystem.reaches_of_along hsecond)
  obtain ⟨hlists, hprovides⟩ := available_inverts_naming (show "d" ≠ "" by decide)
  obtain ⟨hordered, hlisted⟩ := hprovides _ _ _ _ t hrun
  have hordinary : ∀ run ∈ t.runs, run.call.IsOrdinary := by
    rw [hruns, sampleRuns, List.forall_mem_cons, List.forall_mem_singleton]
    exact ⟨isOrdinary_sampleCall (by decide) (by decide),
      isOrdinary_sampleCall (by decide) (by decide)⟩
  have hsecondRun : (⟨sampleCall ["b", "c"],
      .ended (.ok { checked := 2, downloaded := [⟨.geosite, "c"⟩] }),
      ["r/geosite-c.srs"]⟩ : SyncRun "d") ∈ t.runs := by
    rw [hruns, sampleRuns]
    exact List.mem_cons_of_mem _ List.mem_cons_self
  obtain ⟨before, after, horder⟩ := List.append_of_mem (hordered _ hsecondRun rfl)
  have hb : RuleSetTag.label ⟨.geosite, "b"⟩ ∈ Artifact.available t.files "d" := by
    refine hlisted before _ after horder ?_ _ rfl _ ?_ (Or.inr ⟨List.not_mem_nil, ?_⟩)
    · intro r hr
      obtain ⟨i, _, hget⟩ := List.mem_filterMap.1
        (show r ∈ t.inOrder from horder ▸ List.mem_append_right before hr)
      exact hordinary r (List.mem_of_getElem? hget)
    · simp [sampleCall]
    · simp [SyncCall.IsAnswered, sampleCall]
  exact ⟨t, hrun, hruns, hb, ((hlists t.files).label_iff ⟨.geosite, "b"⟩ (by decide)).1 hb⟩

end ProxyConfig
