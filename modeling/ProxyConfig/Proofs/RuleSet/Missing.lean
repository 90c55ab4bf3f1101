import ProxyConfig.Proofs.RuleSet.Fate
import ProxyConfig.Proofs.RuleSet.Schedule

/-!
# What a report calls missing

A report lists under the missing rule-sets those whose download failed.  A download that fails leaves the
file of its rule-set alone, so such a rule-set can be used after the run exactly if it could be used
before.  A run that forces nothing downloads only what cannot be used, and then its report is right about
what is missing.  A run that forces all downloads is not: its report calls a rule-set missing whose file is
there and fresh, if only the new download failed.

Main results:

- `CanEnd.settled`: what is known of the downloads, however a run ends with a report.
- `Settled.isFresh_eq_false_iff`: which rule-sets cannot be used after a run.
- `missing_of_stale`: what it tells of a rule-set that the report calls missing.
- `fresh_file_called_missing`: a rule-set that is called missing and is there.
-/

namespace ProxyConfig

open Files Files.Folder

variable {y : Synchronizer} {request : SyncRequest} {files made : Folder} {now : Time}
  {s : SyncState} {results : List DownloadResult} {tag : RuleSetTag} {sync : SyncOutcome}
  {report : SyncReport}

namespace Synchronizer

/-- However a run ends with a report, all its downloads have ended. -/
theorem CanEnd.settled (hend : y.CanEnd request now files sync) (hnodup : request.tags.Nodup)
    (hnames : ∀ tag ∈ request.tags, '/' ∉ tag.name.toList)
    (hanswers : ∀ url, y.fetch url ≠ .crashed) (hreport : sync.result = .ok report) :
    ∃ made results, y.prepare request files = (made, .ok ()) ∧ report = request.report results ∧
      y.Settled request made now ⟨sync.files, now, sync.requested.reverse⟩ results := by
  obtain ⟨s, hrun, hfiles, hrequested⟩ := hend
  rw [hreport] at hrun
  obtain ⟨made, results, hprepare, hresults, hsettled⟩ :=
    SyncPhase.ended_spec hnodup hnames hanswers hrun
  have hs : s = ⟨sync.files, now, sync.requested.reverse⟩ := by
    rw [hfiles, hrequested, List.reverse_reverse, ← hsettled.common.now_eq]
  rw [← hs]
  exact ⟨made, results, hprepare, hresults, hsettled⟩

/-! ## Fresh files after a run -/

/-- A file that was just written is fresh, if it is not empty. -/
theorem isFresh_of_stat {f : Folder} {path : String} {content : Content}
    (hstat : f.stat path = .ok (.file content now)) (hne : content ≠ []) :
    Artifact.isFresh f now path = true := by
  have hnonempty : content.isEmpty = false := by simpa using hne
  simp [Artifact.isFresh, hstat, Artifact.isRecent, hnonempty, Artifact.longestAge]

namespace Settled

variable (hsettled : y.Settled request made now s results)

include hsettled

/-- The report does not say of a rule-set both that it was downloaded and that it is missing. -/
theorem notMem_downloaded (hnodup : request.tags.Nodup)
    (hmissing : tag ∈ (request.report results).missing) :
    tag ∉ (request.report results).downloaded := by
  intro hdownloaded
  have hok : (tag, .ok ()) ∈ results := SyncReport.mem_downloaded_iff.1 hdownloaded
  obtain ⟨reason, herror⟩ := SyncReport.mem_missing_iff.1 hmissing
  cases hsettled.outcome_unique hnodup hok herror

/-- A rule-set that was downloaded is fresh. -/
theorem isFresh_of_downloaded (hnodup : request.tags.Nodup)
    (hdownloaded : tag ∈ (request.report results).downloaded) :
    Artifact.isFresh s.files now (tag.localPath y.dir) = true := by
  have hok : (tag, .ok ()) ∈ results := SyncReport.mem_downloaded_iff.1 hdownloaded
  obtain ⟨outcome, hmem, _, hsettles⟩ := hsettled.settles tag (hsettled.mem_attempted hok)
  cases hsettled.outcome_unique hnodup hmem hok
  obtain ⟨content, _, hne, _, hholds, _⟩ := hsettles
  exact isFresh_of_stat (hholds.stat hsettled.common.sameFolders) hne

section Reachable

variable {l : Location} (hwalk : made.walk [] (Path.names y.dir) = .ok l)
  (hnames : ∀ tag ∈ request.tags, '/' ∉ tag.name.toList) (htag : tag ∈ request.tags)

include hwalk hnames htag

/-- A rule-set that was not downloaded is found as before. -/
theorem stat_of_notMem_downloaded (hnot : tag ∉ (request.report results).downloaded) :
    s.files.stat (tag.localPath y.dir) = made.stat (tag.localPath y.dir) := by
  refine stat_localPath hwalk (hnames tag htag) hsettled.common.sameFolders ?_
  by_cases hattempted : tag ∈ y.attempted request made now
  · obtain ⟨outcome, hmem, _, hsettles⟩ := hsettled.settles tag hattempted
    cases outcome with
    | ok u => exact absurd (SyncReport.mem_downloaded_iff.2 hmem) hnot
    | error reason => exact hsettles.2.1
  · have hkept := hsettled.sameSlots hwalk hnames htag hattempted
    exact fun _ => hkept.target

/-- A rule-set is fresh after a run if it was downloaded, or if it was fresh before. -/
theorem isFresh_iff (hnodup : request.tags.Nodup) :
    Artifact.isFresh s.files now (tag.localPath y.dir) = true ↔
      tag ∈ (request.report results).downloaded ∨
        Artifact.isFresh made now (tag.localPath y.dir) = true := by
  by_cases hdownloaded : tag ∈ (request.report results).downloaded
  · have hfresh := hsettled.isFresh_of_downloaded hnodup hdownloaded
    simp [hdownloaded, hfresh]
  · have hstat := hsettled.stat_of_notMem_downloaded hwalk hnames htag hdownloaded
    have hsame : Artifact.isFresh s.files now (tag.localPath y.dir) =
        Artifact.isFresh made now (tag.localPath y.dir) := by
      apply Artifact.isFresh_congr
      rw [hstat]
    simp [hdownloaded, hsame]

/-- A rule-set that is not fresh after a run is called missing, and it was not fresh before. -/
theorem isFresh_eq_false_iff (hnodup : request.tags.Nodup) :
    Artifact.isFresh s.files now (tag.localPath y.dir) = false ↔
      tag ∈ (request.report results).missing ∧
        Artifact.isFresh made now (tag.localPath y.dir) = false := by
  rw [← Bool.not_eq_true, hsettled.isFresh_iff hwalk hnames htag hnodup, not_or, Bool.not_eq_true]
  constructor
  · rintro ⟨hdownloaded, hstale⟩
    have hneeds : y.needs request made now tag = true := by simp [needs, hstale]
    have hattempted : tag ∈ y.attempted request made now := List.mem_filter.2 ⟨htag, hneeds⟩
    have hlisted := hsettled.mem_attempted_iff.1 hattempted
    exact ⟨hlisted.resolve_left hdownloaded, hstale⟩
  · rintro ⟨hmissing, hstale⟩
    exact ⟨hsettled.notMem_downloaded hnodup hmissing, hstale⟩

end Reachable

/-- A run that forces nothing has no use for fresh rule-sets. -/
theorem isFresh_eq_false_of_missing (hforced : request.isForced = false)
    (hmissing : tag ∈ (request.report results).missing) :
    Artifact.isFresh made now (tag.localPath y.dir) = false := by
  have hattempted := hsettled.mem_attempted_iff.2 (Or.inr hmissing)
  have hneeds : y.needs request made now tag = true := (List.mem_filter.1 hattempted).2
  simpa [needs, hforced] using hneeds

/-- After a run that forces nothing those rule-sets are missing that are not fresh. -/
theorem mem_missing_iff (hforced : request.isForced = false) (hnodup : request.tags.Nodup)
    (hnames : ∀ tag ∈ request.tags, '/' ∉ tag.name.toList)
    (hprepare : y.prepare request files = (made, .ok ())) :
    tag ∈ (request.report results).missing ↔
      tag ∈ request.tags ∧ Artifact.isFresh s.files now (tag.localPath y.dir) = false := by
  constructor
  · intro hmissing
    have hattempted := hsettled.mem_attempted_iff.2 (Or.inr hmissing)
    have htag : tag ∈ request.tags := List.mem_of_mem_filter hattempted
    obtain ⟨l, hwalk⟩ := exists_walk_of_prepare hprepare (List.ne_nil_of_mem htag)
    refine ⟨htag, (hsettled.isFresh_eq_false_iff hwalk hnames htag hnodup).2 ⟨hmissing, ?_⟩⟩
    exact hsettled.isFresh_eq_false_of_missing hforced hmissing
  · rintro ⟨htag, hstale⟩
    obtain ⟨l, hwalk⟩ := exists_walk_of_prepare hprepare (List.ne_nil_of_mem htag)
    exact ((hsettled.isFresh_eq_false_iff hwalk hnames htag hnodup).1 hstale).1

end Settled

/-! ## Reports -/

/-- What a report tells of the rule-sets that it calls missing. -/
structure CallsMissing (y : Synchronizer) (request : SyncRequest) (made : Folder) (now : Time)
    (after : Folder) (report : SyncReport) : Prop where
  requested : ∀ tag ∈ report.missing, tag ∈ request.tags
  /-- A rule-set that cannot be used after the run is called missing.  Of those that are called missing,
  just those can be used that could be used when the run had made its folder. -/
  stale : ∀ tag ∈ request.tags,
    Artifact.isFresh after now (tag.localPath y.dir) = false ↔
      tag ∈ report.missing ∧ Artifact.isFresh made now (tag.localPath y.dir) = false
  /-- If nothing was forced, a rule-set is called missing exactly if it cannot be used. -/
  unforced : request.isForced = false → ∀ tag ∈ request.tags,
    (tag ∈ report.missing ↔ Artifact.isFresh after now (tag.localPath y.dir) = false)

end Synchronizer

/-- However a run ends with a report, its report calls missing whatever cannot be used. -/
theorem missing_of_stale (hnodup : request.tags.Nodup)
    (hnames : ∀ tag ∈ request.tags, '/' ∉ tag.name.toList)
    (hanswers : ∀ url, y.fetch url ≠ .crashed) (hend : y.CanEnd request now files sync)
    (hreport : sync.result = .ok report) :
    ∃ made, y.prepare request files = (made, .ok ()) ∧ y.Prepares made now files ∧
      y.CallsMissing request made now sync.files report := by
  obtain ⟨made, results, hprepare, rfl, hsettled⟩ := hend.settled hnodup hnames hanswers hreport
  refine ⟨made, hprepare, Synchronizer.prepares_of_prepare hprepare, ?_, ?_, ?_⟩
  · intro tag hmissing
    have hattempted := hsettled.mem_attempted_iff.2 (Or.inr hmissing)
    exact List.mem_of_mem_filter hattempted
  · intro tag htag
    obtain ⟨l, hwalk⟩ :=
      Synchronizer.exists_walk_of_prepare hprepare (List.ne_nil_of_mem htag)
    exact hsettled.isFresh_eq_false_iff hwalk hnames htag hnodup
  · intro hforced tag htag
    have hmissing : tag ∈ (request.report results).missing ↔ _ :=
      hsettled.mem_missing_iff hforced hnodup hnames hprepare
    simpa [htag] using hmissing

/-- A request to download site databases in any case. -/
def forcedRequest (names : List String) : SyncRequest :=
  { sampleRequest names with isForced := true }

/-- Of three rule-sets that are downloaded in any case, one was fresh and two downloads fail. -/
theorem missing_of_stale_sample :
    ∃ sync report, (forcedRequest ["a", "b", "c"]).tags.Nodup ∧
      (∀ tag ∈ (forcedRequest ["a", "b", "c"]).tags, '/' ∉ tag.name.toList) ∧
      (∀ url, (sampleSynchronizer "d").fetch url ≠ .crashed) ∧
      (sampleSynchronizer "d").CanEnd (forcedRequest ["a", "b", "c"]) 5 sampleFiles sync ∧
      sync.result = .ok report ∧ report.missing = [⟨.geosite, "a"⟩, ⟨.geosite, "c"⟩] ∧
      ∃ made, (sampleSynchronizer "d").CallsMissing (forcedRequest ["a", "b", "c"]) made 5
        sync.files report := by
  have hnodup : (forcedRequest ["a", "b", "c"]).tags.Nodup := by decide
  have hnames : ∀ tag ∈ (forcedRequest ["a", "b", "c"]).tags, '/' ∉ tag.name.toList := by decide
  have hanswers := sampleSynchronizer_safe "d"
  have hend := (sampleSynchronizer "d").canEnd_run (forcedRequest ["a", "b", "c"]) 5 sampleFiles
  obtain ⟨report, hreport, hmissing⟩ : ∃ report, ((sampleSynchronizer "d").run
      (forcedRequest ["a", "b", "c"]) 5 sampleFiles).result = .ok report ∧
        report.missing = [⟨.geosite, "a"⟩, ⟨.geosite, "c"⟩] := ⟨_, by rfl, by rfl⟩
  obtain ⟨made, _, _, hcalls⟩ := missing_of_stale hnodup hnames hanswers hend hreport
  exact ⟨_, report, hnodup, hnames, hanswers, hend, hreport, hmissing, made, hcalls⟩

/-- The file of a rule-set is fresh before and after a run that forces its download, and nothing else
lies in the folder.  Since the download fails, the report calls the rule-set missing. -/
theorem fresh_file_called_missing :
    ∃ sync report,
      (∀ tag ∈ (forcedRequest ["a"]).tags, '/' ∉ tag.name.toList) ∧
      (∀ url, (sampleSynchronizer "d").fetch url ≠ .crashed) ∧
      (sampleSynchronizer "d").CanEnd (forcedRequest ["a"]) 5 sampleFiles sync ∧
      sync.result = .ok report ∧ sync.files = sampleFiles ∧
      (⟨.geosite, "a"⟩ : RuleSetTag) ∈ report.missing ∧
      Artifact.isFresh sync.files 5 (RuleSetTag.localPath ⟨.geosite, "a"⟩ "d") = true := by
  have hend := (sampleSynchronizer "d").canEnd_run (forcedRequest ["a"]) 5 sampleFiles
  refine ⟨_, _, by decide, sampleSynchronizer_safe "d", hend, rfl, rfl, ?_, rfl⟩
  exact List.mem_singleton.2 rfl

end ProxyConfig
