import ProxyConfig.Proofs.RuleSet.Missing

/-!
# Repeated synchronizations

A run that forces nothing leaves behind a fresh file for every rule-set that its report does not call
missing.  So when the same rule-sets are synchronized again before any time has passed, the second run
finds its folder in place and attempts just what has failed, whatever is answered now.  If nothing has
failed it does nothing at all.

Main results:

- `Settled.requested_perm`: a run requests each rule-set that it attempts once.
- `prepare_again`: the second run finds its folder in place.
- `attempted_again`: it attempts the rule-sets that are missing.
- `CanEnd.settled_of_prepare`: it ends with a report.
- `repetition_retries_failures`: what a repeated synchronization does.
-/

namespace ProxyConfig

open Files Files.Folder

variable {y : Synchronizer} {request : SyncRequest} {files made : Folder} {now : Time}
  {s : SyncState} {results : List DownloadResult}

namespace Synchronizer

/-! ## Requests -/

/-- A rule-set that is attempted is requested once, and nothing else is requested. -/
theorem Settled.requested_perm (hsettled : y.Settled request made now s results)
    (hnodup : request.tags.Nodup) :
    s.requested.Perm ((y.attempted request made now).map request.source.url) := by
  have hurls : ((y.attempted request made now).map request.source.url).Nodup := by
    apply List.Nodup.map _ (hnodup.filter _)
    exact fun _ _ => RuleSetTag.url_inj
  have hmem : ∀ url ∈ s.requested, url ∈ (y.attempted request made now).map request.source.url := by
    intro url hurl
    obtain ⟨job, hjob, rfl⟩ := hsettled.common.requested url hurl
    obtain ⟨tag, htag, rfl⟩ := List.mem_map.1 hjob
    exact List.mem_map_of_mem htag
  rw [List.perm_iff_count]
  intro url
  by_cases hurl : url ∈ (y.attempted request made now).map request.source.url
  · obtain ⟨tag, htag, rfl⟩ := List.mem_map.1 hurl
    obtain ⟨_, _, hcount, _⟩ := hsettled.settles tag htag
    rw [hcount, List.count_eq_one_of_mem hurls hurl]
  · rw [List.count_eq_zero.2 hurl, List.count_eq_zero.2 (mt (hmem url) hurl)]

/-- Nothing is missing in a report without failures. -/
theorem Settled.missing_eq_nil (hsettled : y.Settled request made now s results)
    (hnodup : request.tags.Nodup) (hcomplete : (request.report results).isComplete = true) :
    (request.report results).missing = [] := by
  have hfailures : (request.report results).failures = [] := List.isEmpty_iff.1 hcomplete
  rw [hsettled.missing_eq hnodup, hfailures, List.map_nil]

/-- A run that attempts nothing does nothing. -/
theorem Settled.of_attempted_eq_nil (hsettled : y.Settled request made now s results)
    (hnone : y.attempted request made now = []) :
    s.files = made ∧ (request.report results).downloaded = [] ∧
      (request.report results).missing = [] := by
  have hlisted : ∀ tag, ¬ (tag ∈ (request.report results).downloaded ∨
      tag ∈ (request.report results).missing) := by
    intro tag hlisted
    have hattempted := hsettled.mem_attempted_iff.2 hlisted
    rw [hnone] at hattempted
    cases hattempted
  refine ⟨?_, ?_, ?_⟩
  · -- without downloads the whole tree lies outside of them
    have hroot : s.files.find? [] = made.find? [] := by
      apply hsettled.common.frame []
      simp [jobs, show request.tags.filter (y.needs request made now) = [] from hnone]
    simpa using hroot
  · exact List.eq_nil_iff_forall_not_mem.2 fun tag htag => hlisted tag (Or.inl htag)
  · exact List.eq_nil_iff_forall_not_mem.2 fun tag htag => hlisted tag (Or.inr htag)

/-! ## The second run -/

section Again

variable {z : Synchronizer} (hdir : z.dir = y.dir)
  (hprepare : y.prepare request files = (made, .ok ()))

include hdir hprepare

/-- As long as the folders stay, a run of the same rule-sets finds its folder in place. -/
theorem prepare_again {f : Folder} (hsame : SameFolders made f) :
    z.prepare request f = (f, .ok ()) := by
  unfold prepare
  by_cases htags : request.tags.isEmpty = true
  · rw [if_pos htags]
  · obtain ⟨l, hwalk⟩ := exists_walk_of_prepare hprepare (by simpa using htags)
    unfold prepare at hprepare
    rw [if_neg htags] at hprepare ⊢
    rw [hdir]
    exact createFolders_again hprepare (walk_mono hsame.foldersWithin hwalk)

/-- A run that follows attempts what is missing. -/
theorem attempted_again (hsettled : y.Settled request made now s results)
    (hforced : request.isForced = false) (hnodup : request.tags.Nodup)
    (hnames : ∀ tag ∈ request.tags, '/' ∉ tag.name.toList) :
    (z.attempted request s.files now).Perm (request.report results).missing := by
  have hresults := hsettled.nodup hnodup
  have hmissing : (request.report results).missing.Nodup := by
    have hsorted : (request.report results).missing.Pairwise fun a b => a.precedes b = true :=
      SyncReport.pairwise_missing hresults
    exact hsorted.imp RuleSetTag.ne_of_precedes
  have hattempted : (z.attempted request s.files now).Nodup := hnodup.filter _
  rw [List.perm_ext_iff_of_nodup hattempted hmissing]
  intro tag
  rw [hsettled.mem_missing_iff hforced hnodup hnames hprepare, attempted, List.mem_filter, needs,
    hforced, hdir]
  simp

end Again

/-- A run that finds its folder in place ends with a report. -/
theorem CanEnd.settled_of_prepare {z : Synchronizer} {left : Folder} {sync : SyncOutcome}
    (hend : z.CanEnd request now left sync) (hfound : z.prepare request left = (left, .ok ()))
    (hnodup : request.tags.Nodup) (hnames : ∀ tag ∈ request.tags, '/' ∉ tag.name.toList)
    (hanswers : ∀ url, z.fetch url ≠ .crashed) :
    ∃ results, sync.result = .ok (request.report results) ∧
      z.Settled request left now ⟨sync.files, now, sync.requested.reverse⟩ results := by
  have hreport : ∃ report, sync.result = .ok report := by
    rcases hend.cases with ⟨_, report, _, hresult⟩ | ⟨_, error, hblocked, _⟩
    · exact ⟨report, hresult⟩
    · rw [hfound] at hblocked
      cases hblocked
  obtain ⟨report, hresult⟩ := hreport
  obtain ⟨made, results, hprepare, rfl, hsettled⟩ :=
    hend.settled hnodup hnames hanswers hresult
  obtain rfl : left = made := by simpa [hfound] using hprepare
  exact ⟨results, hresult, hsettled⟩

end Synchronizer

/-- The outcome of a synchronization that follows one with a report, from the files that this one has
left behind. -/
structure SyncOutcome.Retries (request : SyncRequest) (report : SyncReport) (left : Folder)
    (again : SyncReport) (second : SyncOutcome) : Prop where
  result : second.result = .ok again
  /-- The missing rule-sets are requested, each once, and nothing else is. -/
  requested : second.requested.Perm (report.missing.map request.source.url)
  once : second.requested.Nodup
  /-- The second report accounts for the rule-sets that were missing. -/
  accounted : ∀ tag, tag ∈ again.downloaded ∨ tag ∈ again.missing ↔ tag ∈ report.missing
  missing : again.missing ⊆ report.missing
  /-- If nothing has failed, nothing happens. -/
  complete : report.isComplete = true →
    second.requested = [] ∧ second.files = left ∧ again.downloaded = [] ∧ again.missing = []

/-- A synchronization that follows another one of the same rule-sets in the same folder, at the same time
and with nothing in between, ends with a report and has attempted just what was missing, whatever both
were answered. -/
theorem repetition_retries_failures {z : Synchronizer} {first : SyncOutcome} {report : SyncReport}
    (hdir : z.dir = y.dir) (hforced : request.isForced = false) (hnodup : request.tags.Nodup)
    (hnames : ∀ tag ∈ request.tags, '/' ∉ tag.name.toList)
    (hanswers : ∀ url, y.fetch url ≠ .crashed) (hanswers' : ∀ url, z.fetch url ≠ .crashed)
    (hfirst : y.CanEnd request now files first) (hreport : first.result = .ok report) :
    (∃ second, z.CanEnd request now first.files second) ∧
    ∀ second, z.CanEnd request now first.files second →
      ∃ again, second.Retries request report first.files again := by
  refine ⟨⟨_, z.canEnd_run request now first.files⟩, ?_⟩
  intro second hsecond
  obtain ⟨made, results, hprepare, rfl, hsettled⟩ :=
    hfirst.settled hnodup hnames hanswers hreport
  have hfound : z.prepare request first.files = (first.files, .ok ()) :=
    Synchronizer.prepare_again hdir hprepare hsettled.common.sameFolders
  obtain ⟨results', hresult, hsettled'⟩ :=
    hsecond.settled_of_prepare hfound hnodup hnames hanswers'
  have hattempted : (z.attempted request first.files now).Perm (request.report results).missing :=
    Synchronizer.attempted_again (s := ⟨first.files, now, first.requested.reverse⟩) hdir hprepare
      hsettled hforced hnodup hnames
  have hrequested : second.requested.Perm
      ((request.report results).missing.map request.source.url) := by
    have hreversed := hsettled'.requested_perm hnodup
    exact (List.reverse_perm _).symm.trans (hreversed.trans (hattempted.map _))
  have haccounted : ∀ tag, tag ∈ (request.report results').downloaded ∨
      tag ∈ (request.report results').missing ↔ tag ∈ (request.report results).missing := by
    intro tag
    rw [← hsettled'.mem_attempted_iff, hattempted.mem_iff]
  refine ⟨_, hresult, hrequested, ?_, haccounted, ?_, ?_⟩
  · have hmissing : (request.report results).missing.Nodup :=
      hattempted.nodup_iff.1 (hnodup.filter _)
    rw [hrequested.nodup_iff]
    exact hmissing.map fun _ _ => RuleSetTag.url_inj
  · intro tag hmissing
    exact (haccounted tag).1 (Or.inr hmissing)
  · intro hcomplete
    have hnone := hsettled.missing_eq_nil hnodup hcomplete
    rw [hnone] at hattempted hrequested
    have hnothing := hsettled'.of_attempted_eq_nil hattempted.eq_nil
    exact ⟨hrequested.eq_nil, hnothing⟩

/-- Another synchronizer of the same folder, which gets an answer to every request. -/
def willingSynchronizer (dir : String) : Synchronizer where
  dir := dir
  fetch _ := .body [9]

/-- One rule-set of the sample is missing after the first run, and so the second run requests it. -/
theorem repetition_retries_failures_sample :
    ∃ first second report again, (sampleRequest ["a", "b", "c"]).isForced = false ∧
      (sampleRequest ["a", "b", "c"]).tags.Nodup ∧
      (∀ tag ∈ (sampleRequest ["a", "b", "c"]).tags, '/' ∉ tag.name.toList) ∧
      (∀ url, (sampleSynchronizer "d").fetch url ≠ .crashed) ∧
      (∀ url, (willingSynchronizer "d").fetch url ≠ .crashed) ∧
      (sampleSynchronizer "d").CanEnd (sampleRequest ["a", "b", "c"]) 5 sampleFiles first ∧
      first.result = .ok report ∧ report.missing = [⟨.geosite, "c"⟩] ∧
      (willingSynchronizer "d").CanEnd (sampleRequest ["a", "b", "c"]) 5 first.files second ∧
      second.Retries (sampleRequest ["a", "b", "c"]) report first.files again := by
  have hforced : (sampleRequest ["a", "b", "c"]).isForced = false := rfl
  have hnodup : (sampleRequest ["a", "b", "c"]).tags.Nodup := by decide
  have hnames : ∀ tag ∈ (sampleRequest ["a", "b", "c"]).tags, '/' ∉ tag.name.toList := by decide
  have hanswers := sampleSynchronizer_safe "d"
  have hanswers' : ∀ url, (willingSynchronizer "d").fetch url ≠ .crashed := by
    simp [willingSynchronizer]
  have hfirst := (sampleSynchronizer "d").canEnd_run (sampleRequest ["a", "b", "c"]) 5 sampleFiles
  obtain ⟨report, hreport, hmissing⟩ : ∃ report, ((sampleSynchronizer "d").run
      (sampleRequest ["a", "b", "c"]) 5 sampleFiles).result = .ok report ∧
        report.missing = [⟨.geosite, "c"⟩] := ⟨_, by rfl, by rfl⟩
  have hdir : (willingSynchronizer "d").dir = (sampleSynchronizer "d").dir := rfl
  obtain ⟨⟨second, hsecond⟩, hretries⟩ :=
    repetition_retries_failures hdir hforced hnodup hnames hanswers hanswers' hfirst hreport
  obtain ⟨again, hagain⟩ := hretries second hsecond
  exact ⟨_, second, report, again, hforced, hnodup, hnames, hanswers, hanswers', hfirst, hreport,
    hmissing, hsecond, hagain⟩

end ProxyConfig
