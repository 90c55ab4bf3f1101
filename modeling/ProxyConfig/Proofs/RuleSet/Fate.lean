import ProxyConfig.Proofs.RuleSet.Report
import ProxyConfig.Proofs.RuleSet.Run

/-!
# What becomes of the rule-sets of a run

A run that ends with a report accounts for all its rule-sets.  Each of them was fresh, was downloaded
or is missing, and it is exactly one of these; what its file holds, how often its address was requested
and which lists of the report name it follows from that.  Nothing else in the tree changes, once the
folder of the rule-sets is made.

Main results:

- `synchronization_accounts`: every run that ends with a report accounts for its rule-sets.
- `folder_at_path_of_missing`: making the folder can put a folder at the path of a missing rule-set.
-/

namespace ProxyConfig

open Files Files.Folder

/-- What can become of a rule-set in a run. -/
inductive Fate where
  /-- The file need not be downloaded. -/
  | fresh
  | downloaded
  | missing
deriving Repr, DecidableEq

section Definitions

variable (y : Synchronizer) (request : SyncRequest) (made : Folder) (now : Time)

/-- A content is fetched for a rule-set, it is not empty, and it can be written. -/
def Synchronizer.Delivers (tag : RuleSetTag) (content : Content) : Prop :=
  y.fetch (request.source.url tag) = .body content ∧ content ≠ [] ∧
    (made.writeAtomically y.room now (tag.localPath y.dir) content).2 = .ok ()

variable (s : SyncState) (report : SyncReport)

/-- What a fate means, told from the tree in which the run looked at the rule-sets. -/
def Fate.Holds (tag : RuleSetTag) : Fate → Prop
  | .fresh =>
    Artifact.isFresh made now (tag.localPath y.dir) = true ∧
      s.requested.count (request.source.url tag) = 0 ∧
      s.files.stat (tag.localPath y.dir) = made.stat (tag.localPath y.dir) ∧
      tag ∉ report.downloaded ∧ tag ∉ report.missing ∧ tag ∉ report.failures.map Prod.fst
  | .downloaded =>
    Artifact.isFresh made now (tag.localPath y.dir) = false ∧
      s.requested.count (request.source.url tag) = 1 ∧
      (∃ content, y.Delivers request made now tag content ∧
        s.files.stat (tag.localPath y.dir) = .ok (.file content now)) ∧
      report.downloaded.count tag = 1 ∧ tag ∉ report.missing ∧
      tag ∉ report.failures.map Prod.fst
  | .missing =>
    Artifact.isFresh made now (tag.localPath y.dir) = false ∧
      s.requested.count (request.source.url tag) = 1 ∧
      (∀ content, ¬ y.Delivers request made now tag content) ∧
      s.files.stat (tag.localPath y.dir) = made.stat (tag.localPath y.dir) ∧
      tag ∉ report.downloaded ∧ report.missing.count tag = 1 ∧
      (report.failures.map Prod.fst).count tag = 1

/-- A run has accounted for its rule-sets and has touched nothing else. -/
structure Synchronizer.Accounts : Prop where
  checked : report.checked = request.tags.length
  fate : ∀ tag ∈ request.tags, ∃! fate : Fate, fate.Holds y request made now s report tag
  listed : ∀ tag, tag ∈ report.downloaded ∨ tag ∈ report.missing → tag ∈ request.tags
  /-- Nothing is requested but rule-sets that are not fresh. -/
  requested : ∀ url ∈ s.requested, ∃ tag ∈ request.tags,
    Artifact.isFresh made now (tag.localPath y.dir) = false ∧ request.source.url tag = url
  downloaded_sorted : report.downloaded.Pairwise fun a b => a.precedes b = true
  missing_sorted : report.missing.Pairwise fun a b => a.precedes b = true
  failures_sorted : report.failures.Pairwise fun a b => a.1.precedes b.1 = true
  missing_eq : report.missing = report.failures.map Prod.fst
  /-- A temporary file of a rule-set that was left over is still there, or there is none. -/
  temporary : ∀ tag ∈ request.tags,
    s.files.stat (temporaryPath (tag.localPath y.dir)) =
        made.stat (temporaryPath (tag.localPath y.dir)) ∨
      s.files.stat (temporaryPath (tag.localPath y.dir)) = .error .notFound
  sameFolders : SameFolders made s.files
  /-- Entries apart from the files and temporary files of the attempted rule-sets stay. -/
  frame : ∀ m, (∀ tag, tag ∈ report.downloaded ∨ tag ∈ report.missing →
    made.IsOutside (tag.localPath y.dir) m) → s.files.find? m = made.find? m

/-- Making the folder of the rule-sets adds folders and does nothing else.  If the folder was there
already, or if its path never goes up, the rule-sets are found as they were before. -/
structure Synchronizer.Prepares (files : Folder) : Prop where
  foldersWithin : FoldersWithin files made
  sameFiles : SameFiles files made
  found : ((∃ l, files.walk [] (Path.names y.dir) = .ok l) ∨ ".." ∉ Path.names y.dir) →
    ∀ tag : RuleSetTag, '/' ∉ tag.name.toList →
      (made.stat (tag.localPath y.dir)).toOption = (files.stat (tag.localPath y.dir)).toOption ∧
        Artifact.isFresh made now (tag.localPath y.dir) =
          Artifact.isFresh files now (tag.localPath y.dir)

end Definitions

variable {y : Synchronizer} {request : SyncRequest} {files made : Folder} {now : Time}
  {s : SyncState} {report : SyncReport} {results : List DownloadResult} {tag : RuleSetTag}

/-! ## Making the folder -/

/-- Whether a file is fresh depends only on the entry that is found. -/
theorem Artifact.isFresh_congr {f g : Folder} {path : String}
    (h : (g.stat path).toOption = (f.stat path).toOption) :
    Artifact.isFresh g now path = Artifact.isFresh f now path := by
  unfold isFresh
  cases hg : g.stat path <;> cases hf : f.stat path <;> simp [hg, hf, Except.toOption] at h ⊢
  rw [h]

theorem Synchronizer.prepares_of_prepare (hprepare : y.prepare request files = (made, .ok ())) :
    y.Prepares made now files := by
  obtain ⟨hfolders, hfiles⟩ := sameFiles_of_prepare hprepare
  refine ⟨hfolders, hfiles, ?_⟩
  intro hdir tag hname
  unfold prepare at hprepare
  split at hprepare
  · cases hprepare
    exact ⟨rfl, rfl⟩
  · rcases hdir with ⟨l, hwalk⟩ | hup
    · rw [eq_of_createFolders hwalk hprepare]
      exact ⟨rfl, rfl⟩
    · have hstat := stat_createFolders hup (RuleSetTag.isName_fileName hname) hprepare
      exact ⟨hstat, Artifact.isFresh_congr hstat⟩

/-! ## The fate of one rule-set -/

/-- A rule-set has at most one fate. -/
theorem Fate.Holds.unique {a b : Fate} (ha : a.Holds y request made now s report tag)
    (hb : b.Holds y request made now s report tag) : a = b := by
  have hlisted : report.downloaded.count tag = 1 → tag ∉ report.downloaded → False := by
    intro hone hnot
    rw [List.count_eq_zero.2 hnot] at hone
    cases hone
  cases a <;> cases b
  case fresh.fresh | downloaded.downloaded | missing.missing => rfl
  case fresh.downloaded | fresh.missing =>
    have hfresh := hb.1
    rw [ha.1] at hfresh
    cases hfresh
  case downloaded.fresh | missing.fresh =>
    have hfresh := ha.1
    rw [hb.1] at hfresh
    cases hfresh
  case downloaded.missing =>
    obtain ⟨_, _, _, hone, _⟩ := ha
    obtain ⟨_, _, _, _, hnot, _⟩ := hb
    exact (hlisted hone hnot).elim
  case missing.downloaded =>
    obtain ⟨_, _, _, hone, _⟩ := hb
    obtain ⟨_, _, _, _, hnot, _⟩ := ha
    exact (hlisted hone hnot).elim

section Settled

variable (hsettled : y.Settled request made now s results)

include hsettled

/-- A result belongs to a rule-set that was attempted. -/
theorem Synchronizer.Settled.mem_attempted {outcome : Except String Unit}
    (h : (tag, outcome) ∈ results) : tag ∈ y.attempted request made now :=
  hsettled.tags_perm.mem_iff.1 (List.mem_map_of_mem h)

theorem Synchronizer.Settled.nodup (hnodup : request.tags.Nodup) :
    (results.map Prod.fst).Nodup :=
  hsettled.tags_perm.nodup_iff.2 (hnodup.filter _)

theorem Synchronizer.Settled.missing_eq (hnodup : request.tags.Nodup) :
    (request.report results).missing = (request.report results).failures.map Prod.fst :=
  SyncReport.missing_ofResults (hsettled.nodup hnodup)

/-- The tags of the results are distinct, so a rule-set has no second outcome. -/
theorem Synchronizer.Settled.outcome_unique (hnodup : request.tags.Nodup)
    {a b : Except String Unit} (ha : (tag, a) ∈ results) (hb : (tag, b) ∈ results) : a = b := by
  have hsame := List.inj_on_of_nodup_map (hsettled.nodup hnodup) ha hb rfl
  exact congrArg Prod.snd hsame

/-- A rule-set was attempted exactly when the report lists it. -/
theorem Synchronizer.Settled.mem_attempted_iff :
    tag ∈ y.attempted request made now ↔
      tag ∈ (request.report results).downloaded ∨ tag ∈ (request.report results).missing := by
  unfold SyncRequest.report
  rw [SyncReport.mem_downloaded_iff, SyncReport.mem_missing_iff]
  constructor
  · intro htag
    obtain ⟨outcome, hmem, _⟩ := hsettled.settles tag htag
    cases outcome with
    | ok u => exact Or.inl hmem
    | error reason => exact Or.inr ⟨reason, hmem⟩
  · rintro (hmem | ⟨reason, hmem⟩)
    · exact hsettled.mem_attempted hmem
    · exact hsettled.mem_attempted hmem

section Reachable

variable {l : Location} (hwalk : made.walk [] (Path.names y.dir) = .ok l)
  (hnames : ∀ tag ∈ request.tags, '/' ∉ tag.name.toList) (htag : tag ∈ request.tags)

include hwalk hnames htag

/-- Nothing changes in the slots of a rule-set that was not attempted. -/
theorem Synchronizer.Settled.sameSlots (hnot : tag ∉ y.attempted request made now) :
    made.SameSlots (tag.localPath y.dir) made s.files := by
  intro k hk
  refine hsettled.common.frame k ?_
  intro job hjob
  obtain ⟨other, hother, rfl⟩ := List.mem_map.1 hjob
  have hne : other ≠ tag := by
    rintro rfl
    exact hnot hother
  have hmem := (List.mem_filter.1 hother).1
  exact isOutside_localPath hwalk (hnames other hmem) (hnames tag htag) hne hk

/-- A rule-set that was not attempted is left alone. -/
theorem Synchronizer.Settled.fresh_holds (hnodup : request.tags.Nodup)
    (hfresh : Artifact.isFresh made now (tag.localPath y.dir) = true)
    (hnot : tag ∉ y.attempted request made now) :
    Fate.fresh.Holds y request made now s (request.report results) tag := by
  have hunlisted := mt hsettled.mem_attempted_iff.2 hnot
  rw [not_or] at hunlisted
  refine ⟨hfresh, ?_, ?_, hunlisted.1, hunlisted.2, ?_⟩
  · rw [List.count_eq_zero]
    intro hurl
    obtain ⟨job, hjob, heq⟩ := hsettled.common.requested _ hurl
    obtain ⟨other, hother, rfl⟩ := List.mem_map.1 hjob
    rw [RuleSetTag.url_inj heq] at hother
    exact hnot hother
  · have hkept := hsettled.sameSlots hwalk hnames htag hnot
    exact stat_localPath hwalk (hnames tag htag) hsettled.common.sameFolders fun _ => hkept.target
  · have hmissing := hsettled.missing_eq hnodup
    rw [← hmissing]
    exact hunlisted.2

/-- A rule-set that was attempted was downloaded or is missing. -/
theorem Synchronizer.Settled.attempted_holds (hnodup : request.tags.Nodup)
    (hfresh : Artifact.isFresh made now (tag.localPath y.dir) = false)
    (hattempted : tag ∈ y.attempted request made now) :
    Fate.downloaded.Holds y request made now s (request.report results) tag ∨
      Fate.missing.Holds y request made now s (request.report results) tag := by
  have hresults := hsettled.nodup hnodup
  have hmissing := hsettled.missing_eq hnodup
  have hapart := made.slotsApart (tag.localPath y.dir)
  obtain ⟨outcome, hmem, hcount, hsettles⟩ := hsettled.settles tag hattempted
  cases outcome with
  | ok u =>
    obtain ⟨content, hbody, hne, hreplaceable, hholds, _⟩ := hsettles
    have hunlisted : tag ∉ (request.report results).missing := by
      intro hlisted
      obtain ⟨reason, herror⟩ := SyncReport.mem_missing_iff.1 hlisted
      cases hsettled.outcome_unique hnodup hmem herror
    refine Or.inl ⟨hfresh, hcount, ⟨content, ⟨hbody, hne, ?_⟩, ?_⟩, ?_, hunlisted, ?_⟩
    · exact (writeAtomically_eq_ok_iff hapart).2 hreplaceable
    · exact hholds.stat hsettled.common.sameFolders
    · refine List.count_eq_one_of_mem ?_ (SyncReport.mem_downloaded_iff.2 hmem)
      exact (SyncReport.pairwise_downloaded hresults).imp RuleSetTag.ne_of_precedes
    · rw [← hmissing]
      exact hunlisted
  | error reason =>
    obtain ⟨hrefused, hkept, _⟩ := hsettles
    have hone : (request.report results).missing.count tag = 1 := by
      refine List.count_eq_one_of_mem ?_ (SyncReport.mem_missing_iff.2 ⟨reason, hmem⟩)
      exact (SyncReport.pairwise_missing hresults).imp RuleSetTag.ne_of_precedes
    refine Or.inr ⟨hfresh, hcount, ?_, ?_, ?_, hone, ?_⟩
    · rintro content ⟨hbody, hne, hwritten⟩
      exact hrefused content hbody hne ((writeAtomically_eq_ok_iff hapart).1 hwritten)
    · exact stat_localPath hwalk (hnames tag htag) hsettled.common.sameFolders hkept
    · intro hlisted
      cases hsettled.outcome_unique hnodup hmem (SyncReport.mem_downloaded_iff.1 hlisted)
    · rw [← hmissing]
      exact hone

/-- The temporary file of a rule-set is as before or gone. -/
theorem Synchronizer.Settled.temporary :
    s.files.stat (temporaryPath (tag.localPath y.dir)) =
        made.stat (temporaryPath (tag.localPath y.dir)) ∨
      s.files.stat (temporaryPath (tag.localPath y.dir)) = .error .notFound := by
  refine stat_temporaryPath hwalk (hnames tag htag) hsettled.common.sameFolders ?_
  by_cases hattempted : tag ∈ y.attempted request made now
  · obtain ⟨outcome, _, _, hsettles⟩ := hsettled.settles tag hattempted
    cases outcome with
    | ok u =>
      obtain ⟨_, _, _, _, _, hlacks⟩ := hsettles
      exact Or.inr hlacks
    | error reason => exact hsettles.2.2
  · exact (hsettled.sameSlots hwalk hnames htag hattempted).leftAlone.2

end Reachable

/-- The run has accounted for its rule-sets. -/
theorem Synchronizer.Settled.accounts (hforced : request.isForced = false)
    (hnodup : request.tags.Nodup) (hnames : ∀ tag ∈ request.tags, '/' ∉ tag.name.toList)
    (hprepare : y.prepare request files = (made, .ok ())) :
    y.Accounts request made now s (request.report results) := by
  have hresults := hsettled.nodup hnodup
  have hmissing := hsettled.missing_eq hnodup
  have hsorted : (request.report results).missing.Pairwise fun a b => a.precedes b = true :=
    SyncReport.pairwise_missing hresults
  have hneeds : ∀ tag, y.needs request made now tag = true ↔
      Artifact.isFresh made now (tag.localPath y.dir) = false := by
    intro tag
    simp [Synchronizer.needs, hforced]
  refine ⟨rfl, ?_, ?_, ?_, SyncReport.pairwise_downloaded hresults, hsorted, ?_, hmissing, ?_,
    hsettled.common.sameFolders, ?_⟩
  · intro tag htag
    obtain ⟨l, hwalk⟩ := exists_walk_of_prepare hprepare (List.ne_nil_of_mem htag)
    have hfate : ∃ fate : Fate, fate.Holds y request made now s (request.report results) tag := by
      by_cases hfresh : Artifact.isFresh made now (tag.localPath y.dir) = true
      · have hnot : tag ∉ y.attempted request made now := by
          intro hattempted
          rw [(hneeds tag).1 (List.mem_filter.1 hattempted).2] at hfresh
          cases hfresh
        exact ⟨_, hsettled.fresh_holds hwalk hnames htag hnodup hfresh hnot⟩
      · rw [Bool.not_eq_true] at hfresh
        have hattempted : tag ∈ y.attempted request made now :=
          List.mem_filter.2 ⟨htag, (hneeds tag).2 hfresh⟩
        rcases hsettled.attempted_holds hwalk hnames htag hnodup hfresh hattempted with h | h
        · exact ⟨_, h⟩
        · exact ⟨_, h⟩
    obtain ⟨fate, hfate⟩ := hfate
    exact ⟨fate, hfate, fun other hother => hother.unique hfate⟩
  · intro tag hlisted
    exact (List.mem_filter.1 (hsettled.mem_attempted_iff.2 hlisted)).1
  · intro url hurl
    obtain ⟨job, hjob, rfl⟩ := hsettled.common.requested url hurl
    obtain ⟨tag, htag, rfl⟩ := List.mem_map.1 hjob
    obtain ⟨hmem, hneeded⟩ := List.mem_filter.1 htag
    exact ⟨tag, hmem, (hneeds tag).1 hneeded, rfl⟩
  · rw [hmissing, List.pairwise_map] at hsorted
    exact hsorted
  · intro tag htag
    obtain ⟨l, hwalk⟩ := exists_walk_of_prepare hprepare (List.ne_nil_of_mem htag)
    exact hsettled.temporary hwalk hnames htag
  · intro m hm
    refine hsettled.common.frame m ?_
    intro job hjob
    obtain ⟨tag, htag, rfl⟩ := List.mem_map.1 hjob
    exact hm tag (hsettled.mem_attempted_iff.1 htag)

end Settled

/-! ## Whole runs -/

/-- A run that ends with a report, in whatever order its workers took their steps, has made its folder
and accounts for its rule-sets. -/
theorem synchronization_accounts (hforced : request.isForced = false)
    (hnodup : request.tags.Nodup) (hnames : ∀ tag ∈ request.tags, '/' ∉ tag.name.toList)
    (hsafe : ∀ url, y.fetch url ≠ .crashed)
    (hrun : Relation.ReflTransGen (SyncPhase.Step request) (⟨files, now, []⟩, .entered (y := y))
      (s, .ended (.ok report))) :
    ∃ made, y.prepare request files = (made, .ok ()) ∧ y.Prepares made now files ∧
      y.Accounts request made now s report := by
  obtain ⟨made, results, hprepare, rfl, hsettled⟩ :=
    SyncPhase.ended_spec hnodup hnames hsafe hrun
  exact ⟨made, hprepare, Synchronizer.prepares_of_prepare hprepare,
    hsettled.accounts hforced hnodup hnames hprepare⟩

/-- A synchronizer for which one rule-set can be fetched. -/
def sampleSynchronizer (dir : String) : Synchronizer where
  dir := dir
  fetch url := if url = "r/geosite-b.srs" then .body [7] else .failed (.download "no answer")

/-- A request for site databases. -/
def sampleRequest (names : List String) : SyncRequest where
  tags := names.map fun name => ⟨.geosite, name⟩
  source := ⟨"r", none⟩

theorem sampleSynchronizer_safe (dir url : String) :
    (sampleSynchronizer dir).fetch url ≠ .crashed := by
  simp only [sampleSynchronizer]
  split <;> simp

/-- A folder with a fresh rule-set. -/
def sampleFiles : Folder :=
  [("d", .folder [("geosite-a.srs", .file [1] 0)])]

/-- Two downloads take turns; one of them succeeds. -/
theorem along_sample :
    SyncPhase.along (sampleRequest ["a", "b", "c"])
      [(0, 0), (0, 0), (0, 0), (0, 0), (0, 0), (0, 0), (1, 0), (0, 0), (1, 0), (0, 0), (1, 0),
        (0, 0), (1, 0), (0, 0), (0, 0), (0, 0), (0, 0), (0, 0)]
      (⟨sampleFiles, 5, []⟩, .entered (y := sampleSynchronizer "d")) =
    some
      (⟨[("d", .folder [("geosite-a.srs", .file [1] 0), ("geosite-b.srs", .file [7] 5)])], 5,
        ["r/geosite-c.srs", "r/geosite-b.srs"]⟩,
      .ended (.ok
        { checked := 3
          downloaded := [⟨.geosite, "b"⟩]
          missing := [⟨.geosite, "c"⟩]
          failures := [(⟨.geosite, "c"⟩, "Download error: no answer")] })) := rfl

/-- The run of the sample accounts for its rule-sets. -/
theorem synchronization_accounts_sample :
    (sampleRequest ["a", "b", "c"]).isForced = false ∧
    (sampleRequest ["a", "b", "c"]).tags.Nodup ∧
    (∀ url, (sampleSynchronizer "d").fetch url ≠ .crashed) ∧
    ∃ s report, Relation.ReflTransGen (SyncPhase.Step (sampleRequest ["a", "b", "c"]))
        (⟨sampleFiles, 5, []⟩, .entered (y := sampleSynchronizer "d")) (s, .ended (.ok report)) ∧
      ∃ made, (sampleSynchronizer "d").Prepares made 5 sampleFiles ∧
        (sampleSynchronizer "d").Accounts (sampleRequest ["a", "b", "c"]) made 5 s report := by
  have hforced : (sampleRequest ["a", "b", "c"]).isForced = false := rfl
  have hnodup : (sampleRequest ["a", "b", "c"]).tags.Nodup := by decide
  have hnames : ∀ tag ∈ (sampleRequest ["a", "b", "c"]).tags, '/' ∉ tag.name.toList := by decide
  have hsafe := sampleSynchronizer_safe "d"
  have hrun := SyncPhase.reaches_of_along along_sample
  obtain ⟨made, _, hprepares, haccounts⟩ :=
    synchronization_accounts hforced hnodup hnames hsafe hrun
  exact ⟨hforced, hnodup, hsafe, _, _, hrun, made, hprepares, haccounts⟩

theorem along_upward :
    SyncPhase.along (sampleRequest ["x"])
      [(0, 0), (0, 0), (0, 0), (0, 0), (0, 0), (0, 0), (0, 0), (0, 0)]
      (⟨[], 0, []⟩, .entered (y := sampleSynchronizer "geosite-x.srs/..")) =
    some
      (⟨[("geosite-x.srs", .folder [])], 0, ["r/geosite-x.srs"]⟩,
      .ended (.ok
        { checked := 1
          missing := [⟨.geosite, "x"⟩]
          failures := [(⟨.geosite, "x"⟩, "Download error: no answer")] })) := rfl

/-- At the path of a missing rule-set a folder can lie where nothing was before, if the path of the
folder goes up: the folder of the rule-sets is made first, and with it a folder of this name. -/
theorem folder_at_path_of_missing :
    ∃ s report, Relation.ReflTransGen (SyncPhase.Step (sampleRequest ["x"]))
        (⟨[], 0, []⟩, .entered (y := sampleSynchronizer "geosite-x.srs/.."))
        (s, .ended (.ok report)) ∧
      report.downloaded = [] ∧ report.missing = [⟨.geosite, "x"⟩] ∧
      Folder.stat [] (RuleSetTag.localPath ⟨.geosite, "x"⟩ "geosite-x.srs/..") =
        .error .notFound ∧
      s.files.stat (RuleSetTag.localPath ⟨.geosite, "x"⟩ "geosite-x.srs/..") =
        .ok (.folder []) :=
  ⟨_, _, SyncPhase.reaches_of_along along_upward, rfl, rfl, rfl, rfl⟩

end ProxyConfig
