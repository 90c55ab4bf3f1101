import ProxyConfig.Proofs.Files.Destination
import ProxyConfig.Proofs.RuleSet.Fate
import ProxyConfig.Proofs.RuleSet.Overlap
import ProxyConfig.Proofs.RuleSet.Schedule

/-!
# What a synchronization leaves alone

A synchronization makes its folder, and then it changes the files of its rule-sets and their temporary
files.  All other files stay as they are, whatever the names of the rule-sets are and in whatever order
the workers take their steps.  If no name has a slash, then nothing changes outside the folder.

Main results:

- `RuleSetTag.spares_of_disjoint`: the files of a rule-set without a slash lie in the folder.
- `Sound.fileAt?_of_step`, `fileAt?_of_run`: what the downloads of a pool leave alone.
- `CanEnd.leaves`: what a synchronization leaves alone.
-/

namespace ProxyConfig

open Files Files.Folder

variable {dir : String} {l : Location}

namespace RuleSetTag

/-- The location is neither the one of the rule-set nor the one of its temporary file. -/
def Spares (tag : RuleSetTag) (dir : String) (l : Location) : Prop :=
  l ≠ Path.destination (tag.localPath dir) ∧
    l ≠ Path.destination (temporaryPath (tag.localPath dir))

/-- A file apart from the folder belongs to no rule-set without a slash in its name. -/
theorem spares_of_disjoint {tag : RuleSetTag} (hname : '/' ∉ tag.name.toList)
    (h : Disjoint l (Path.destination dir)) : tag.Spares dir l := by
  have hne : ∀ {name : String}, Path.IsName name → l ≠ Path.destination (Path.join dir name) := by
    rintro name hname rfl
    rw [Path.destination_join dir hname] at h
    exact h.2 (List.prefix_append _ _)
  refine ⟨hne (isName_fileName hname), ?_⟩
  rw [localPath, temporaryPath_join]
  exact hne (isName_temporary hname)

end RuleSetTag

/-! ## Downloads -/

namespace Download

variable {fetch : Fetcher} {room : Room} {base : Folder} {known kept : RuleSetTag → Prop}
  {s t : SyncState} {p q : Pool (handler fetch room)}

/-- A step of a download changes no file but those of its rule-set. -/
theorem StepEffect.fileAt?_eq {choice : Nat} {job : DownloadJob} {stage : DownloadStage}
    {next : JobStep (DownloadJob × DownloadStage) DownloadResult}
    (h : StepEffect base choice job s t stage next) (hlocal : job.path = job.tag.localPath dir)
    (hspared : job.tag.Spares dir l) : t.files.fileAt? l = s.files.fileAt? l := by
  obtain ⟨htarget, htemporary⟩ := hspared
  rw [← hlocal] at htarget htemporary
  cases h with
  | requested hfiles | received _ hfiles | failed hfiles => rw [hfiles]
  | wrote heffect | stored heffect | gaveUp heffect => exact heffect.fileAt?_eq htarget htemporary

/-- A step of a pool changes no file but those of the rule-sets that it may download. -/
theorem Sound.fileAt?_of_step (hsafe : ∀ url, fetch url ≠ .crashed)
    (h : Sound dir known base kept s p) (hstep : Pool.Step (s, p) (t, q))
    (hspared : ∀ tag, known tag → tag.Spares dir l) : t.files.fileAt? l = s.files.fileAt? l := by
  obtain ⟨i, choice, hstep⟩ := hstep
  rcases Pool.step_cases hstep with ⟨_, _, _, rfl, _⟩ | ⟨_, _, _, _, _, rfl, _⟩ |
    ⟨own, ⟨job, stage⟩, gathered, next, hw, hadvance, _⟩
  · rfl
  · rfl
  · obtain ⟨⟨hknown, hlocal⟩, _, heffect⟩ := h.stepEffect hsafe hw hadvance
    exact heffect.fileAt?_eq hlocal (hspared job.tag hknown)

/-- A pool changes no file but those of the rule-sets that it may download. -/
theorem fileAt?_of_run {width : Nat} {jobs : List DownloadJob}
    {final : SyncState × Pool (handler fetch room)}
    (hsafe : ∀ url, fetch url ≠ .crashed) (hjobs : ∀ job ∈ jobs, IsLocal dir known job)
    (hrun : Relation.ReflTransGen Pool.Step (s, Pool.start (handler fetch room) width jobs) final) :
    Sound dir known s.files (fun _ => False) final.1 final.2 ∧
      ∀ l, (∀ tag, known tag → tag.Spares dir l) →
        final.1.files.fileAt? l = s.files.fileAt? l := by
  induction hrun with
  | refl => exact ⟨sound_start hjobs fun _ => False.elim, fun _ _ => rfl⟩
  | tail _ hstep ih =>
    obtain ⟨hsound, hfiles⟩ := ih
    refine ⟨hsound.step hsafe hstep, fun l hspared => ?_⟩
    exact (hsound.fileAt?_of_step hsafe hstep hspared).trans (hfiles l hspared)

end Download

/-! ## Synchronizations -/

/-- However a synchronization ends, folders stay, and no file changes but those of its rule-sets. -/
theorem Synchronizer.CanEnd.leaves {y : Synchronizer} {request : SyncRequest} {now : Time}
    {files : Folder} {sync : SyncOutcome} (h : y.CanEnd request now files sync)
    (hanswers : ∀ url, y.fetch url ≠ .crashed) :
    files.Leaves (fun l => ∀ tag ∈ request.tags, tag.Spares y.dir l) sync.files := by
  rcases h.cases with ⟨_, report, _, hreport⟩ | ⟨made, _, hprepare, rfl⟩
  · obtain ⟨s, hrun, hfiles, _⟩ := h
    rw [hreport] at hrun
    obtain ⟨made, pool, hprepare, hdownloads, _⟩ := SyncPhase.follows_run hrun
    have hprepares : y.Prepares made now files := prepares_of_prepare hprepare
    have hlocal : ∀ job ∈ y.jobs request made now,
        Download.IsLocal y.dir (· ∈ request.tags) job := by
      intro job hjob
      obtain ⟨tag, htag, rfl⟩ := List.mem_map.1 hjob
      exact ⟨(List.mem_filter.1 htag).1, rfl⟩
    obtain ⟨hsound, hkept⟩ := Download.fileAt?_of_run hanswers hlocal hdownloads
    rw [hfiles]
    refine ⟨hprepares.foldersWithin.trans hsound.sameFolders.foldersWithin, fun l hspared => ?_⟩
    rw [hkept l hspared, hprepares.sameFiles.fileAt?_eq]
  · obtain ⟨hfolders, hfiles⟩ := sameFiles_of_prepare hprepare
    exact ⟨hfolders, fun l _ => congrFun hfiles.fileAt?_eq l⟩

end ProxyConfig
