import ProxyConfig.Proofs.Files.Replacement
import ProxyConfig.Proofs.Pool.Discipline
import ProxyConfig.RuleSet.Download

/-!
# Downloads that overlap

Downloads of one pool have addresses and slots of their own.  So each of them can be followed as if
it were alone: what it has requested and what lies in its slots is changed by its own steps only.

Main results:

- `advance_spec`: what a step of a download does.
- `Holds.congr`: what a download relies on.
- `ended_spec`: what is known of every download when all workers have ended.
-/

namespace ProxyConfig
namespace Download

open Files Files.Folder

section Assertions

variable (fetch : Fetcher) (room : Room) (base : Folder) (now : Time)

/-- How things stand for a download that has come to a stage, compared with the tree in which the
downloads began. -/
def Stands (s : SyncState) (job : DownloadJob) : DownloadStage → Prop
  | .waiting => s.requested.count job.url = 0 ∧ base.SameSlots job.path base s.files
  | .inFlight => s.requested.count job.url = 1 ∧ base.SameSlots job.path base s.files
  | .storing content stage =>
    s.requested.count job.url = 1 ∧ fetch job.url = .body content ∧ content ≠ [] ∧
      stage.Invariant base room now job.path content s.files

/-- What the outcome of a download tells. -/
def Settles (f : Folder) (job : DownloadJob) : Except String Unit → Prop
  | .ok _ =>
    ∃ content, fetch job.url = .body content ∧ content ≠ [] ∧
      Replaced base room now job.path content f (.ok ())
  | .error _ =>
    (∀ content, fetch job.url = .body content → content ≠ [] →
        ¬ base.IsReplaceable room job.path content) ∧
      base.LeftAlone job.path f

/-- How things stand for a download by its progress in the pool. -/
def Holds (s : SyncState) (job : DownloadJob) : Pool.Progress (handler fetch room) → Prop
  | .waiting => Stands fetch room base now s job .waiting
  | .running state => state.1 = job ∧ Stands fetch room base now s job state.2
  | .returned result =>
    result.1 = job.tag ∧ s.requested.count job.url = 1 ∧
      Settles fetch room base now s.files job result.2

/-- What downloads have in common at all times. -/
structure Common (jobs : List DownloadJob) (s : SyncState) : Prop where
  now_eq : s.now = now
  sameFolders : SameFolders base s.files
  requested : ∀ url ∈ s.requested, ∃ job ∈ jobs, job.url = url
  frame : ∀ m, (∀ job ∈ jobs, base.IsOutside job.path m) → s.files.find? m = base.find? m

/-- Downloads with addresses and slots of their own. -/
structure Apart (jobs : List DownloadJob) : Prop where
  eq_of_url : ∀ a ∈ jobs, ∀ b ∈ jobs, a.url = b.url → a = b
  slotsApart : ∀ job ∈ jobs, base.SlotsApart job.path
  outside : ∀ a ∈ jobs, ∀ b ∈ jobs, a ≠ b → ∀ l, base.IsSlot b.path l → base.IsOutside a.path l

/-- What a step of a download does to what all downloads share. -/
structure Changes (job : DownloadJob) (s t : SyncState) : Prop where
  now_eq : t.now = s.now
  confined : Confined base job.path s.files t.files
  requested : t.requested = s.requested ∨ t.requested = job.url :: s.requested

end Assertions

variable {fetch : Fetcher} {room : Room} {base : Folder} {now : Time} {jobs : List DownloadJob}
  {s t : SyncState} {job : DownloadJob}

/-! ## Steps of a download -/

/-- An answer settles the download or gives the content that is to be stored. -/
theorem receive_spec (hsafe : fetch job.url ≠ .crashed)
    (h : Stands fetch room base now s job .inFlight) :
    ∃ progress, Pool.progressAfter? (h := handler fetch room) (receive job (fetch job.url)) =
      some progress ∧ Holds fetch room base now s job progress := by
  obtain ⟨hcount, hsame⟩ := h
  cases hfetch : fetch job.url with
  | body content =>
    cases content with
    | nil =>
      refine ⟨_, rfl, rfl, hcount, ?_, hsame.leftAlone⟩
      intro content hbody hne
      rw [hfetch] at hbody
      cases hbody
      exact absurd rfl hne
    | cons b rest =>
      exact ⟨_, rfl, rfl, hcount, hfetch, List.cons_ne_nil b rest, fun _ => hsame.target,
        fun _ => hsame.temporary⟩
  | failed failure =>
    refine ⟨_, rfl, rfl, hcount, ?_, hsame.leftAlone⟩
    intro content hbody _
    rw [hfetch] at hbody
    cases hbody
  | crashed => exact absurd hfetch hsafe

/-- A step of a download changes only its own part of what is shared, and it carries on how things
stand for the download. -/
theorem advance_spec (hsafe : fetch job.url ≠ .crashed) (hslots : base.SlotsApart job.path)
    (hcommon : Common base now jobs s) {stage : DownloadStage}
    (h : Stands fetch room base now s job stage) {choice : Nat}
    {step : JobStep (DownloadJob × DownloadStage) DownloadResult}
    (hstep : advance fetch room choice (job, stage) s = (t, step)) :
    Changes base job s t ∧ ∃ progress, Pool.progressAfter? (h := handler fetch room) step =
      some progress ∧ Holds fetch room base now t job progress := by
  cases stage with
  | waiting =>
    cases hstep
    obtain ⟨hcount, hsame⟩ := h
    refine ⟨⟨rfl, Confined.refl base job.path s.files, Or.inr rfl⟩, _, rfl, rfl, ?_, hsame⟩
    rw [List.count_cons_self, hcount]
  | inFlight =>
    cases hstep
    exact ⟨⟨rfl, Confined.refl base job.path s.files, Or.inl rfl⟩, receive_spec hsafe h⟩
  | storing content stage =>
    obtain ⟨hcount, hbody, hne, hstage⟩ := h
    cases hwrite : stage.advance room s.now job.path content choice s.files with
    | mk files write =>
      have hwrite' := hwrite
      rw [hcommon.now_eq] at hwrite'
      obtain ⟨hconfined, hnext⟩ :=
        Files.advance_spec hslots hcommon.sameFolders hstage hwrite'
      simp only [advance, hwrite] at hstep
      cases write with
      | next stage' =>
        cases hstep
        exact ⟨⟨rfl, hconfined, Or.inl rfl⟩, _, rfl, rfl, hcount, hbody, hne, hnext⟩
      | done result =>
        cases hstep
        refine ⟨⟨rfl, hconfined, Or.inl rfl⟩, _, rfl, rfl, hcount, ?_⟩
        cases result with
        | ok u => exact ⟨content, hbody, hne, hnext⟩
        | error e =>
          refine ⟨?_, hnext.2⟩
          intro other hother _
          rw [hbody] at hother
          cases hother
          exact hnext.1

/-! ## Steps of other downloads -/

/-- How things stand for a download depends on its own address and its own slots only. -/
theorem Stands.congr (hcount : t.requested.count job.url = s.requested.count job.url)
    (hsame : base.SameSlots job.path s.files t.files) {stage : DownloadStage}
    (h : Stands fetch room base now s job stage) : Stands fetch room base now t job stage := by
  cases stage with
  | waiting =>
    obtain ⟨hnone, hkept⟩ := h
    exact ⟨hcount.trans hnone, hkept.trans hsame⟩
  | inFlight =>
    obtain ⟨hone, hkept⟩ := h
    exact ⟨hcount.trans hone, hkept.trans hsame⟩
  | storing content stage =>
    obtain ⟨hone, hbody, hne, hinv⟩ := h
    exact ⟨hcount.trans hone, hbody, hne, hinv.congr hsame⟩

/-- What an outcome tells depends on the slots only. -/
theorem Settles.congr {f g : Folder} (hsame : base.SameSlots job.path f g)
    {outcome : Except String Unit} (h : Settles fetch room base now f job outcome) :
    Settles fetch room base now g job outcome := by
  cases outcome with
  | ok u =>
    obtain ⟨content, hbody, hne, hreplaced⟩ := h
    exact ⟨content, hbody, hne, hreplaced.congr hsame⟩
  | error reason => exact ⟨h.1, h.2.congr hsame⟩

theorem Holds.congr (hcount : t.requested.count job.url = s.requested.count job.url)
    (hsame : base.SameSlots job.path s.files t.files) {progress : Pool.Progress (handler fetch room)}
    (h : Holds fetch room base now s job progress) : Holds fetch room base now t job progress := by
  cases progress with
  | waiting =>
    have hstands : Stands fetch room base now s job .waiting := h
    exact hstands.congr hcount hsame
  | running state => exact ⟨h.1, h.2.congr hcount hsame⟩
  | returned result =>
    obtain ⟨htag, hone, hsettles⟩ := h
    exact ⟨htag, hcount.trans hone, hsettles.congr hsame⟩

/-- A step of a download keeps what downloads have in common. -/
theorem Changes.common (h : Changes base job s t) (hjob : job ∈ jobs)
    (hcommon : Common base now jobs s) : Common base now jobs t := by
  refine ⟨h.now_eq.trans hcommon.now_eq, hcommon.sameFolders.trans h.confined.sameFolders, ?_, ?_⟩
  · intro url hurl
    rcases h.requested with hold | hnew
    · rw [hold] at hurl
      exact hcommon.requested url hurl
    · rw [hnew] at hurl
      rcases List.mem_cons.1 hurl with rfl | hurl
      · exact ⟨job, hjob, rfl⟩
      · exact hcommon.requested url hurl
  · intro m hm
    rw [h.confined.frame m (hm job hjob), hcommon.frame m hm]

/-- A step of a download leaves alone what another download relies on. -/
theorem Changes.stable (h : Changes base job s t) (hapart : Apart base jobs) (hjob : job ∈ jobs)
    {other : DownloadJob} (hother : other ∈ jobs) (hne : other ≠ job)
    {progress : Pool.Progress (handler fetch room)}
    (hholds : Holds fetch room base now s other progress) :
    Holds fetch room base now t other progress := by
  refine hholds.congr ?_ ?_
  · rcases h.requested with hold | hnew
    · rw [hold]
    · have hurl : job.url ≠ other.url :=
        fun heq => hne (hapart.eq_of_url job hjob other hother heq).symm
      rw [hnew, List.count_cons_of_ne hurl]
  · intro l hl
    exact h.confined.frame l (hapart.outside job hjob other hother (Ne.symm hne) l hl)

/-! ## All downloads -/

/-- Downloads apart from each other keep out of each other's way. -/
def discipline (fetch : Fetcher) (room : Room) (base : Folder) (now : Time) {jobs : List DownloadJob}
    (hsafe : ∀ url, fetch url ≠ .crashed) (hapart : Apart base jobs) :
    Pool.Discipline (handler fetch room) jobs where
  Common := Common base now jobs
  Holds := Holds fetch room base now
  start h := ⟨rfl, h⟩
  advance := by
    rintro s t job ⟨job', stage⟩ choice step hjob hcommon ⟨rfl, hstands⟩ hstep
    obtain ⟨hchanges, hprogress⟩ :=
      advance_spec (hsafe job'.url) (hapart.slotsApart job' hjob) hcommon hstands hstep
    exact ⟨hchanges.common hjob hcommon, hprogress⟩
  stable := by
    rintro s t job other ⟨job', stage⟩ choice step progress hjob hother hne hcommon
      ⟨rfl, hstands⟩ hstep hholds
    obtain ⟨hchanges, _⟩ :=
      advance_spec (hsafe job'.url) (hapart.slotsApart job' hjob) hcommon hstands hstep
    exact hchanges.stable hapart hjob hother hne hholds

/-- When all workers have ended, every download has one result, which tells what became of it. -/
theorem ended_spec (hsafe : ∀ url, fetch url ≠ .crashed) (hapart : Apart base jobs)
    (hnodup : jobs.Nodup) {width : Nat} {p : Pool (handler fetch room)}
    (hrun : Relation.ReflTransGen Pool.Step
      (⟨base, now, []⟩, Pool.start (handler fetch room) width jobs) (t, p))
    (hended : p.hasEnded = true) :
    Common base now jobs t ∧ ∃ done : List (DownloadJob × DownloadResult),
      (done.map Prod.fst).Perm jobs ∧ p.results.Perm (done.map Prod.snd) ∧
        ∀ e ∈ done, e.2.1 = e.1.tag ∧ t.requested.count e.1.url = 1 ∧
          Settles fetch room base now t.files e.1 e.2.2 := by
  have hcommon : Common base now jobs ⟨base, now, []⟩ := by
    refine ⟨rfl, SameFolders.refl base, ?_, fun _ _ => rfl⟩
    intro url hurl
    cases hurl
  exact (discipline fetch room base now hsafe hapart).of_hasEnded hnodup hcommon
    (fun _ _ => ⟨rfl, fun _ _ => rfl⟩) hrun hended

end Download
end ProxyConfig
