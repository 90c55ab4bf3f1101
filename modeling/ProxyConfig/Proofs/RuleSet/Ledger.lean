import ProxyConfig.Proofs.Pool.Discipline
import ProxyConfig.RuleSet.Download

/-!
# The requests of a pool

Whatever the downloads of a pool do to the files, each of them requests its address once and comes to
one result.  This needs nothing but that different downloads have different addresses.

Main results:

- `ledger`: how often the address of a download was requested, by its progress.
- `nodup_of_ledger`: no address is requested twice.
- `tags_perm_of_ledger`: in the end there is one result for every download.
-/

namespace ProxyConfig
namespace Download

open Files

variable {fetch : Fetcher} {room : Room} {jobs : List DownloadJob} {s t : SyncState}
  {job : DownloadJob}

/-- How often the address was requested by a download that has come to a stage. -/
def DownloadStage.requests : DownloadStage → Nat
  | .waiting => 0
  | .inFlight | .storing .. => 1

/-- How often the address of a download was requested, by the progress of the download. -/
def Requested (s : SyncState) (job : DownloadJob) : Pool.Progress (handler fetch room) → Prop
  | .waiting => s.requested.count job.url = 0
  | .running state =>
    state.1 = job ∧ s.requested.count job.url = DownloadStage.requests state.2
  | .returned result => result.1 = job.tag ∧ s.requested.count job.url = 1

/-- What a step of a download requests, and what it leads to. -/
theorem requested_of_advance (hsafe : fetch job.url ≠ .crashed) {stage : DownloadStage}
    {choice : Nat} {step : JobStep (DownloadJob × DownloadStage) DownloadResult}
    (hstep : advance fetch room choice (job, stage) s = (t, step)) :
    (stage = .waiting ∧ t.requested = job.url :: s.requested ∧
        step = .running (job, .inFlight)) ∨
      (DownloadStage.requests stage = 1 ∧ t.requested = s.requested ∧
        ((∃ next, DownloadStage.requests next = 1 ∧ step = .running (job, next)) ∨
          ∃ outcome, step = .returned (job.tag, outcome))) := by
  cases stage with
  | waiting =>
    cases hstep
    exact Or.inl ⟨rfl, rfl, rfl⟩
  | inFlight =>
    cases hstep
    refine Or.inr ⟨rfl, rfl, ?_⟩
    cases hfetch : fetch job.url with
    | body content =>
      cases content with
      | nil => exact Or.inr ⟨_, rfl⟩
      | cons byte rest => exact Or.inl ⟨_, rfl, rfl⟩
    | failed failure => exact Or.inr ⟨_, rfl⟩
    | crashed => exact absurd hfetch hsafe
  | storing content write =>
    simp only [advance] at hstep
    split at hstep
    · cases hstep
      exact Or.inr ⟨rfl, rfl, Or.inl ⟨_, rfl, rfl⟩⟩
    · cases hstep
      exact Or.inr ⟨rfl, rfl, Or.inr ⟨_, rfl⟩⟩

/-- The requests of downloads with addresses of their own. -/
def ledger (fetch : Fetcher) (room : Room) (jobs : List DownloadJob)
    (hsafe : ∀ url, fetch url ≠ .crashed)
    (hurl : ∀ a ∈ jobs, ∀ b ∈ jobs, a.url = b.url → a = b) :
    Pool.Discipline (handler fetch room) jobs where
  Common s := ∀ url ∈ s.requested, ∃ job ∈ jobs, job.url = url
  Holds := Requested
  start h := ⟨rfl, h⟩
  advance := by
    rintro s t job ⟨job', stage⟩ choice step hjob hcommon ⟨rfl, hcount⟩ hstep
    rcases requested_of_advance (hsafe job'.url) hstep with
      ⟨rfl, hrequested, rfl⟩ | ⟨hone, hrequested, hnext⟩
    · refine ⟨?_, _, rfl, rfl, ?_⟩
      · intro url hurl
        rw [hrequested] at hurl
        rcases List.mem_cons.1 hurl with rfl | hold
        · exact ⟨_, hjob, rfl⟩
        · exact hcommon url hold
      · rw [hrequested, List.count_cons_self, hcount]
        rfl
    · rw [hone, ← hrequested] at hcount
      refine ⟨by rwa [hrequested], ?_⟩
      rcases hnext with ⟨next, hnext, rfl⟩ | ⟨outcome, rfl⟩
      · exact ⟨_, rfl, rfl, hcount.trans hnext.symm⟩
      · exact ⟨_, rfl, rfl, hcount⟩
  stable := by
    rintro s t job other ⟨job', stage⟩ choice step progress hjob hother hne _ ⟨rfl, _⟩ hstep hholds
    have hother_ne : job'.url ≠ other.url := fun heq => hne (hurl job' hjob other hother heq).symm
    have hcount : t.requested.count other.url = s.requested.count other.url := by
      rcases requested_of_advance (hsafe job'.url) hstep with
        ⟨_, hrequested, _⟩ | ⟨_, hrequested, _⟩
      · rw [hrequested, List.count_cons_of_ne hother_ne]
      · rw [hrequested]
    cases progress with
    | waiting => exact hcount.trans hholds
    | running state => exact ⟨hholds.1, hcount.trans hholds.2⟩
    | returned result => exact ⟨hholds.1, hcount.trans hholds.2⟩

section Ledger

variable {hsafe : ∀ url, fetch url ≠ .crashed}
  {hurl : ∀ a ∈ jobs, ∀ b ∈ jobs, a.url = b.url → a = b} {p : Pool (handler fetch room)}
  {done : List (DownloadJob × DownloadResult)}

/-- Before the first request. -/
theorem ledger_start {width : Nat} (hrequested : s.requested = []) :
    (ledger fetch room jobs hsafe hurl).Invariant (s, Pool.start (handler fetch room) width jobs) [] := by
  refine Pool.Discipline.invariant_start ?_ ?_
  · intro url hmem
    rw [hrequested] at hmem
    cases hmem
  · intro job _
    change s.requested.count job.url = 0
    rw [hrequested]
    rfl

/-- The books only tell of requests. -/
theorem ledger_congr (h : (ledger fetch room jobs hsafe hurl).Invariant (s, p) done)
    (hrequested : t.requested = s.requested) :
    (ledger fetch room jobs hsafe hurl).Invariant (t, p) done := by
  obtain ⟨haccounts, hcommon, hholds⟩ := h
  refine ⟨haccounts, ?_, ?_⟩
  · intro url hmem
    rw [hrequested] at hmem
    exact hcommon url hmem
  · intro r hr
    have hbooked := hholds r hr
    obtain ⟨job, progress⟩ := r
    cases progress with
    | waiting =>
      change t.requested.count job.url = 0
      rw [hrequested]
      exact hbooked
    | running state => exact ⟨hbooked.1, by rw [hrequested]; exact hbooked.2⟩
    | returned result => exact ⟨hbooked.1, by rw [hrequested]; exact hbooked.2⟩

/-- No address is requested twice. -/
theorem nodup_of_ledger (h : (ledger fetch room jobs hsafe hurl).Invariant (s, p) done) :
    s.requested.Nodup := by
  rw [List.nodup_iff_count_le_one]
  intro url
  by_cases hmem : url ∈ s.requested
  · obtain ⟨job, hjob, rfl⟩ := h.common url hmem
    obtain ⟨⟨_, progress⟩, hrecord, rfl⟩ :=
      List.mem_map.1 (h.accounts.jobs_perm.mem_iff.2 hjob)
    have hbooked := h.holds _ hrecord
    cases progress with
    | waiting =>
      have hzero : s.requested.count _ = 0 := hbooked
      omega
    | running state =>
      have hcount : s.requested.count _ = DownloadStage.requests state.2 := hbooked.2
      have hle : DownloadStage.requests state.2 ≤ 1 := by
        cases state.2 <;> simp [DownloadStage.requests]
      omega
    | returned result =>
      have hone : s.requested.count _ = 1 := hbooked.2
      omega
  · rw [List.count_eq_zero.2 hmem]
    exact Nat.zero_le 1

/-- In the end there is one result for every download. -/
theorem tags_perm_of_ledger (h : (ledger fetch room jobs hsafe hurl).Invariant (s, p) done)
    (hended : p.hasEnded = true) : (p.results.map Prod.fst).Perm (jobs.map DownloadJob.tag) := by
  obtain ⟨hjobs, hresults, hholds⟩ := h.of_hasEnded hended
  refine (hresults.map Prod.fst).trans ?_
  have htags : (done.map Prod.snd).map Prod.fst = (done.map Prod.fst).map DownloadJob.tag := by
    rw [List.map_map, List.map_map]
    apply List.map_congr_left
    intro e he
    exact (hholds e he).1
  rw [htags]
  exact hjobs.map _

end Ledger
end Download
end ProxyConfig
