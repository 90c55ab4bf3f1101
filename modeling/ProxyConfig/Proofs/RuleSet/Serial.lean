import ProxyConfig.Proofs.RuleSet.Solo

/-!
# Runs one after another

Runs that are carried out one after another on the same folder.  The next one takes the lock when those
before it have ended, and only time passes in between.  If the runs force nothing, fail nowhere and
none of their rule-sets becomes stale, a run does not repeat the work of those before it: what they have
requested is fresh when it looks.

Main results:

- `Serial`: how runs one after another lead to a situation.
- `Serial.fresh`: what such runs have requested, and that it is fresh.
-/

namespace ProxyConfig

open Files

variable {dir : String} {lapse : Lapse}

/-- The run can come to its phase by itself, when it takes the lock in the first situation and leads to
the second one. -/
def SyncRun.Solo (lapse : Lapse) (run : SyncRun dir) (a b : Folder × Time) : Prop :=
  Relation.ReflTransGen (SyncPhase.Proceeds lapse run.call.request)
    (⟨a.1, a.2, []⟩, .entered) (⟨b.1, b.2, run.requested⟩, run.phase)

/-- The runs can come to their phases one after another: each of them takes the lock when those before
it have ended. -/
inductive Serial (lapse : Lapse) (a : Folder × Time) : List (SyncRun dir) → Folder × Time → Prop
  | nil : Serial lapse a [] a
  | wait {runs : List (SyncRun dir)} {b : Folder × Time} {seconds : Nat}
      (hbefore : Serial lapse a runs b) (hended : ∀ run ∈ runs, run.phase.hasEnded = true)
      (hpass : lapse b.1 b.2 (b.2 + seconds)) : Serial lapse a runs (b.1, b.2 + seconds)
  | run {runs : List (SyncRun dir)} {b c : Folder × Time} {run : SyncRun dir}
      (hbefore : Serial lapse a runs b) (hended : ∀ run ∈ runs, run.phase.hasEnded = true)
      (hsolo : run.Solo lapse b c) : Serial lapse a (runs ++ [run]) c

/-! ## Runs that keep what others did -/

/-- The call forces nothing, uses the source, is for known rule-sets only, for none of them twice, and
gets an answer to every request. -/
structure SyncCall.IsPlain (source : RuleSetSource) (known : RuleSetTag → Prop) (call : SyncCall) :
    Prop where
  isForced : call.request.isForced = false
  source : call.request.source = source
  nodup : call.request.tags.Nodup
  known : ∀ tag ∈ call.request.tags, known tag
  answers : ∀ url, call.fetch url ≠ .crashed

/-- The run has not reported a failure: it got contents for all rule-sets that it requested, and it could
write all of them. -/
def SyncRun.IsSmooth (run : SyncRun dir) : Prop :=
  ∀ report, run.phase = .ended (.ok report) → report.failures = []

/-- The addresses that runs have requested. -/
def requestedBy (runs : List (SyncRun dir)) : List String :=
  runs.flatMap SyncRun.requested

/-- The rule-sets that runs have requested are fresh. -/
def HasFresh (dir : String) (source : RuleSetSource) (urls : List String) (a : Folder × Time) : Prop :=
  ∀ tag : RuleSetTag, source.url tag ∈ urls → Artifact.isFresh a.1 a.2 (tag.localPath dir) = true

section Fresh

variable {source : RuleSetSource} {known : RuleSetTag → Prop} {a b c : Folder × Time}
  {run : SyncRun dir} {urls : List String}

/-- What a plain run requests is new if what was requested before is fresh; and what it and those before
it have requested is fresh when it has ended without failures. -/
theorem SyncRun.Solo.requests (hsolo : run.Solo lapse b c) (hplain : run.call.IsPlain source known)
    (hlapse : ∀ files now later, lapse files now later → NoneExpires dir known files now later)
    (hurls : ∀ url ∈ urls, ∃ tag, known tag ∧ source.url tag = url)
    (hfresh : HasFresh dir source urls b) :
    run.requested.Nodup ∧
      (∀ url ∈ run.requested, url ∉ urls ∧ ∃ tag, known tag ∧ source.url tag = url) ∧
      (run.IsSmooth → run.phase.hasEnded = true →
        HasFresh dir source (urls ++ run.requested) c) := by
  have hkept : ∀ tag, source.url tag ∈ urls → known tag := by
    intro tag hmem
    obtain ⟨other, hother, hurl⟩ := hurls _ hmem
    rw [← RuleSetTag.url_inj hurl]
    exact hother
  obtain ⟨call, phase, requested⟩ := run
  have hstays : SyncPhase.Stays known (fun tag => source.url tag ∈ urls) call.request
      ⟨c.1, c.2, requested⟩ phase :=
    SyncPhase.stays_run hplain.isForced hplain.nodup hplain.answers hplain.known hkept hlapse
      hsolo ⟨rfl, hfresh⟩
  have hfrom : ∀ url ∈ requested, ∃ tag ∈ call.request.tags, source.url tag ∉ urls ∧
      source.url tag = url := by
    rw [← hplain.source]
    rw [← hplain.source] at hstays
    exact hstays.requested.2
  refine ⟨hstays.requested.1, ?_, ?_⟩
  · intro url hmem
    obtain ⟨tag, htag, hnew, rfl⟩ := hfrom url hmem
    exact ⟨hnew, tag, hplain.known tag htag, rfl⟩
  · intro hsmooth hended tag hmem
    cases phase with
    | waiting | entered | checking | downloading => cases hended
    | ended result =>
      cases result with
      | ok report =>
        refine hstays.2.2 (hsmooth report rfl) tag ?_
        rcases List.mem_append.1 hmem with hold | hnew
        · exact Or.inl hold
        · obtain ⟨other, hother, _, hurl⟩ := hfrom _ hnew
          rw [← RuleSetTag.url_inj hurl]
          exact Or.inr hother
      | error e =>
        obtain ⟨hnone, hkeeps⟩ := hstays
        have hrequested : requested = [] := hnone
        rw [hrequested, List.append_nil] at hmem
        exact hkeeps tag hmem

/-- Plain runs one after another request no address twice; and when all of them have ended without
failures, what they have requested is fresh. -/
theorem Serial.fresh {runs : List (SyncRun dir)} (hserial : Serial lapse a runs b)
    (hplain : ∀ run ∈ runs, run.call.IsPlain source known) (hsmooth : ∀ run ∈ runs, run.IsSmooth)
    (hlapse : ∀ files now later, lapse files now later → NoneExpires dir known files now later) :
    (requestedBy runs).Nodup ∧
      (∀ url ∈ requestedBy runs, ∃ tag, known tag ∧ source.url tag = url) ∧
      ((∀ run ∈ runs, run.phase.hasEnded = true) →
        HasFresh dir source (requestedBy runs) b) := by
  induction hserial with
  | nil => exact ⟨List.nodup_nil, by simp [requestedBy], by simp [requestedBy, HasFresh]⟩
  | wait _ hended hpass ih =>
    obtain ⟨hnodup, hurls, hfresh⟩ := ih hplain hsmooth
    refine ⟨hnodup, hurls, fun _ tag hmem => ?_⟩
    obtain ⟨other, hother, hurl⟩ := hurls _ hmem
    rw [RuleSetTag.url_inj hurl] at hother
    exact hlapse _ _ _ hpass tag hother _ (Or.inl rfl) (hfresh hended tag hmem)
  | @run runs b c run _ hended hsolo ih =>
    obtain ⟨hnodup, hurls, hfresh⟩ :=
      ih (fun r hr => hplain r (by simp [hr])) (fun r hr => hsmooth r (by simp [hr]))
    obtain ⟨hown, hnew, hafter⟩ :=
      hsolo.requests (hplain run (by simp)) hlapse hurls (hfresh hended)
    have happend : requestedBy (runs ++ [run]) = requestedBy runs ++ run.requested := by
      simp [requestedBy]
    rw [happend]
    refine ⟨?_, ?_, ?_⟩
    · refine hnodup.append hown fun url hold hmem => (hnew url hmem).1 hold
    · intro url hmem
      rcases List.mem_append.1 hmem with hold | hmem
      · exact hurls url hold
      · exact (hnew url hmem).2
    · intro hall
      exact hafter (hsmooth run (by simp)) (hall run (by simp))

end Fresh
end ProxyConfig
