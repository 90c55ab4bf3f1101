import ProxyConfig.CommandLine.Run
import ProxyConfig.Proofs.Files.Destination
import ProxyConfig.Proofs.RuleSet.Schedule

/-!
# Synchronizations and deliveries of the program

A compilation goes on from a synchronization if that is asked for, and it ends with the delivery of
a document.  There are three ways in which a delivery can end: there is no document, the file of the
document is not written as a whole, or the document is delivered.

Main results:

- `Surroundings.runCompile_cases`: what the program does is one of the possible runs.
- `Surroundings.CanSynchronize.cases`: how a synchronization can end.
- `Surroundings.endsDelivery`: how a delivery can end.
-/

namespace ProxyConfig

open Files Files.Folder

/-- Every request of a session is answered. -/
theorem Session.fetcher_ne_crashed (session : Session) (network : Network) (url : String) :
    session.fetcher network url ≠ .crashed := by
  unfold fetcher
  split
  · simp
  · split <;> simp

/-- No rule-set is needed twice. -/
theorem Config.nodup_syncRequest (config : Config) (isForced : Bool) :
    (config.syncRequest isForced).tags.Nodup :=
  RuleSetTag.nodup_sorted _

namespace Surroundings

variable {w : Surroundings} {config : Config} {dir : String} {isForced : Bool} {sync : SyncOutcome}
  {command : CompileCommand}

/-! ## Synchronizations -/

/-- The synchronization of the rule-sets of a configuration can end like this, for some order of the
steps of its workers. -/
def CanSynchronize (w : Surroundings) (config : Config) (dir : String) (isForced : Bool)
    (sync : SyncOutcome) : Prop :=
  ∃ y, w.synchronizer config.download dir = .ok y ∧
    y.CanEnd (config.syncRequest isForced) w.now w.files sync

/-- What the program does is one of the possible runs. -/
theorem canSynchronize (h : w.synchronize config dir isForced = .ok sync) :
    w.CanSynchronize config dir isForced sync := by
  unfold synchronize at h
  cases hy : w.synchronizer config.download dir with
  | error e => simp [hy, Except.map] at h
  | ok y =>
    have hsync : y.run (config.syncRequest isForced) w.now w.files = sync := by
      simpa [hy, Except.map] using h
    exact ⟨y, hy, hsync ▸ y.canEnd_run (config.syncRequest isForced) w.now w.files⟩

/-- A synchronization is not begun only if the parameters of the download are unusable. -/
theorem synchronizer_eq_error {e : Failure} (h : w.synchronize config dir isForced = .error e) :
    w.synchronizer config.download dir = .error e := by
  unfold synchronize at h
  cases hy : w.synchronizer config.download dir with
  | ok y => simp [hy, Except.map] at h
  | error e' => simpa [hy, Except.map] using h

/-- A compilation with local rule-sets goes on from one of the possible runs, unless the parameters
of the download are unusable. -/
theorem runCompile_cases (hlocal : command.localRuleSets = true) :
    (∃ e, w.synchronizer config.download command.ruleSetDir = .error e ∧
      w.runCompile config command = w.failure e) ∨
    ∃ sync, w.CanSynchronize config command.ruleSetDir false sync ∧
      w.runCompile config command = w.deliverAfter config command sync := by
  unfold runCompile
  rw [if_pos hlocal]
  cases hsync : w.synchronize config command.ruleSetDir false with
  | ok sync => exact Or.inr ⟨sync, canSynchronize hsync, rfl⟩
  | error e => exact Or.inl ⟨e, synchronizer_eq_error hsync, rfl⟩

/-- The synchronizer of the program works in its folder and gets an answer to every request. -/
theorem synchronizer_spec {download : Download} {y : Synchronizer}
    (h : w.synchronizer download dir = .ok y) : y.dir = dir ∧ ∀ url, y.fetch url ≠ .crashed := by
  unfold synchronizer at h
  cases hsession : Session.ofDownload download with
  | error e => simp [hsession, Except.map] at h
  | ok session =>
    obtain rfl : (⟨dir, session.fetcher w.network, w.room⟩ : Synchronizer) = y := by
      simpa [hsession, Except.map] using h
    exact ⟨rfl, session.fetcher_ne_crashed w.network⟩

/-- A synchronization ends with a report, or its folder is needed and cannot be made.  In this case
some of the folders above it may have been made. -/
theorem CanSynchronize.cases (h : w.CanSynchronize config dir isForced sync) :
    (∃ report, sync.result = .ok report) ∨
      ∃ made error, (config.syncRequest isForced).tags ≠ [] ∧
        w.files.createFolders dir = (made, .error error) ∧
        sync = ⟨.error (.folder error), made, []⟩ := by
  obtain ⟨y, hy, hend⟩ := h
  have hdir : y.dir = dir := (synchronizer_spec hy).1
  rcases hend.cases with ⟨_, report, _, hreport⟩ | ⟨made, error, hprepare, hsync⟩
  · exact Or.inl ⟨report, hreport⟩
  · rw [Synchronizer.prepare, hdir] at hprepare
    split at hprepare
    · cases hprepare
    · rename_i htags
      exact Or.inr ⟨made, error, by simpa using htags, hprepare, hsync⟩

/-- After a report the program goes on to the compilation.  The document may refer to files if
nothing has failed. -/
theorem deliverAfter_report {report : SyncReport} (hreport : sync.result = .ok report) :
    w.deliverAfter config command sync =
      { { w with files := sync.files }.deliver config command
          (if report.failures = [] then some (.ofText command.ruleSetDir) else none) with
        requested := sync.requested } := by
  simp only [deliverAfter, hreport, usableRuleSets, SyncReport.isComplete, List.isEmpty_iff]

/-- After an error there is no compilation. -/
theorem deliverAfter_error {e : SyncError} (herror : sync.result = .error e) :
    w.deliverAfter config command sync =
      { { w with files := sync.files }.failure (.sync e) with requested := sync.requested } := by
  simp only [deliverAfter, herror, usableRuleSets]

end Surroundings

/-! ## Deliveries -/

/-- The command makes a text of a configuration when the document may refer to files of a folder. -/
def CompileCommand.Compiles (command : CompileCommand) (config : Config) (usable : Option RawPath)
    (text : String) : Prop :=
  ∃ format, Format.parse command.format = .ok format ∧
    compile format config.model ⟨command.mobile, usable⟩ = .ok text

/-- A command makes at most one text. -/
theorem CompileCommand.Compiles.unique {command : CompileCommand}
    {config : Config} {usable : Option RawPath} {s t : String}
    (hs : command.Compiles config usable s) (ht : command.Compiles config usable t) : s = t := by
  obtain ⟨format, hformat, hs⟩ := hs
  obtain ⟨format', hformat', ht⟩ := ht
  rw [hformat] at hformat'
  cases hformat'
  exact Except.ok.inj (hs.symm.trans ht)

/-- The program has delivered a text as a command asks. -/
structure Outcome.Delivers (w : Surroundings) (command : CompileCommand) (text : String)
    (o : Outcome) : Prop where
  exitCode : o.exitCode = 0
  printed : command.output = none → o.printed = text ++ "\n" ∧ o.files = w.files
  written : ∀ path, command.output = some path →
    o.printed = "" ∧ w.files.write w.room w.now path (bytesOf text) = (o.files, .ok ())

/-- What was requested does not matter for the delivery. -/
theorem Outcome.Delivers.withRequested {w : Surroundings} {command : CompileCommand} {text : String}
    {o : Outcome} (h : o.Delivers w command text) (requested : List String) :
    { o with requested := requested }.Delivers w command text :=
  ⟨h.exitCode, h.printed, h.written⟩

namespace Surroundings

/-- How a delivery can end. -/
inductive EndsDelivery (w : Surroundings) (config : Config) (command : CompileCommand)
    (usable : Option RawPath) : Outcome → Prop
  | uncompiled {e : CompileError} (hnone : ∀ text, ¬ command.Compiles config usable text) :
      EndsDelivery w config command usable (w.failure (.compile e))
  | unwritten {text path : String} {files : Folder} {e : FileError}
      (hcompiles : command.Compiles config usable text) (houtput : command.output = some path)
      (hwrite : w.files.write w.room w.now path (bytesOf text) = (files, .error e)) :
      EndsDelivery w config command usable ({ w with files := files }.failure (.files e))
  | delivered {text : String} {o : Outcome} (hcompiles : command.Compiles config usable text)
      (hdelivers : o.Delivers w command text) : EndsDelivery w config command usable o

/-- How a delivery can end. -/
theorem endsDelivery (w : Surroundings) (config : Config) (command : CompileCommand)
    (usable : Option RawPath) :
    w.EndsDelivery config command usable (w.deliver config command usable) := by
  unfold deliver
  cases hformat : Format.parse command.format with
  | error e =>
    refine .uncompiled ?_
    rintro text ⟨format, hparse, _⟩
    rw [hformat] at hparse
    cases hparse
  | ok format =>
    simp only
    cases hcompile : compile format config.model ⟨command.mobile, usable⟩ with
    | error e =>
      refine .uncompiled ?_
      rintro text ⟨format', hparse, htext⟩
      rw [hformat] at hparse
      cases hparse
      rw [hcompile] at htext
      cases htext
    | ok text =>
      have hcompiles : command.Compiles config usable text := ⟨format, hformat, hcompile⟩
      simp only
      cases houtput : command.output with
      | none => exact .delivered hcompiles ⟨rfl, fun _ => ⟨rfl, rfl⟩, by simp [houtput]⟩
      | some path =>
        simp only
        split
        · rename_i files e hwrite
          exact .unwritten hcompiles houtput hwrite
        · rename_i files u hwrite
          refine .delivered hcompiles ⟨rfl, by simp [houtput], ?_⟩
          intro path' hpath
          rw [houtput, Option.some.injEq] at hpath
          subst hpath
          exact ⟨rfl, hwrite⟩

/-- The destination of a command takes a text as a whole. -/
def Accepts (w : Surroundings) (command : CompileCommand) (text : String) : Prop :=
  ∀ path, command.output = some path →
    ∃ files, w.files.write w.room w.now path (bytesOf text) = (files, .ok ())

section Ends

variable {w : Surroundings} {config : Config} {command : CompileCommand} {usable : Option RawPath}
  {text : String} {o : Outcome}

/-- A delivery that does not fail delivers what is compiled. -/
theorem EndsDelivery.delivers (h : w.EndsDelivery config command usable o)
    (hcompiles : command.Compiles config usable text) (hexit : o.exitCode = 0) :
    o.Delivers w command text := by
  cases h with
  | uncompiled | unwritten => cases hexit
  | delivered hcompiles' hdelivers => exact hcompiles'.unique hcompiles ▸ hdelivers

/-- A delivery delivers what is compiled if the destination takes it. -/
theorem EndsDelivery.delivers_of_accepts (h : w.EndsDelivery config command usable o)
    (hcompiles : command.Compiles config usable text) (haccepts : w.Accepts command text) :
    o.Delivers w command text := by
  cases h with
  | uncompiled hnone => exact absurd hcompiles (hnone text)
  | unwritten hcompiles' houtput hwrite =>
    obtain ⟨files, hfiles⟩ := haccepts _ houtput
    rw [hcompiles'.unique hcompiles, hfiles] at hwrite
    cases hwrite
  | delivered hcompiles' hdelivers => exact hcompiles'.unique hcompiles ▸ hdelivers

/-- A delivery fails if what is compiled cannot be written as a whole. -/
theorem EndsDelivery.fails {path : String} {files : Folder} {e : FileError}
    (h : w.EndsDelivery config command usable o) (hcompiles : command.Compiles config usable text)
    (houtput : command.output = some path)
    (hwrite : w.files.write w.room w.now path (bytesOf text) = (files, .error e)) :
    o = { w with files := files }.failure (.files e) := by
  cases h with
  | uncompiled hnone => exact absurd hcompiles (hnone text)
  | unwritten hcompiles' houtput' hwrite' =>
    rw [houtput, Option.some.injEq] at houtput'
    subst houtput'
    rw [hcompiles'.unique hcompiles, hwrite] at hwrite'
    cases hwrite'
    rfl
  | delivered hcompiles' hdelivers =>
    have hwhole := (hdelivers.written path houtput).2
    rw [hcompiles'.unique hcompiles, hwrite] at hwhole
    cases hwhole

end Ends

end Surroundings
end ProxyConfig
