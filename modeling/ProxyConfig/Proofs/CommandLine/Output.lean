import ProxyConfig.Proofs.CommandLine.Fallback
import ProxyConfig.Proofs.RuleSet.Untouched
import ProxyConfig.Proofs.Text.ByteOrder

/-!
# What a run gives out

A run of the program writes its document last, and once.  So a run that fails has printed nothing,
and the file of the document is as it was, unless the document is begun and does not fit; a
compilation that does not fail gives one whole document.  A synchronization before that changes the
files of rule-sets and no others.  These lie in the folder of the rule-sets, but a rule-set whose
name has slashes can lead out of it.

Main results:

- `Surroundings.mayRun_runLine`: what the program does is one of the possible runs.
- `MayCarryOut.compile_cases`, `MayCarryOut.sync_cases`: how a command can end.
- `output_all_or_nothing`: whatever happens, the output is whole or nothing.
-/

namespace ProxyConfig

open Files Files.Folder

/-- The folder in which a command synchronizes rule-sets. -/
def Command.ruleSetDir? : Command → Option String
  | .compile command => if command.localRuleSets then some command.ruleSetDir else none
  | .sync command => some command.ruleSetDir

/-- The location lies apart from the folder in which a command synchronizes rule-sets, and it is not one
to which a rule-set with slashes in its name leads. -/
def Command.IsApart (command : Command) (config : Config) (l : Location) : Prop :=
  ∀ dir, command.ruleSetDir? = some dir → Disjoint l (Path.destination dir) ∧
    ∀ tag ∈ Routing.neededRuleSets config.model.rules config.model.ruleGroups,
      '/' ∈ tag.name.toList → tag.Spares dir l

namespace Surroundings

variable (w : Surroundings)

/-! ## Possible runs -/

/-- What is left behind when a synchronization has ended that the user has asked for. -/
def afterSync (sync : SyncOutcome) : Outcome :=
  let after := { w with files := sync.files }
  { (match sync.result.bind SyncReport.result with
      | .error e => after.failure (.sync e)
      | .ok _ => after.success "") with
    requested := sync.requested }

/-- What a command may leave behind, for some order of the steps of its downloads. -/
inductive MayCarryOut (config : Config) : Option Command → Outcome → Prop
  | nothing : MayCarryOut config none (w.success "")
  | compiled {command : CompileCommand} (hlocal : command.localRuleSets = false) :
      MayCarryOut config (some (.compile command)) (w.deliver config command none)
  | compiledAfter {command : CompileCommand} {sync : SyncOutcome}
      (hlocal : command.localRuleSets = true)
      (hsync : w.CanSynchronize config command.ruleSetDir false sync) :
      MayCarryOut config (some (.compile command)) (w.deliverAfter config command sync)
  | synchronized {command : SyncCommand} {sync : SyncOutcome}
      (hsync : w.CanSynchronize config command.ruleSetDir command.refresh sync) :
      MayCarryOut config (some (.sync command)) (w.afterSync sync)
  /-- The parameters of the download are unusable. -/
  | unequipped {command : Command} {dir : String} {e : Failure}
      (hdir : command.ruleSetDir? = some dir)
      (hsynchronizer : w.synchronizer config.download dir = .error e) :
      MayCarryOut config (some command) (w.failure e)

/-- What a command line may leave behind. -/
inductive MayRun (line : CommandLine) : Outcome → Prop
  | refused {e : Failure} (hcheck : line.check = .error e) : MayRun line (w.failure e)
  | unloaded {e : ConfigError} (hcheck : line.check = .ok ())
      (hload : Config.load w.files line.config = .error e) : MayRun line (w.failure (.config e))
  | tested {config : Config} (hcheck : line.check = .ok ())
      (hload : Config.load w.files line.config = .ok config) (htest : line.test = true) :
      MayRun line (w.success "")
  | carriedOut {config : Config} {o : Outcome} (hcheck : line.check = .ok ())
      (hload : Config.load w.files line.config = .ok config) (htest : line.test = false)
      (hcarries : w.MayCarryOut config line.command o) : MayRun line o

variable {w} {config : Config} {o : Outcome}

/-- A synchronization that the user asks for comes from one of the possible runs, unless the parameters of
the download are unusable. -/
theorem runSync_cases (config : Config) (command : SyncCommand) :
    (∃ e, w.synchronizer config.download command.ruleSetDir = .error e ∧
      w.runSync config command = w.failure e) ∨
    ∃ sync, w.CanSynchronize config command.ruleSetDir command.refresh sync ∧
      w.runSync config command = w.afterSync sync := by
  unfold runSync
  cases hsync : w.synchronize config command.ruleSetDir command.refresh with
  | error e => exact Or.inl ⟨e, synchronizer_eq_error hsync, rfl⟩
  | ok sync => exact Or.inr ⟨sync, canSynchronize hsync, rfl⟩

/-- What the program does to carry out a command is one of the possibilities. -/
theorem mayCarryOut_runCommand (command : Option Command) :
    w.MayCarryOut config command (w.runCommand config command) := by
  cases command with
  | none => exact .nothing
  | some command =>
    cases command with
    | compile command =>
      cases hlocal : command.localRuleSets with
      | false =>
        have hrun : w.runCommand config (some (.compile command)) =
            w.deliver config command none := by
          simp [runCommand, runCompile, hlocal]
        rw [hrun]
        exact .compiled hlocal
      | true =>
        rcases runCompile_cases hlocal with ⟨e, hy, hrun⟩ | ⟨sync, hsync, hrun⟩
        · rw [runCommand, hrun]
          exact .unequipped (by simp [Command.ruleSetDir?, hlocal]) hy
        · rw [runCommand, hrun]
          exact .compiledAfter hlocal hsync
    | sync command =>
      rcases runSync_cases config command with ⟨e, hy, hrun⟩ | ⟨sync, hsync, hrun⟩
      · rw [runCommand, hrun]
        exact .unequipped rfl hy
      · rw [runCommand, hrun]
        exact .synchronized hsync

/-- What the program does is one of the possible runs. -/
theorem mayRun_runLine (line : CommandLine) : w.MayRun line (w.runLine line) := by
  unfold runLine
  cases hcheck : line.check with
  | error e => exact .refused hcheck
  | ok u =>
    cases hload : Config.load w.files line.config with
    | error e => exact .unloaded hcheck hload
    | ok config =>
      cases htest : line.test with
      | true => exact .tested hcheck hload htest
      | false => exact .carriedOut hcheck hload htest (mayCarryOut_runCommand line.command)

/-! ## How a command can end -/

/-- A synchronization leaves alone what lies apart from its rule-sets. -/
theorem CanSynchronize.leaves {command : Command} {dir : String} {isForced : Bool}
    {sync : SyncOutcome} (h : w.CanSynchronize config dir isForced sync)
    (hdir : command.ruleSetDir? = some dir) :
    w.files.Leaves (command.IsApart config) sync.files := by
  obtain ⟨y, hy, hend⟩ := h
  obtain ⟨rfl, hanswers⟩ := synchronizer_spec hy
  refine (hend.leaves hanswers).mono ?_
  intro l hapart tag htag
  obtain ⟨hdisjoint, hslash⟩ := hapart y.dir hdir
  by_cases hname : '/' ∈ tag.name.toList
  · exact hslash tag htag hname
  · exact RuleSetTag.spares_of_disjoint hname hdisjoint

end Surroundings

/-- The text is a whole document of a configuration, as a command asks for it.  It refers to files of
rule-sets only if the command has them synchronized. -/
def CompileCommand.IsDocument (command : CompileCommand) (config : Config) (text : String) : Prop :=
  ∃ usable, (usable = none ∨
      command.localRuleSets = true ∧ usable = some (.ofText command.ruleSetDir)) ∧
    command.Compiles config usable text

namespace Surroundings

variable {w : Surroundings} {config : Config} {o : Outcome}

/-- The program has begun to write a text to its destination, and it has failed because there was
space for a part only.  This part is in the file now, and of the files that are spared no other has
changed. -/
structure BreaksOff (w : Surroundings) (spared : Location → Prop) (command : CompileCommand)
    (text path : String) (o : Outcome) : Prop where
  exitCode : o.exitCode = 1
  printed : o.printed = ""
  output : command.output = some path
  rest : w.room.rest path (bytesOf text) ≠ []
  read : o.files.read path = .ok (w.room.part path (bytesOf text))
  leaves : w.files.Leaves (fun l => spared l ∧ l ≠ Path.destination path) o.files

/-- Which files are spared is also a matter of what has happened before. -/
theorem BreaksOff.after {spared : Location → Prop} {command : CompileCommand} {files : Folder}
    {text path : String} (hleaves : w.files.Leaves spared files)
    (h : { w with files := files }.BreaksOff (fun _ => True) command text path o) :
    w.BreaksOff spared command text path o where
  exitCode := h.exitCode
  printed := h.printed
  output := h.output
  rest := h.rest
  read := h.read
  leaves := (hleaves.mono fun _ hl => hl.1).trans (h.leaves.mono fun _ hl => ⟨trivial, hl.2⟩)

/-- A delivery fails and changes nothing, breaks off, or delivers the document. -/
theorem EndsDelivery.cases {command : CompileCommand} {usable : Option RawPath}
    (h : w.EndsDelivery config command usable o) :
    (o.exitCode ≠ 0 ∧ o.printed = "" ∧ o.files = w.files) ∨
      ∃ text, command.Compiles config usable text ∧
        ((∃ path, w.BreaksOff (fun _ => True) command text path o) ∨ o.Delivers w command text) := by
  cases h with
  | uncompiled => exact Or.inl ⟨Nat.one_ne_zero, rfl, rfl⟩
  | @unwritten text path files e hcompiles houtput hwrite =>
    have hwrites := writes_write w.files w.room w.now path (bytesOf text)
    rw [hwrite] at hwrites
    cases hwrites with
    | unopened => exact Or.inl ⟨Nat.one_ne_zero, rfl, rfl⟩
    | brokenOff hrest hslot hfiles =>
      obtain ⟨hread, hleaves⟩ := hfiles.of_written hslot
      exact Or.inr ⟨text, hcompiles, Or.inl ⟨path, rfl, rfl, houtput, hrest, hread,
        hleaves.mono fun _ hl => hl.2⟩⟩
  | delivered hcompiles hdelivers => exact Or.inr ⟨_, hcompiles, Or.inr hdelivers⟩

/-- How a compilation ends when certain files are spared before its delivery: it fails, its writing
breaks off, or it delivers a document. -/
inductive EndsCompilation (w : Surroundings) (spared : Location → Prop) (config : Config)
    (command : CompileCommand) (o : Outcome) : Prop
  | failed (hexit : o.exitCode ≠ 0) (hprinted : o.printed = "")
      (hleaves : w.files.Leaves spared o.files)
  | brokenOff {text path : String} (hdocument : command.IsDocument config text)
      (hbreaks : w.BreaksOff spared command text path o)
  | delivered {files : Folder} {text : String} (hdocument : command.IsDocument config text)
      (hleaves : w.files.Leaves spared files)
      (hdelivers : o.Delivers { w with files := files } command text)

/-- A delivery after other changes. -/
theorem EndsDelivery.endsCompilation {spared : Location → Prop} {command : CompileCommand}
    {files : Folder} {usable : Option RawPath} (hleaves : w.files.Leaves spared files)
    (husable : usable = none ∨
      command.localRuleSets = true ∧ usable = some (.ofText command.ruleSetDir))
    (h : { w with files := files }.EndsDelivery config command usable o) :
    w.EndsCompilation spared config command o := by
  rcases h.cases with ⟨hexit, hprinted, hfiles⟩ | ⟨text, hcompiles, ⟨path, hbreaks⟩ | hdelivers⟩
  · exact .failed hexit hprinted (hfiles ▸ hleaves)
  · exact .brokenOff ⟨usable, husable, hcompiles⟩ (BreaksOff.after hleaves hbreaks)
  · exact .delivered ⟨usable, husable, hcompiles⟩ hleaves hdelivers

/-- What was requested does not matter for the end. -/
theorem EndsCompilation.withRequested {spared : Location → Prop} {command : CompileCommand}
    (h : w.EndsCompilation spared config command o) (requested : List String) :
    w.EndsCompilation spared config command { o with requested := requested } := by
  cases h with
  | failed hexit hprinted hleaves => exact .failed hexit hprinted hleaves
  | brokenOff hdocument hbreaks =>
    exact .brokenOff hdocument ⟨hbreaks.exitCode, hbreaks.printed, hbreaks.output, hbreaks.rest,
      hbreaks.read, hbreaks.leaves⟩
  | delivered hdocument hleaves hdelivers =>
    exact .delivered hdocument hleaves (hdelivers.withRequested requested)

/-- A compilation has changed no files but those of rule-sets before its delivery. -/
theorem MayCarryOut.compile_cases {command : CompileCommand}
    (h : w.MayCarryOut config (some (.compile command)) o) :
    w.EndsCompilation ((Command.compile command).IsApart config) config command o := by
  cases h with
  | compiled =>
    exact (w.endsDelivery config command none).endsCompilation (Leaves.refl _ _) (Or.inl rfl)
  | @compiledAfter _ sync hlocal hsync =>
    have hdir : (Command.compile command).ruleSetDir? = some command.ruleSetDir := if_pos hlocal
    have hleaves := hsync.leaves hdir
    cases hresult : sync.result with
    | error e =>
      rw [deliverAfter_error hresult]
      exact .failed Nat.one_ne_zero rfl hleaves
    | ok report =>
      rw [deliverAfter_report hresult]
      have hends := endsDelivery { w with files := sync.files } config command
        (if report.failures = [] then some (.ofText command.ruleSetDir) else none)
      refine (hends.endsCompilation hleaves ?_).withRequested sync.requested
      by_cases hcomplete : report.failures = []
      · exact Or.inr ⟨hlocal, if_pos hcomplete⟩
      · exact Or.inl (if_neg hcomplete)
  | unequipped => exact .failed Nat.one_ne_zero rfl (Leaves.refl _ _)

/-- A synchronization prints nothing, and it changes no files but those of rule-sets. -/
theorem MayCarryOut.sync_cases {command : SyncCommand}
    (h : w.MayCarryOut config (some (.sync command)) o) :
    o.printed = "" ∧ w.files.Leaves ((Command.sync command).IsApart config) o.files := by
  cases h with
  | @synchronized _ sync hsync =>
    have hdir : (Command.sync command).ruleSetDir? = some command.ruleSetDir := rfl
    have hleaves := hsync.leaves hdir
    unfold afterSync
    cases sync.result.bind SyncReport.result with
    | error e => exact ⟨rfl, hleaves⟩
    | ok report => exact ⟨rfl, hleaves⟩
  | unequipped => exact ⟨rfl, Leaves.refl _ _⟩

/-! ## The whole output or nothing -/

/-- The location lies apart from the rule-sets that a command line synchronizes. -/
def IsApart (w : Surroundings) (line : CommandLine) (l : Location) : Prop :=
  ∀ command config, line.command = some command → Config.load w.files line.config = .ok config →
    command.IsApart config l

/-- A compilation has given out a text, and no other file has changed but those of rule-sets. -/
structure GivesOut (w : Surroundings) (line : CommandLine) (command : CompileCommand) (text : String)
    (o : Outcome) : Prop where
  /-- Without a file for it the text is printed. -/
  printed : command.output = none →
    o.printed = text ++ "\n" ∧ w.files.Leaves (w.IsApart line) o.files
  written : ∀ path, command.output = some path →
    o.printed = "" ∧ o.files.read path = .ok (bytesOf text) ∧
      w.files.Leaves (fun l => w.IsApart line l ∧ l ≠ Path.destination path) o.files

/-- What comes out is whole, or nothing comes out. -/
structure IsAllOrNothing (w : Surroundings) (line : CommandLine) (o : Outcome) : Prop where
  /-- A run that fails has printed nothing, -/
  printed_of_failure : o.exitCode ≠ 0 → o.printed = ""
  /-- and it has changed no files but those of rule-sets, unless there was space for a part of the
  document only. -/
  files_of_failure : o.exitCode ≠ 0 → w.files.Leaves (w.IsApart line) o.files ∨
    ∃ command config text path, line.command = some (.compile command) ∧ line.test = false ∧
      Config.load w.files line.config = .ok config ∧ command.IsDocument config text ∧
      w.BreaksOff (w.IsApart line) command text path o
  /-- A compilation that does not fail gives out one document of the configuration. -/
  document_of_success : ∀ command, line.command = some (.compile command) → line.test = false →
    o.exitCode = 0 → ∃ config text, Config.load w.files line.config = .ok config ∧
      command.IsDocument config text ∧ w.GivesOut line command text o
  /-- A test prints nothing and changes nothing. -/
  of_test : line.test = true → o.printed = "" ∧ o.files = w.files

/-- What a compilation delivers is all that it gives out. -/
theorem givesOut_of_delivers {line : CommandLine} {command : CompileCommand} {files : Folder}
    {text : String} (hleaves : w.files.Leaves (w.IsApart line) files)
    (hdelivers : o.Delivers { w with files := files } command text) :
    w.GivesOut line command text o := by
  refine ⟨?_, ?_⟩
  · intro houtput
    obtain ⟨hprinted, rfl⟩ := hdelivers.printed houtput
    exact ⟨hprinted, hleaves⟩
  · intro path houtput
    obtain ⟨hprinted, hwrite⟩ := hdelivers.written path houtput
    obtain ⟨hread, hwritten⟩ := write_spec hwrite
    refine ⟨hprinted, hread, ?_⟩
    exact (hleaves.mono fun _ hl => hl.1).trans (hwritten.mono fun _ hl => hl.2)

/-- A failure before anything was done. -/
theorem isAllOrNothing_failure (w : Surroundings) (line : CommandLine) (e : Failure) :
    w.IsAllOrNothing line (w.failure e) where
  printed_of_failure _ := rfl
  files_of_failure _ := Or.inl (Leaves.refl _ _)
  document_of_success _ _ _ hexit := absurd hexit Nat.one_ne_zero
  of_test _ := ⟨rfl, rfl⟩

/-- What a command may leave behind. -/
theorem MayCarryOut.isAllOrNothing {line : CommandLine} (h : w.MayCarryOut config line.command o)
    (hload : Config.load w.files line.config = .ok config) (htest : line.test = false) :
    w.IsAllOrNothing line o := by
  have hloaded : ∀ {command : Command}, line.command = some command →
      ∀ l, w.IsApart line l → command.IsApart config l :=
    fun hcommand _ hapart => hapart _ config hcommand hload
  have hnotest : line.test = true → o.printed = "" ∧ o.files = w.files := by
    simp [htest]
  cases hcommand : line.command with
  | none =>
    rw [hcommand] at h
    cases h
    exact ⟨fun _ => rfl, fun _ => Or.inl (Leaves.refl _ _), by simp [hcommand], hnotest⟩
  | some command =>
    rw [hcommand] at h
    cases command with
    | compile command =>
      have hspared := hloaded hcommand
      cases h.compile_cases with
      | failed hexit hprinted hleaves =>
        exact ⟨fun _ => hprinted, fun _ => Or.inl (hleaves.mono hspared),
          fun _ _ _ hzero => absurd hzero hexit, hnotest⟩
      | @brokenOff text path hdocument hbreaks =>
        refine ⟨fun _ => hbreaks.printed, fun _ => Or.inr ?_, ?_, hnotest⟩
        · refine ⟨command, config, text, path, hcommand, htest, hload, hdocument, ?_⟩
          exact { hbreaks with leaves := hbreaks.leaves.mono fun l hl => ⟨hspared l hl.1, hl.2⟩ }
        · intro _ _ _ hzero
          rw [hbreaks.exitCode] at hzero
          cases hzero
      | @delivered files text hdocument hleaves hdelivers =>
        refine ⟨?_, ?_, ?_, hnotest⟩
        · exact fun hexit => absurd hdelivers.exitCode hexit
        · exact fun hexit => absurd hdelivers.exitCode hexit
        · intro command' hcommand' _ _
          rw [hcommand, Option.some.injEq, Command.compile.injEq] at hcommand'
          subst hcommand'
          exact ⟨config, text, hload, hdocument,
            givesOut_of_delivers (hleaves.mono hspared) hdelivers⟩
    | sync command =>
      obtain ⟨hprinted, hleaves⟩ := h.sync_cases
      exact ⟨fun _ => hprinted, fun _ => Or.inl (hleaves.mono (hloaded hcommand)),
        by simp [hcommand], hnotest⟩

end Surroundings

/-- A command line that can be read is carried out in one of the possible runs, and in all of them what
comes out is whole, or nothing comes out. -/
theorem output_all_or_nothing {w : Surroundings} {words : List String} {line : CommandLine}
    (hread : CommandLine.read words = .ok line) :
    w.MayRun line (w.run words) ∧ ∀ o, w.MayRun line o → w.IsAllOrNothing line o := by
  refine ⟨?_, ?_⟩
  · have hrun : w.run words = w.runLine line := by
      simp [Surroundings.run, hread]
    rw [hrun]
    exact Surroundings.mayRun_runLine line
  · intro o h
    cases h with
    | refused | unloaded => exact w.isAllOrNothing_failure line _
    | tested hcheck hload htest =>
      refine ⟨fun _ => rfl, fun _ => Or.inl (Leaves.refl _ _), ?_, fun _ => ⟨rfl, rfl⟩⟩
      intro _ _ hnotest
      rw [htest] at hnotest
      cases hnotest
    | carriedOut hcheck hload htest hcarries => exact hcarries.isAllOrNothing hload htest

/-- A tree with an empty configuration and a file that is the destination of a document. -/
def sampleTree : Surroundings where
  files := [("config.yaml", .file [] 0), ("out", .file [120] 0)]
  now := 1

/-- A command line that asks for a document after a synchronization. -/
def sampleLine : CommandLine where
  command := some (.compile { output := some "out", localRuleSets := true })

/-- The configuration in an empty file is the default one. -/
theorem eq_default_of_load {config : Config}
    (h : Config.load sampleTree.files sampleLine.config = .ok config) : config = {} := by
  have hread : Config.load sampleTree.files sampleLine.config = Config.ofText "" := rfl
  have hempty : (Config.ofYaml "").toOption = some {} := by decide +kernel
  rw [hread, Config.ofText] at h
  generalize Config.ofYaml "" = parsed at h hempty
  cases parsed with
  | error e => cases h
  | ok parsed =>
    cases hempty
    exact (validated_eq_ok_iff.1 h).2

/-- Without nodes there is no document: the run of the sample fails, and the file stays as it was. -/
theorem output_all_or_nothing_sample :
    CommandLine.read ["compile", "--local-rule-sets", "-o", "out"] = .ok sampleLine ∧
      Path.destination "out" = ["out"] ∧ sampleTree.IsApart sampleLine ["out"] ∧
      ∃ o, sampleTree.MayRun sampleLine o ∧ o.exitCode = 1 ∧ o.printed = "" ∧
        o.files.fileAt? ["out"] = some ([120], 0) := by
  have hread : CommandLine.read ["compile", "--local-rule-sets", "-o", "out"] = .ok sampleLine := rfl
  obtain ⟨hruns, hall⟩ := output_all_or_nothing (w := sampleTree) hread
  have hwhole := hall _ hruns
  have hexit : (sampleTree.run ["compile", "--local-rule-sets", "-o", "out"]).exitCode = 1 := by
    have hrun : sampleTree.run ["compile", "--local-rule-sets", "-o", "out"] =
        sampleTree.runLine sampleLine := rfl
    have hcheck : sampleLine.check = .ok () := rfl
    rw [hrun, Surroundings.runLine, hcheck]
    cases hload : Config.load sampleTree.files sampleLine.config with
    | error e => rfl
    | ok config =>
      rw [eq_default_of_load hload]
      rfl
  have hapart : sampleTree.IsApart sampleLine ["out"] := by
    intro command config hcommand hload dir hdir
    cases hcommand
    cases hdir
    rw [eq_default_of_load hload]
    have hnone : Routing.neededRuleSets ({} : Config).model.rules ({} : Config).model.ruleGroups = [] :=
      rfl
    rw [hnone]
    exact ⟨⟨by decide, by decide⟩, by simp⟩
  have hne : (sampleTree.run ["compile", "--local-rule-sets", "-o", "out"]).exitCode ≠ 0 := by
    rw [hexit]
    decide
  refine ⟨hread, rfl, hapart, _, hruns, hexit, hwhole.printed_of_failure hne, ?_⟩
  rcases hwhole.files_of_failure hne with hleaves | ⟨_, _, _, _, _, _, _, _, hbreaks⟩
  · rw [hleaves.files ["out"] hapart]
    rfl
  · exact absurd rfl hbreaks.rest

/-! ## Exceptions -/

/-- A configuration without nodes, with a rule-set whose name leads out of the folder. -/
def strayRuleSet : Config where
  model :=
    { settings := { ruleSetBaseUrl := "http://[::1]/s" }
      ruleGroups := [⟨"Stray", true, Outbound.reject, ["a/../../x"], []⟩] }

/-- A tree in which the name of the rule-set can be followed to an old file, on a machine where every
rule-set is found. -/
def strayTree : Surroundings where
  files := [("rulesets", .folder [("geosite-a", .folder [])]), ("x.srs", .file [120] 0)]
  now := Artifact.longestAge + 1
  network := sampleSurroundings.network

/-- A command to write a document beside the folder of the rule-sets. -/
def strayCommand : CompileCommand where
  output := some "x.srs"
  ruleSetDir := "rulesets"
  localRuleSets := true

/-- A device that is full. -/
def fullDevice : Surroundings where
  files := [("out", .file [120] 0)]
  now := 1
  room := fun _ => some 0

/-- A command to write a document over another. -/
def overwritingCommand : CompileCommand where
  output := some "out"

/-- The text of a document is not empty. -/
theorem SingBox.Document.bytesOf_text_ne_nil (d : SingBox.Document) : bytesOf d.text ≠ [] := by
  have hopened : ∃ rest, d.text = "\x7b" ++ rest := by
    simp only [SingBox.Document.text, Json.pretty, SingBox.Document.toJson, Json.prettyAt,
      String.append_assoc]
    exact ⟨_, rfl⟩
  obtain ⟨rest, hrest⟩ := hopened
  have htext : d.text ≠ "" := by
    simp [hrest]
  exact fun hnil => htext (Text.utf8Bytes_inj.1 hnil)

/-- On the full device a file is emptied before there is no space for its content. -/
theorem write_fullDevice {content : Content} (h : content ≠ []) :
    fullDevice.files.write fullDevice.room 1 "out" content =
      ([("out", .file [] 1)], .error .noSpace) := by
  have hopened : fullDevice.files.create 1 "out" = .ok [("out", .file [] 1)] := rfl
  have hrest : fullDevice.room.rest "out" content = content := rfl
  simp only [write, hopened, hrest, if_neg h]
  rfl

theorem runCompile_fullDevice :
    fullDevice.runCompile sampleRuleSets overwritingCommand =
      { fullDevice with files := [("out", .file [] 1)] }.failure (.files .noSpace) := by
  have hnodes : sampleRuleSets.model.encodable ≠ [] := by decide
  have hcompiles : overwritingCommand.Compiles sampleRuleSets none
      ((Plan.ofModel sampleRuleSets.model ⟨false, none⟩).render .singBox) :=
    ⟨.singBox, rfl, compile_eq_ok_iff_render.2 ⟨hnodes, rfl⟩⟩
  exact (fullDevice.endsDelivery sampleRuleSets overwritingCommand none).fails hcompiles rfl
    (write_fullDevice (SingBox.Document.bytesOf_text_ne_nil _))

/-- A command line that asks for a test and for the version prints the version.  A compilation can
fail after a rule-set has taken the place of the document, which lies apart from the folder of the
rule-sets.  And it can fail when it has emptied the file of the document. -/
theorem output_without_success :
    (Surroundings.run { files := [], now := 0 } ["--test", "--version"]).printed = "boxsmith 0.1.0\n" ∧
      (strayRuleSet.validated = .ok strayRuleSet ∧ strayCommand.output = some "x.srs" ∧
        Disjoint (Path.destination "x.srs") (Path.destination strayCommand.ruleSetDir) ∧
        (strayTree.runCompile strayRuleSet strayCommand).exitCode = 1 ∧
        strayTree.files.fileAt? (Path.destination "x.srs") = some ([120], 0) ∧
        (strayTree.runCompile strayRuleSet strayCommand).files.fileAt? (Path.destination "x.srs") =
          some ([7], Artifact.longestAge + 1)) ∧
      sampleRuleSets.validated = .ok sampleRuleSets ∧ overwritingCommand.output = some "out" ∧
        (fullDevice.runCompile sampleRuleSets overwritingCommand).exitCode = 1 ∧
        fullDevice.files.fileAt? (Path.destination "out") = some ([120], 0) ∧
        (fullDevice.runCompile sampleRuleSets overwritingCommand).files.fileAt?
          (Path.destination "out") = some ([], 1) := by
  refine ⟨rfl, ⟨?_, rfl, ⟨by decide, by decide⟩, ?_, rfl, ?_⟩, ?_, rfl, ?_, rfl, ?_⟩
  · exact validated_eq_ok_iff.2 ⟨by decide +kernel, rfl⟩
  · decide +kernel
  · decide +kernel
  · exact validated_eq_ok_iff.2 ⟨by decide +kernel, rfl⟩
  · rw [runCompile_fullDevice]
    rfl
  · rw [runCompile_fullDevice]
    rfl

end ProxyConfig
