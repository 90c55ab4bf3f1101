import ProxyConfig.Proofs.CommandLine.Delivery
import ProxyConfig.Proofs.Outbound.Uniqueness
import ProxyConfig.Proofs.Routing.Declarations

/-!
# Documents that refer to local rule-sets

The program synchronizes the rule-sets of a configuration and then compiles a document that may
refer to their files.  The document declares the very rule-sets that were synchronized, since both
lists come from the same routing records; it names the files by the same paths; and it refers to
files only after a report without failures, when all of them are fresh.  All of this holds for any
names of rule-sets and for any order of the steps of the downloads.

The words of a command line are texts here, and so is the folder of the rule-sets.  A folder whose
path is no text is left out: its path is replaced by another one when it is written into a document,
as `RawPath.ofText_lossy_iff` says, and what is found there is another matter.

Main results:

- `SingBox.refersWell_of_report`: what stands in a document that is made after a report.
- `local_rule_sets_exist`: the files to which a document of the program refers exist.
-/

namespace ProxyConfig

open Files

/-! ## References to files -/

/-- The declarations of a document are for rule-sets that exist after a synchronization. -/
structure SingBox.RefersWell (w : Surroundings) (config : Config) (command : CompileCommand)
    (sync : SyncOutcome) (declared : List Json) : Prop where
  /-- The document declares the rule-sets that were synchronized, -/
  tags : declared.map (Json.at? ["tag"]) =
    (config.syncRequest false).tags.map fun tag => some (.string tag.label)
  /-- either all of them as files or none. -/
  uniform : (∀ e ∈ declared, e.at? ["type"] = some (.string "local")) ∨
    ∀ e ∈ declared, e.at? ["type"] = some (.string "remote")
  /-- It refers to files only if nothing has failed and it is not for a mobile device, -/
  complete : ∀ e ∈ declared, e.at? ["type"] = some (.string "local") →
    ∃ report, sync.result = .ok report ∧ report.failures = [] ∧ command.mobile = false ∧
      config.model.settings.mobileMode = false
  /-- and then its path is that of a regular file, neither empty nor stale. -/
  files : ∀ e ∈ declared, e.at? ["type"] = some (.string "local") →
    ∃ tag ∈ (config.syncRequest false).tags, e.at? ["tag"] = some (.string tag.label) ∧
      ∃ path content modified, e.at? ["path"] = some (.string path) ∧
        sync.files.stat path = .ok (.file content modified) ∧ content ≠ [] ∧
        w.now - modified ≤ Artifact.longestAge

namespace SingBox

variable (dir : String) (source : RuleSetSource) (tag : RuleSetTag)

/-- What can be read off the declaration of a file. -/
theorem at?_localDeclaration :
    (localDeclaration (.ofText dir) tag).at? ["tag"] = some (.string tag.label) ∧
      (localDeclaration (.ofText dir) tag).at? ["type"] = some (.string "local") ∧
      (localDeclaration (.ofText dir) tag).at? ["path"] = some (.string (tag.localPath dir)) := by
  rw [localDeclaration_ofText]
  simp [Json.at?, Json.find?, RuleSetTag.localPath, RuleSetTag.fileName]

/-- What can be read off the declaration of a source. -/
theorem at?_remoteDeclaration :
    (remoteDeclaration source tag).at? ["tag"] = some (.string tag.label) ∧
      (remoteDeclaration source tag).at? ["type"] = some (.string "remote") := by
  simp [remoteDeclaration, Json.at?, Json.find?]

variable {dir source tag} {w : Surroundings} {config : Config} {command : CompileCommand}
  {sync : SyncOutcome}

/-- Declarations of sources refer to no files. -/
theorem refersWell_remote :
    RefersWell w config command sync
      ((config.syncRequest false).tags.map (remoteDeclaration source)) := by
  have hremote : ∀ e ∈ (config.syncRequest false).tags.map (remoteDeclaration source),
      e.at? ["type"] = some (.string "remote") := by
    intro e he
    obtain ⟨tag, _, rfl⟩ := List.mem_map.1 he
    exact (at?_remoteDeclaration source tag).2
  refine ⟨?_, Or.inr hremote, ?_, ?_⟩
  · rw [List.map_map]
    exact List.map_congr_left fun tag _ => (at?_remoteDeclaration source tag).1
  all_goals
    intro e he hlocal
    rw [hremote e he] at hlocal
    simp at hlocal

/-- Declarations of files refer to fresh ones after a report without failures. -/
theorem refersWell_local {report : SyncReport}
    (hsync : w.CanSynchronize config command.ruleSetDir false sync)
    (hreport : sync.result = .ok report) (hcomplete : report.failures = [])
    (hmobile : command.mobile = false) (hsetting : config.model.settings.mobileMode = false) :
    RefersWell w config command sync
      ((config.syncRequest false).tags.map (localDeclaration (.ofText command.ruleSetDir))) := by
  have hfresh : ∀ tag ∈ (config.syncRequest false).tags,
      Artifact.isFresh sync.files w.now (tag.localPath command.ruleSetDir) = true := by
    obtain ⟨y, hy, hend⟩ := hsync
    obtain ⟨hdir, hanswers⟩ := Surroundings.synchronizer_spec hy
    rw [← hdir]
    exact hend.fresh rfl (config.nodup_syncRequest false) hanswers hreport hcomplete
  refine ⟨?_, Or.inl ?_, fun _ _ _ => ⟨report, hreport, hcomplete, hmobile, hsetting⟩, ?_⟩
  · rw [List.map_map]
    exact List.map_congr_left fun tag _ => (at?_localDeclaration command.ruleSetDir tag).1
  · intro e he
    obtain ⟨tag, _, rfl⟩ := List.mem_map.1 he
    exact (at?_localDeclaration command.ruleSetDir tag).2.1
  · intro e he _
    obtain ⟨tag, htag, rfl⟩ := List.mem_map.1 he
    obtain ⟨content, modified, hfile⟩ := Artifact.exists_file_of_isFresh (hfresh tag htag)
    obtain ⟨hlabel, _, hpath⟩ := at?_localDeclaration command.ruleSetDir tag
    exact ⟨tag, htag, hlabel, _, content, modified, hpath, hfile⟩

/-- What a document declares that is made after a report. -/
theorem refersWell_of_report {report : SyncReport} {usable : Option RawPath}
    (hsync : w.CanSynchronize config command.ruleSetDir false sync)
    (hreport : sync.result = .ok report)
    (husable : usable = if report.failures = [] then some (.ofText command.ruleSetDir) else none) :
    RefersWell w config command sync
      ((Document.assemble (Plan.ofModel config.model ⟨command.mobile, usable⟩)).ruleSets.map
        RuleSetEntry.toJson) := by
  rcases toJson_ruleSets_cases config.model ⟨command.mobile, usable⟩ with
    ⟨dir, hlocal, hmobile, hsetting, hdeclared⟩ | ⟨_, hdeclared⟩
  · replace hlocal : usable = some dir := hlocal
    have hcomplete : report.failures = [] := by
      by_contra hfailures
      simp [husable, hfailures] at hlocal
    obtain rfl : .ofText command.ruleSetDir = dir := by
      simpa [husable, hcomplete] using hlocal
    rw [hdeclared]
    exact refersWell_local hsync hreport hcomplete hmobile hsetting
  · rw [hdeclared]
    exact refersWell_remote

end SingBox

/-! ## Documents of the program -/

/-- When the program compiles a sing-box document after a synchronization, the document refers to
rule-sets that exist.  The program goes on from one of the possible synchronizations, if the
parameters of the download are usable.  However a synchronization ends, there is either no
compilation, or one with certain options; and what stands in the document of these options is all in
order.

The path of the folder is a text.  For one that is none, the text in the document would be that of
another path. -/
theorem local_rule_sets_exist {w : Surroundings} {config : Config} {command : CompileCommand}
    (hlocal : command.localRuleSets = true)
    (hformat : Format.parse command.format = .ok .singBox) :
    ((∃ e, w.synchronizer config.download command.ruleSetDir = .error e ∧
        w.runCompile config command = w.failure e) ∨
      ∃ sync, w.CanSynchronize config command.ruleSetDir false sync ∧
        w.runCompile config command = w.deliverAfter config command sync) ∧
    ∀ sync, w.CanSynchronize config command.ruleSetDir false sync →
      (∃ e, sync.result = .error e ∧ w.deliverAfter config command sync =
        { { w with files := sync.files }.failure (.sync e) with requested := sync.requested }) ∨
      ∃ report usable, sync.result = .ok report ∧
        usable = (if report.failures = [] then some (.ofText command.ruleSetDir) else none) ∧
        w.deliverAfter config command sync =
          { { w with files := sync.files }.deliver config command usable with
            requested := sync.requested } ∧
        ∀ text, compile .singBox config.model ⟨command.mobile, usable⟩ = .ok text →
          ((w.deliverAfter config command sync).exitCode = 0 →
            (w.deliverAfter config command sync).Delivers { w with files := sync.files } command
              text) ∧
          ∃ plan declared, Plan.prepare config.model ⟨command.mobile, usable⟩ = .ok plan ∧
            text = Json.pretty (SingBox.Document.assemble plan).toJson ∧
            (SingBox.Document.assemble plan).toJson.at? ["route", "rule_set"] =
              some (.array declared) ∧
            SingBox.RefersWell w config command sync declared := by
  refine ⟨Surroundings.runCompile_cases hlocal, ?_⟩
  intro sync hsync
  cases hresult : sync.result with
  | error e => exact Or.inl ⟨e, rfl, Surroundings.deliverAfter_error hresult⟩
  | ok report =>
    obtain ⟨usable, husable⟩ : ∃ usable, usable =
        if report.failures = [] then some (RawPath.ofText command.ruleSetDir) else none := ⟨_, rfl⟩
    have hdeliver : w.deliverAfter config command sync = _ :=
      Surroundings.deliverAfter_report hresult
    rw [← husable] at hdeliver
    refine Or.inr ⟨report, usable, rfl, husable, hdeliver, ?_⟩
    intro text hcompile
    refine ⟨?_, ?_⟩
    · intro hexit
      rw [hdeliver] at hexit ⊢
      dsimp only at hexit
      have hends := Surroundings.endsDelivery { w with files := sync.files } config command usable
      exact (hends.delivers ⟨.singBox, hformat, hcompile⟩ hexit).withRequested sync.requested
    · obtain ⟨plan, hplan, rfl⟩ := compile_eq_ok_iff.1 hcompile
      refine ⟨plan, _, hplan, rfl, SingBox.Document.at?_ruleSets_toJson _, ?_⟩
      rw [(prepare_eq_ok_iff.1 hplan).2]
      exact SingBox.refersWell_of_report hsync hresult husable

/-- A network in which every rule-set is found. -/
def sampleSurroundings : Surroundings where
  files := []
  now := 0
  network := fun _ => some ⟨200, none, some [7]⟩

/-- A configuration with a rule-set of either kind. -/
def sampleRuleSets : Config where
  model :=
    { settings := { ruleSetBaseUrl := "http://[::1]/s" }
      nodes := sampleRecords.map NodeRecord.toNode
      ruleGroups := [⟨"Ads", true, Outbound.reject, ["ads"], ["private"]⟩] }

/-- The synchronizer of the sample. -/
def sampleLocal : Synchronizer where
  dir := "d"
  fetch := Session.fetcher ⟨none, none, none, 20 * 1024 * 1024⟩ sampleSurroundings.network

/-- A command to compile a document after a synchronization. -/
def localCommand (dir : String) : CompileCommand where
  ruleSetDir := dir
  localRuleSets := true

theorem canSynchronize_local :
    ∃ sync report, sampleSurroundings.CanSynchronize sampleRuleSets "d" false sync ∧
      sync.result = .ok report ∧ report.failures = [] := by
  refine ⟨sampleLocal.run (sampleRuleSets.syncRequest false) 0 [], ?_⟩
  have hcomplete : (sampleLocal.run (sampleRuleSets.syncRequest false) 0 []).result.toOption.map
      SyncReport.failures = some [] := by
    decide +kernel
  cases hresult : (sampleLocal.run (sampleRuleSets.syncRequest false) 0 []).result with
  | error e => simp [hresult, Except.toOption] at hcomplete
  | ok report =>
    have hfailures : report.failures = [] := by
      simpa [hresult, Except.toOption] using hcomplete
    exact ⟨report, ⟨sampleLocal, rfl, sampleLocal.canEnd_run _ _ _⟩, rfl, hfailures⟩

/-- The document of the sample refers to the files of both rule-sets, which exist. -/
theorem local_rule_sets_exist_sample :
    (localCommand "d").localRuleSets = true ∧
      Format.parse (localCommand "d").format = .ok .singBox ∧
      ∃ sync text plan declared, sampleSurroundings.CanSynchronize sampleRuleSets "d" false sync ∧
        compile .singBox sampleRuleSets.model ⟨false, some (.ofText "d")⟩ = .ok text ∧
        (sampleSurroundings.deliverAfter sampleRuleSets (localCommand "d") sync).Delivers
          { sampleSurroundings with files := sync.files } (localCommand "d") text ∧
        text = Json.pretty (SingBox.Document.assemble plan).toJson ∧
        (SingBox.Document.assemble plan).toJson.at? ["route", "rule_set"] =
          some (.array declared) ∧
        SingBox.RefersWell sampleSurroundings sampleRuleSets (localCommand "d") sync declared := by
  obtain ⟨sync, report, hsync, hreport, hcomplete⟩ := canSynchronize_local
  obtain ⟨text, hcompile⟩ : ∃ text,
      compile .singBox sampleRuleSets.model ⟨false, some (.ofText "d")⟩ = .ok text :=
    ⟨_, compile_eq_ok_iff_render.2 ⟨by decide, rfl⟩⟩
  obtain ⟨_, hends⟩ :=
    @local_rule_sets_exist sampleSurroundings sampleRuleSets (localCommand "d") rfl rfl
  rcases hends sync hsync with ⟨e, herror, _⟩ | ⟨_, usable, hresult, husable, hdeliver, hmade⟩
  · rw [hreport] at herror
    cases herror
  · rw [hreport] at hresult
    cases hresult
    rw [if_pos hcomplete] at husable
    subst husable
    obtain ⟨hdelivers, plan, declared, _, htext, hdeclared, hrefers⟩ := hmade text hcompile
    have haccepts : Surroundings.Accepts { sampleSurroundings with files := sync.files }
        (localCommand "d") text := by
      simp [Surroundings.Accepts, localCommand]
    have hdelivered := (Surroundings.endsDelivery { sampleSurroundings with files := sync.files }
      sampleRuleSets (localCommand "d")
      (some (.ofText (localCommand "d").ruleSetDir))).delivers_of_accepts
        ⟨.singBox, rfl, hcompile⟩ haccepts
    have hexit : (sampleSurroundings.deliverAfter sampleRuleSets (localCommand "d") sync).exitCode =
        0 := by
      rw [hdeliver]
      dsimp only
      exact hdelivered.exitCode
    exact ⟨rfl, rfl, sync, text, plan, declared, hsync, hcompile, hdelivers hexit, htext, hdeclared,
      hrefers⟩

end ProxyConfig
