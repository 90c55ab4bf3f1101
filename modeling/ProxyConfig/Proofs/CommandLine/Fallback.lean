import ProxyConfig.Proofs.CommandLine.LocalRuleSets

/-!
# Compilation after a synchronization that failed

A document can refer to the sources of its rule-sets instead of their files, so rule-sets that cannot be
downloaded are no obstacle to a compilation: the program reports them and compiles all the same.  Only a
folder that cannot be made ends the program without a document.  That contradicts what the program is
meant to do, which is to fall back to the sources whenever a synchronization fails.

Main results:

- `compile_falls_back`: what comes out for any end of the synchronization.
- `blocked_folder_ends_compilation`: a file in the place of the folder is enough to get no document.
-/

namespace ProxyConfig

open Files Files.Folder

namespace Surroundings

variable {w : Surroundings} {config : Config} {command : CompileCommand} {format : Format}
  {sync : SyncOutcome}

/-- What comes out of a compilation after a synchronization. -/
structure FallsBack (w : Surroundings) (config : Config) (command : CompileCommand) (format : Format)
    (sync : SyncOutcome) (o : Outcome) : Prop where
  /-- The synchronization ends with a report if its folder is not needed or can be made. -/
  reports : ((config.syncRequest false).tags = [] ∨
      ∃ made, w.files.createFolders command.ruleSetDir = (made, .ok ())) →
    ∃ report, sync.result = .ok report
  /-- After a report the document is delivered.  It may refer to files if nothing has failed, and it
  refers to the sources otherwise. -/
  delivers : ∀ report, sync.result = .ok report →
    ∃ text, compile format config.model ⟨command.mobile,
        if report.failures = [] then some (.ofText command.ruleSetDir) else none⟩ = .ok text ∧
      o.Delivers { w with files := sync.files } command text
  /-- If the folder cannot be made the program fails, and nothing has happened but that some of the
  folders above it may be there. -/
  blocked : ∀ e, sync.result = .error e →
    ∃ made error, (config.syncRequest false).tags ≠ [] ∧
      w.files.createFolders command.ruleSetDir = (made, .error error) ∧
      FoldersWithin w.files made ∧ SameFiles w.files made ∧
      o = { w with files := made }.failure (.sync (.folder error))

/-- A document of some encodable node in a known format is delivered if its destination takes it. -/
theorem delivers_deliver (hnodes : config.model.encodable ≠ [])
    (hformat : Format.parse command.format = .ok format) (usable : Option RawPath)
    (haccepts : ∀ text, compile format config.model ⟨command.mobile, usable⟩ = .ok text →
      w.Accepts command text) :
    ∃ text, compile format config.model ⟨command.mobile, usable⟩ = .ok text ∧
      (w.deliver config command usable).Delivers w command text := by
  obtain ⟨text, hcompile⟩ :
      ∃ text, compile format config.model ⟨command.mobile, usable⟩ = .ok text :=
    ⟨_, compile_eq_ok_iff_render.2 ⟨hnodes, rfl⟩⟩
  exact ⟨text, hcompile, (w.endsDelivery config command usable).delivers_of_accepts
    ⟨format, hformat, hcompile⟩ (haccepts text hcompile)⟩

end Surroundings

/-- What a compilation after a synchronization comes to, however the synchronization ends. -/
theorem compile_falls_back {w : Surroundings} {config : Config} {command : CompileCommand}
    {format : Format} {sync : SyncOutcome} (hnodes : config.model.encodable ≠ [])
    (hformat : Format.parse command.format = .ok format)
    (hsync : w.CanSynchronize config command.ruleSetDir false sync)
    (haccepts : ∀ usable text, compile format config.model ⟨command.mobile, usable⟩ = .ok text →
      Surroundings.Accepts { w with files := sync.files } command text) :
    w.FallsBack config command format sync (w.deliverAfter config command sync) := by
  rcases hsync.cases with ⟨report, hreport⟩ | ⟨made, error, htags, hcreate, rfl⟩
  · refine ⟨fun _ => ⟨report, hreport⟩, ?_, by simp [hreport]⟩
    intro other hother
    rw [hreport] at hother
    cases hother
    obtain ⟨text, hcompile, hdelivers⟩ := Surroundings.delivers_deliver hnodes hformat
      (if report.failures = [] then some (.ofText command.ruleSetDir) else none) (haccepts _)
    rw [Surroundings.deliverAfter_report hreport]
    exact ⟨text, hcompile, hdelivers.withRequested sync.requested⟩
  · refine ⟨?_, by simp, ?_⟩
    · simp [htags, hcreate]
    · intro e _
      have hmade := createFolders_spec hcreate
      refine ⟨made, error, htags, hcreate, hmade.foldersWithin, hmade.sameFiles, ?_⟩
      exact Surroundings.deliverAfter_error rfl

/-- The synchronizer of the sample on a machine without a network. -/
def sampleOffline : Synchronizer where
  dir := "d"
  fetch := Session.fetcher ⟨none, none, none, 20 * 1024 * 1024⟩ .none

/-- The report of a synchronization without a network. -/
def offlineReport : SyncReport where
  checked := 2
  missing := [⟨.geoip, "private"⟩, ⟨.geosite, "ads"⟩]
  failures :=
    [(⟨.geoip, "private"⟩, "HTTP request error: error sending request for url " ++
        "(http://[::1]/s/../rule-set-geoip/geoip-private.srs)"),
     (⟨.geosite, "ads"⟩,
        "HTTP request error: error sending request for url (http://[::1]/s/geosite-ads.srs)")]

theorem canSynchronize_offline :
    ∃ sync, Surroundings.CanSynchronize { files := [], now := 0 } sampleRuleSets "d" false sync ∧
      sync.result = .ok offlineReport :=
  ⟨sampleOffline.run (sampleRuleSets.syncRequest false) 0 [],
    ⟨sampleOffline, rfl, sampleOffline.canEnd_run _ _ _⟩, by decide +kernel⟩

/-- Without a network the document of the sample refers to the sources. -/
theorem compile_falls_back_sample :
    ∃ sync text, sampleRuleSets.model.encodable ≠ [] ∧
      Surroundings.CanSynchronize { files := [], now := 0 } sampleRuleSets "d" false sync ∧
      sync.result = .ok offlineReport ∧
      compile .singBox sampleRuleSets.model ⟨false, none⟩ = .ok text ∧
      (Surroundings.deliverAfter { files := [], now := 0 } sampleRuleSets (localCommand "d")
        sync).Delivers { files := sync.files, now := 0 } (localCommand "d") text := by
  obtain ⟨sync, hsync, hreport⟩ := canSynchronize_offline
  have hnodes : sampleRuleSets.model.encodable ≠ [] := by decide
  have hformat : Format.parse (localCommand "d").format = .ok .singBox := rfl
  have hfalls : Surroundings.FallsBack { files := [], now := 0 } sampleRuleSets (localCommand "d")
      .singBox sync
      (Surroundings.deliverAfter { files := [], now := 0 } sampleRuleSets (localCommand "d") sync) :=
    compile_falls_back hnodes hformat hsync (by simp [Surroundings.Accepts, localCommand])
  obtain ⟨text, hcompile, hdelivers⟩ := hfalls.delivers offlineReport hreport
  have hremote : (if offlineReport.failures = [] then
      some (RawPath.ofText (localCommand "d").ruleSetDir) else none) = none := rfl
  rw [hremote] at hcompile
  exact ⟨sync, text, hnodes, hsync, hreport, hcompile, hdelivers⟩

/-- A file lies where the folder of the rule-sets is to be made.  The configuration is valid, its
document has a node and the parameters of the download are usable; but the program prints no document
and fails, instead of referring to the sources. -/
theorem blocked_folder_ends_compilation :
    sampleRuleSets.validated = .ok sampleRuleSets ∧ sampleRuleSets.model.encodable ≠ [] ∧
    Format.parse (localCommand "blocked").format = .ok .singBox ∧ (localCommand "blocked").output = none ∧
    (∃ y, Surroundings.synchronizer { files := [("blocked", .file [120] 0)], now := 0 }
      sampleRuleSets.download "blocked" = .ok y) ∧
    (∃ text, compile .singBox sampleRuleSets.model ⟨false, none⟩ = .ok text) ∧
    Surroundings.runCompile { files := [("blocked", .file [120] 0)], now := 0 } sampleRuleSets
        (localCommand "blocked") =
      { exitCode := 1
        printed := ""
        files := [("blocked", .file [120] 0)]
        complaint := some
          "Rule-set synchronization error: Rule-set directory error: File exists (os error 17)" } := by
  refine ⟨?_, by decide, rfl, rfl, ⟨_, rfl⟩, ?_, ?_⟩
  · exact validated_eq_ok_iff.2 ⟨by decide +kernel, rfl⟩
  · exact ⟨_, compile_eq_ok_iff_render.2 ⟨by decide, rfl⟩⟩
  · rfl

end ProxyConfig
