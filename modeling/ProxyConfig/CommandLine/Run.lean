import ProxyConfig.CommandLine.Read
import ProxyConfig.Compile
import ProxyConfig.RuleSet.Fetch
import ProxyConfig.RuleSet.Synchronizer

/-!
# Runs of the program

A run goes from the words of a command line, the files, the time and a network to everything that
the program leaves behind.  A run that fails prints nothing.
-/

namespace ProxyConfig

open Files

/-- What a run of the program finds. -/
structure Surroundings where
  files : Folder
  /-- The time, which stands still during a run. -/
  now : Time
  network : Network := .none
  /-- The space for the files that are written.  What is printed always finds its reader. -/
  room : Room := .boundless

/-- What a run of the program leaves behind. -/
structure Outcome where
  exitCode : Nat
  printed : String
  files : Folder
  /-- The addresses that were requested, in order. -/
  requested : List String := []
  /-- The reason of a failure. -/
  complaint : Option String := none
deriving Repr, Inhabited

/-- The name of the program with its version. -/
def programVersion : String := "boxsmith 0.1.0"

/-- A short help. -/
def usage : String :=
  "Usage: boxsmith [-c <CONFIG>] [-t] [-d] [compile | sync]\n\n" ++
  "compile  [-f <FORMAT>] [-o <OUTPUT>] [--mobile] [--rule-set-dir <DIR>] [--local-rule-sets]\n" ++
  "sync     [--rule-set-dir <DIR>] [--refresh]\n"

/-- The request for the rule-sets that a configuration needs. -/
def Config.syncRequest (config : Config) (isForced : Bool) : SyncRequest where
  tags := Routing.neededRuleSets config.model.rules config.model.ruleGroups
  source := .ofSettings config.model.settings
  isForced := isForced

namespace Surroundings

variable (w : Surroundings)

/-- A run that ends well. -/
def success (printed : String) : Outcome where
  exitCode := 0
  printed := printed
  files := w.files

/-- A run that fails. -/
def failure (e : Failure) : Outcome where
  exitCode := 1
  printed := ""
  files := w.files
  complaint := some e.message

/-- A run whose words are no command line. -/
def interrupted : Interrupt → Outcome
  | .help => w.success usage
  | .version => w.success (programVersion ++ "\n")
  | fault => { exitCode := 2, printed := "", files := w.files, complaint := fault.message? }

/-- The synchronizer of a download in a folder. -/
def synchronizer (download : Download) (dir : String) : Except Failure Synchronizer :=
  (Session.ofDownload download).map fun session =>
    ⟨dir, session.fetcher w.network, w.room⟩

/-- Synchronize the rule-sets that a configuration needs. -/
def synchronize (config : Config) (dir : String) (isForced : Bool) : Except Failure SyncOutcome :=
  (w.synchronizer config.download dir).map fun y =>
    y.run (config.syncRequest isForced) w.now w.files

/-- Compile a document and deliver it. -/
def deliver (config : Config) (command : CompileCommand) (localRuleSets : Option RawPath) :
    Outcome :=
  match Format.parse command.format with
  | .error e => w.failure (.compile e)
  | .ok format =>
    match compile format config.model ⟨command.mobile, localRuleSets⟩ with
    | .error e => w.failure (.compile e)
    | .ok document =>
      match command.output with
      | none => w.success (document ++ "\n")
      | some path =>
        match w.files.write w.room w.now path (Folder.bytesOf document) with
        | (files, .error e) => { w with files := files }.failure (.files e)
        | (files, .ok _) => { w with files := files }.success ""

/-- The folder that a document may refer to after a synchronization.  Missing rule-sets are no
obstacle, since the document can refer to their sources instead. -/
def usableRuleSets (command : CompileCommand) (result : Except SyncError SyncReport) :
    Except SyncError (Option RawPath) :=
  match result with
  | .error e => .error e
  | .ok report => .ok (if report.isComplete then some (.ofText command.ruleSetDir) else none)

/-- Compile a document and deliver it when a synchronization has ended. -/
def deliverAfter (config : Config) (command : CompileCommand) (sync : SyncOutcome) : Outcome :=
  let after := { w with files := sync.files }
  { (match usableRuleSets command sync.result with
      | .error e => after.failure (.sync e)
      | .ok dir => after.deliver config command dir) with
    requested := sync.requested }

/-- Compile a document, after a synchronization if that is asked for. -/
def runCompile (config : Config) (command : CompileCommand) : Outcome :=
  if command.localRuleSets then
    match w.synchronize config command.ruleSetDir false with
    | .error e => w.failure e
    | .ok sync => w.deliverAfter config command sync
  else w.deliver config command none

/-- Synchronize rule-sets. -/
def runSync (config : Config) (command : SyncCommand) : Outcome :=
  match w.synchronize config command.ruleSetDir command.refresh with
  | .error e => w.failure e
  | .ok sync =>
    let after := { w with files := sync.files }
    { (match sync.result.bind SyncReport.result with
        | .error e => after.failure (.sync e)
        | .ok _ => after.success "") with
      requested := sync.requested }

/-- Carry out a command with a configuration. -/
def runCommand (config : Config) : Option Command → Outcome
  | none => w.success ""
  | some (.compile command) => w.runCompile config command
  | some (.sync command) => w.runSync config command

/-- Carry out a command line. -/
def runLine (line : CommandLine) : Outcome :=
  match line.check with
  | .error e => w.failure e
  | .ok _ =>
    match Config.load w.files line.config with
    | .error e => w.failure (.config e)
    | .ok config => if line.test then w.success "" else w.runCommand config line.command

/-- Run the program with the words of a command line. -/
def run (words : List String) : Outcome :=
  match CommandLine.read words with
  | .error i => w.interrupted i
  | .ok line => w.runLine line

end Surroundings
end ProxyConfig
