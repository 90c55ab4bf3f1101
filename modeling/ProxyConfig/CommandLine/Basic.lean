import ProxyConfig.Failure

/-!
# Command lines

What a user can ask the program for: to compile a document, to synchronize rule-sets, or only to
test a configuration.  The words are texts, so paths that are none of a text cannot be asked for.
-/

namespace ProxyConfig

/-- A request to compile a document. -/
structure CompileCommand where
  format : String := "singbox"
  /-- The file of the document; without one the document is printed. -/
  output : Option String := none
  mobile : Bool := false
  /-- The folder of the rule-sets.  A document may refer to files inside it, by their paths as
  texts. -/
  ruleSetDir : String := "./rulesets"
  /-- Synchronize the rule-sets first, and let the document refer to their files. -/
  localRuleSets : Bool := false
deriving Repr, DecidableEq, Inhabited

/-- A request to synchronize rule-sets. -/
structure SyncCommand where
  ruleSetDir : String := "./rulesets"
  /-- Download all rule-sets, whether they are fresh or not. -/
  refresh : Bool := false
deriving Repr, DecidableEq, Inhabited

/-- A request. -/
inductive Command where
  | compile (command : CompileCommand)
  | sync (command : SyncCommand)
deriving Repr, DecidableEq, Inhabited

/-- A command line. -/
structure CommandLine where
  /-- The file of the configuration. -/
  config : String := "./config.yaml"
  /-- Only test the configuration. -/
  test : Bool := false
  debug : Bool := false
  command : Option Command := none
deriving Repr, DecidableEq, Inhabited

/-- A command line can be carried out: its format is known, and it asks for something. -/
def CommandLine.check (line : CommandLine) : Except Failure Unit :=
  match line.command with
  | some (.compile command) =>
    match Format.parse command.format with
    | .ok _ => .ok ()
    | .error e => .error (.compile e)
  | some (.sync _) => .ok ()
  | none =>
    if line.test then .ok ()
    else .error (.argument "A subcommand is required: compile or sync")

end ProxyConfig
