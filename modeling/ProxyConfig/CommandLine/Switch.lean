/-!
# Switches

The words that begin with a dash, and where they are understood.  Some switches are understood on
both sides of a command's name, the others on one.
-/

namespace ProxyConfig

/-- The name of a command. -/
inductive CommandName where
  | compile
  | sync
deriving Repr, DecidableEq, Inhabited

/-- The command that a word names. -/
def CommandName.of? (word : String) : Option CommandName :=
  if word = "compile" then some .compile
  else if word = "sync" then some .sync
  else none

/-- The word that asks for help on commands. -/
def helpWord : String := "help"

/-- A switch. -/
inductive Switch where
  | config
  | test
  | debug
  | help
  | version
  | format
  | output
  | mobile
  | ruleSetDir
  | localRuleSets
  | refresh
deriving Repr, DecidableEq, Inhabited

/-- What a switch takes. -/
inductive Operand where
  | nothing
  /-- A text, which may be empty. -/
  | text
  /-- The path of a file or folder, which is not empty. -/
  | path
deriving Repr, DecidableEq, Inhabited

namespace Switch

/-- The name of a switch after two dashes. -/
def name : Switch → String
  | .config => "config"
  | .test => "test"
  | .debug => "debug"
  | .help => "help"
  | .version => "version"
  | .format => "format"
  | .output => "output"
  | .mobile => "mobile"
  | .ruleSetDir => "rule-set-dir"
  | .localRuleSets => "local-rule-sets"
  | .refresh => "refresh"

/-- The letter of a switch after one dash. -/
def letter? : Switch → Option Char
  | .config => some 'c'
  | .test => some 't'
  | .debug => some 'd'
  | .help => some 'h'
  | .version => some 'V'
  | .format => some 'f'
  | .output => some 'o'
  | _ => none

/-- What the switch takes. -/
def operand : Switch → Operand
  | .config | .output | .ruleSetDir => .path
  | .format => .text
  | _ => .nothing

/-- The switches that are understood after the name of a command, or before it. -/
def understood : Option CommandName → List Switch
  | none => [.config, .test, .debug, .help, .version]
  | some .compile =>
    [.config, .test, .debug, .help, .format, .output, .mobile, .ruleSetDir, .localRuleSets]
  | some .sync => [.config, .test, .debug, .help, .ruleSetDir, .refresh]

/-- The switch of a name. -/
def named? (scope : Option CommandName) (name : String) : Option Switch :=
  (understood scope).find? fun s => s.name = name

/-- The switch of a letter. -/
def lettered? (scope : Option CommandName) (letter : Char) : Option Switch :=
  (understood scope).find? fun s => s.letter? = some letter

end Switch
end ProxyConfig
