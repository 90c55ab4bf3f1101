import ProxyConfig.Files.Operations
import ProxyConfig.Reading.Document
import ProxyConfig.Url
import ProxyConfig.Validation.Config

/-!
# Loading a configuration

A configuration comes from a text or a file, and it counts only when it is valid.
-/

namespace ProxyConfig

open Files

/-- Why a configuration cannot be loaded. -/
inductive ConfigError where
  | unreadable (error : FileError)
  | malformed (error : TextReadError)
  | invalid (faults : Faults)
deriving Repr, Inhabited

/-- The text of an error.  Positions in malformed text are left out. -/
def ConfigError.message : ConfigError → String
  | .unreadable e => "Failed to load configuration file: " ++ e.message
  | .malformed e => e.message?.getD "YAML parsing error"
  | .invalid faults => "Configuration validation error: " ++ Faults.text faults

/-- A configuration, if it is valid. -/
def Config.validated (config : Config) : Except ConfigError Config :=
  let faults := Validation.config Url.isValid config
  if faults.isEmpty then .ok config else .error (.invalid faults)

/-- The configuration in a text. -/
def Config.ofText (text : String) : Except ConfigError Config :=
  match Config.ofYaml text with
  | .ok config => config.validated
  | .error e => .error (.malformed e)

/-- The configuration in a file. -/
def Config.load (files : Folder) (path : String) : Except ConfigError Config :=
  match files.readText path with
  | .ok text => Config.ofText text
  | .error e => .error (.unreadable e)

end ProxyConfig
