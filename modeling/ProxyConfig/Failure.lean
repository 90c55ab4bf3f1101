import ProxyConfig.Compile.Plan
import ProxyConfig.Loading
import ProxyConfig.RuleSet.Report

/-!
# Failures

Everything that can go wrong, with its text.
-/

namespace ProxyConfig

/-- What can go wrong. -/
inductive Failure where
  | config (error : ConfigError)
  | compile (error : CompileError)
  | sync (error : SyncError)
  | files (error : Files.FileError)
  /-- A request that got no complete response. -/
  | request (detail : String)
  /-- The same, after it was repeated. -/
  | repeatedRequest (detail : String)
  | proxy (detail : String)
  | client (detail : String)
  | download (detail : String)
  | argument (detail : String)
deriving Repr, Inhabited

/-- The text of a failure. -/
def Failure.message : Failure → String
  | .config e => "Configuration error: " ++ e.message
  | .compile e => "Compilation error: " ++ e.message
  | .sync e => "Rule-set synchronization error: " ++ e.message
  | .files e => "IO error: " ++ e.message
  | .request detail => "HTTP request error: " ++ detail
  | .repeatedRequest detail => "HTTP middleware error: " ++ detail
  | .proxy detail => "Invalid proxy configuration: Invalid proxy configuration: " ++ detail
  | .client detail => "HTTP client error: HTTP client error: " ++ detail
  | .download detail => "Download error: " ++ detail
  | .argument detail => "Invalid command line argument: " ++ detail

end ProxyConfig
