import ProxyConfig.Download
import ProxyConfig.Filter
import ProxyConfig.Rule
import ProxyConfig.Settings

/-!
# The model of a configuration

Everything that one compilation reads, and the input file, which adds the download parameters.
-/

namespace ProxyConfig

/-- What one compilation reads. -/
structure Model where
  settings : Settings := {}
  nodes : List Node := []
  filters : List Filter := []
  rules : List Rule := []
  ruleGroups : List RuleGroup := []
deriving Repr, DecidableEq, Inhabited

/-- The content of an input file. -/
structure Config where
  model : Model := {}
  download : Download := {}
deriving Repr, DecidableEq, Inhabited

end ProxyConfig
