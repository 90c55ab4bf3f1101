import ProxyConfig.Outbound.Name

/-!
# Settings

The settings that hold for a whole document.  Every compilation receives them as a value.
-/

namespace ProxyConfig

/-- Settings of a compilation. -/
structure Settings where
  mixedPort : Nat := 2080
  allowLan : Bool := false
  controllerPort : Nat := 9091
  controllerSecret : String := ""
  tunEnabled : Bool := false
  ruleSetBaseUrl : String :=
    "https://raw.githubusercontent.com/lyc8503/sing-box-rules/rule-set-geosite"
  /-- A text put before every download address. -/
  githubProxy : Option String := none
  mobileMode : Bool := false
  proxyDns : String := "https://1.1.1.1/dns-query"
  directDns : String := "https://223.5.5.5/dns-query"
  /-- The default member of the final selector. -/
  finalOutbound : String := Outbound.proxy
deriving Repr, DecidableEq, Inhabited

/-- A text that counts only when it is not empty. -/
def nonEmpty (text : String) : Option String :=
  if text = "" then none else some text

namespace Settings

/-- The text before download addresses, if there is one. -/
def downloadPrefix? (settings : Settings) : Option String :=
  settings.githubProxy.bind nonEmpty

/-- The secret of the controller, if there is one. -/
def secret? (settings : Settings) : Option String :=
  nonEmpty settings.controllerSecret

end Settings
end ProxyConfig
