import ProxyConfig.Model
import ProxyConfig.Validation.Faults

/-!
# Validation of a configuration

The conditions on a configuration: ranges, texts that must not be empty, addresses that must be
addresses, and names of outbounds that must not collide.  What counts as an address is a parameter.
-/

namespace ProxyConfig
namespace Validation

open Faults

/-- A text that must not be empty. -/
def notEmpty (name value message : String) : Faults :=
  check name (value ≠ "") "length" message

/-- A number that must not be zero. -/
def positive (name : String) (value : Nat) (message : String) : Faults :=
  check name (0 < value) "range" message

/-- A number in an interval. -/
def within (name : String) (interval : Interval) (value : Nat) (message : String) : Faults :=
  check name (interval.contains value) "range" message

/-- A check of a whole record that fails with a message. -/
def whole (holds : Bool) (code message : String) : List FailedCheck :=
  if holds then [] else [⟨code, some message⟩]

variable (isUrl : String → Bool)

/-- The faults of a node. -/
def node (n : Node) : Faults :=
  notEmpty "tag" n.tag "Node tag must not be empty" ++
    notEmpty "server" n.server "Node server must not be empty" ++
    positive "server_port" n.serverPort "Node port must be greater than 0"

/-- The faults of the parameters of an automatic test. -/
def urlTest (t : UrlTest) : Faults :=
  check "url" (isUrl t.url) "invalid_url" "URL test address is invalid"

/-- The faults of a filter. -/
def filter (f : Filter) : Faults :=
  notEmpty "name" f.name "Filter name must not be empty" ++
    match f.urlTest with
    | some t => nested "url_test_config" (urlTest isUrl t)
    | none => []

/-- The faults of a rule. -/
def rule (r : Rule) : Faults :=
  notEmpty "outbound" r.outbound "Rule outbound must not be empty"

/-- The faults of a rule group. -/
def ruleGroup (g : RuleGroup) : Faults :=
  notEmpty "name" g.name "Rule group name must not be empty"

/-- The faults of the settings. -/
def settings (s : Settings) : Faults :=
  orElseWhole
    (positive "mixed_port" s.mixedPort "Mixed port must be greater than 0" ++
      positive "clash_api_port" s.controllerPort "Clash API port must be greater than 0" ++
      check "ruleset_base_url" (isUrl s.ruleSetBaseUrl) "invalid_url"
        "Rule-set base URL is invalid")
    (whole (s.downloadPrefix?.all isUrl) "invalid_url" "GitHub proxy must be a valid URL")

/-- The faults of the parameters of the HTTP client. -/
def httpClient (c : HttpClient) : Faults :=
  orElseWhole
    (within "connect_timeout" Download.connectTimeouts c.connectTimeout
        "Connect timeout must be between \x7b\x7d and \x7b\x7d seconds" ++
      within "request_timeout" Download.requestTimeouts c.requestTimeout
        "Request timeout must be between \x7b\x7d and \x7b\x7d seconds")
    (whole (c.idleTimeout.all Download.idleTimeouts.contains) "invalid_idle_timeout"
        "Idle timeout is out of range" ++
      whole (c.keepalive.all Download.keepaliveTimes.contains) "invalid_keepalive"
        "Keepalive is out of range")

/-- The faults of the parameters of repeated requests. -/
def retry (r : Retry) : Faults :=
  within "attempts" Download.retryAttempts r.attempts
      "Retry attempts must be between \x7b\x7d and \x7b\x7d" ++
    within "delay" Download.retryDelays r.delay
      "Retry delay must be between \x7b\x7d and \x7b\x7d seconds"

/-- The faults of the download parameters. -/
def download (d : Download) : Faults :=
  nested "http_client" (httpClient d.client) ++
    (match d.retry with
      | some r => nested "retry" (retry r)
      | none => []) ++
    positive "max_size" d.maxSize "Max size must be greater than 0"

/-! ## Names of outbounds -/

/-- The names that no node, filter or rule group may use: the fixed names, and the groups of the
countries of all nodes. -/
def reservedNames (m : Model) : List String :=
  Outbound.fixedNames ++ m.nodes.map fun n => Country.groupName n.countryCode

/-- The names of nodes, enabled filters and enabled rule groups, in this order. -/
def givenNames (m : Model) : List String :=
  m.nodes.map Node.tag ++ (m.filters.filter Filter.enabled).map Filter.name ++
    (m.ruleGroups.filter RuleGroup.enabled).map RuleGroup.name

/-- The first name that is reserved or was given before. -/
def nameClash? (reserved seen : List String) : List String → Option FailedCheck
  | [] => none
  | name :: rest =>
    if name ∈ reserved then
      some ⟨"reserved_outbound_name",
        some ("Outbound name '" ++ name ++ "' is reserved for a built-in group or outbound")⟩
    else if name ∈ seen then
      some ⟨"duplicate_outbound_name", some ("Outbound name '" ++ name ++ "' is not unique")⟩
    else nameClash? reserved (name :: seen) rest

/-- The faults of a model. -/
def model (m : Model) : Faults :=
  orElseWhole
    (nested "settings" (settings isUrl m.settings) ++
      each "nodes" node m.nodes ++
      each "filters" (filter isUrl) m.filters ++
      each "rules" rule m.rules ++
      each "rule_groups" ruleGroup m.ruleGroups)
    (nameClash? (reservedNames m) [] (givenNames m)).toList

/-- The faults of a configuration. -/
def config (c : Config) : Faults :=
  nested "model" (model isUrl c.model) ++ nested "download" (download c.download)

end Validation
end ProxyConfig
