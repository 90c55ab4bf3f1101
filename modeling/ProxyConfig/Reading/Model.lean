import ProxyConfig.Model
import ProxyConfig.Reading.Decoder

/-!
# Reading a model

The records of the model with their fields, which of them may be missing, and their defaults.
-/

namespace ProxyConfig

open Decoder

/-! ## Nodes -/

/-- The fields of a stored node. -/
def NodeRecord.fields : List Field :=
  [.of "tag" .required string, .of "type" .required string, .of "server" .required string,
   .of "server_port" .required u16, .of "country" .defaulted (option string),
   .of "extra" .defaulted bag]

/-- Read a stored node. -/
def NodeRecord.decoder : Decoder NodeRecord := fun d => do
  let f ← Decoder.fields "NodeRecord" NodeRecord.fields d
  return {
    tag := ← f.get "tag" string
    kind := ← f.get "type" string
    server := ← f.get "server" string
    serverPort := ← f.get "server_port" u16
    country := ← f.getOr "country" none (option string)
    extra := ← f.getOr "extra" [] bag }

/-- Read a node. -/
def Node.decoder : Decoder Node :=
  map NodeRecord.toNode NodeRecord.decoder

/-! ## Filters -/

/-- Read the mode of a filter; every text is a mode. -/
def FilterMode.decoder : Decoder FilterMode :=
  map FilterMode.ofText string

/-- Read the parameters of an automatic test. -/
def UrlTest.decoder : Decoder UrlTest := fun d => do
  let f ← Decoder.fields "UrlTestConfig"
    [.of "url" .required string, .of "tolerance" .required u32] d
  return { url := ← f.get "url" string, tolerance := ← f.get "tolerance" u32 }

/-- The fields of a filter. -/
def Filter.fields : List Field :=
  [.of "name" .required string, .of "enabled" .defaulted bool,
   .of "mode" .defaulted FilterMode.decoder, .of "include" .defaulted (list string),
   .of "exclude" .defaulted (list string), .of "include_countries" .defaulted (list string),
   .of "exclude_countries" .defaulted (list string),
   .of "url_test_config" .defaulted (option UrlTest.decoder)]

/-- Read a filter. -/
def Filter.decoder : Decoder Filter := fun d => do
  let f ← Decoder.fields "Filter" Filter.fields d
  return {
    name := ← f.get "name" string
    enabled := ← f.getOr "enabled" false bool
    mode := ← f.getOr "mode" .select FilterMode.decoder
    keywords := ← f.getOr "include" [] (list string)
    excludedKeywords := ← f.getOr "exclude" [] (list string)
    countries := ← f.getOr "include_countries" [] (list string)
    excludedCountries := ← f.getOr "exclude_countries" [] (list string)
    urlTest := ← f.getOr "url_test_config" none (option UrlTest.decoder) }

/-! ## Rules -/

/-- Read the type of a rule. -/
def RuleType.decoder (placement : Placement) : Decoder RuleType :=
  variant placement (RuleType.all.map RuleType.name) RuleType.ofName?

/-- Read a rule. -/
def Rule.decoder (placement : Placement) : Decoder Rule := fun d => do
  let f ← Decoder.fields "Rule"
    [.of "rule_type" .required (RuleType.decoder placement),
     .of "values" .defaulted (list string), .of "outbound" .required string,
     .of "enabled" .defaulted bool] d
  return {
    ruleType := ← f.get "rule_type" (RuleType.decoder placement)
    values := ← f.getOr "values" [] (list string)
    outbound := ← f.get "outbound" string
    enabled := ← f.getOr "enabled" false bool }

/-- Read a rule group. -/
def RuleGroup.decoder : Decoder RuleGroup := fun d => do
  let f ← Decoder.fields "RuleGroup"
    [.of "name" .required string, .of "enabled" .defaulted bool,
     .of "outbound" .required string, .of "site_rules" .defaulted (list string),
     .of "ip_rules" .defaulted (list string)] d
  return {
    name := ← f.get "name" string
    enabled := ← f.getOr "enabled" false bool
    outbound := ← f.get "outbound" string
    siteRules := ← f.getOr "site_rules" [] (list string)
    ipRules := ← f.getOr "ip_rules" [] (list string) }

/-! ## Settings -/

/-- The fields of the settings, all of which have defaults. -/
def Settings.fields : List Field :=
  [.of "mixed_port" .defaulted u16, .of "allow_lan" .defaulted bool,
   .of "clash_api_port" .defaulted u16, .of "clash_api_secret" .defaulted string,
   .of "tun_enabled" .defaulted bool, .of "ruleset_base_url" .defaulted string,
   .of "github_proxy" .defaulted (option string), .of "mobile_mode" .defaulted bool,
   .of "proxy_dns" .defaulted string, .of "direct_dns" .defaulted string,
   .of "final_outbound" .defaulted string]

/-- Read settings. -/
def Settings.decoder : Decoder Settings := fun d => do
  let f ← Decoder.fields "Settings" Settings.fields d
  let default : Settings := {}
  return {
    mixedPort := ← f.getOr "mixed_port" default.mixedPort u16
    allowLan := ← f.getOr "allow_lan" default.allowLan bool
    controllerPort := ← f.getOr "clash_api_port" default.controllerPort u16
    controllerSecret := ← f.getOr "clash_api_secret" default.controllerSecret string
    tunEnabled := ← f.getOr "tun_enabled" default.tunEnabled bool
    ruleSetBaseUrl := ← f.getOr "ruleset_base_url" default.ruleSetBaseUrl string
    githubProxy := ← f.getOr "github_proxy" default.githubProxy (option string)
    mobileMode := ← f.getOr "mobile_mode" default.mobileMode bool
    proxyDns := ← f.getOr "proxy_dns" default.proxyDns string
    directDns := ← f.getOr "direct_dns" default.directDns string
    finalOutbound := ← f.getOr "final_outbound" default.finalOutbound string }

/-! ## Download parameters -/

/-- Read the parameters of the HTTP client. -/
def HttpClient.decoder : Decoder HttpClient := fun d => do
  let f ← Decoder.fields "HttpClientConfig"
    [.of "connect_timeout" .required u64, .of "request_timeout" .required u64,
     .of "idle_timeout" .optional (option u64), .of "keepalive" .optional (option u32),
     .of "agent" .optional (option string)] d
  return {
    connectTimeout := ← f.get "connect_timeout" u64
    requestTimeout := ← f.get "request_timeout" u64
    idleTimeout := ← f.getOr "idle_timeout" none (option u64)
    keepalive := ← f.getOr "keepalive" none (option u32)
    agent := ← f.getOr "agent" none (option string) }

/-- Read the parameters of repeated requests. -/
def Retry.decoder : Decoder Retry := fun d => do
  let f ← Decoder.fields "RetryConfig"
    [.of "attempts" .required u32, .of "delay" .required u32] d
  return { attempts := ← f.get "attempts" u32, delay := ← f.get "delay" u32 }

/-- Read the parameters of downloads. -/
def Download.decoder : Decoder Download := fun d => do
  let f ← Decoder.fields "DownloadConfig"
    [.of "http_client" .defaulted HttpClient.decoder,
     .of "retry" .defaulted (option Retry.decoder), .of "proxy" .defaulted (option string),
     .of "max_size" .defaulted usize] d
  let default : Download := {}
  return {
    client := ← f.getOr "http_client" default.client HttpClient.decoder
    retry := ← f.getOr "retry" default.retry (option Retry.decoder)
    proxy := ← f.getOr "proxy" default.proxy (option string)
    maxSize := ← f.getOr "max_size" default.maxSize usize }

/-! ## Models and configurations -/

/-- The fields of a model. -/
def Model.fields (placement : Placement) : List Field :=
  [.of "settings" .defaulted Settings.decoder, .of "nodes" .defaulted (list Node.decoder),
   .of "filters" .defaulted (list Filter.decoder),
   .of "rules" .defaulted (list (Rule.decoder placement)),
   .of "rule_groups" .defaulted (list RuleGroup.decoder)]

/-- The model of checked fields. -/
def Model.ofSlots (placement : Placement) (f : Slots) : Except ReadError Model := do
  return {
    settings := ← f.getOr "settings" {} Settings.decoder
    nodes := ← f.getOr "nodes" [] (list Node.decoder)
    filters := ← f.getOr "filters" [] (list Filter.decoder)
    rules := ← f.getOr "rules" [] (list (Rule.decoder placement))
    ruleGroups := ← f.getOr "rule_groups" [] (list RuleGroup.decoder) }

/-- Read a model. -/
def Model.decoder : Decoder Model := fun d => do
  Model.ofSlots .alone (← Decoder.fields "ModelSnapshot" (Model.fields .alone) d)

/-- Read a model out of the entries of a larger table; keys that are not texts are passed over. -/
def Model.ofEntries (entries : List (Datum × Datum)) : Except ReadError Model := do
  let isText (entry : Datum × Datum) : Bool :=
    match entry.1 with
    | .text _ => true
    | _ => false
  Model.ofSlots .nested (← readEntries (Model.fields .nested) [] (entries.filter isText))

/-- Why a configuration cannot be read. -/
inductive ConfigReadError where
  | download (error : ReadError)
  | model (error : ReadError)
deriving Repr, DecidableEq, Inhabited

/-- Read a configuration from JSON.  The download parameters are read first, and the model from
what is left. -/
def Config.ofJson (value : Json) : Except ConfigReadError Config :=
  match value with
  | .object fields => do
    let download ←
      match Json.find? "download" fields with
      | some v => (Download.decoder (.ofJson v)).mapError .download
      | none => .ok {}
    let rest := fields.filter fun f => f.1 ≠ "download"
    let model ← (Model.ofEntries (Datum.ofFields rest)).mapError .model
    return { model := model, download := download }
  | v => .error (.model (.invalidType (Datum.ofJson v).found "struct Config"))

end ProxyConfig
