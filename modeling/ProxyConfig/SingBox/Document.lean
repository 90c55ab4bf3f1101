import ProxyConfig.Compile.Plan
import ProxyConfig.Json.Text
import ProxyConfig.RuleSet.Artifact
import ProxyConfig.SingBox.Proxy
import ProxyConfig.Text.Cut

/-!
# The sing-box document

The document as a typed value, assembled from a plan, and its JSON.  Ports are the only criterion
that can be malformed; a record with a malformed port is left out.
-/

namespace ProxyConfig
namespace SingBox

/-! ## Sections -/

/-- A DNS server, with the outbound through which it is asked. -/
structure DnsServer where
  tag : String
  address : String
  detour : String
deriving Repr, DecidableEq, Inhabited

/-- A listener. -/
inductive Inbound where
  | mixed (listen : String) (port : Nat)
  | tun
deriving Repr, DecidableEq, Inhabited

/-- An entry of the list of outbounds. -/
inductive OutboundEntry where
  | selector (tag : String) (members : List String) (preferred : Option String)
  | urlTest (tag : String) (members : List String) (url : String) (interval : String)
      (tolerance : Nat) (idleTimeout : Option String)
  | proxy (proxy : Proxy)
  | direct
  | block
deriving Repr, DecidableEq, Inhabited

/-- The name by which an outbound is referred to. -/
def OutboundEntry.tag : OutboundEntry → String
  | .selector tag .. => tag
  | .urlTest tag .. => tag
  | .proxy p => p.tag
  | .direct => Outbound.direct
  | .block => Outbound.reject

/-- The names to which an outbound refers. -/
def OutboundEntry.members : OutboundEntry → List String
  | .selector _ members _ => members
  | .urlTest _ members .. => members
  | .proxy _ | .direct | .block => []

/-- What a routing rule tests. -/
inductive Matcher where
  | domain (value : String)
  | domainSuffix (value : String)
  | domainKeyword (value : String)
  | ipCidr (value : String)
  | ruleSet (label : String)
  | port (number : Nat)
  | portRange (range : String)
deriving Repr, DecidableEq, Inhabited

/-- A routing rule.  The first two inspect the traffic; the others decide where it goes. -/
inductive RouteRule where
  | sniff
  | hijackDns
  | send (matcher : Matcher) (outbound : String)
deriving Repr, DecidableEq, Inhabited

/-- Where the database of a rule-set is found. -/
inductive RuleSetPlace where
  | file (path : String)
  | remote (url : String) (detour : String)
deriving Repr, DecidableEq, Inhabited

/-- The declaration of a rule-set. -/
structure RuleSetEntry where
  label : String
  place : RuleSetPlace
deriving Repr, DecidableEq, Inhabited

/-- The document. -/
structure Document where
  dnsServers : List DnsServer
  inbounds : List Inbound
  outbounds : List OutboundEntry
  rules : List RouteRule
  ruleSets : List RuleSetEntry
  finalOutbound : String
  controllerHost : String
  controllerPort : Nat
  controllerSecret : Option String
deriving Repr, DecidableEq, Inhabited

/-! ## Ports -/

/-- What a port text stands for. -/
inductive PortValue where
  | single (number : Nat)
  | range (text : String)
deriving Repr, DecidableEq, Inhabited

/-- A port number of 16 bits. -/
def portNumber? (s : List Char) : Option Nat :=
  Text.numeral? Text.maxU16 s

/-- Two port numbers around a colon. -/
def isPortRange (s : List Char) : Bool :=
  match Text.cutAt ':' s with
  | some (first, last) => (portNumber? first).isSome && (portNumber? last).isSome
  | none => false

/-- The port or range of ports that a text denotes, white space around it aside. -/
def PortValue.parse? (text : String) : Option PortValue :=
  let s := Text.trimChars text.toList
  match portNumber? s with
  | some n => some (.single n)
  | none => if isPortRange s then some (.range (String.ofList s)) else none

/-! ## Assembly -/

/-- The test of a criterion.  The catch-all and malformed ports have none. -/
def Matcher.ofCriterion? : Criterion → Option Matcher
  | .domain v => some (.domain v)
  | .domainSuffix v => some (.domainSuffix v)
  | .domainKeyword v => some (.domainKeyword v)
  | .ipCidr v => some (.ipCidr v)
  | .ruleSet tag => some (.ruleSet tag.label)
  | .port v =>
    (PortValue.parse? v).map fun p =>
      match p with
      | .single n => .port n
      | .range r => .portRange r
  | .always => none

/-- The rule of a record. -/
def RouteRule.ofRecord? (record : RouteRecord) : Option RouteRule :=
  (Matcher.ofCriterion? record.criterion).map fun m => .send m record.outbound

/-- A group as an outbound. -/
def OutboundEntry.ofGroup (mobile : Bool) (group : Group) : OutboundEntry :=
  match group.kind with
  | .select => .selector group.name group.members group.preferred
  | .urlTest url interval tolerance =>
    .urlTest group.name group.members url (toString interval ++ "s") tolerance
      (if mobile then some "30m" else none)

/-- Where a rule-set is found: in the directory of local files, unless the document is for a mobile
device, and else at its address.  The path of a file is written as a text, so it is another one if
the directory is not UTF-8. -/
def ruleSetPlace (plan : Plan) (tag : RuleSetTag) : RuleSetPlace :=
  match if plan.mobile then none else plan.localRuleSets with
  | some dir => .file (dir.join tag.fileName).lossy
  | none => .remote ((RuleSetSource.ofSettings plan.settings).url tag) Outbound.direct

/-- The address on which every interface listens. -/
def anyHost : String := "0.0.0.0"

/-- The address of the machine itself. -/
def loopbackHost : String := "127.0.0.1"

/-- The document of a plan. -/
def Document.assemble (plan : Plan) : Document where
  dnsServers :=
    [⟨"proxy", plan.settings.proxyDns, Outbound.proxy⟩,
     ⟨"direct", plan.settings.directDns, Outbound.direct⟩]
  inbounds :=
    .mixed (if plan.settings.allowLan then anyHost else loopbackHost) plan.settings.mixedPort ::
      (if plan.settings.tunEnabled then [.tun] else [])
  outbounds :=
    plan.groups.map (OutboundEntry.ofGroup plan.mobile) ++
      (encodeAll plan.nodes).map OutboundEntry.proxy ++ [.direct, .block]
  rules := [.sniff, .hijackDns] ++ plan.records.filterMap RouteRule.ofRecord?
  ruleSets := (Routing.ruleSets plan.records).map fun tag => ⟨tag.label, ruleSetPlace plan tag⟩
  finalOutbound :=
    ((plan.records.find? fun r => r.criterion == .always).map RouteRecord.outbound).getD
      Outbound.final
  controllerHost := if plan.mobile then loopbackHost else anyHost
  controllerPort := plan.settings.controllerPort
  controllerSecret := plan.settings.secret?

/-! ## As JSON -/

/-- A DNS server. -/
def DnsServer.toJson (s : DnsServer) : Json :=
  .object [("tag", .string s.tag), ("address", .string s.address), ("detour", .string s.detour)]

/-- A listener. -/
def Inbound.toJson : Inbound → Json
  | .mixed listen port =>
    .object [("type", .string "mixed"), ("tag", .string "mixed-in"), ("listen", .string listen),
      ("listen_port", .ofNat port)]
  | .tun =>
    .object [("type", .string "tun"), ("tag", .string "tun-in"),
      ("address", Json.strings ["172.19.0.1/30"]), ("auto_route", .bool true),
      ("strict_route", .bool true), ("stack", .string "system")]

/-- An outbound. -/
def OutboundEntry.toJson : OutboundEntry → Json
  | .selector tag members preferred =>
    .object ([("type", .string "selector"), ("tag", .string tag),
      ("outbounds", Json.strings members)] ++ Json.optionalString "default" preferred)
  | .urlTest tag members url interval tolerance idleTimeout =>
    .object ([("type", .string "urltest"), ("tag", .string tag),
      ("outbounds", Json.strings members), ("url", .string url), ("interval", .string interval),
      ("tolerance", .ofNat tolerance)] ++ Json.optionalString "idle_timeout" idleTimeout)
  | .proxy p => p.toJson
  | .direct => .object [("type", .string "direct"), ("tag", .string Outbound.direct)]
  | .block => .object [("type", .string "block"), ("tag", .string Outbound.reject)]

/-- The field of a test. -/
def Matcher.field : Matcher → String × Json
  | .domain v => ("domain", Json.strings [v])
  | .domainSuffix v => ("domain_suffix", Json.strings [v])
  | .domainKeyword v => ("domain_keyword", Json.strings [v])
  | .ipCidr v => ("ip_cidr", Json.strings [v])
  | .ruleSet label => ("rule_set", Json.strings [label])
  | .port n => ("port", .array [.ofNat n])
  | .portRange r => ("port_range", Json.strings [r])

/-- A routing rule. -/
def RouteRule.toJson : RouteRule → Json
  | .sniff => .object [("action", .string "sniff")]
  | .hijackDns => .object [("protocol", .string "dns"), ("action", .string "hijack-dns")]
  | .send matcher outbound => .object [matcher.field, ("outbound", .string outbound)]

/-- The declaration of a rule-set. -/
def RuleSetEntry.toJson (e : RuleSetEntry) : Json :=
  match e.place with
  | .file path =>
    .object [("type", .string "local"), ("tag", .string e.label), ("format", .string "binary"),
      ("path", .string path)]
  | .remote url detour =>
    .object [("type", .string "remote"), ("tag", .string e.label), ("format", .string "binary"),
      ("url", .string url), ("download_detour", .string detour)]

/-- The document. -/
def Document.toJson (d : Document) : Json :=
  .object
    [("log", .object [("level", .string "info"), ("timestamp", .bool true)]),
     ("dns", .object
       [("servers", .array (d.dnsServers.map DnsServer.toJson)),
        ("rules", .array [.object [("outbound", .string "any"), ("server", .string "direct")]]),
        ("final", .string "proxy")]),
     ("inbounds", .array (d.inbounds.map Inbound.toJson)),
     ("outbounds", .array (d.outbounds.map OutboundEntry.toJson)),
     ("route", .object
       [("rules", .array (d.rules.map RouteRule.toJson)),
        ("rule_set", .array (d.ruleSets.map RuleSetEntry.toJson)),
        ("final", .string d.finalOutbound), ("auto_detect_interface", .bool true)]),
     ("experimental", .object
       [("clash_api", .object
          (("external_controller",
              .string (d.controllerHost ++ ":" ++ toString d.controllerPort)) ::
            Json.optionalString "secret" d.controllerSecret)),
        ("cache_file", .object [("enabled", .bool true)])])]

namespace Document

variable (d : Document)

theorem at?_rules_toJson :
    d.toJson.at? ["route", "rules"] = some (.array (d.rules.map RouteRule.toJson)) := by
  simp [toJson, Json.at?, Json.find?]

theorem at?_ruleSets_toJson :
    d.toJson.at? ["route", "rule_set"] = some (.array (d.ruleSets.map RuleSetEntry.toJson)) := by
  simp [toJson, Json.at?, Json.find?]

theorem at?_final_toJson : d.toJson.at? ["route", "final"] = some (.string d.finalOutbound) := by
  simp [toJson, Json.at?, Json.find?]

end Document

/-- The text of the document. -/
def Document.text (d : Document) : String :=
  Json.pretty d.toJson

end SingBox
end ProxyConfig
