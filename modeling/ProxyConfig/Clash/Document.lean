import ProxyConfig.Clash.Proxy
import ProxyConfig.Compile.Plan

/-!
# The Clash document

The document as a typed value, assembled from a plan, and its tree of named values.  Every routing
record becomes one line of comma-separated parts.
-/

namespace ProxyConfig
namespace Clash

/-- A group of the document. -/
structure ProxyGroup where
  name : String
  kind : GroupKind
  proxies : List String
deriving Repr, DecidableEq, Inhabited

/-- The document. -/
structure Document where
  mixedPort : Nat
  allowLan : Bool
  controllerPort : Nat
  secret : Option String
  tun : Bool
  proxies : List Proxy
  groups : List ProxyGroup
  rules : List String
deriving Repr, DecidableEq, Inhabited

/-! ## Rule lines -/

/-- The first part of the line of a criterion. -/
def directive : Criterion → String
  | .domain _ => "DOMAIN"
  | .domainSuffix _ => "DOMAIN-SUFFIX"
  | .domainKeyword _ => "DOMAIN-KEYWORD"
  | .ipCidr _ => "IP-CIDR"
  | .ruleSet tag =>
    match tag.kind with
    | .geosite => "GEOSITE"
    | .geoip => "GEOIP"
  | .port _ => "DST-PORT"
  | .always => "MATCH"

/-- The value of a criterion, which the catch-all does not have. -/
def value? : Criterion → Option String
  | .domain v | .domainSuffix v | .domainKeyword v | .ipCidr v | .port v => some v
  | .ruleSet tag => some tag.name
  | .always => none

/-- What follows the outbound: addresses are matched without looking up names. -/
def modifiers : Criterion → List String
  | .ipCidr _ => ["no-resolve"]
  | _ => []

/-- The parts of the line of a record. -/
def ruleParts (record : RouteRecord) : List String :=
  directive record.criterion :: (value? record.criterion).toList ++
    record.outbound :: modifiers record.criterion

/-- The line of a record. -/
def ruleLine (record : RouteRecord) : String :=
  ",".intercalate (ruleParts record)

/-! ## Assembly -/

/-- A group. -/
def ProxyGroup.ofGroup (group : Group) : ProxyGroup :=
  ⟨group.name, group.kind, group.members⟩

/-- The document of a plan.  The secret is written only when other machines may connect. -/
def Document.assemble (plan : Plan) : Document where
  mixedPort := plan.settings.mixedPort
  allowLan := plan.settings.allowLan
  controllerPort := plan.settings.controllerPort
  secret := if plan.settings.allowLan then plan.settings.secret? else none
  tun := plan.settings.tunEnabled
  proxies := encodeAll plan.nodes
  groups := plan.groups.map ProxyGroup.ofGroup
  rules := plan.records.map ruleLine

/-! ## As a tree of named values -/

/-- A group. -/
def ProxyGroup.toJson (g : ProxyGroup) : Json :=
  match g.kind with
  | .select =>
    .object [("name", .string g.name), ("type", .string "select"),
      ("proxies", Json.strings g.proxies)]
  | .urlTest url interval tolerance =>
    .object [("name", .string g.name), ("type", .string "url-test"),
      ("proxies", Json.strings g.proxies), ("url", .string url), ("interval", .ofNat interval),
      ("tolerance", .ofNat tolerance)]

/-- The resolver section, which is the same in every document. -/
def dnsSection : Json :=
  .object
    [("enable", .bool true), ("enhanced-mode", .string "fake-ip"),
     ("fake-ip-range", .string "198.18.0.1/16"),
     ("fake-ip-filter", Json.strings ["*.lan", "*.local", "localhost"]),
     ("default-nameserver", Json.strings ["223.5.5.5", "119.29.29.29"]),
     ("nameserver", Json.strings ["https://dns.alidns.com/dns-query", "https://doh.pub/dns-query"]),
     ("fallback", Json.strings ["https://1.1.1.1/dns-query", "https://8.8.8.8/dns-query"]),
     ("fallback-filter", .object
       [("geoip", .bool true), ("geoip-code", .string "CN"),
        ("ipcidr", Json.strings ["240.0.0.0/4"])])]

/-- The section of the virtual network device. -/
def tunSection : Json :=
  .object
    [("enable", .bool true), ("stack", .string "system"), ("dns-hijack", Json.strings ["any:53"]),
     ("auto-route", .bool true), ("auto-detect-interface", .bool true)]

/-- The document. -/
def Document.toJson (d : Document) : Json :=
  .object
    ([("mixed-port", .ofNat d.mixedPort), ("allow-lan", .bool d.allowLan), ("mode", .string "rule"),
      ("log-level", .string "info"),
      ("external-controller", .string ("0.0.0.0:" ++ toString d.controllerPort))] ++
      Json.optionalString "secret" d.secret ++ [("dns", dnsSection)] ++
      (if d.tun then [("tun", tunSection)] else []) ++
      [("proxies", .array (d.proxies.map Proxy.toJson)),
       ("proxy-groups", .array (d.groups.map ProxyGroup.toJson)),
       ("rules", Json.strings d.rules)])

theorem Document.at?_rules_toJson (d : Document) :
    d.toJson.at? ["rules"] = some (Json.strings d.rules) := by
  cases htun : d.tun <;> cases hsecret : d.secret <;>
    simp [toJson, Json.at?, Json.find?, Json.optionalString, Json.optional, htun, hsecret]

end Clash
end ProxyConfig
