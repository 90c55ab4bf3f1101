/-!
# Rules and rule groups

A rule sends the traffic that meets one of its values to an outbound.  A rule group does the same
for lists of site and address databases, through a selector of its own name.
-/

namespace ProxyConfig

/-- What the values of a rule are compared with. -/
inductive RuleType where
  | domain
  | domainSuffix
  | domainKeyword
  | ipCidr
  | geosite
  | geoip
  | port
deriving Repr, DecidableEq, Inhabited

namespace RuleType

/-- All types, in the order in which they are declared. -/
def all : List RuleType :=
  [domain, domainSuffix, domainKeyword, ipCidr, geosite, geoip, port]

/-- The name of a type. -/
def name : RuleType → String
  | domain => "domain"
  | domainSuffix => "domain_suffix"
  | domainKeyword => "domain_keyword"
  | ipCidr => "ip_cidr"
  | geosite => "geosite"
  | geoip => "geoip"
  | port => "port"

/-- The type of a name. -/
def ofName? (text : String) : Option RuleType :=
  all.find? fun t => t.name == text

theorem ofName?_name (t : RuleType) : ofName? t.name = some t := by
  cases t <;> rfl

end RuleType

/-- A routing rule over one kind of criterion. -/
structure Rule where
  ruleType : RuleType
  values : List String
  outbound : String
  enabled : Bool
deriving Repr, DecidableEq, Inhabited

/-- A bundle of databases with a selector of its own. -/
structure RuleGroup where
  name : String
  enabled : Bool
  /-- The preferred member of the selector; it may be one of the sinks. -/
  outbound : String
  siteRules : List String
  ipRules : List String
deriving Repr, DecidableEq, Inhabited

end ProxyConfig
