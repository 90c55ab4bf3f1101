import ProxyConfig.Outbound.Name
import ProxyConfig.Rule
import ProxyConfig.RuleSet.Tag

/-!
# Routing records

The rules of a model as one ordered list, whatever the document: the first record whose criterion
holds decides the outbound, and the last record always holds.
-/

namespace ProxyConfig

/-- What a routing record tests. -/
inductive Criterion where
  | domain (value : String)
  | domainSuffix (value : String)
  | domainKeyword (value : String)
  | ipCidr (value : String)
  | ruleSet (tag : RuleSetTag)
  | port (value : String)
  /-- Holds for everything. -/
  | always
deriving Repr, DecidableEq, Inhabited

/-- The criterion of one value of a rule. -/
def Criterion.ofValue (ruleType : RuleType) (value : String) : Criterion :=
  match ruleType with
  | .domain => .domain value
  | .domainSuffix => .domainSuffix value
  | .domainKeyword => .domainKeyword value
  | .ipCidr => .ipCidr value
  | .geosite => .ruleSet ⟨.geosite, value⟩
  | .geoip => .ruleSet ⟨.geoip, value⟩
  | .port => .port value

/-- The rule-set that a criterion refers to. -/
def Criterion.ruleSet? : Criterion → Option RuleSetTag
  | .ruleSet tag => some tag
  | _ => none

/-- A criterion with the outbound for the traffic that meets it. -/
structure RouteRecord where
  criterion : Criterion
  outbound : String
deriving Repr, DecidableEq, Inhabited

/-- The records of a rule, one for each value. -/
def Rule.records (rule : Rule) : List RouteRecord :=
  rule.values.map fun value => ⟨.ofValue rule.ruleType value, rule.outbound⟩

/-- The databases of a rule group, sites first. -/
def RuleGroup.tags (group : RuleGroup) : List RuleSetTag :=
  group.siteRules.map (⟨.geosite, ·⟩) ++ group.ipRules.map (⟨.geoip, ·⟩)

/-- The records of a rule group, all of which lead to its selector. -/
def RuleGroup.records (group : RuleGroup) : List RouteRecord :=
  group.tags.map fun tag => ⟨.ruleSet tag, group.name⟩

namespace Routing

/-- The record that takes what no other record has taken. -/
def fallback : RouteRecord :=
  ⟨.always, Outbound.final⟩

/-- The records of the enabled rules, then of the enabled groups, then the fallback. -/
def records (rules : List Rule) (groups : List RuleGroup) : List RouteRecord :=
  (rules.filter Rule.enabled).flatMap Rule.records ++
    (groups.filter RuleGroup.enabled).flatMap RuleGroup.records ++ [fallback]

/-- Where the records come from. -/
theorem mem_records_iff {rules : List Rule} {groups : List RuleGroup} {record : RouteRecord} :
    record ∈ records rules groups ↔
      (∃ rule ∈ rules, rule.enabled = true ∧ record ∈ rule.records) ∨
        (∃ group ∈ groups, group.enabled = true ∧ record ∈ group.records) ∨ record = fallback := by
  simp [records, and_assoc]

/-- The rule-sets that records refer to, in increasing order. -/
def ruleSets (records : List RouteRecord) : List RuleSetTag :=
  RuleSetTag.sorted (records.filterMap fun r => r.criterion.ruleSet?)

/-- The rule-sets that the enabled rules and groups refer to. -/
def neededRuleSets (rules : List Rule) (groups : List RuleGroup) : List RuleSetTag :=
  ruleSets (records rules groups)

theorem getLast?_records (rules : List Rule) (groups : List RuleGroup) :
    (records rules groups).getLast? = some fallback := by
  simp [records]

end Routing
end ProxyConfig
