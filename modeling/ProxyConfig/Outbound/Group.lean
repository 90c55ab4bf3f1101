import ProxyConfig.Model

/-!
# Selector groups

The hierarchy of groups through which outbounds are chosen, whatever the document.  On top stands
the proxy selector; it chooses among the automatic group, the countries and the filters, whose
members are nodes.  Every enabled rule group has a selector over these, and the final selector
takes what remains.

Members are named, so a group may refer to one that is listed later.
-/

namespace ProxyConfig

/-- How a group chooses among its members. -/
inductive GroupKind where
  | select
  /-- The member that answers fastest: address, seconds between tests, tolerance. -/
  | urlTest (url : String) (interval : Nat) (tolerance : Nat)
deriving Repr, DecidableEq, Inhabited

namespace GroupKind

/-- Seconds between two tests. -/
def testInterval : Nat := 300

/-- The automatic test with default parameters. -/
def defaultTest : GroupKind :=
  .urlTest "https://www.gstatic.com/generate_204" testInterval 50

/-- The kind of the group of a filter. -/
def ofFilter (filter : Filter) : GroupKind :=
  match filter.mode with
  | .select => .select
  | .urlTest =>
    match filter.urlTest with
    | some t => .urlTest t.url testInterval t.tolerance
    | none => defaultTest

end GroupKind

/-- A group of outbounds. -/
structure Group where
  name : String
  kind : GroupKind
  /-- The names of the members. -/
  members : List String
  preferred : Option String
deriving Repr, DecidableEq, Inhabited

/-- Add a node to the country it belongs to; a new country comes last. -/
def addToCountry (code tag : String) :
    List (String × List String) → List (String × List String)
  | [] => [(code, [tag])]
  | (c, tags) :: rest =>
    if c = code then (c, tags ++ [tag]) :: rest else (c, tags) :: addToCountry code tag rest

/-- The tags of the nodes of each country, in the order in which the countries first occur. -/
def countries (nodes : List Node) : List (String × List String) :=
  nodes.foldl (fun found node => addToCountry node.countryCode node.tag found) []

/-- The elements of a list in the order of their first occurrence. -/
def firstOccurrences {α : Type} [DecidableEq α] : List α → List α
  | [] => []
  | x :: rest => x :: (firstOccurrences rest).filter (· ≠ x)

namespace Group

/-- A group chosen by hand, without a preferred member. -/
def selector (name : String) (members : List String) : Group :=
  ⟨name, .select, members, none⟩

/-- A group tested with default parameters. -/
def tested (name : String) (members : List String) : Group :=
  ⟨name, .defaultTest, members, none⟩

/-- The groups of the countries. -/
def ofCountries (nodes : List Node) : List Group :=
  (countries nodes).map fun c => tested (Country.groupName c.1) c.2

/-- The groups of the enabled filters that accept some node. -/
def ofFilters (filters : List Filter) (nodes : List Node) : List Group :=
  ((filters.filter Filter.enabled).map fun f =>
    (⟨f.name, .ofFilter f, f.members nodes, none⟩ : Group)).filter (!·.members.isEmpty)

/-- The group of all nodes, if there are any. -/
def ofAll (nodes : List Node) : List Group :=
  if nodes.isEmpty then []
  else [tested Outbound.auto (firstOccurrences (nodes.map Node.tag))]

/-- The options of the selector of a rule group. -/
def options (countryNames : List String) (group : RuleGroup) : List String :=
  if Outbound.isSink group.outbound then [Outbound.direct, Outbound.reject, Outbound.proxy]
  else [Outbound.proxy, Outbound.auto, Outbound.direct] ++ countryNames

/-- A selector that prefers a member, if the member is one of its options. -/
def preferring (name : String) (members : List String) (choice : String) : Group :=
  ⟨name, .select, members, members.find? (· == choice)⟩

/-- The selector of a rule group. -/
def ofRuleGroup (countryNames : List String) (group : RuleGroup) : Group :=
  preferring group.name (options countryNames group) group.outbound

/-- The selector for traffic that no rule matches. -/
def finalSelector (settings : Settings) : Group :=
  preferring Outbound.final [Outbound.proxy, Outbound.direct] settings.finalOutbound

/-- All groups: the proxy selector, countries, filters, the automatic group, rule groups, and the
final selector. -/
def build (nodes : List Node) (filters : List Filter) (ruleGroups : List RuleGroup)
    (settings : Settings) : List Group :=
  let byCountry := ofCountries nodes
  let byFilter := ofFilters filters nodes
  let countryNames := byCountry.map Group.name
  selector Outbound.proxy (Outbound.auto :: countryNames ++ byFilter.map Group.name) ::
    (byCountry ++ byFilter ++ ofAll nodes ++
      (ruleGroups.filter RuleGroup.enabled).map (ofRuleGroup countryNames) ++
      [finalSelector settings])

end Group
end ProxyConfig
