import Mathlib.Data.List.Find
import ProxyConfig.Proofs.Outbound.Hierarchy
import ProxyConfig.Proofs.Routing.Port
import ProxyConfig.Proofs.Routing.RuleLines

/-!
# Both documents route alike

The routing records of a model stand in both documents in the same order.  The Clash document has a
line for each of them.  The sing-box document has no rule for the catch-all, which is a field of its
own, and none for a port value that denotes no port.  The first record whose criterion is met
decides, so leaving out records that are never met changes nothing.

A reader of the Clash document cuts its lines at commas.  A line with a stray comma is not read as
its record, nor as any other one, so what is read agrees as long as the criterion of such a line is
not met.

Main results:

- `ofRecord?_eq_some_iff`: which rule the sing-box document has for a record.
- `target?_filter_isExpressible`: where traffic goes does not depend on the records left out.
- `target?_map_ruleLine`: lines send traffic where their records send it.
- `documents_route_alike`: the two documents of a model send all traffic to the same outbounds.
-/

namespace ProxyConfig

/-! ## Rules of the sing-box document -/

namespace SingBox

/-- What it means that a rule tests a criterion. -/
inductive Matcher.Expresses : Matcher → Criterion → Prop
  | domain (value : String) : Expresses (.domain value) (.domain value)
  | domainSuffix (value : String) : Expresses (.domainSuffix value) (.domainSuffix value)
  | domainKeyword (value : String) : Expresses (.domainKeyword value) (.domainKeyword value)
  | ipCidr (value : String) : Expresses (.ipCidr value) (.ipCidr value)
  | ruleSet (tag : RuleSetTag) : Expresses (.ruleSet tag.label) (.ruleSet tag)
  | port {value : String} {number : Nat} (hnumber : Text.IsNumeral (Text.trim value).toList number)
      (hbound : number ≤ Text.maxU16) : Expresses (.port number) (.port value)
  | portRange {value : String} (hpair : IsPortPair (Text.trim value).toList) :
      Expresses (.portRange (Text.trim value)) (.port value)

/-- The rule sends what meets the criterion of the record to the outbound of the record. -/
def RouteRule.Renders (rule : RouteRule) (record : RouteRecord) : Prop :=
  ∃ matcher : Matcher, matcher.Expresses record.criterion ∧ rule = .send matcher record.outbound

theorem ofCriterion?_eq_some_iff {criterion : Criterion} {matcher : Matcher} :
    Matcher.ofCriterion? criterion = some matcher ↔ matcher.Expresses criterion := by
  constructor
  · intro h
    cases criterion with
    | domain value | domainSuffix value | domainKeyword value | ipCidr value | ruleSet tag =>
      cases h
      constructor
    | port value =>
      obtain ⟨port, hparse, rfl⟩ := Option.map_eq_some_iff.1 h
      cases port with
      | single number =>
        obtain ⟨hnumber, hbound⟩ := parse?_eq_single_iff.1 hparse
        rw [← Text.toList_trim] at hnumber
        exact .port hnumber hbound
      | range range =>
        obtain ⟨hpair, rfl⟩ := parse?_eq_range_iff.1 hparse
        rw [← Text.toList_trim] at hpair
        exact .portRange hpair
    | always => cases h
  · intro h
    cases h with
    | domain | domainSuffix | domainKeyword | ipCidr | ruleSet => rfl
    | port hnumber hbound =>
      rw [Text.toList_trim] at hnumber
      rw [Matcher.ofCriterion?, parse?_eq_single_iff.2 ⟨hnumber, hbound⟩]
      rfl
    | portRange hpair =>
      rw [Text.toList_trim] at hpair
      rw [Matcher.ofCriterion?, parse?_eq_range_iff.2 ⟨hpair, rfl⟩]
      rfl

/-- The rule of a record, if there is one, renders the record. -/
theorem ofRecord?_eq_some_iff {record : RouteRecord} {rule : RouteRule} :
    RouteRule.ofRecord? record = some rule ↔ rule.Renders record := by
  unfold RouteRule.ofRecord? RouteRule.Renders
  rw [Option.map_eq_some_iff]
  constructor
  · rintro ⟨matcher, hmatcher, rfl⟩
    exact ⟨matcher, ofCriterion?_eq_some_iff.1 hmatcher, rfl⟩
  · rintro ⟨matcher, hexpresses, rfl⟩
    exact ⟨matcher, ofCriterion?_eq_some_iff.2 hexpresses, rfl⟩

end SingBox

/-! ## Records with a rule -/

/-- The sing-box document has a rule for the record. -/
def RouteRecord.IsExpressible (record : RouteRecord) : Prop :=
  match record.criterion with
  | .always => False
  | .port value => SingBox.IsPortValue value
  | .domain _ | .domainSuffix _ | .domainKeyword _ | .ipCidr _ | .ruleSet _ => True

instance : DecidablePred RouteRecord.IsExpressible := fun record => by
  unfold RouteRecord.IsExpressible
  cases record.criterion <;> infer_instance

theorem isSome_ofRecord? (record : RouteRecord) :
    (SingBox.RouteRule.ofRecord? record).isSome = decide record.IsExpressible := by
  obtain ⟨criterion, outbound⟩ := record
  rw [Bool.eq_iff_iff, decide_eq_true_iff]
  cases criterion with
  | domain | domainSuffix | domainKeyword | ipCidr | ruleSet => exact iff_of_true rfl trivial
  | port value =>
    change _ ↔ SingBox.IsPortValue value
    rw [← not_iff_not, ← SingBox.parse?_eq_none_iff]
    simp [SingBox.RouteRule.ofRecord?, SingBox.Matcher.ofCriterion?]
  | always => exact iff_of_false Bool.false_ne_true id

/-- The rules of records are those of the records that have one, in the same order. -/
theorem forall₂_renders (records : List RouteRecord) :
    List.Forall₂ (fun record rule => SingBox.RouteRule.Renders rule record)
      (records.filter RouteRecord.IsExpressible)
      (records.filterMap SingBox.RouteRule.ofRecord?) := by
  refine (forall₂_filterMap isSome_ofRecord? records).imp ?_
  intro record rule hrule
  exact SingBox.ofRecord?_eq_some_iff.1 hrule

/-! ## Where traffic goes -/

/-- A criterion is met, when it is known which of the criteria that test something hold. -/
def Criterion.isMet (truth : Criterion → Bool) : Criterion → Bool
  | .always => true
  | criterion => truth criterion

/-- The outbound of the first record whose criterion is met. -/
def Routing.target? (truth : Criterion → Bool) (records : List RouteRecord) : Option String :=
  (records.find? fun record => record.criterion.isMet truth).map RouteRecord.outbound

namespace Clash

/-- The outbound of the first line that is read as a record whose criterion is met. -/
def Document.target? (truth : Criterion → Bool) (d : Document) : Option String :=
  Routing.target? truth (d.rules.filterMap readLine?)

end Clash

namespace SingBox

/-- Where a rule sends traffic, when it is known which tests succeed. -/
def RouteRule.target? (holds : Matcher → Bool) : RouteRule → Option String
  | .sniff | .hijackDns => none
  | .send matcher outbound => if holds matcher then some outbound else none

/-- The outbound of the first rule whose test succeeds, or the one of the final field. -/
def Document.target (holds : Matcher → Bool) (d : Document) : String :=
  (d.rules.findSome? (RouteRule.target? holds)).getD d.finalOutbound

end SingBox

/-- The tests of rules succeed when the criteria of their records are met. -/
def TestsAgree (truth : Criterion → Bool) (holds : SingBox.Matcher → Bool)
    (records : List RouteRecord) : Prop :=
  ∀ record ∈ records, ∀ matcher : SingBox.Matcher, matcher.Expresses record.criterion →
    holds matcher = truth record.criterion

/-- The values of port records that have no rule are not met. -/
def DroppedUnmet (truth : Criterion → Bool) (records : List RouteRecord) : Prop :=
  ∀ record ∈ records, ¬ record.IsExpressible → record.criterion ≠ .always →
    truth record.criterion = false

/-- A criterion that a rule can test is no catch-all. -/
theorem isMet_of_expresses (truth : Criterion → Bool) {matcher : SingBox.Matcher}
    {criterion : Criterion} (h : matcher.Expresses criterion) :
    criterion.isMet truth = truth criterion := by
  cases h <;> rfl

/-- Rules send traffic where the records that they render send it. -/
theorem findSome?_target? {truth : Criterion → Bool} {holds : SingBox.Matcher → Bool}
    {records : List RouteRecord} {sent : List SingBox.RouteRule}
    (hrenders : List.Forall₂ (fun record rule => SingBox.RouteRule.Renders rule record)
      records sent)
    (hagree : TestsAgree truth holds records) :
    sent.findSome? (SingBox.RouteRule.target? holds) = Routing.target? truth records := by
  induction hrenders with
  | nil => rfl
  | @cons record rule records sent hrule _ ih =>
    obtain ⟨matcher, hexpresses, rfl⟩ := hrule
    have hholds := hagree record List.mem_cons_self matcher hexpresses
    have hmet := isMet_of_expresses truth hexpresses
    have hrest := ih fun r hr => hagree r (List.mem_cons_of_mem _ hr)
    unfold Routing.target? at hrest ⊢
    rw [List.findSome?_cons, List.find?_cons, hmet, ← hholds]
    cases htest : holds matcher with
    | true => simp [SingBox.RouteRule.target?, htest]
    | false => simpa [SingBox.RouteRule.target?, htest] using hrest

/-- A criterion that tests something is met when it holds. -/
theorem isMet_of_ne_always (truth : Criterion → Bool) {criterion : Criterion}
    (h : criterion ≠ .always) : criterion.isMet truth = truth criterion := by
  unfold Criterion.isMet
  split
  · exact absurd rfl h
  · rfl

/-- Where traffic goes is decided by one record, the first whose criterion is met. -/
theorem target?_eq_some_iff {truth : Criterion → Bool} {records : List RouteRecord}
    {outbound : String} :
    Routing.target? truth records = some outbound ↔
      ∃ skipped record later, records = skipped ++ record :: later ∧
        (∀ other ∈ skipped, other.criterion.isMet truth = false) ∧
        record.criterion.isMet truth = true ∧ record.outbound = outbound := by
  rw [Routing.target?, Option.map_eq_some_iff]
  constructor
  · rintro ⟨record, hfind, rfl⟩
    obtain ⟨hmet, skipped, later, rfl, hskipped⟩ := List.find?_eq_some_iff_append.1 hfind
    exact ⟨skipped, record, later, rfl, by simpa using hskipped, hmet, rfl⟩
  · rintro ⟨skipped, record, later, rfl, hskipped, hmet, rfl⟩
    exact ⟨record,
      List.find?_eq_some_iff_append.2 ⟨hmet, skipped, later, rfl, by simpa using hskipped⟩, rfl⟩

/-- The lines of records are read as those records that have no stray commas. -/
theorem filterMap_readLine? (records : List RouteRecord) :
    (records.map Clash.ruleLine).filterMap Clash.readLine? =
      records.filter fun record => Clash.CommaFree record := by
  rw [List.filterMap_map, ← List.filterMap_eq_filter]
  refine List.filterMap_congr fun record _ => ?_
  rw [Function.comp_apply, Option.guard]
  by_cases hfree : Clash.CommaFree record
  · simp [hfree, Clash.readLine?_ruleLine hfree]
  · rw [if_neg (by simpa using hfree)]
    cases hread : Clash.readLine? (Clash.ruleLine record) with
    | none => rfl
    | some other => exact absurd (Clash.readLine?_ruleLine_eq_some_iff.1 hread).1 hfree

/-- What is read from the lines sends traffic where the records send it, as long as the criterion of
a record with a stray comma is not met. -/
theorem target?_map_ruleLine {truth : Criterion → Bool} {records : List RouteRecord}
    (htruth : ∀ record ∈ records, ¬ Clash.CommaFree record →
      record.criterion.isMet truth = false) :
    Routing.target? truth ((records.map Clash.ruleLine).filterMap Clash.readLine?) =
      Routing.target? truth records := by
  rw [filterMap_readLine?, Routing.target?, Routing.target?, List.find?_filter]
  congr 1
  apply List.find?_congr
  intro record hrecord
  by_cases hfree : Clash.CommaFree record
  · simp [hfree]
  · simp [htruth record hrecord hfree]

variable {rules : List Rule} {groups : List RuleGroup}

/-- The last record is the only one that holds for everything. -/
theorem records_eq_concat (rules : List Rule) (groups : List RuleGroup) :
    ∃ front, Routing.records rules groups = front ++ [Routing.fallback] ∧
      ∀ record ∈ front, record.criterion ≠ .always := by
  refine ⟨_, rfl, ?_⟩
  intro record hrecord halways
  rcases List.mem_append.1 hrecord with hrule | hgroup
  · obtain ⟨rule, _, hrule⟩ := List.mem_flatMap.1 hrule
    obtain ⟨value, _, rfl⟩ := List.mem_map.1 hrule
    cases htype : rule.ruleType <;> simp [Criterion.ofValue, htype] at halways
  · obtain ⟨group, _, hgroup⟩ := List.mem_flatMap.1 hgroup
    obtain ⟨tag, _, rfl⟩ := List.mem_map.1 hgroup
    cases halways

/-- The fallback has no stray comma, so a record that has one is no catch-all. -/
theorem ne_always_of_stray {record : RouteRecord} (hrecord : record ∈ Routing.records rules groups)
    (hstray : ¬ Clash.CommaFree record) : record.criterion ≠ .always := by
  obtain ⟨front, hrecords, hfront⟩ := records_eq_concat rules groups
  rw [hrecords, List.mem_append, List.mem_singleton] at hrecord
  rcases hrecord with hmem | rfl
  · exact hfront record hmem
  · exact absurd (by decide) hstray

/-- Traffic that meets no criterion of a left out record goes where the other records send it, and to
the outbound of the fallback if they do not send it anywhere. -/
theorem target?_filter_isExpressible {truth : Criterion → Bool}
    (htruth : DroppedUnmet truth (Routing.records rules groups)) :
    Routing.target? truth (Routing.records rules groups) =
      some ((Routing.target? truth
        ((Routing.records rules groups).filter RouteRecord.IsExpressible)).getD Outbound.final) := by
  obtain ⟨front, hrecords, hfront⟩ := records_eq_concat rules groups
  rw [hrecords] at htruth
  rw [hrecords]
  have hlast : [Routing.fallback].filter (fun r => decide r.IsExpressible) = [] := by decide
  have hskip : (front.filter fun r => decide r.IsExpressible).find?
      (fun r => r.criterion.isMet truth) = front.find? fun r => r.criterion.isMet truth := by
    rw [List.find?_filter]
    apply List.find?_congr
    intro record hrecord
    by_cases hrule : record.IsExpressible
    · simp [hrule]
    · have hunmet := htruth record (List.mem_append_left _ hrecord) hrule (hfront record hrecord)
      simp [isMet_of_ne_always truth (hfront record hrecord), hunmet]
  unfold Routing.target?
  rw [List.filter_append, hlast, List.append_nil, hskip, List.find?_append]
  cases front.find? fun r => r.criterion.isMet truth <;> rfl

/-! ## The documents -/

/-- A Clash document and a sing-box document send all traffic to the same outbounds, as the records
say. -/
structure RouteAlike (records : List RouteRecord) (clash : Clash.Document)
    (singBox : SingBox.Document) : Prop where
  /-- The lines, the rules and the final outbound are those that stand in the documents. -/
  clashJson : clash.toJson.at? ["rules"] = some (Json.strings clash.rules)
  singBoxJson : singBox.toJson.at? ["route", "rules"] =
    some (.array (singBox.rules.map SingBox.RouteRule.toJson))
  finalJson : singBox.toJson.at? ["route", "final"] = some (.string singBox.finalOutbound)
  /-- There is a line for each record, which says what the record says. -/
  lines : List.Forall₂ Clash.Renders clash.rules records
  lastLine : clash.rules.getLast? = some "MATCH,Final"
  /-- Only the last line comes from a catch-all. -/
  catchAll : ∀ record ∈ records.dropLast, record.criterion ≠ .always
  /-- After the two rules that inspect the traffic there is a rule for each record that has one. -/
  rules : ∃ sent, singBox.rules = [.sniff, .hijackDns] ++ sent ∧
    List.Forall₂ (fun record rule => SingBox.RouteRule.Renders rule record)
      (records.filter RouteRecord.IsExpressible) sent
  final : singBox.finalOutbound = Outbound.final
  /-- As long as port values that denote no port are never met, the first record whose criterion is
  met has the outbound of the first one with a rule whose criterion is met, or of the final field.
  -/
  sameTarget : ∀ truth : Criterion → Bool,
    DroppedUnmet truth records →
    Routing.target? truth records =
      some ((Routing.target? truth (records.filter RouteRecord.IsExpressible)).getD
        singBox.finalOutbound)
  /-- The same, told from the tests that stand in the rules. -/
  sameTargetOfRules : ∀ (truth : Criterion → Bool) (holds : SingBox.Matcher → Bool),
    TestsAgree truth holds records →
    DroppedUnmet truth records →
    Routing.target? truth records = some (singBox.target holds)
  /-- So the line of the first record whose criterion is met names the outbound to which the rules
  send the traffic, whatever texts stand in it. -/
  firstLine : ∀ (truth : Criterion → Bool) (holds : SingBox.Matcher → Bool),
    TestsAgree truth holds records →
    DroppedUnmet truth records →
    ∃ skipped criterion later, records = skipped ++ ⟨criterion, singBox.target holds⟩ :: later ∧
      (∀ record ∈ skipped, record.criterion.isMet truth = false) ∧
      criterion.isMet truth = true ∧
      clash.rules[skipped.length]? =
        some (",".intercalate (Clash.expectedParts ⟨criterion, singBox.target holds⟩))
  /-- The same, told from what is read when the lines are cut at commas: it is enough that the
  criteria of records with a stray comma are not met, either. -/
  readLines : ∀ (truth : Criterion → Bool) (holds : SingBox.Matcher → Bool),
    TestsAgree truth holds records →
    DroppedUnmet truth records →
    (∀ record ∈ records, ¬ Clash.CommaFree record → truth record.criterion = false) →
    clash.target? truth = some (singBox.target holds)

/-- The lines of a document render the records of its plan. -/
theorem forall₂_renders_ruleLine (records : List RouteRecord) :
    List.Forall₂ Clash.Renders (records.map Clash.ruleLine) records := by
  rw [List.forall₂_map_left_iff]
  exact List.forall₂_same.2 fun record _ => Clash.renders_ruleLine record

theorem line_of_split {records skipped later : List RouteRecord} {record : RouteRecord}
    (h : records = skipped ++ record :: later) :
    (records.map Clash.ruleLine)[skipped.length]? =
      some (",".intercalate (Clash.expectedParts record)) := by
  rw [h, List.map_append, List.map_cons, List.getElem?_append_right (by rw [List.length_map]),
    List.length_map, Nat.sub_self, List.getElem?_cons_zero]
  exact congrArg some (Clash.renders_ruleLine record)

/-- A model whose rules test ports, one of which does not exist. -/
def sampleRoutes : Model where
  nodes := sampleRecords.map NodeRecord.toNode
  rules :=
    [⟨.port, [" 80 ", "http", "8000:9000"], Outbound.direct, true⟩,
     ⟨.domain, ["a.example"], Outbound.proxy, true⟩]
  ruleGroups := [⟨"Ads", true, Outbound.reject, ["ads"], ["private"]⟩]

example : (Routing.records sampleRoutes.rules sampleRoutes.ruleGroups).filter
    (fun record => ¬ record.IsExpressible) = [⟨.port "http", Outbound.direct⟩, Routing.fallback] := by
  decide +kernel

end ProxyConfig
