import ProxyConfig.Proofs.Files.RawPath
import ProxyConfig.Proofs.Outbound.Uniqueness
import ProxyConfig.Proofs.RuleSet.Tag

/-!
# Declared rule-sets

A sing-box document declares each rule-set that its rules test, once and in the order of the labels.  The
rules, the declarations and the list of rule-sets to be synchronized are drawn from the same routing
records, at three places.  All declarations of a document say alike where the databases are found: in a
local folder or at the addresses of the source.

Main results:

- `usedRuleSets_assemble`: the rule-sets that the rules of a document test.
- `mem_labels_neededRuleSets_iff`: the parts of a model from which the rule-sets come.
- `declarations_match_uses`: what a document declares.
-/

namespace ProxyConfig

open Files

/-! ## Rule-sets of a model -/

/-- A rule-set of this label occurs in an enabled rule or in an enabled rule group of the model. -/
inductive Model.UsesRuleSet (model : Model) : String → Prop
  | geosite {rule : Rule} {value : String} (hrule : rule ∈ model.rules)
      (henabled : rule.enabled = true) (htype : rule.ruleType = .geosite)
      (hvalue : value ∈ rule.values) : model.UsesRuleSet ("geosite-" ++ value)
  | geoip {rule : Rule} {value : String} (hrule : rule ∈ model.rules)
      (henabled : rule.enabled = true) (htype : rule.ruleType = .geoip)
      (hvalue : value ∈ rule.values) : model.UsesRuleSet ("geoip-" ++ value)
  | site {group : RuleGroup} {name : String} (hgroup : group ∈ model.ruleGroups)
      (henabled : group.enabled = true) (hname : name ∈ group.siteRules) :
      model.UsesRuleSet ("geosite-" ++ name)
  | ip {group : RuleGroup} {name : String} (hgroup : group ∈ model.ruleGroups)
      (henabled : group.enabled = true) (hname : name ∈ group.ipRules) :
      model.UsesRuleSet ("geoip-" ++ name)

/-- Only rules of two types test rule-sets. -/
theorem Criterion.ruleSet?_ofValue_eq_some_iff {ruleType : RuleType} {value : String}
    {tag : RuleSetTag} :
    (ofValue ruleType value).ruleSet? = some tag ↔
      ruleType = .geosite ∧ tag = ⟨.geosite, value⟩ ∨ ruleType = .geoip ∧ tag = ⟨.geoip, value⟩ := by
  cases ruleType <;> simp [ofValue, ruleSet?, eq_comm]

/-- A needed rule-set belongs to a value of an enabled rule or to an enabled rule group. -/
theorem mem_neededRuleSets_iff {rules : List Rule} {groups : List RuleGroup} {tag : RuleSetTag} :
    tag ∈ Routing.neededRuleSets rules groups ↔
      (∃ rule ∈ rules, rule.enabled = true ∧ ∃ value ∈ rule.values,
        (Criterion.ofValue rule.ruleType value).ruleSet? = some tag) ∨
      ∃ group ∈ groups, group.enabled = true ∧ tag ∈ group.tags := by
  have hfound : tag ∈ Routing.neededRuleSets rules groups ↔
      ∃ record ∈ Routing.records rules groups, record.criterion.ruleSet? = some tag := by
    rw [Routing.neededRuleSets, Routing.ruleSets, RuleSetTag.mem_sorted, List.mem_filterMap]
  rw [hfound]
  constructor
  · rintro ⟨record, hrecord, htag⟩
    rcases Routing.mem_records_iff.1 hrecord with
      ⟨rule, hrule, henabled, hof⟩ | ⟨group, hgroup, henabled, hof⟩ | rfl
    · obtain ⟨value, hvalue, rfl⟩ := List.mem_map.1 hof
      exact Or.inl ⟨rule, hrule, henabled, value, hvalue, htag⟩
    · obtain ⟨tag', htag', rfl⟩ := List.mem_map.1 hof
      cases htag
      exact Or.inr ⟨group, hgroup, henabled, htag'⟩
    · cases htag
  · rintro (⟨rule, hrule, henabled, value, hvalue, htag⟩ | ⟨group, hgroup, henabled, htag⟩)
    · have hrecord : ⟨.ofValue rule.ruleType value, rule.outbound⟩ ∈ rule.records :=
        List.mem_map_of_mem hvalue
      exact ⟨_, Routing.mem_records_iff.2 (Or.inl ⟨rule, hrule, henabled, hrecord⟩), htag⟩
    · have hrecord : ⟨.ruleSet tag, group.name⟩ ∈ group.records := List.mem_map_of_mem htag
      exact ⟨_, Routing.mem_records_iff.2 (Or.inr (Or.inl ⟨group, hgroup, henabled, hrecord⟩)), rfl⟩

/-- The labels of the needed rule-sets. -/
theorem mem_labels_neededRuleSets_iff {model : Model} {label : String} :
    label ∈ (Routing.neededRuleSets model.rules model.ruleGroups).map RuleSetTag.label ↔
      model.UsesRuleSet label := by
  simp only [List.mem_map, mem_neededRuleSets_iff, Criterion.ruleSet?_ofValue_eq_some_iff,
    RuleGroup.tags, List.mem_append]
  constructor
  · rintro ⟨_, ⟨rule, hrule, henabled, value, hvalue, ⟨htype, rfl⟩ | ⟨htype, rfl⟩⟩ |
      ⟨group, hgroup, henabled, ⟨name, hname, rfl⟩ | ⟨name, hname, rfl⟩⟩, rfl⟩
    · exact .geosite hrule henabled htype hvalue
    · exact .geoip hrule henabled htype hvalue
    · exact .site hgroup henabled hname
    · exact .ip hgroup henabled hname
  · intro h
    cases h with
    | geosite hrule henabled htype hvalue =>
      exact ⟨_, Or.inl ⟨_, hrule, henabled, _, hvalue, Or.inl ⟨htype, rfl⟩⟩, rfl⟩
    | geoip hrule henabled htype hvalue =>
      exact ⟨_, Or.inl ⟨_, hrule, henabled, _, hvalue, Or.inr ⟨htype, rfl⟩⟩, rfl⟩
    | site hgroup henabled hname =>
      exact ⟨_, Or.inr ⟨_, hgroup, henabled, Or.inl ⟨_, hname, rfl⟩⟩, rfl⟩
    | ip hgroup henabled hname =>
      exact ⟨_, Or.inr ⟨_, hgroup, henabled, Or.inr ⟨_, hname, rfl⟩⟩, rfl⟩

namespace SingBox

/-! ## Rule-sets that rules test -/

/-- The label of the rule-set that a rule tests. -/
def RouteRule.ruleSet? : RouteRule → Option String
  | .send (.ruleSet label) _ => some label
  | .sniff | .hijackDns | .send _ _ => none

/-- The labels of the rule-sets that the rules of a document test, in the order of the rules. -/
def Document.usedRuleSets (d : Document) : List String :=
  d.rules.filterMap RouteRule.ruleSet?

/-- The rule of a record tests the rule-set to which the record refers. -/
theorem ruleSet?_ofRecord? (record : RouteRecord) :
    (RouteRule.ofRecord? record).bind RouteRule.ruleSet? =
      record.criterion.ruleSet?.map RuleSetTag.label := by
  obtain ⟨criterion, outbound⟩ := record
  cases criterion with
  | port value =>
    -- Whatever the port value denotes, no rule-set is tested.
    cases hport : PortValue.parse? value with
    | none => simp [RouteRule.ofRecord?, Matcher.ofCriterion?, hport, Criterion.ruleSet?]
    | some port =>
      cases port <;>
        simp [RouteRule.ofRecord?, Matcher.ofCriterion?, hport, Criterion.ruleSet?,
          RouteRule.ruleSet?]
  | domain | domainSuffix | domainKeyword | ipCidr | ruleSet | always => rfl

/-- The rules of a document test the rule-sets to which its records refer. -/
theorem usedRuleSets_assemble (plan : Plan) :
    (Document.assemble plan).usedRuleSets =
      (plan.records.filterMap fun r => r.criterion.ruleSet?).map RuleSetTag.label := by
  have hrules : (Document.assemble plan).usedRuleSets =
      (plan.records.filterMap RouteRule.ofRecord?).filterMap RouteRule.ruleSet? := rfl
  rw [hrules, List.filterMap_filterMap, List.map_filterMap]
  exact List.filterMap_congr fun record _ => ruleSet?_ofRecord? record

/-! ## Declarations -/

/-- The declaration refers to a file. -/
def RuleSetEntry.isLocal (e : RuleSetEntry) : Bool :=
  match e.place with
  | .file _ => true
  | .remote .. => false

/-- A document declares the rule-sets of its records. -/
theorem labels_ruleSets (plan : Plan) :
    (Document.assemble plan).ruleSets.map RuleSetEntry.label =
      (Routing.ruleSets plan.records).map RuleSetTag.label := by
  simp [Document.assemble, Function.comp_def]

/-- What is declared is tested by a rule, and the other way round. -/
theorem mem_labels_iff_mem_usedRuleSets {plan : Plan} {label : String} :
    label ∈ (Document.assemble plan).ruleSets.map RuleSetEntry.label ↔
      label ∈ (Document.assemble plan).usedRuleSets := by
  rw [labels_ruleSets, usedRuleSets_assemble, Routing.ruleSets]
  simp only [List.mem_map, RuleSetTag.mem_sorted]

/-- The declarations of a plan, which say of all rule-sets alike whether they are files. -/
theorem ruleSets_cases (plan : Plan) :
    (∃ dir, plan.localRuleSets = some dir ∧ plan.mobile = false ∧
      (Document.assemble plan).ruleSets = (Routing.ruleSets plan.records).map fun tag =>
        ⟨tag.label, .file (dir.join tag.fileName).lossy⟩) ∨
    ((plan.localRuleSets = none ∨ plan.mobile = true) ∧
      (Document.assemble plan).ruleSets = (Routing.ruleSets plan.records).map fun tag =>
        ⟨tag.label, .remote ((RuleSetSource.ofSettings plan.settings).url tag) Outbound.direct⟩) := by
  unfold Document.assemble ruleSetPlace
  cases hmobile : plan.mobile with
  | true => exact Or.inr ⟨Or.inr rfl, rfl⟩
  | false =>
    cases hlocal : plan.localRuleSets with
    | none => exact Or.inr ⟨Or.inl rfl, rfl⟩
    | some dir => exact Or.inl ⟨dir, rfl, rfl, rfl⟩

/-- The declaration of a rule-set whose database lies in a folder. -/
def localDeclaration (dir : RawPath) (tag : RuleSetTag) : Json :=
  .object [("type", .string "local"), ("tag", .string tag.label), ("format", .string "binary"),
    ("path", .string (dir.join (tag.label ++ ".srs")).lossy)]

/-- The declaration of a rule-set whose database is downloaded by the program that reads the document.
It does so without a proxy. -/
def remoteDeclaration (source : RuleSetSource) (tag : RuleSetTag) : Json :=
  .object [("type", .string "remote"), ("tag", .string tag.label), ("format", .string "binary"),
    ("url", .string (source.url tag)), ("download_detour", .string "DIRECT")]

/-- In a folder whose path is a text, the path of a database is this text with the name of the file.
-/
theorem localDeclaration_ofText (dir : String) (tag : RuleSetTag) :
    localDeclaration (.ofText dir) tag =
      .object [("type", .string "local"), ("tag", .string tag.label), ("format", .string "binary"),
        ("path", .string (Path.join dir (tag.label ++ ".srs")))] := by
  rw [localDeclaration, RawPath.lossy_join_ofText]

/-! ## What stands in the document -/

/-- A rule of a document tests the rule-set of the label. -/
def TestsRuleSet (rule : Json) (label : String) : Prop :=
  ∃ items, rule.at? ["rule_set"] = some (.array items) ∧ .string label ∈ items

/-- What a rule tests can be read off the document. -/
theorem testsRuleSet_toJson_iff {rule : RouteRule} {label : String} :
    TestsRuleSet rule.toJson label ↔ rule.ruleSet? = some label := by
  unfold TestsRuleSet
  cases rule with
  | sniff | hijackDns => simp [RouteRule.toJson, RouteRule.ruleSet?, Json.at?, Json.find?]
  | send matcher outbound =>
    cases matcher <;>
      simp [RouteRule.toJson, Matcher.field, RouteRule.ruleSet?, Json.at?, Json.find?, Json.strings,
        eq_comm]

theorem at?_tag_toJson (e : RuleSetEntry) : e.toJson.at? ["tag"] = some (.string e.label) := by
  obtain ⟨label, place⟩ := e
  cases place <;> simp [RuleSetEntry.toJson, Json.at?, Json.find?]

/-- A document with these rules declares the rule-sets that it uses.  `labels` are the tags of the
declarations. -/
structure DeclaresUses (model : Model) (options : CompileOptions) (rules declared : List Json)
    (labels : List String) : Prop where
  tags : declared.map (Json.at? ["tag"]) = labels.map fun label => some (.string label)
  increasing : labels.Pairwise (· < ·)
  used : ∀ label, label ∈ labels ↔ ∃ rule ∈ rules, TestsRuleSet rule label
  needed : labels =
    (Routing.neededRuleSets model.rules model.ruleGroups).map RuleSetTag.label
  sources : ∀ label, label ∈ labels ↔ model.UsesRuleSet label
  /-- All of them lie in the folder that is given, unless the document is for a mobile device; without a
  folder, or on a mobile device, all are downloaded. -/
  places :
    (∃ dir, options.localRuleSets = some dir ∧ options.mobile = false ∧
      model.settings.mobileMode = false ∧
      declared = (Routing.neededRuleSets model.rules model.ruleGroups).map (localDeclaration dir)) ∨
    ((options.localRuleSets = none ∨ options.mobile = true ∨ model.settings.mobileMode = true) ∧
      declared = (Routing.neededRuleSets model.rules model.ruleGroups).map
        (remoteDeclaration (.ofSettings model.settings)))
  /-- The path of a local rule-set is the text of the folder, if it has one, with the name of the
  file. -/
  paths : ∀ dir, options.localRuleSets = some (.ofText dir) → options.mobile = false →
    model.settings.mobileMode = false →
    declared = (Routing.neededRuleSets model.rules model.ruleGroups).map fun tag =>
      .object [("type", .string "local"), ("tag", .string tag.label), ("format", .string "binary"),
        ("path", .string (Path.join dir (tag.label ++ ".srs")))]

/-- The declarations of a document of a model. -/
theorem toJson_ruleSets_cases (model : Model) (options : CompileOptions) :
    (∃ dir, options.localRuleSets = some dir ∧ options.mobile = false ∧
      model.settings.mobileMode = false ∧
      (Document.assemble (Plan.ofModel model options)).ruleSets.map RuleSetEntry.toJson =
        (Routing.neededRuleSets model.rules model.ruleGroups).map (localDeclaration dir)) ∨
    ((options.localRuleSets = none ∨ options.mobile = true ∨ model.settings.mobileMode = true) ∧
      (Document.assemble (Plan.ofModel model options)).ruleSets.map RuleSetEntry.toJson =
        (Routing.neededRuleSets model.rules model.ruleGroups).map
          (remoteDeclaration (.ofSettings model.settings))) := by
  rcases ruleSets_cases (Plan.ofModel model options) with
    ⟨dir, hlocal, hmobile, hentries⟩ | ⟨hremote, hentries⟩
  · have hmobile' : options.mobile = false ∧ model.settings.mobileMode = false := by
      simpa [Plan.ofModel] using hmobile
    refine Or.inl ⟨dir, hlocal, hmobile'.1, hmobile'.2, ?_⟩
    rw [hentries, List.map_map]
    rfl
  · refine Or.inr ⟨?_, ?_⟩
    · simpa [Plan.ofModel] using hremote
    · rw [hentries, List.map_map]
      rfl

end SingBox

/-- The rule-sets that a sing-box document declares are those that its rules test and those that the
enabled rules and groups of the model need. -/
theorem declarations_match_uses {model : Model} {options : CompileOptions} {text : String}
    (hcompile : compile .singBox model options = .ok text) :
    ∃ plan, Plan.prepare model options = .ok plan ∧
      text = Json.pretty (SingBox.Document.assemble plan).toJson ∧
      ∃ rules declared labels,
        (SingBox.Document.assemble plan).toJson.at? ["route", "rules"] = some (.array rules) ∧
        (SingBox.Document.assemble plan).toJson.at? ["route", "rule_set"] =
          some (.array declared) ∧
        SingBox.DeclaresUses model options rules declared labels := by
  obtain ⟨hnodes, rfl⟩ := compile_eq_ok_iff_render.1 hcompile
  have hlabels : (SingBox.Document.assemble (Plan.ofModel model options)).ruleSets.map
      SingBox.RuleSetEntry.label =
        (Routing.neededRuleSets model.rules model.ruleGroups).map RuleSetTag.label :=
    SingBox.labels_ruleSets _
  have hplaces := SingBox.toJson_ruleSets_cases model options
  refine ⟨_, prepare_eq_ok_iff.2 ⟨hnodes, rfl⟩, rfl, _, _, _, SingBox.Document.at?_rules_toJson _,
    SingBox.Document.at?_ruleSets_toJson _, ?_, ?_, ?_, hlabels, ?_, hplaces, ?_⟩
  · simp [SingBox.at?_tag_toJson]
  · rw [hlabels]
    exact RuleSetTag.pairwise_label_sorted _
  · intro label
    rw [SingBox.mem_labels_iff_mem_usedRuleSets, SingBox.Document.usedRuleSets, List.mem_filterMap]
    simp [SingBox.testsRuleSet_toJson_iff]
  · intro label
    rw [hlabels]
    exact mem_labels_neededRuleSets_iff
  · intro dir hdir hmobile hsetting
    rcases hplaces with ⟨_, hlocal, _, _, hdeclared⟩ | ⟨hremote, _⟩
    · obtain rfl := Option.some.inj (hlocal.symm.trans hdir)
      rw [hdeclared]
      exact List.map_congr_left fun tag _ => SingBox.localDeclaration_ofText dir tag
    · simp [hdir, hmobile, hsetting] at hremote

/-- A model whose rules and groups share a rule-set, and which has a group that is not enabled. -/
def sampleDeclarations : Model where
  nodes := sampleRecords.map NodeRecord.toNode
  rules :=
    [⟨.geosite, ["cn", "ads"], Outbound.direct, true⟩, ⟨.geoip, ["cn"], Outbound.direct, true⟩,
     ⟨.port, ["http"], Outbound.direct, true⟩]
  ruleGroups :=
    [⟨"Ads", true, Outbound.reject, ["ads"], ["private"]⟩, ⟨"Games", false, "Auto", ["steam"], []⟩]

/-- The declarations of the sample. -/
theorem declarations_match_uses_sample :
    ∃ text, compile .singBox sampleDeclarations ⟨false, some (.ofText "d")⟩ = .ok text ∧
      ∃ plan, Plan.prepare sampleDeclarations ⟨false, some (.ofText "d")⟩ = .ok plan ∧
        text = Json.pretty (SingBox.Document.assemble plan).toJson ∧
        ∃ rules declared,
          (SingBox.Document.assemble plan).toJson.at? ["route", "rules"] = some (.array rules) ∧
          (SingBox.Document.assemble plan).toJson.at? ["route", "rule_set"] =
            some (.array declared) ∧
          SingBox.DeclaresUses sampleDeclarations ⟨false, some (.ofText "d")⟩ rules declared
            ["geoip-cn", "geoip-private", "geosite-ads", "geosite-cn"] := by
  have hcompile : compile .singBox sampleDeclarations ⟨false, some (.ofText "d")⟩ =
      .ok ((Plan.ofModel sampleDeclarations ⟨false, some (.ofText "d")⟩).render .singBox) :=
    compile_eq_ok_iff_render.2 ⟨by decide, rfl⟩
  obtain ⟨plan, hplan, htext, rules, declared, labels, hrules, hdeclared, hdeclares⟩ :=
    declarations_match_uses hcompile
  have hneeded : (Routing.neededRuleSets sampleDeclarations.rules
      sampleDeclarations.ruleGroups).map RuleSetTag.label =
        ["geoip-cn", "geoip-private", "geosite-ads", "geosite-cn"] := by decide +kernel
  obtain rfl := hdeclares.needed.trans hneeded
  exact ⟨_, hcompile, plan, hplan, htext, rules, declared, hrules, hdeclared, hdeclares⟩

end ProxyConfig
