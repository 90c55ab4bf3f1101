import ProxyConfig.Proofs.Routing.Agreement

/-!
# Where the rules lead

Every rule of a document names an outbound.  The rules of a rule group lead to its selector and the
catch-all leads to the final selector; the documents declare both.  A rule of the model leads to the
outbound that it gives, and nothing compares this text with the names that are declared.  What is
declared depends on the nodes that can be encoded, on the filters that accept one of them, and on
the rule groups that are enabled, so a rule can lead to an outbound that does not exist.  A Clash
line is cut at its commas by whoever reads it, so one with a comma in a text does not name the
outbound that it was made for.

Main results:

- `mem_declaredNames_iff`: where the declared names come from.
- `declares_or_rule`: only the rules of the model can lead to a name that is not declared.
- `route_targets_declared_iff`: when all rules of a document lead to declared outbounds.
- `rule_to_undeclared_outbound`: a valid configuration with a rule that leads nowhere.
-/

namespace ProxyConfig

/-! ## Declared names -/

/-- The model has a reason to declare the name. -/
inductive Model.Declares (model : Model) : String → Prop
  | fixed {name : String} (hname : name ∈ Outbound.fixedNames) : model.Declares name
  | country {n : Node} (hn : n ∈ model.nodes) (hencodable : n.isEncodable = true) :
      model.Declares (Country.groupName n.countryCode)
  | node {n : Node} (hn : n ∈ model.nodes) (hencodable : n.isEncodable = true) :
      model.Declares n.tag
  | filter {f : Filter} {n : Node} (hf : f ∈ model.filters) (henabled : f.enabled = true)
      (hn : n ∈ model.nodes) (hencodable : n.isEncodable = true) (haccepts : f.accepts n = true) :
      model.Declares f.name
  | ruleGroup {g : RuleGroup} (hg : g ∈ model.ruleGroups) (henabled : g.enabled = true) :
      model.Declares g.name

/-- A filter is active if it is enabled and accepts some node. -/
theorem Group.mem_activeFilters_iff {filters : List Filter} {nodes : List Node} {f : Filter} :
    f ∈ activeFilters filters nodes ↔
      f ∈ filters ∧ f.enabled = true ∧ ∃ n ∈ nodes, f.accepts n = true := by
  have haccepts : (!(f.members nodes).isEmpty) = true ↔ ∃ n ∈ nodes, f.accepts n = true := by
    simp [Filter.members]
  rw [activeFilters, List.mem_filter, haccepts, List.mem_filter, and_assoc]

variable {model : Model} {options : CompileOptions}

/-- The declared names have these reasons and no others. -/
theorem mem_declaredNames_iff {name : String} :
    name ∈ model.declaredNames ↔ model.Declares name := by
  unfold Model.declaredNames Model.countryNames Group.countryNames Model.usedNames
  simp only [List.mem_append, List.mem_map, mem_firstOccurrences, mem_encodable,
    Group.mem_activeFilters_iff, List.mem_filter]
  constructor
  · rintro ((hfixed | ⟨_, ⟨n, ⟨hn, hencodable⟩, rfl⟩, rfl⟩) |
      (⟨n, ⟨hn, hencodable⟩, rfl⟩ | ⟨f, ⟨hf, henabled, n, ⟨hn, hencodable⟩, haccepts⟩, rfl⟩) |
      ⟨g, ⟨hg, henabled⟩, rfl⟩)
    · exact .fixed hfixed
    · exact .country hn hencodable
    · exact .node hn hencodable
    · exact .filter hf henabled hn hencodable haccepts
    · exact .ruleGroup hg henabled
  · intro h
    cases h with
    | fixed hfixed => exact Or.inl (Or.inl hfixed)
    | country hn hencodable => exact Or.inl (Or.inr ⟨_, ⟨_, ⟨hn, hencodable⟩, rfl⟩, rfl⟩)
    | node hn hencodable => exact Or.inr (Or.inl (Or.inl ⟨_, ⟨hn, hencodable⟩, rfl⟩))
    | filter hf henabled hn hencodable haccepts =>
      exact Or.inr (Or.inl (Or.inr ⟨_, ⟨hf, henabled, _, ⟨hn, hencodable⟩, haccepts⟩, rfl⟩))
    | ruleGroup hg henabled => exact Or.inr (Or.inr ⟨_, ⟨hg, henabled⟩, rfl⟩)

/-- The hierarchy of a plan has the names that its model declares. -/
theorem mem_names_hierarchy_iff (hnodes : model.encodable ≠ []) {name : String} :
    name ∈ (Plan.ofModel model options).hierarchy.names ↔ model.Declares name := by
  rw [names_hierarchy, (names_perm hnodes).mem_iff, mem_declaredNames_iff]

/-! ## Targets of records -/

/-- The records of a rule lead to the outbound that it gives. -/
theorem Rule.outbound_of_mem_records {rule : Rule} {record : RouteRecord}
    (h : record ∈ rule.records) : record.outbound = rule.outbound := by
  obtain ⟨value, _, rfl⟩ := List.mem_map.1 h
  rfl

/-- A rule has a record if it has a value. -/
theorem Rule.exists_mem_records_iff {rule : Rule} :
    (∃ record ∈ rule.records, True) ↔ rule.values ≠ [] := by
  constructor
  · rintro ⟨record, hrecord, _⟩
    obtain ⟨value, hvalue, _⟩ := List.mem_map.1 hrecord
    exact List.ne_nil_of_mem hvalue
  · intro hvalues
    obtain ⟨value, hvalue⟩ := List.exists_mem_of_ne_nil _ hvalues
    exact ⟨_, List.mem_map_of_mem hvalue, trivial⟩

/-- Only the rules of the model can lead to a name that is not declared. -/
theorem declares_or_rule {record : RouteRecord}
    (h : record ∈ Routing.records model.rules model.ruleGroups) :
    model.Declares record.outbound ∨
      ∃ rule ∈ model.rules, rule.enabled = true ∧ record ∈ rule.records ∧
        record.outbound = rule.outbound := by
  rcases Routing.mem_records_iff.1 h with
    ⟨rule, hrule, henabled, hrecord⟩ | ⟨group, hgroup, henabled, hrecord⟩ | rfl
  · exact Or.inr ⟨rule, hrule, henabled, hrecord, Rule.outbound_of_mem_records hrecord⟩
  · obtain ⟨tag, _, rfl⟩ := List.mem_map.1 hrecord
    exact Or.inl (.ruleGroup hgroup henabled)
  · have hfinal : Routing.fallback.outbound ∈ Outbound.fixedNames := by decide
    exact Or.inl (.fixed hfinal)

/-- The records with a property lead to declared names exactly if the rules do that have such a record. -/
theorem forall_declares_iff (p : RouteRecord → Prop) :
    (∀ record ∈ Routing.records model.rules model.ruleGroups, p record →
        model.Declares record.outbound) ↔
      ∀ rule ∈ model.rules, rule.enabled = true → (∃ record ∈ rule.records, p record) →
        model.Declares rule.outbound := by
  constructor
  · rintro hall rule hrule henabled ⟨record, hrecord, hp⟩
    rw [← Rule.outbound_of_mem_records hrecord]
    exact hall record (Routing.mem_records_iff.2 (Or.inl ⟨rule, hrule, henabled, hrecord⟩)) hp
  · intro hrules record hrecord hp
    rcases declares_or_rule hrecord with hdeclared | ⟨rule, hrule, henabled, hof, heq⟩
    · exact hdeclared
    · rw [heq]
      exact hrules rule hrule henabled ⟨record, hof, hp⟩

/-! ## Targets of the documents -/

/-- The outbound that a rule names.  The rules that inspect the traffic name none. -/
def SingBox.RouteRule.outbound? : SingBox.RouteRule → Option String
  | .sniff | .hijackDns => none
  | .send _ outbound => some outbound

/-- The outbounds that the rules of a sing-box document name, in order. -/
def SingBox.Document.targets (d : SingBox.Document) : List String :=
  d.rules.filterMap SingBox.RouteRule.outbound?

/-- The outbound that a rule names can be read off the document. -/
theorem at?_outbound_toJson (rule : SingBox.RouteRule) :
    rule.toJson.at? ["outbound"] = rule.outbound?.map .string := by
  cases rule with
  | sniff | hijackDns =>
    simp [SingBox.RouteRule.toJson, SingBox.RouteRule.outbound?, Json.at?, Json.find?]
  | send matcher outbound =>
    cases matcher <;>
      simp [SingBox.RouteRule.toJson, SingBox.Matcher.field, SingBox.RouteRule.outbound?, Json.at?,
        Json.find?]

theorem filterMap_at?_outbound_toJson (d : SingBox.Document) :
    (d.rules.map SingBox.RouteRule.toJson).filterMap (Json.at? ["outbound"]) =
      d.targets.map Json.string := by
  rw [SingBox.Document.targets, List.filterMap_map, List.map_filterMap]
  exact List.filterMap_congr fun rule _ => at?_outbound_toJson rule

/-- A rule names the outbound of the record that it renders. -/
theorem filterMap_outbound?_of_renders {records : List RouteRecord} {sent : List SingBox.RouteRule}
    (hrenders : List.Forall₂ (fun record rule => SingBox.RouteRule.Renders rule record)
      records sent) :
    sent.filterMap SingBox.RouteRule.outbound? = records.map RouteRecord.outbound := by
  induction hrenders with
  | nil => rfl
  | cons hrule _ ih =>
    obtain ⟨matcher, _, rfl⟩ := hrule
    rw [List.map_cons, ← ih]
    rfl

/-- The rules of a document name the outbounds of the records that have a rule. -/
theorem targets_assemble (plan : Plan) :
    (SingBox.Document.assemble plan).targets =
      (plan.records.filter RouteRecord.IsExpressible).map RouteRecord.outbound := by
  rw [← filterMap_outbound?_of_renders (forall₂_renders plan.records)]
  rfl

/-- All lines of records are read and name an outbound of a list exactly if all records lead to such
an outbound and have no stray comma. -/
theorem forall_readLine?_iff {records : List RouteRecord} {names : List String} :
    (∀ line ∈ records.map Clash.ruleLine, ∃ record, Clash.readLine? line = some record ∧
        record.outbound ∈ names) ↔
      (∀ record ∈ records, Clash.CommaFree record) ∧ ∀ record ∈ records, record.outbound ∈ names := by
  rw [← forall₂_and, List.forall_mem_map]
  refine forall₂_congr fun record _ => ?_
  constructor
  · rintro ⟨other, hread, hnames⟩
    obtain ⟨hfree, rfl⟩ := Clash.readLine?_ruleLine_eq_some_iff.1 hread
    exact ⟨hfree, hnames⟩
  · rintro ⟨hfree, hnames⟩
    exact ⟨record, Clash.readLine?_ruleLine hfree, hnames⟩

/-- How the outbounds that the rules of two documents name are related to those that the documents
declare.  A name is declared if it is one of the fixed names, the group of the country of a node, the tag
of a node, the name of an enabled filter that accepts a node, or the name of an enabled rule group; only
nodes count that can be encoded. -/
structure Model.RouteTargets (model : Model) (clash : Clash.Document) (singBox : SingBox.Document) :
    Prop where
  clashNames : ∀ name, name ∈ clash.hierarchy.names ↔ model.Declares name
  singBoxNames : ∀ name, name ∈ singBox.hierarchy.names ↔ model.Declares name
  /-- The lines and the targets are those that stand in the documents. -/
  clashJson : clash.toJson.at? ["rules"] = some (Json.strings clash.rules)
  singBoxJson : ∃ rules, singBox.toJson.at? ["route", "rules"] = some (.array rules) ∧
    rules.filterMap (Json.at? ["outbound"]) = singBox.targets.map Json.string
  finalJson : singBox.toJson.at? ["route", "final"] = some (.string singBox.finalOutbound)
  /-- There is a line for each record, which says what the record says. -/
  lines : List.Forall₂ Clash.Renders clash.rules (Routing.records model.rules model.ruleGroups)
  /-- What is read from the lines are the records without stray commas. -/
  readLines : clash.rules.filterMap Clash.readLine? =
    (Routing.records model.rules model.ruleGroups).filter fun record => Clash.CommaFree record
  /-- The rules name the outbounds of the records that have a rule. -/
  targets : singBox.targets =
    ((Routing.records model.rules model.ruleGroups).filter RouteRecord.IsExpressible).map
      RouteRecord.outbound
  /-- Records that do not come from a rule of the model lead to declared outbounds.  The others lead to
  the outbound that the rule gives. -/
  origin : ∀ record ∈ Routing.records model.rules model.ruleGroups,
    model.Declares record.outbound ∨
      ∃ rule ∈ model.rules, rule.enabled = true ∧ record ∈ rule.records ∧
        record.outbound = rule.outbound
  /-- So all records lead to a declared outbound exactly if all enabled rules with a value do, -/
  recordTargets : (∀ record ∈ Routing.records model.rules model.ruleGroups,
      record.outbound ∈ clash.hierarchy.names) ↔
    ∀ rule ∈ model.rules, rule.enabled = true → rule.values ≠ [] → model.Declares rule.outbound
  /-- and all lines can be read and name a declared outbound exactly if, besides, no record has a
  stray comma. -/
  clashTargets : (∀ line ∈ clash.rules, ∃ record, Clash.readLine? line = some record ∧
      record.outbound ∈ clash.hierarchy.names) ↔
    (∀ record ∈ Routing.records model.rules model.ruleGroups, Clash.CommaFree record) ∧
      ∀ rule ∈ model.rules, rule.enabled = true → rule.values ≠ [] → model.Declares rule.outbound
  singBoxTargets : (∀ target ∈ singBox.targets, target ∈ singBox.hierarchy.names) ↔
    ∀ rule ∈ model.rules, rule.enabled = true → (∃ record ∈ rule.records, record.IsExpressible) →
      model.Declares rule.outbound
  /-- What no rule of the sing-box document matches goes to a declared outbound, too. -/
  final : singBox.finalOutbound ∈ singBox.hierarchy.names

/-- In both documents of a model, whatever its rules give, all rules lead to declared outbounds exactly if
those rules of the model do from which a rule of the document comes. -/
theorem route_targets_declared_iff {format : Format} {text : String}
    (hcompile : compile format model options = .ok text) :
    ∃ plan, Plan.prepare model options = .ok plan ∧ text = plan.render format ∧
      model.RouteTargets (Clash.Document.assemble plan) (SingBox.Document.assemble plan) := by
  obtain ⟨plan, hplan, htext⟩ := compile_eq_ok_iff.1 hcompile
  obtain ⟨hnodes, rfl⟩ := prepare_eq_ok_iff.1 hplan
  have hclash : ∀ name, name ∈ (Clash.Document.assemble
      (Plan.ofModel model options)).hierarchy.names ↔ model.Declares name := by
    intro name
    rw [Clash.hierarchy_assemble]
    exact mem_names_hierarchy_iff hnodes
  have hsingBox : ∀ name, name ∈ (SingBox.Document.assemble
      (Plan.ofModel model options)).hierarchy.names ↔ model.Declares name := by
    intro name
    rw [SingBox.hierarchy_assemble]
    exact mem_names_hierarchy_iff hnodes
  have htargets := targets_assemble (Plan.ofModel model options)
  have hfinal : Outbound.final ∈ Outbound.fixedNames := by decide
  have hrecords : (∀ record ∈ Routing.records model.rules model.ruleGroups,
      record.outbound ∈ (Clash.Document.assemble (Plan.ofModel model options)).hierarchy.names) ↔
      ∀ rule ∈ model.rules, rule.enabled = true → rule.values ≠ [] →
        model.Declares rule.outbound := by
    have hrules : (∀ record ∈ Routing.records model.rules model.ruleGroups, True →
        model.Declares record.outbound) ↔ _ := forall_declares_iff fun _ => True
    simp only [true_imp_iff, Rule.exists_mem_records_iff] at hrules
    simp only [hclash]
    exact hrules
  refine ⟨_, hplan, htext.symm, hclash, hsingBox, Clash.Document.at?_rules_toJson _,
    ⟨_, SingBox.Document.at?_rules_toJson _, filterMap_at?_outbound_toJson _⟩,
    SingBox.Document.at?_final_toJson _, forall₂_renders_ruleLine _, filterMap_readLine? _, htargets, fun _ => declares_or_rule, hrecords, ?_, ?_, ?_⟩
  · rw [← hrecords]
    exact forall_readLine?_iff
  · have hrules : (∀ record ∈ Routing.records model.rules model.ruleGroups, record.IsExpressible →
        model.Declares record.outbound) ↔ _ := forall_declares_iff RouteRecord.IsExpressible
    simp only [htargets, hsingBox, List.forall_mem_map, List.mem_filter, decide_eq_true_eq, and_imp]
    exact hrules
  · rw [hsingBox, finalOutbound_assemble]
    exact .fixed hfinal

/-- A configuration with a rule that leads to an enabled filter.  The filter accepts none of the nodes, and
so it has no group. -/
def sampleTargets : Config where
  model :=
    { settings := { ruleSetBaseUrl := "a:b" }
      nodes := sampleRecords.map NodeRecord.toNode
      filters := [⟨"Japan", true, .select, [], [], ["JP"], [], none⟩]
      rules := [⟨.domain, ["a.example"], "Japan", true⟩] }

theorem compile_sampleTargets (format : Format) :
    compile format sampleTargets.model {} =
      .ok ((Plan.ofModel sampleTargets.model {}).render format) :=
  compile_eq_ok_iff_render.2 ⟨by decide, rfl⟩

/-- Where the rules of the documents of the sample lead. -/
theorem route_targets_declared_iff_sample :
    compile .clash sampleTargets.model {} =
      .ok ((Plan.ofModel sampleTargets.model {}).render .clash) ∧
    ∃ plan, Plan.prepare sampleTargets.model {} = .ok plan ∧
      sampleTargets.model.RouteTargets (Clash.Document.assemble plan)
        (SingBox.Document.assemble plan) := by
  obtain ⟨plan, hplan, _, htargets⟩ :=
    route_targets_declared_iff (compile_sampleTargets .clash)
  exact ⟨compile_sampleTargets .clash, plan, hplan, htargets⟩

/-- A configuration with a rule group that has a comma in its name. -/
def sampleComma : Config where
  model :=
    { settings := { ruleSetBaseUrl := "a:b" }
      nodes := sampleRecords.map NodeRecord.toNode
      ruleGroups := [⟨"Ads, Trackers", true, Outbound.reject, ["ads"], []⟩] }

theorem compile_sampleComma (format : Format) :
    compile format sampleComma.model {} =
      .ok ((Plan.ofModel sampleComma.model {}).render format) :=
  compile_eq_ok_iff_render.2 ⟨by decide, rfl⟩

/-- Two samples are valid and have both documents.  Each document of the first one has a rule that
leads to an outbound which it does not declare.  In the second one a line of the Clash document has
a part too much, because of the comma in the name of the group, and the part that stands in the
place of an outbound is not declared, either. -/
theorem rule_to_undeclared_outbound :
    sampleTargets.model.nodes = sampleRecords.map NodeRecord.toNode ∧
    sampleTargets.validated = .ok sampleTargets ∧
    ∃ plan, (∀ format, compile format sampleTargets.model {} = .ok (plan.render format)) ∧
      "DOMAIN,a.example,Japan" ∈ (Clash.Document.assemble plan).rules ∧
      "Japan" ∉ (Clash.Document.assemble plan).hierarchy.names ∧
      .send (.domain "a.example") "Japan" ∈ (SingBox.Document.assemble plan).rules ∧
      "Japan" ∉ (SingBox.Document.assemble plan).hierarchy.names ∧
    sampleComma.validated = .ok sampleComma ∧
    ∃ plan', (∀ format, compile format sampleComma.model {} = .ok (plan'.render format)) ∧
      "GEOSITE,ads,Ads, Trackers" ∈ (Clash.Document.assemble plan').rules ∧
      Clash.lineParts "GEOSITE,ads,Ads, Trackers" = ["GEOSITE", "ads", "Ads", " Trackers"] ∧
      Clash.readLine? "GEOSITE,ads,Ads, Trackers" = none ∧
      "Ads" ∉ (Clash.Document.assemble plan').hierarchy.names := by
  have hvalid : sampleTargets.validated = .ok sampleTargets := validated_eq_ok_iff.2 ⟨rfl, rfl⟩
  have hvalid' : sampleComma.validated = .ok sampleComma := validated_eq_ok_iff.2 ⟨rfl, rfl⟩
  have hparts : Clash.lineParts "GEOSITE,ads,Ads, Trackers" =
      ["GEOSITE", "ads", "Ads", " Trackers"] := by
    rw [← List.map_inj_right fun _ _ h => String.toList_inj.1 h, Clash.map_toList_lineParts]
    decide
  have hread : Clash.readLine? "GEOSITE,ads,Ads, Trackers" = none := by
    rw [Clash.readLine?, hparts]
    decide
  refine ⟨rfl, hvalid, Plan.ofModel sampleTargets.model {}, compile_sampleTargets, ?_, ?_, ?_, ?_,
    hvalid', Plan.ofModel sampleComma.model {}, compile_sampleComma, ?_, hparts, hread, ?_⟩
  · decide +kernel
  · decide +kernel
  · decide +kernel
  · decide +kernel
  · decide +kernel
  · decide +kernel

end ProxyConfig
