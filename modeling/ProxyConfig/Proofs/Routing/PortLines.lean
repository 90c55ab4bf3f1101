import ProxyConfig.Proofs.Routing.Targets

/-!
# Port rules in both documents

A port rule of a model gives any texts, and nothing validates them.  The sing-box document leaves
out those that denote neither a port nor a range of ports.  The Clash document writes every one of
them into a line of its own, so the two documents have the same port rules only if all texts are
right.

Main results:

- `isPortLine_ruleLine`: the lines on ports are those of port records.
- `filter_isPort_allRecords`: the port records of a model come from its enabled port rules.
- `port_rules_of_documents`: the port rules that the two documents have.
- `malformed_port_in_one_document`: a valid configuration whose documents differ.
-/

namespace ProxyConfig

/-! ## Port records -/

/-- The record tests a destination port. -/
def RouteRecord.isPort (record : RouteRecord) : Bool :=
  match record.criterion with
  | .port _ => true
  | _ => false

/-- The records of the enabled port rules. -/
def Model.portRecords (model : Model) : List RouteRecord :=
  ((model.rules.filter Rule.enabled).filter fun rule => rule.ruleType = .port).flatMap Rule.records

/-- Either all records of a rule test ports or none does. -/
theorem isPort_of_mem_records {rule : Rule} {record : RouteRecord} (h : record ∈ rule.records) :
    record.isPort = decide (rule.ruleType = .port) := by
  obtain ⟨value, _, rfl⟩ := List.mem_map.1 h
  cases htype : rule.ruleType <;> rfl

theorem filter_isPort_flatMap_records (rules : List Rule) :
    (rules.flatMap Rule.records).filter RouteRecord.isPort =
      (rules.filter fun rule => rule.ruleType = .port).flatMap Rule.records := by
  induction rules with
  | nil => rfl
  | cons rule rest ih =>
    rw [List.flatMap_cons, List.filter_append, ih]
    by_cases htype : rule.ruleType = .port
    · have hall : rule.records.filter RouteRecord.isPort = rule.records :=
        List.filter_eq_self.2 fun record h => by simp [isPort_of_mem_records h, htype]
      rw [hall, List.filter_cons_of_pos (by simpa using htype), List.flatMap_cons]
    · have hnone : rule.records.filter RouteRecord.isPort = [] :=
        List.filter_eq_nil_iff.2 fun record h => by simp [isPort_of_mem_records h, htype]
      rw [hnone, List.filter_cons_of_neg (by simpa using htype), List.nil_append]

/-- Rule groups and the fallback test no ports. -/
theorem filter_isPort_allRecords (model : Model) :
    (Routing.records model.rules model.ruleGroups).filter RouteRecord.isPort =
      model.portRecords := by
  have hgroups : ((model.ruleGroups.filter RuleGroup.enabled).flatMap RuleGroup.records).filter
      RouteRecord.isPort = [] := by
    rw [List.filter_eq_nil_iff]
    intro record hrecord
    obtain ⟨group, _, hgroup⟩ := List.mem_flatMap.1 hrecord
    obtain ⟨tag, _, rfl⟩ := List.mem_map.1 hgroup
    exact Bool.false_ne_true
  have hfallback : [Routing.fallback].filter RouteRecord.isPort = [] := rfl
  rw [Routing.records, List.filter_append, List.filter_append, hgroups, hfallback,
    filter_isPort_flatMap_records, List.append_nil, List.append_nil]
  rfl

/-- A port record has one of the texts of its rule. -/
theorem mem_portRecords_iff {model : Model} {record : RouteRecord} :
    record ∈ model.portRecords ↔
      ∃ rule ∈ model.rules, rule.enabled = true ∧ rule.ruleType = .port ∧
        ∃ value ∈ rule.values, record = ⟨.port value, rule.outbound⟩ := by
  unfold Model.portRecords
  simp only [List.mem_flatMap, List.mem_filter, decide_eq_true_eq, and_assoc]
  refine exists_congr fun rule => and_congr_right fun _ => and_congr_right fun _ =>
    and_congr_right fun htype => ?_
  rw [Rule.records, htype, List.mem_map]
  exact exists_congr fun value => and_congr_right fun _ => eq_comm

/-! ## Lines on ports -/

namespace Clash

/-- The line is on a destination port. -/
def isPortLine (line : String) : Bool :=
  "DST-PORT,".toList.isPrefixOf line.toList

/-- A line begins with the directive of its criterion. -/
theorem exists_ruleLine_eq (record : RouteRecord) :
    ∃ rest, ruleLine record = directive record.criterion ++ "," ++ rest := by
  have hrest : (value? record.criterion).toList ++
      record.outbound :: modifiers record.criterion ≠ [] := by simp
  rw [ruleLine, ruleParts, List.cons_append, String.intercalate_cons_of_ne_nil hrest]
  exact ⟨_, rfl⟩

theorem isPortLine_ruleLine (record : RouteRecord) :
    isPortLine (ruleLine record) = record.isPort := by
  obtain ⟨rest, hrest⟩ := exists_ruleLine_eq record
  unfold isPortLine RouteRecord.isPort
  rw [hrest, String.toList_append, String.toList_append]
  cases record.criterion with
  | ruleSet tag => cases hkind : tag.kind <;> simp [directive, hkind, List.isPrefixOf]
  | _ => simp [directive, List.isPrefixOf]

/-- The text of a port record stands in its line as it is. -/
theorem ruleLine_port (value outbound : String) :
    ruleLine ⟨.port value, outbound⟩ = "DST-PORT," ++ value ++ "," ++ outbound := by
  simp only [ruleLine, ruleParts, directive, value?, modifiers, Option.toList_some,
    List.cons_append, List.nil_append, String.intercalate_cons_cons, String.intercalate_singleton]
  rw [← String.append_assoc, ← String.append_assoc]
  rfl

end Clash

/-! ## Rules on ports -/

namespace SingBox

/-- The rule tests a destination port. -/
def RouteRule.isPort : RouteRule → Bool
  | .send (.port _) _ | .send (.portRange _) _ => true
  | _ => false

/-- The rule of a record tests a port if the record does. -/
theorem isPort_of_renders {rule : RouteRule} {record : RouteRecord} (h : rule.Renders record) :
    rule.isPort = record.isPort := by
  obtain ⟨criterion, outbound⟩ := record
  obtain ⟨matcher, hexpresses, rfl⟩ := h
  cases hexpresses <;> rfl

theorem filter_isPort_filterMap (records : List RouteRecord) :
    (records.filterMap RouteRule.ofRecord?).filter RouteRule.isPort =
      (records.filter RouteRecord.isPort).filterMap RouteRule.ofRecord? := by
  rw [List.filter_filterMap, List.filterMap_filter]
  congr 1
  funext record
  cases hrule : RouteRule.ofRecord? record with
  | none => simp
  | some rule =>
    rw [← isPort_of_renders (ofRecord?_eq_some_iff.1 hrule)]
    cases htest : rule.isPort <;> simp [htest]

/-- A record has a rule among those of the records if it has one at all. -/
theorem exists_renders_iff {records : List RouteRecord} {record : RouteRecord}
    (hrecord : record ∈ records) :
    (∃ rule ∈ records.filterMap RouteRule.ofRecord?, rule.Renders record) ↔
      record.IsExpressible := by
  simp only [← ofRecord?_eq_some_iff]
  rw [← decide_eq_true_iff (p := record.IsExpressible), ← isSome_ofRecord?,
    Option.isSome_iff_exists]
  constructor
  · rintro ⟨rule, _, hrule⟩
    exact ⟨rule, hrule⟩
  · rintro ⟨rule, hrule⟩
    exact ⟨rule, List.mem_filterMap.2 ⟨record, hrecord, hrule⟩, hrule⟩

end SingBox

/-! ## The documents -/

/-- The port rules that a Clash document and a sing-box document have. -/
structure Model.PortRules (model : Model) (clash : Clash.Document) (singBox : SingBox.Document) :
    Prop where
  /-- The Clash document has a line for every text, whatever the text is. -/
  lines : clash.rules.filter Clash.isPortLine = model.portRecords.map Clash.ruleLine
  /-- The sing-box document has a rule for those that denote a port or a range. -/
  rules : List.Forall₂ (fun record rule => SingBox.RouteRule.Renders rule record)
    (model.portRecords.filter RouteRecord.IsExpressible)
    (singBox.rules.filter SingBox.RouteRule.isPort)
  /-- A record that is in the Clash document is in the other one if its text is right. -/
  inBoth : ∀ value outbound, ⟨.port value, outbound⟩ ∈ model.portRecords →
    "DST-PORT," ++ value ++ "," ++ outbound ∈ clash.rules ∧
      ((∃ rule ∈ singBox.rules, rule.Renders ⟨.port value, outbound⟩) ↔ SingBox.IsPortValue value)
  /-- So the documents have the same port rules exactly if all texts are right. -/
  agree : (∀ record ∈ model.portRecords, Clash.ruleLine record ∈ clash.rules ↔
      ∃ rule ∈ singBox.rules, rule.Renders record) ↔
    ∀ rule ∈ model.rules, rule.enabled = true → rule.ruleType = .port →
      ∀ value ∈ rule.values, SingBox.IsPortValue value

variable {model : Model} {options options' : CompileOptions}

/-- A document of a model has a rule for a record of the model if there is one at all. -/
theorem exists_renders_assemble_iff {record : RouteRecord}
    (hrecord : record ∈ Routing.records model.rules model.ruleGroups) :
    (∃ rule ∈ (SingBox.Document.assemble (Plan.ofModel model options)).rules,
      rule.Renders record) ↔ record.IsExpressible := by
  rw [← SingBox.exists_renders_iff hrecord]
  refine exists_congr fun rule => and_congr_left fun hrenders => ?_
  -- The two rules that inspect the traffic render no record.
  obtain ⟨matcher, _, rfl⟩ := hrenders
  have hrules : (SingBox.Document.assemble (Plan.ofModel model options)).rules =
      [.sniff, .hijackDns] ++ (Routing.records model.rules model.ruleGroups).filterMap
        SingBox.RouteRule.ofRecord? := rfl
  rw [hrules]
  simp

/-- The Clash document has all port rules of a model, and the sing-box document has those whose text
denotes a port or a range of ports. -/
theorem port_rules_of_documents {clashText singBoxText : String}
    (hclash : compile .clash model options = .ok clashText)
    (hsingBox : compile .singBox model options' = .ok singBoxText) :
    ∃ plan plan', Plan.prepare model options = .ok plan ∧
      Plan.prepare model options' = .ok plan' ∧
      clashText = Yaml.document (Clash.Document.assemble plan).toJson ∧
      singBoxText = (SingBox.Document.assemble plan').text ∧
      model.PortRules (Clash.Document.assemble plan) (SingBox.Document.assemble plan') := by
  obtain ⟨hnodes, rfl⟩ := compile_eq_ok_iff_render.1 hclash
  obtain ⟨_, rfl⟩ := compile_eq_ok_iff_render.1 hsingBox
  have hall : ∀ record ∈ model.portRecords,
      record ∈ Routing.records model.rules model.ruleGroups := by
    intro record hrecord
    rw [← filter_isPort_allRecords] at hrecord
    exact List.mem_of_mem_filter hrecord
  have hline : ∀ record ∈ model.portRecords, Clash.ruleLine record ∈
      (Clash.Document.assemble (Plan.ofModel model options)).rules :=
    fun record hrecord => List.mem_map_of_mem (hall record hrecord)
  have hrule : ∀ record ∈ model.portRecords,
      (∃ rule ∈ (SingBox.Document.assemble (Plan.ofModel model options')).rules,
        rule.Renders record) ↔ record.IsExpressible :=
    fun record hrecord => exists_renders_assemble_iff (hall record hrecord)
  refine ⟨_, _, prepare_eq_ok_iff.2 ⟨hnodes, rfl⟩, prepare_eq_ok_iff.2 ⟨hnodes, rfl⟩, rfl, rfl,
    ?_, ?_, ?_, ?_⟩
  · change ((Routing.records model.rules model.ruleGroups).map Clash.ruleLine).filter _ = _
    rw [List.filter_map, ← filter_isPort_allRecords]
    congr 2
    funext record
    exact Clash.isPortLine_ruleLine record
  · have hports : (SingBox.Document.assemble (Plan.ofModel model options')).rules.filter
        SingBox.RouteRule.isPort = model.portRecords.filterMap SingBox.RouteRule.ofRecord? := by
      rw [← filter_isPort_allRecords]
      exact SingBox.filter_isPort_filterMap _
    rw [hports]
    exact forall₂_renders model.portRecords
  · intro value outbound hrecord
    rw [← Clash.ruleLine_port]
    exact ⟨hline _ hrecord, hrule _ hrecord⟩
  · constructor
    · intro hagree rule hmem henabled htype value hvalue
      have hrecord : (⟨.port value, rule.outbound⟩ : RouteRecord) ∈ model.portRecords :=
        mem_portRecords_iff.2 ⟨rule, hmem, henabled, htype, value, hvalue, rfl⟩
      exact (hrule _ hrecord).1 ((hagree _ hrecord).1 (hline _ hrecord))
    · intro hright record hrecord
      refine iff_of_true (hline record hrecord) ((hrule record hrecord).2 ?_)
      obtain ⟨rule, hmem, henabled, htype, value, hvalue, rfl⟩ := mem_portRecords_iff.1 hrecord
      exact hright rule hmem henabled htype value hvalue

/-- A configuration with a rule on a port, on something else and on a range of ports. -/
def samplePorts : Config where
  model :=
    { settings := { ruleSetBaseUrl := "a:b" }
      nodes := sampleRecords.map NodeRecord.toNode
      rules := [⟨.port, ["22", "http", "8000:9000"], Outbound.direct, true⟩] }

theorem compile_samplePorts (format : Format) :
    compile format samplePorts.model {} =
      .ok ((Plan.ofModel samplePorts.model {}).render format) :=
  compile_eq_ok_iff_render.2 ⟨by decide, rfl⟩

/-- The port rules in the documents of the sample. -/
theorem port_rules_of_documents_sample :
    (∀ format, compile format samplePorts.model {} =
      .ok ((Plan.ofModel samplePorts.model {}).render format)) ∧
    ∃ plan plan', Plan.prepare samplePorts.model {} = .ok plan ∧
      Plan.prepare samplePorts.model {} = .ok plan' ∧
      (Plan.ofModel samplePorts.model {}).render .clash =
        Yaml.document (Clash.Document.assemble plan).toJson ∧
      (Plan.ofModel samplePorts.model {}).render .singBox =
        (SingBox.Document.assemble plan').text ∧
      samplePorts.model.PortRules (Clash.Document.assemble plan)
        (SingBox.Document.assemble plan') :=
  ⟨compile_samplePorts,
    port_rules_of_documents (compile_samplePorts .clash) (compile_samplePorts .singBox)⟩

/-- The sample is valid and has both documents.  The text `http` denotes no port, and there is a
line with it in the Clash document, although the sing-box document has no rule for its record. -/
theorem malformed_port_in_one_document :
    samplePorts.validated = .ok samplePorts ∧
    (∀ format, compile format samplePorts.model {} =
      .ok ((Plan.ofModel samplePorts.model {}).render format)) ∧
    (Plan.ofModel samplePorts.model {}).render .clash =
      Yaml.document (Clash.Document.assemble (Plan.ofModel samplePorts.model {})).toJson ∧
    (Plan.ofModel samplePorts.model {}).render .singBox =
      (SingBox.Document.assemble (Plan.ofModel samplePorts.model {})).text ∧
    ⟨.port "http", Outbound.direct⟩ ∈ samplePorts.model.portRecords ∧
    ¬ SingBox.IsPortValue "http" ∧
    "DST-PORT,http,DIRECT" ∈ (Clash.Document.assemble (Plan.ofModel samplePorts.model {})).rules ∧
    (SingBox.Document.assemble (Plan.ofModel samplePorts.model {})).rules =
      [.sniff, .hijackDns, .send (.port 22) Outbound.direct,
        .send (.portRange "8000:9000") Outbound.direct] := by
  have hvalid : samplePorts.validated = .ok samplePorts := validated_eq_ok_iff.2 ⟨rfl, rfl⟩
  refine ⟨hvalid, compile_samplePorts, rfl, rfl, ?_, ?_, ?_, ?_⟩
  · decide
  · decide
  · decide +kernel
  · decide +kernel

end ProxyConfig
