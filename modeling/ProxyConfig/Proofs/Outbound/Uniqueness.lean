import Mathlib.Data.List.Perm.Basic
import ProxyConfig.Proofs.Compile.Plan
import ProxyConfig.Proofs.Country.GroupName
import ProxyConfig.Proofs.Node.CommonView
import ProxyConfig.Proofs.Outbound.Groups
import ProxyConfig.Proofs.Validation.Names

/-!
# Outbound names never collide

The names of a document come from five sources: the fixed names, the countries of the nodes that can
be encoded, these nodes, the active filters, and the enabled rule groups.  Validation goes through
the names that the model gives and compares them with the fixed names and with the countries of all
nodes.  That is more than the documents use, so nothing that they declare is declared twice.

Main results:

- `Model.WellNamed`: what a valid model knows about its names.
- `WellNamed.nodup_declaredNames`: the names from the five sources are all different.
- `tags_outbounds`, `names_clash`, `names_perm`: each document declares these names and no others.
- `outbound_names_distinct`: no document declares a name twice, and no group lists a member twice.
-/

namespace ProxyConfig

/-! ## Valid models -/

/-- What a valid model knows about its names: the codes of its nodes are in canonical form, and the
given names are different from each other and from the reserved ones. -/
structure Model.WellNamed (model : Model) : Prop where
  canonical : ∀ n ∈ model.nodes, Country.canonical n.countryCode = n.countryCode
  nodup : (Validation.givenNames model).Nodup
  unreserved : ∀ name ∈ Validation.givenNames model, name ∉ Validation.reservedNames model

/-- A valid configuration whose nodes were read from records has a well-named model. -/
theorem wellNamed_of_validated {config : Config} {records : List NodeRecord}
    (hnodes : config.model.nodes = records.map NodeRecord.toNode)
    (hvalid : config.validated = .ok config) : config.model.WellNamed := by
  obtain ⟨hnodup, hunreserved⟩ := names_of_validated hvalid
  refine ⟨?_, hnodup, hunreserved⟩
  intro n hn
  rw [hnodes, List.mem_map] at hn
  obtain ⟨record, _, rfl⟩ := hn
  exact canonical_countryCode_toNode record

/-! ## The declared names -/

namespace Model

/-- The names of the countries of the nodes that can be encoded. -/
def countryNames (model : Model) : List String :=
  Group.countryNames model.encodable

/-- The names that a model gives to what the documents contain: nodes that can be encoded, active
filters and enabled rule groups. -/
def usedNames (model : Model) : List String :=
  model.encodable.map Node.tag ++
    (Group.activeFilters model.filters model.encodable).map Filter.name ++
    (model.ruleGroups.filter RuleGroup.enabled).map RuleGroup.name

/-- All names that the documents of a model declare. -/
def declaredNames (model : Model) : List String :=
  Outbound.fixedNames ++ model.countryNames ++ model.usedNames

/-- The documents use some of the given names, in their order. -/
theorem usedNames_sublist (model : Model) :
    model.usedNames.Sublist (Validation.givenNames model) := by
  unfold usedNames Validation.givenNames
  refine List.Sublist.append (List.Sublist.append ?_ ?_) (List.Sublist.refl _)
  · exact List.filter_sublist.map Node.tag
  · exact List.filter_sublist.map Filter.name

/-- The groups of countries in the documents are those of nodes of the model. -/
theorem mem_reservedNames_of_mem_countryNames {model : Model} {name : String}
    (h : name ∈ model.countryNames) : name ∈ Validation.reservedNames model := by
  simp only [countryNames, Group.countryNames, List.mem_map, mem_firstOccurrences] at h
  obtain ⟨_, ⟨n, hn, rfl⟩, rfl⟩ := h
  unfold Validation.reservedNames
  apply List.mem_append_right
  exact List.mem_map_of_mem (mem_encodable.1 hn).1

namespace WellNamed

variable {model : Model} (h : model.WellNamed)

include h

/-- Different countries have different groups. -/
theorem nodup_countryNames : model.countryNames.Nodup := by
  refine Country.nodup_map_groupName (nodup_firstOccurrences _) fun code hcode => ?_
  rw [mem_firstOccurrences, List.mem_map] at hcode
  obtain ⟨n, hn, rfl⟩ := hcode
  exact h.canonical n (mem_encodable.1 hn).1

/-- No name that is used is fixed or belongs to a country. -/
theorem notMem_usedNames {name : String}
    (hname : name ∈ Outbound.fixedNames ++ model.countryNames) : name ∉ model.usedNames := by
  intro hused
  have hgiven := (usedNames_sublist model).mem hused
  apply h.unreserved name hgiven
  rcases List.mem_append.1 hname with hfixed | hcountry
  · exact List.mem_append_left _ hfixed
  · exact mem_reservedNames_of_mem_countryNames hcountry

/-- The names from the five sources are all different. -/
theorem nodup_declaredNames : model.declaredNames.Nodup := by
  unfold declaredNames
  rw [List.nodup_append, List.nodup_append]
  refine ⟨⟨by decide, h.nodup_countryNames, ?_⟩, h.nodup.sublist (usedNames_sublist model), ?_⟩
  · rintro fixed hfixed name hname rfl
    simp only [countryNames, Group.countryNames, List.mem_map] at hname
    obtain ⟨code, _, rfl⟩ := hname
    exact Country.groupName_notMem_fixedNames code hfixed
  · rintro name hname used hused rfl
    exact h.notMem_usedNames hname hused

/-- The nodes that can be encoded have different tags. -/
theorem nodup_tags : (model.encodable.map Node.tag).Nodup := by
  refine List.Nodup.sublist ?_ h.nodup_declaredNames
  unfold declaredNames usedNames
  rw [List.append_assoc, List.append_assoc]
  exact (List.sublist_append_left _ _).trans
    ((List.sublist_append_right _ _).trans (List.sublist_append_right _ _))

/-- No group lists a member twice. -/
theorem nodup_members (hnodes : model.encodable ≠ []) {g : Group}
    (hg : g ∈ Group.build model.encodable model.filters model.ruleGroups model.settings) :
    g.members.Nodup := by
  rw [Group.mem_build_iff hnodes] at hg
  rcases hg with rfl | ⟨code, _, rfl⟩ | ⟨f, _, rfl⟩ | rfl | ⟨r, _, rfl⟩ | rfl
  · -- The members of the top selector are declared in the order in which it lists them.
    refine List.Nodup.sublist ?_ h.nodup_declaredNames
    have hfixed : [Outbound.auto].Sublist Outbound.fixedNames := by decide
    have hfilters : ((Group.activeFilters model.filters model.encodable).map Filter.name).Sublist
        model.usedNames := by
      unfold usedNames
      rw [List.append_assoc]
      exact (List.sublist_append_left _ _).trans (List.sublist_append_right _ _)
    exact (hfixed.append (List.Sublist.refl _)).append hfilters
  · exact h.nodup_tags.sublist (List.filter_sublist.map Node.tag)
  · exact h.nodup_tags.sublist (List.filter_sublist.map Node.tag)
  · exact nodup_firstOccurrences _
  · change (Group.options model.countryNames r).Nodup
    unfold Group.options
    split
    · decide
    · have hfixed : [Outbound.proxy, Outbound.auto, Outbound.direct].Sublist
          Outbound.fixedNames := by decide
      refine List.Nodup.sublist ?_ h.nodup_declaredNames
      exact (hfixed.append (List.Sublist.refl _)).trans (List.sublist_append_left _ _)
  · change [Outbound.proxy, Outbound.direct].Nodup
    decide

end WellNamed
end Model

/-! ## The names in the documents -/

section Documents

variable {model : Model} {options : CompileOptions}

/-- The names of the groups and of the nodes of a plan, with the two sinks. -/
def Plan.names (plan : Plan) : List String :=
  plan.groups.map Group.name ++ (plan.nodes.filter Node.isEncodable).map Node.tag ++
    [Outbound.direct, Outbound.reject]

/-- The names of a plan are the declared names of its model. -/
theorem names_perm (hnodes : model.encodable ≠ []) :
    (Plan.ofModel model options).names.Perm model.declaredNames := by
  have hall : model.encodable.filter Node.isEncodable = model.encodable := by
    rw [List.filter_eq_self]
    intro n hn
    exact (mem_encodable.1 hn).2
  rw [List.perm_iff_count]
  intro name
  simp only [Plan.names, Plan.ofModel, hall, Group.map_name_build hnodes, Model.declaredNames,
    Model.usedNames, Model.countryNames, Outbound.fixedNames, List.count_append, List.count_cons,
    List.count_nil]
  omega

/-- The tags in the sing-box document are the names of its plan. -/
theorem tags_outbounds (plan : Plan) :
    (SingBox.Document.assemble plan).outbounds.map SingBox.OutboundEntry.tag = plan.names := by
  have hgroup : ∀ g, (SingBox.OutboundEntry.ofGroup plan.mobile g).tag = g.name := by
    intro g
    unfold SingBox.OutboundEntry.ofGroup
    cases g.kind <;> rfl
  unfold SingBox.Document.assemble Plan.names
  rw [← SingBox.map_tag_encodeAll]
  simp only [List.map_append, List.map_map, Function.comp_def, hgroup]
  rfl

/-- The names in the Clash document are the names of its plan. -/
theorem names_clash (plan : Plan) :
    (Clash.Document.assemble plan).groups.map Clash.ProxyGroup.name ++
        (Clash.Document.assemble plan).proxies.map Clash.Proxy.name ++
        [Outbound.direct, Outbound.reject] = plan.names := by
  unfold Clash.Document.assemble Plan.names
  rw [← Clash.map_name_encodeAll, List.map_map]
  rfl

@[simp]
theorem members_ofGroup (mobile : Bool) (g : Group) :
    (SingBox.OutboundEntry.ofGroup mobile g).members = g.members := by
  unfold SingBox.OutboundEntry.ofGroup
  cases g.kind <;> rfl

/-- An outbound is a group of the plan, a node, or a sink. -/
theorem mem_outbounds_cases {plan : Plan} {e : SingBox.OutboundEntry}
    (he : e ∈ (SingBox.Document.assemble plan).outbounds) :
    (∃ g ∈ plan.groups, e = .ofGroup plan.mobile g) ∨ (∃ p, e = .proxy p) ∨ e = .direct ∨
      e = .block := by
  simp only [SingBox.Document.assemble, List.mem_append, List.mem_map, List.mem_cons,
    List.not_mem_nil, or_false] at he
  rcases he with (⟨g, hg, rfl⟩ | ⟨p, _, rfl⟩) | rfl | rfl
  · exact Or.inl ⟨g, hg, rfl⟩
  · exact Or.inr (Or.inl ⟨p, rfl⟩)
  · exact Or.inr (Or.inr (Or.inl rfl))
  · exact Or.inr (Or.inr (Or.inr rfl))

end Documents

/-- In the documents of a valid configuration no name is declared twice.  In the sing-box document
the names are the tags of all outbounds; in the Clash document they are those of the groups and the
proxies, together with the two sinks, which are always there.  No group lists a member twice. -/
theorem outbound_names_distinct {config : Config} {records : List NodeRecord}
    {options : CompileOptions} {format : Format} {text : String}
    (hnodes : config.model.nodes = records.map NodeRecord.toNode)
    (hvalid : config.validated = .ok config)
    (hcompile : compile format config.model options = .ok text) :
    ∃ plan, Plan.prepare config.model options = .ok plan ∧ text = plan.render format ∧
      ((SingBox.Document.assemble plan).outbounds.map SingBox.OutboundEntry.tag).Nodup ∧
      ((Clash.Document.assemble plan).groups.map Clash.ProxyGroup.name ++
        (Clash.Document.assemble plan).proxies.map Clash.Proxy.name ++
        [Outbound.direct, Outbound.reject]).Nodup ∧
      (∀ e ∈ (SingBox.Document.assemble plan).outbounds, e.members.Nodup) ∧
      ∀ g ∈ (Clash.Document.assemble plan).groups, g.proxies.Nodup := by
  have hnamed := wellNamed_of_validated hnodes hvalid
  obtain ⟨plan, hplan, htext⟩ := compile_eq_ok_iff.1 hcompile
  obtain ⟨hsome, hofModel⟩ := prepare_eq_ok_iff.1 hplan
  have hnames : plan.names.Nodup := by
    rw [hofModel, (names_perm hsome).nodup_iff]
    exact hnamed.nodup_declaredNames
  have hmembers : ∀ g ∈ plan.groups, g.members.Nodup := by
    intro g hg
    rw [hofModel] at hg
    exact hnamed.nodup_members hsome hg
  refine ⟨plan, hplan, htext.symm, ?_, ?_, ?_, ?_⟩
  · rw [tags_outbounds]
    exact hnames
  · rw [names_clash]
    exact hnames
  · intro e he
    rcases mem_outbounds_cases he with ⟨g, hg, rfl⟩ | ⟨p, rfl⟩ | rfl | rfl
    · rw [members_ofGroup]
      exact hmembers g hg
    · exact List.nodup_nil
    · exact List.nodup_nil
    · exact List.nodup_nil
  · intro c hc
    obtain ⟨g, hg, rfl⟩ := List.mem_map.1 hc
    exact hmembers g hg

/-- Records of two nodes without a country, one of them of an unknown type, and of two nodes of one
country that is written in different ways. -/
def sampleRecords : List NodeRecord :=
  [⟨"plain", "trojan", "a.example", 443, none, []⟩,
   ⟨"odd", "wireguard", "b.example", 51820, some " ", []⟩,
   ⟨"first", "shadowsocks", "c.example", 8388, some "hk", []⟩,
   ⟨"second", "vmess", "d.example", 443, some " HK ", []⟩]

/-- A configuration in which every source of names is used. -/
def sampleConfig : Config where
  model :=
    { settings := { ruleSetBaseUrl := "a:b", finalOutbound := Outbound.direct }
      nodes := sampleRecords.map NodeRecord.toNode
      filters := [⟨"Asia", true, .urlTest, [], [], ["HK"], [], none⟩]
      ruleGroups :=
        [⟨"Streaming", true, "Auto", ["netflix"], []⟩, ⟨"Ads", true, "REJECT", ["ads"], []⟩] }

theorem sampleConfig_validated : sampleConfig.validated = .ok sampleConfig :=
  validated_eq_ok_iff.2 ⟨rfl, rfl⟩

theorem compile_sampleConfig (format : Format) :
    compile format sampleConfig.model {} =
      .ok ((Plan.ofModel sampleConfig.model {}).render format) :=
  compile_eq_ok_iff_render.2 ⟨by decide, rfl⟩

/-- No name is declared twice in the documents of the sample. -/
theorem outbound_names_distinct_sample :
    sampleConfig.model.nodes = sampleRecords.map NodeRecord.toNode ∧
    sampleConfig.validated = .ok sampleConfig ∧
    compile .clash sampleConfig.model {} =
      .ok ((Plan.ofModel sampleConfig.model {}).render .clash) ∧
    ∃ plan, Plan.prepare sampleConfig.model {} = .ok plan ∧
      (plan.groups.map Group.name).length = 8 ∧
      ((SingBox.Document.assemble plan).outbounds.map SingBox.OutboundEntry.tag).Nodup := by
  have hnodes : sampleConfig.model.nodes = sampleRecords.map NodeRecord.toNode := rfl
  refine ⟨hnodes, sampleConfig_validated, compile_sampleConfig .clash, ?_⟩
  obtain ⟨plan, hplan, _, hdistinct, _⟩ :=
    outbound_names_distinct hnodes sampleConfig_validated (compile_sampleConfig .clash)
  refine ⟨plan, hplan, ?_, hdistinct⟩
  rw [(prepare_eq_ok_iff.1 hplan).2]
  decide +kernel

end ProxyConfig
