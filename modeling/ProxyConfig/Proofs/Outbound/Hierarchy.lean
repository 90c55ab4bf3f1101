import Mathlib.Logic.Relation
import ProxyConfig.Proofs.Compile.Agreement
import ProxyConfig.Proofs.Outbound.Uniqueness

/-!
# The hierarchy of groups

A group refers to its members by name.  The names of a document are in four layers: the selectors of
the rule groups and the final selector on top, then the proxy selector, then the automatic group with
the countries and the filters, and at the bottom the nodes and the two sinks.  Every reference leads
to a lower layer.  A name is in one layer only, because no name is declared twice.

Main results:

- `Hierarchy.sound_of_rank`: what follows when every reference lowers a rank.
- `refers_layers`: where the references of a plan lead.
- `hierarchy_sound`: the hierarchy of both documents of a valid configuration is sound, and
  everything else that the sing-box document refers to is declared.
-/

namespace ProxyConfig

/-! ## Sound hierarchies -/

/-- The groups of a document, and the names of its other outbounds. -/
structure Hierarchy where
  groups : List GroupView
  leaves : List String

namespace Hierarchy

/-- All declared names. -/
def names (h : Hierarchy) : List String :=
  h.groups.map GroupView.name ++ h.leaves

/-- One name refers to another when a group of the first name has a member of the second. -/
def Refers (h : Hierarchy) (a b : String) : Prop :=
  ∃ g ∈ h.groups, g.name = a ∧ b ∈ g.members

/-- What a document asks of its groups.  A chain of references that starts at a group has at most
three steps, and it can be continued until it ends in a leaf. -/
structure Sound (h : Hierarchy) : Prop where
  declared : ∀ g ∈ h.groups, ∀ member ∈ g.members, member ∈ h.names
  inhabited : ∀ g ∈ h.groups, g.members ≠ []
  acyclic : ∀ name, ¬ Relation.TransGen h.Refers name name
  terminal : ∀ leaf ∈ h.leaves, ∀ next, ¬ h.Refers leaf next
  short : ∀ g ∈ h.groups, ∀ path, List.IsChain h.Refers (g.name :: path) → path.length ≤ 3
  grounded : ∀ g ∈ h.groups, ∀ path, List.IsChain h.Refers (g.name :: path) →
    (∀ next, ¬ h.Refers ((g.name :: path).getLast (List.cons_ne_nil _ _)) next) →
      (g.name :: path).getLast (List.cons_ne_nil _ _) ∈ h.leaves

section Rank

variable {h : Hierarchy} {rank : String → Nat} (hrank : ∀ a b, h.Refers a b → rank b < rank a)

include hrank

/-- A path of references lowers the rank. -/
theorem rank_lt_of_transGen {a b : String} (hpath : Relation.TransGen h.Refers a b) :
    rank b < rank a := by
  induction hpath with
  | single hab => exact hrank _ _ hab
  | tail _ hbc ih => exact (hrank _ _ hbc).trans ih

/-- A chain of references has no more steps than the rank at which it starts. -/
theorem length_le_rank {a : String} {path : List String}
    (hchain : List.IsChain h.Refers (a :: path)) : path.length ≤ rank a := by
  induction path generalizing a with
  | nil => exact Nat.zero_le _
  | cons b rest ih =>
    rw [List.isChain_cons_cons] at hchain
    have hlt := hrank a b hchain.1
    have hrest := ih hchain.2
    rw [List.length_cons]
    omega

end Rank

/-- A chain of references stays inside the declared names. -/
theorem getLast_mem_names {h : Hierarchy}
    (hdeclared : ∀ g ∈ h.groups, ∀ member ∈ g.members, member ∈ h.names) {a : String}
    {path : List String} (ha : a ∈ h.names) (hchain : List.IsChain h.Refers (a :: path)) :
    (a :: path).getLast (List.cons_ne_nil _ _) ∈ h.names := by
  induction path generalizing a with
  | nil => exact ha
  | cons b rest ih =>
    rw [List.isChain_cons_cons] at hchain
    obtain ⟨⟨g, hg, _, hb⟩, hrest⟩ := hchain
    rw [List.getLast_cons_cons]
    exact ih (hdeclared g hg b hb) hrest

/-- A hierarchy in which every reference lowers a rank is sound, if the members of its groups are
declared. -/
theorem sound_of_rank {h : Hierarchy} (rank : String → Nat)
    (hrank : ∀ a b, h.Refers a b → rank b < rank a)
    (hdeclared : ∀ g ∈ h.groups, ∀ member ∈ g.members, member ∈ h.names)
    (hinhabited : ∀ g ∈ h.groups, g.members ≠ [])
    (hleaves : ∀ leaf ∈ h.leaves, rank leaf = 0)
    (htop : ∀ g ∈ h.groups, rank g.name ≤ 3) : h.Sound := by
  refine ⟨hdeclared, hinhabited, ?_, ?_, ?_, ?_⟩
  · intro name hcycle
    exact Nat.lt_irrefl _ (rank_lt_of_transGen hrank hcycle)
  · intro leaf hleaf next hrefers
    have hlt := hrank leaf next hrefers
    rw [hleaves leaf hleaf] at hlt
    exact Nat.not_lt_zero _ hlt
  · intro g hg path hchain
    exact (length_le_rank hrank hchain).trans (htop g hg)
  · intro g hg path hchain hend
    have hname : g.name ∈ h.names := List.mem_append_left _ (List.mem_map_of_mem hg)
    have hlast := getLast_mem_names hdeclared hname hchain
    rcases List.mem_append.1 hlast with hgroup | hleaf
    · -- A group can be continued to any of its members.
      obtain ⟨g', hg', hname'⟩ := List.mem_map.1 hgroup
      obtain ⟨member, hmember⟩ := List.exists_mem_of_ne_nil _ (hinhabited g' hg')
      exact absurd ⟨g', hg', hname', hmember⟩ (hend member)
    · exact hleaf

end Hierarchy

/-! ## Layers -/

namespace Model

/-- The selectors that nothing refers to. -/
def topNames (model : Model) : List String :=
  Outbound.final :: (model.ruleGroups.filter RuleGroup.enabled).map RuleGroup.name

/-- The groups of nodes. -/
def middleNames (model : Model) : List String :=
  Outbound.auto :: model.countryNames ++
    (Group.activeFilters model.filters model.encodable).map Filter.name

/-- The nodes and the sinks. -/
def leafNames (model : Model) : List String :=
  model.encodable.map Node.tag ++ [Outbound.direct, Outbound.reject]

/-- The layer of a name. -/
def rank (model : Model) (name : String) : Nat :=
  if name ∈ model.topNames then 3
  else if name = Outbound.proxy then 2
  else if name ∈ model.middleNames then 1
  else 0

/-- The layers are made of the declared names. -/
theorem layers_perm (model : Model) :
    (model.topNames ++ Outbound.proxy :: (model.middleNames ++ model.leafNames)).Perm
      model.declaredNames := by
  rw [List.perm_iff_count]
  intro name
  simp only [topNames, middleNames, leafNames, declaredNames, usedNames, Outbound.fixedNames,
    List.count_append, List.count_cons, List.count_nil]
  omega

theorem rank_of_mem_topNames {model : Model} {name : String} (hname : name ∈ model.topNames) :
    model.rank name = 3 :=
  if_pos hname

namespace WellNamed

variable {model : Model} (h : model.WellNamed)

include h

/-- No name is in two layers. -/
theorem nodup_layers :
    (model.topNames ++ Outbound.proxy :: (model.middleNames ++ model.leafNames)).Nodup :=
  model.layers_perm.nodup_iff.2 h.nodup_declaredNames

theorem notMem_topNames {name : String}
    (hname : name ∈ Outbound.proxy :: (model.middleNames ++ model.leafNames)) :
    name ∉ model.topNames := by
  intro htop
  exact (List.nodup_append.1 h.nodup_layers).2.2 name htop name hname rfl

theorem rank_proxy : model.rank Outbound.proxy = 2 := by
  unfold rank
  rw [if_neg (h.notMem_topNames List.mem_cons_self), if_pos rfl]

theorem ne_proxy {name : String} (hname : name ∈ model.middleNames ++ model.leafNames) :
    name ≠ Outbound.proxy := by
  rintro rfl
  exact (List.nodup_cons.1 (List.nodup_append.1 h.nodup_layers).2.1).1 hname

theorem rank_of_mem_middleNames {name : String} (hname : name ∈ model.middleNames) :
    model.rank name = 1 := by
  have hbelow : name ∈ model.middleNames ++ model.leafNames := List.mem_append_left _ hname
  unfold rank
  rw [if_neg (h.notMem_topNames (List.mem_cons_of_mem _ hbelow)), if_neg (h.ne_proxy hbelow),
    if_pos hname]

theorem rank_of_mem_leafNames {name : String} (hname : name ∈ model.leafNames) :
    model.rank name = 0 := by
  have hbelow : name ∈ model.middleNames ++ model.leafNames := List.mem_append_right _ hname
  have hmiddle : name ∉ model.middleNames := by
    intro hmem
    have hnodup := (List.nodup_cons.1 (List.nodup_append.1 h.nodup_layers).2.1).2
    exact (List.nodup_append.1 hnodup).2.2 name hmem name hname rfl
  unfold rank
  rw [if_neg (h.notMem_topNames (List.mem_cons_of_mem _ hbelow)), if_neg (h.ne_proxy hbelow),
    if_neg hmiddle]

/-- Only the top layer has the highest rank. -/
theorem rank_lt_three {name : String}
    (hname : name ∈ Outbound.proxy :: (model.middleNames ++ model.leafNames)) :
    model.rank name < 3 := by
  rcases List.mem_cons.1 hname with rfl | hbelow
  · rw [h.rank_proxy]
    omega
  · rcases List.mem_append.1 hbelow with hmiddle | hleaf
    · rw [h.rank_of_mem_middleNames hmiddle]
      omega
    · rw [h.rank_of_mem_leafNames hleaf]
      omega

end WellNamed
end Model

/-! ## References between layers -/

section Build

variable {model : Model}

theorem tag_mem_leafNames {n : Node} (hn : n ∈ model.encodable) : n.tag ∈ model.leafNames :=
  List.mem_append_left _ (List.mem_map_of_mem hn)

variable (hnodes : model.encodable ≠ [])

include hnodes

/-- Every reference leads from a layer to a lower one. -/
theorem refers_layers {g : Group}
    (hg : g ∈ Group.build model.encodable model.filters model.ruleGroups model.settings)
    {member : String} (hmember : member ∈ g.members) :
    (g.name ∈ model.topNames ∧
      member ∈ Outbound.proxy :: (model.middleNames ++ model.leafNames)) ∨
    (g.name = Outbound.proxy ∧ member ∈ model.middleNames) ∨
    (g.name ∈ model.middleNames ∧ member ∈ model.leafNames) := by
  have hsinks : Outbound.direct ∈ model.leafNames ∧ Outbound.reject ∈ model.leafNames := by
    simp [Model.leafNames]
  rw [Group.mem_build_iff hnodes] at hg
  rcases hg with rfl | ⟨code, hcode, rfl⟩ | ⟨f, hf, rfl⟩ | rfl | ⟨r, hr, rfl⟩ | rfl
  · exact Or.inr (Or.inl ⟨rfl, hmember⟩)
  · refine Or.inr (Or.inr ⟨?_, ?_⟩)
    · apply List.mem_append_left
      apply List.mem_cons_of_mem
      exact List.mem_map_of_mem (mem_firstOccurrences.2 hcode)
    · obtain ⟨n, hn, rfl⟩ := List.mem_map.1 hmember
      exact tag_mem_leafNames (List.mem_filter.1 hn).1
  · refine Or.inr (Or.inr ⟨List.mem_append_right _ (List.mem_map_of_mem hf), ?_⟩)
    obtain ⟨n, hn, rfl⟩ := List.mem_map.1 hmember
    exact tag_mem_leafNames (List.mem_filter.1 hn).1
  · refine Or.inr (Or.inr ⟨List.mem_append_left _ List.mem_cons_self, ?_⟩)
    obtain ⟨n, hn, rfl⟩ := List.mem_map.1 (mem_firstOccurrences.1 hmember)
    exact tag_mem_leafNames hn
  · refine Or.inl ⟨List.mem_cons_of_mem _ (List.mem_map_of_mem hr), ?_⟩
    change member ∈ Group.options model.countryNames r at hmember
    unfold Group.options at hmember
    split at hmember
    · simp only [List.mem_cons, List.not_mem_nil, or_false] at hmember
      rcases hmember with rfl | rfl | rfl <;> simp [hsinks]
    · simp only [List.cons_append, List.nil_append, List.mem_cons] at hmember
      rcases hmember with rfl | rfl | rfl | hcountry <;> simp [Model.middleNames, *]
  · refine Or.inl ⟨List.mem_cons_self, ?_⟩
    change member ∈ [Outbound.proxy, Outbound.direct] at hmember
    simp only [List.mem_cons, List.not_mem_nil, or_false] at hmember
    rcases hmember with rfl | rfl <;> simp [hsinks]

/-- No group is empty. -/
theorem members_ne_nil {g : Group}
    (hg : g ∈ Group.build model.encodable model.filters model.ruleGroups model.settings) :
    g.members ≠ [] := by
  rw [Group.mem_build_iff hnodes] at hg
  rcases hg with rfl | ⟨code, hcode, rfl⟩ | ⟨f, hf, rfl⟩ | rfl | ⟨r, hr, rfl⟩ | rfl
  · exact List.cons_ne_nil _ _
  · exact tagsOfCountry_ne_nil hcode
  · simpa [Group.ofFilter] using (List.mem_filter.1 hf).2
  · obtain ⟨n, hn⟩ := List.exists_mem_of_ne_nil _ hnodes
    have htag : n.tag ∈ firstOccurrences (model.encodable.map Node.tag) :=
      mem_firstOccurrences.2 (List.mem_map_of_mem hn)
    exact List.ne_nil_of_mem htag
  · change Group.options model.countryNames r ≠ []
    unfold Group.options
    split <;> simp
  · exact List.cons_ne_nil _ _

/-- The preferred member of a group is one of its members. -/
theorem preferred_mem_members {g : Group}
    (hg : g ∈ Group.build model.encodable model.filters model.ruleGroups model.settings)
    {member : String} (hpreferred : g.preferred = some member) : member ∈ g.members := by
  rw [Group.mem_build_iff hnodes] at hg
  rcases hg with rfl | ⟨code, _, rfl⟩ | ⟨f, _, rfl⟩ | rfl | ⟨r, _, rfl⟩ | rfl
  · cases hpreferred
  · cases hpreferred
  · cases hpreferred
  · cases hpreferred
  · exact Group.preferred_mem_of_preferring hpreferred
  · exact Group.preferred_mem_of_preferring hpreferred

/-- The rank of a member is below the rank of its group. -/
theorem rank_member_lt (h : model.WellNamed) {g : Group}
    (hg : g ∈ Group.build model.encodable model.filters model.ruleGroups model.settings)
    {member : String} (hmember : member ∈ g.members) : model.rank member < model.rank g.name := by
  rcases refers_layers hnodes hg hmember with ⟨hname, hlower⟩ | ⟨hname, hmiddle⟩ | ⟨hname, hleaf⟩
  · rw [Model.rank_of_mem_topNames hname]
    exact h.rank_lt_three hlower
  · rw [hname, h.rank_proxy, h.rank_of_mem_middleNames hmiddle]
    omega
  · rw [h.rank_of_mem_middleNames hname, h.rank_of_mem_leafNames hleaf]
    omega

/-- A member is in one of the lower layers. -/
theorem member_mem_lower {g : Group}
    (hg : g ∈ Group.build model.encodable model.filters model.ruleGroups model.settings)
    {member : String} (hmember : member ∈ g.members) :
    member ∈ Outbound.proxy :: (model.middleNames ++ model.leafNames) := by
  rcases refers_layers hnodes hg hmember with ⟨_, hlower⟩ | ⟨_, hmiddle⟩ | ⟨_, hleaf⟩
  · exact hlower
  · exact List.mem_cons_of_mem _ (List.mem_append_left _ hmiddle)
  · exact List.mem_cons_of_mem _ (List.mem_append_right _ hleaf)

end Build

/-! ## The hierarchy of a plan -/

/-- The hierarchy of a plan. -/
def Plan.hierarchy (plan : Plan) : Hierarchy where
  groups := plan.groups.map Group.view
  leaves := (plan.nodes.filter Node.isEncodable).map Node.tag ++ [Outbound.direct, Outbound.reject]

theorem names_hierarchy (plan : Plan) : plan.hierarchy.names = plan.names := by
  simp [Hierarchy.names, Plan.hierarchy, Plan.names, Group.view, Function.comp_def]

section OfModel

variable {model : Model} {options : CompileOptions}

/-- The names of the hierarchy are those of the layers. -/
theorem mem_names_hierarchy (hnodes : model.encodable ≠ []) {name : String} :
    name ∈ (Plan.ofModel model options).hierarchy.names ↔
      name ∈ model.topNames ++ Outbound.proxy :: (model.middleNames ++ model.leafNames) := by
  rw [names_hierarchy, (names_perm hnodes).mem_iff, model.layers_perm.mem_iff]

theorem mem_leafNames_of_mem_leaves {leaf : String}
    (hleaf : leaf ∈ (Plan.ofModel model options).hierarchy.leaves) : leaf ∈ model.leafNames := by
  rcases List.mem_append.1 hleaf with htag | hsink
  · obtain ⟨n, hn, rfl⟩ := List.mem_map.1 htag
    exact tag_mem_leafNames (List.mem_filter.1 hn).1
  · exact List.mem_append_right _ hsink

/-- The hierarchy of the plan of a well-named model is sound. -/
theorem sound_hierarchy (h : model.WellNamed) (hnodes : model.encodable ≠ []) :
    (Plan.ofModel model options).hierarchy.Sound := by
  have hgroups : ∀ view ∈ (Plan.ofModel model options).hierarchy.groups,
      ∃ g ∈ Group.build model.encodable model.filters model.ruleGroups model.settings,
        g.view = view := fun _ hview => List.mem_map.1 hview
  refine Hierarchy.sound_of_rank model.rank ?_ ?_ ?_ ?_ ?_
  · rintro a b ⟨view, hview, rfl, hb⟩
    obtain ⟨g, hg, rfl⟩ := hgroups view hview
    exact rank_member_lt hnodes h hg hb
  · intro view hview member hmember
    obtain ⟨g, hg, rfl⟩ := hgroups view hview
    rw [mem_names_hierarchy hnodes]
    exact List.mem_append_right _ (member_mem_lower hnodes hg hmember)
  · intro view hview
    obtain ⟨g, hg, rfl⟩ := hgroups view hview
    exact members_ne_nil hnodes hg
  · intro leaf hleaf
    exact h.rank_of_mem_leafNames (mem_leafNames_of_mem_leaves hleaf)
  · intro view hview
    have hname : view.name ∈ (Plan.ofModel model options).hierarchy.names :=
      List.mem_append_left _ (List.mem_map_of_mem hview)
    rw [mem_names_hierarchy hnodes] at hname
    rcases List.mem_append.1 hname with htop | hlower
    · exact (Model.rank_of_mem_topNames htop).le
    · exact (h.rank_lt_three hlower).le

end OfModel

/-! ## The hierarchies of the documents -/

/-- The groups of the sing-box document, and its other outbounds. -/
def SingBox.Document.hierarchy (d : SingBox.Document) : Hierarchy where
  groups := d.groupViews
  leaves := (d.outbounds.filter fun e => e.groupView?.isNone).map SingBox.OutboundEntry.tag

/-- The groups of the Clash document, its proxies, and the two sinks. -/
def Clash.Document.hierarchy (d : Clash.Document) : Hierarchy where
  groups := d.groupViews
  leaves := d.proxies.map Clash.Proxy.name ++ [Outbound.direct, Outbound.reject]

/-- The preferred member of an outbound that is a selector. -/
def SingBox.OutboundEntry.preferred? : SingBox.OutboundEntry → Option String
  | .selector _ _ preferred => preferred
  | .urlTest .. | .proxy _ | .direct | .block => none

/-- Only a group that is chosen by hand shows its preferred member. -/
theorem preferred_of_ofGroup {mobile : Bool} {g : Group} {member : String}
    (h : member ∈ (SingBox.OutboundEntry.ofGroup mobile g).preferred?) :
    g.preferred = some member := by
  unfold SingBox.OutboundEntry.ofGroup at h
  cases hkind : g.kind with
  | select =>
    rw [hkind] at h
    exact h
  | urlTest url interval tolerance =>
    rw [hkind] at h
    cases h

theorem SingBox.hierarchy_assemble (plan : Plan) :
    (SingBox.Document.assemble plan).hierarchy = plan.hierarchy := by
  have hleaves : ((SingBox.Document.assemble plan).outbounds.filter
      fun e => e.groupView?.isNone).map SingBox.OutboundEntry.tag = plan.hierarchy.leaves := by
    have hgroups : (plan.groups.map (SingBox.OutboundEntry.ofGroup plan.mobile)).filter
        (fun e => e.groupView?.isNone) = [] := by
      simp
    have hproxies : ((SingBox.encodeAll plan.nodes).map SingBox.OutboundEntry.proxy).filter
        (fun e => e.groupView?.isNone) =
          (SingBox.encodeAll plan.nodes).map SingBox.OutboundEntry.proxy := by
      simp [SingBox.OutboundEntry.groupView?]
    have htags : (SingBox.encodeAll plan.nodes).map SingBox.Proxy.tag =
        (plan.nodes.filter Node.isEncodable).map Node.tag := SingBox.map_tag_encodeAll plan.nodes
    unfold SingBox.Document.assemble Plan.hierarchy
    rw [List.filter_append, List.filter_append, hgroups, hproxies, ← htags]
    simp only [List.nil_append, List.map_append, List.map_map]
    rfl
  unfold SingBox.Document.hierarchy
  rw [hleaves, SingBox.groupViews_assemble]
  rfl

theorem Clash.hierarchy_assemble (plan : Plan) :
    (Clash.Document.assemble plan).hierarchy = plan.hierarchy := by
  unfold Clash.Document.hierarchy Plan.hierarchy
  rw [Clash.groupViews_assemble, ← Clash.map_name_encodeAll]
  rfl

/-- Among the routing records only the fallback holds for everything. -/
theorem eq_fallback_of_always {rules : List Rule} {groups : List RuleGroup} {r : RouteRecord}
    (hr : r ∈ Routing.records rules groups) (halways : r.criterion = .always) :
    r = Routing.fallback := by
  rcases Routing.mem_records_iff.1 hr with ⟨rule, _, _, hrule⟩ | ⟨group, _, _, hgroup⟩ | hlast
  · obtain ⟨value, _, rfl⟩ := List.mem_map.1 hrule
    cases htype : rule.ruleType <;> simp [Criterion.ofValue, htype] at halways
  · obtain ⟨tag, _, rfl⟩ := List.mem_map.1 hgroup
    cases halways
  · exact hlast

/-- The sing-box document leaves to the final selector what no rule matches. -/
theorem finalOutbound_assemble (model : Model) (options : CompileOptions) :
    (SingBox.Document.assemble (Plan.ofModel model options)).finalOutbound = Outbound.final := by
  unfold SingBox.Document.assemble Plan.ofModel
  cases hfind : (Routing.records model.rules model.ruleGroups).find? fun r =>
      r.criterion == .always with
  | none => rfl
  | some r =>
    have hmem := List.mem_of_find?_eq_some hfind
    have halways : r.criterion = .always := by simpa using List.find?_some hfind
    rw [eq_fallback_of_always hmem halways]
    rfl

/-- The documents of a valid configuration have sound hierarchies: every member is declared, no group
is empty, there is no cycle, and every chain of references from a group ends in a node or a sink
after at most three steps.  In the sing-box document a preferred member is a member, and the
outbounds for resolvers, for the download of rule-sets and for unmatched traffic are declared. -/
theorem hierarchy_sound {config : Config} {records : List NodeRecord} {options : CompileOptions}
    {format : Format} {text : String}
    (hnodes : config.model.nodes = records.map NodeRecord.toNode)
    (hvalid : config.validated = .ok config)
    (hcompile : compile format config.model options = .ok text) :
    ∃ plan, Plan.prepare config.model options = .ok plan ∧ text = plan.render format ∧
      (SingBox.Document.assemble plan).hierarchy.Sound ∧
      (Clash.Document.assemble plan).hierarchy.Sound ∧
      (∀ e ∈ (SingBox.Document.assemble plan).outbounds, ∀ member ∈ e.preferred?,
        member ∈ e.members) ∧
      (∀ server ∈ (SingBox.Document.assemble plan).dnsServers,
        server.detour ∈ (SingBox.Document.assemble plan).hierarchy.names) ∧
      (∀ entry ∈ (SingBox.Document.assemble plan).ruleSets, ∀ url detour,
        entry.place = .remote url detour →
          detour ∈ (SingBox.Document.assemble plan).hierarchy.names) ∧
      (SingBox.Document.assemble plan).finalOutbound ∈
        (SingBox.Document.assemble plan).hierarchy.names := by
  have hnamed := wellNamed_of_validated hnodes hvalid
  obtain ⟨plan, hplan, htext⟩ := compile_eq_ok_iff.1 hcompile
  obtain ⟨hsome, rfl⟩ := prepare_eq_ok_iff.1 hplan
  have hfixed : ∀ name ∈ Outbound.fixedNames,
      name ∈ (SingBox.Document.assemble
        (Plan.ofModel config.model options)).hierarchy.names := by
    intro name hname
    rw [SingBox.hierarchy_assemble, names_hierarchy, (names_perm hsome).mem_iff]
    exact List.mem_append_left _ (List.mem_append_left _ hname)
  refine ⟨_, hplan, htext.symm, ?_, ?_, ?_, ?_, ?_, ?_⟩
  · rw [SingBox.hierarchy_assemble]
    exact sound_hierarchy hnamed hsome
  · rw [Clash.hierarchy_assemble]
    exact sound_hierarchy hnamed hsome
  · intro e he member hmember
    rcases mem_outbounds_cases he with ⟨g, hg, rfl⟩ | ⟨p, rfl⟩ | rfl | rfl
    · rw [members_ofGroup]
      exact preferred_mem_members hsome hg (preferred_of_ofGroup hmember)
    · cases hmember
    · cases hmember
    · cases hmember
  · intro server hserver
    apply hfixed
    simp only [SingBox.Document.assemble, List.mem_cons, List.not_mem_nil, or_false] at hserver
    rcases hserver with rfl | rfl <;> simp [Outbound.fixedNames]
  · intro entry hentry url detour hplace
    apply hfixed
    obtain ⟨tag, _, rfl⟩ := List.mem_map.1 hentry
    simp only [SingBox.ruleSetPlace] at hplace
    split at hplace
    · cases hplace
    · cases hplace
      decide
  · rw [finalOutbound_assemble]
    exact hfixed _ (by decide)

/-- The hierarchies of the sample are sound. -/
theorem hierarchy_sound_sample :
    sampleConfig.model.nodes = sampleRecords.map NodeRecord.toNode ∧
    sampleConfig.validated = .ok sampleConfig ∧
    compile .singBox sampleConfig.model {} =
      .ok ((Plan.ofModel sampleConfig.model {}).render .singBox) ∧
    ∃ plan, Plan.prepare sampleConfig.model {} = .ok plan ∧
      (SingBox.Document.assemble plan).hierarchy.Sound ∧
      (Clash.Document.assemble plan).hierarchy.Sound := by
  have hnodes : sampleConfig.model.nodes = sampleRecords.map NodeRecord.toNode := rfl
  refine ⟨hnodes, sampleConfig_validated, compile_sampleConfig .singBox, ?_⟩
  obtain ⟨plan, hplan, _, hsingBox, hclash, _⟩ :=
    hierarchy_sound hnodes sampleConfig_validated (compile_sampleConfig .singBox)
  exact ⟨plan, hplan, hsingBox, hclash⟩

end ProxyConfig
