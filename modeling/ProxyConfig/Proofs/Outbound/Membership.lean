import Mathlib.Data.List.Perm.Basic
import ProxyConfig.Proofs.Country.GroupName
import ProxyConfig.Proofs.Outbound.Groups

/-!
# Which nodes belong to which group

The groups of the countries divide the nodes: every node is in exactly one of them, and none of them
is empty.  The groups of the filters choose among the nodes, the automatic group takes all of them,
and the top-level selector names the groups in the order in which they stand.

Main results:

- `inOrderOfOccurrence_iff`: the order of first occurrence, told from the positions of the elements.
- `flatMap_filter_perm`: the parts of a list with given values make up the part with those values.
- `dividesByCountry_ofCountries`, `choosesByFilter_ofFilters`, `selectsForRuleGroups_ofRuleGroup`:
  what the groups of the three kinds hold.
- `groups_divide_nodes`: all groups, in order.
-/

namespace ProxyConfig

/-! ## Order of first occurrence -/

section Occurrence

variable {α : Type} [DecidableEq α]

/-- The elements of a list, each once, in the order in which they first occur. -/
structure InOrderOfOccurrence (distinct l : List α) : Prop where
  mem_iff : ∀ x, x ∈ distinct ↔ x ∈ l
  ordered : distinct.Pairwise fun x y => l.idxOf x < l.idxOf y

theorem pairwise_idxOf_firstOccurrences (l : List α) :
    (firstOccurrences l).Pairwise fun x y => l.idxOf x < l.idxOf y := by
  induction l with
  | nil => exact List.Pairwise.nil
  | cons x rest ih =>
    have hlater : ∀ y, y ≠ x → (x :: rest).idxOf y = rest.idxOf y + 1 :=
      fun y hy => List.idxOf_cons_ne rest (Ne.symm hy)
    rw [firstOccurrences, List.pairwise_cons]
    constructor
    · intro y hy
      rw [List.idxOf_cons_self, hlater y (by simpa using (List.mem_filter.1 hy).2)]
      exact Nat.succ_pos _
    · refine (ih.filter _).imp_of_mem ?_
      intro y z hy hz hlt
      rw [hlater y (by simpa using (List.mem_filter.1 hy).2),
        hlater z (by simpa using (List.mem_filter.1 hz).2)]
      exact Nat.succ_lt_succ hlt

/-- There is one list of the elements in the order of their first occurrence. -/
theorem inOrderOfOccurrence_iff {distinct l : List α} :
    InOrderOfOccurrence distinct l ↔ distinct = firstOccurrences l := by
  have hfirst : InOrderOfOccurrence (firstOccurrences l) l :=
    ⟨fun _ => mem_firstOccurrences, pairwise_idxOf_firstOccurrences l⟩
  constructor
  · intro h
    have hnodup : distinct.Nodup := h.ordered.imp fun hlt heq => by
      rw [heq] at hlt
      exact lt_irrefl _ hlt
    have hperm : distinct.Perm (firstOccurrences l) :=
      (List.perm_ext_iff_of_nodup hnodup (nodup_firstOccurrences l)).2 fun x =>
        (h.mem_iff x).trans (hfirst.mem_iff x).symm
    refine hperm.eq_of_pairwise ?_ h.ordered hfirst.ordered
    intro x y _ _ hxy hyx
    exact absurd hyx (lt_asymm hxy)
  · rintro rfl
    exact hfirst

end Occurrence

/-- The elements that have one of several values, collected value by value. -/
theorem flatMap_filter_perm {α β : Type} [DecidableEq α] (value : β → α) {values : List α}
    (hvalues : values.Nodup) (l : List β) :
    (values.flatMap fun v => l.filter fun x => value x = v).Perm
      (l.filter fun x => value x ∈ values) := by
  induction values with
  | nil => simp
  | cons v rest ih =>
    obtain ⟨hv, hrest⟩ := List.nodup_cons.1 hvalues
    have hhere : (l.filter fun x => value x ∈ v :: rest).filter (fun x => value x = v) =
        l.filter fun x => value x = v := by
      rw [List.filter_filter]
      apply List.filter_congr
      intro x _
      by_cases hx : value x = v <;> simp [hx]
    have hthere : (l.filter fun x => value x ∈ v :: rest).filter (fun x => !decide (value x = v)) =
        l.filter fun x => value x ∈ rest := by
      rw [List.filter_filter]
      apply List.filter_congr
      intro x _
      by_cases hx : value x = v <;> simp [hx, hv]
    rw [List.flatMap_cons]
    refine ((ih hrest).append_left _).trans ?_
    rw [← hhere, ← hthere]
    exact List.filter_append_perm _ _

/-! ## Groups of the countries -/

/-- The node carries the code.  The code for others stands for nodes without a country, too. -/
def Node.Carries (node : Node) (code : String) : Prop :=
  node.country = some code ∨ node.country = none ∧ code = Country.other

instance (node : Node) : DecidablePred node.Carries :=
  fun code => inferInstanceAs (Decidable (node.country = some code ∨ _ ∧ code = Country.other))

theorem Node.carries_iff {node : Node} {code : String} :
    node.Carries code ↔ node.countryCode = code := by
  unfold Carries countryCode
  cases node.country <;> simp [eq_comm]

/-- The groups stand for the codes of the nodes, in the order in which these first occur, and every
node is in one of them. -/
structure DividesByCountry (nodes : List Node) (codes : List String) (groups : List Group) :
    Prop where
  codes_first : InOrderOfOccurrence codes (nodes.map Node.countryCode)
  names_eq : groups.map Group.name = codes.map Country.groupName
  members_eq : groups.map Group.members = codes.map fun code =>
    (nodes.filter fun n => n.Carries code).map Node.tag
  kinds : ∀ g ∈ groups, g.kind = .defaultTest ∧ g.preferred = none
  nodup_names : (groups.map Group.name).Nodup
  members_ne_nil : ∀ g ∈ groups, g.members ≠ []
  members_perm : (groups.flatMap Group.members).Perm (nodes.map Node.tag)

namespace Group

variable {nodes : List Node} {filters : List Filter}

theorem tagsOfCountry_eq (nodes : List Node) (code : String) :
    tagsOfCountry nodes code = (nodes.filter fun n => n.Carries code).map Node.tag := by
  simp only [tagsOfCountry, Node.carries_iff]

/-- The countries together hold every node once. -/
theorem flatMap_members_ofCountries_perm (nodes : List Node) :
    ((ofCountries nodes).flatMap members).Perm (nodes.map Node.tag) := by
  have hall : (nodes.filter fun n =>
      n.countryCode ∈ firstOccurrences (nodes.map Node.countryCode)) = nodes := by
    rw [List.filter_eq_self]
    intro n hn
    simpa using ⟨n, hn, rfl⟩
  have hparts := (flatMap_filter_perm Node.countryCode
    (nodup_firstOccurrences (nodes.map Node.countryCode)) nodes).map Node.tag
  rw [hall, List.map_flatMap] at hparts
  rw [ofCountries_eq, List.flatMap_map]
  exact hparts

/-- The groups of the countries of nodes that were read from records. -/
theorem dividesByCountry_ofCountries (records : List NodeRecord) :
    DividesByCountry (records.map NodeRecord.toNode)
      (firstOccurrences ((records.map NodeRecord.toNode).map Node.countryCode))
      (ofCountries (records.map NodeRecord.toNode)) where
  codes_first := inOrderOfOccurrence_iff.2 rfl
  names_eq := map_name_ofCountries _
  members_eq := by
    rw [ofCountries_eq, List.map_map]
    exact List.map_congr_left fun code _ => tagsOfCountry_eq _ code
  kinds := by
    rw [ofCountries_eq, List.forall_mem_map]
    exact fun code _ => ⟨rfl, rfl⟩
  nodup_names := by
    rw [map_name_ofCountries]
    refine Country.nodup_map_groupName (nodup_firstOccurrences _) fun code hcode => ?_
    rw [mem_firstOccurrences, List.map_map, List.mem_map] at hcode
    obtain ⟨record, _, rfl⟩ := hcode
    exact canonical_countryCode_toNode record
  members_ne_nil := by
    rw [ofCountries_eq, List.forall_mem_map]
    exact fun code hcode => tagsOfCountry_ne_nil (mem_firstOccurrences.1 hcode)
  members_perm := flatMap_members_ofCountries_perm _

end Group

/-! ## Groups of the filters -/

/-- The groups stand for the enabled filters that accept a node, in their order, and hold the nodes
that they accept. -/
structure ChoosesByFilter (nodes : List Node) (filters : List Filter) (groups : List Group) :
    Prop where
  groups_eq : groups = (filters.filter fun f => f.enabled && nodes.any f.accepts).map fun f =>
    ⟨f.name, .ofFilter f, (nodes.filter f.accepts).map Node.tag, none⟩
  members_ne_nil : ∀ g ∈ groups, g.members ≠ []

namespace Group

theorem choosesByFilter_ofFilters (filters : List Filter) (nodes : List Node) :
    ChoosesByFilter nodes filters (ofFilters filters nodes) where
  groups_eq := by
    rw [ofFilters_eq, activeFilters, List.filter_filter]
    simp only [Filter.isEmpty_members, Bool.not_not, Bool.and_comm]
    rfl
  members_ne_nil := by
    intro g hg
    have hkept := (List.mem_filter.1 hg).2
    simpa using hkept

/-! ## Groups of the rule groups -/

end Group

/-- The groups stand for the enabled rule groups, in their order.  They let the user choose between
the sinks and the top-level selector, if the rule group leads to a sink, and else among the
top-level selector, the automatic group, the first sink and the countries. -/
structure SelectsForRuleGroups (ruleGroups : List RuleGroup) (countryNames : List String)
    (groups : List Group) : Prop where
  names_eq : groups.map Group.name = (ruleGroups.filter RuleGroup.enabled).map RuleGroup.name
  members_eq : groups.map Group.members = (ruleGroups.filter RuleGroup.enabled).map fun r =>
    if r.outbound = "DIRECT" ∨ r.outbound = "REJECT" then ["DIRECT", "REJECT", "Proxy"]
    else ["Proxy", "Auto", "DIRECT"] ++ countryNames
  kinds : ∀ g ∈ groups, g.kind = .select
  /-- A group prefers the outbound of its rule group if this is one of its members. -/
  preferred_eq : groups.map Group.preferred = (ruleGroups.filter RuleGroup.enabled).map fun r =>
    if r.outbound ∈ ["Proxy", "Auto", "DIRECT", "REJECT"] ++ countryNames then some r.outbound
    else none

namespace Group

theorem members_ofRuleGroup (countryNames : List String) (r : RuleGroup) :
    (ofRuleGroup countryNames r).members =
      if r.outbound = "DIRECT" ∨ r.outbound = "REJECT" then ["DIRECT", "REJECT", "Proxy"]
      else ["Proxy", "Auto", "DIRECT"] ++ countryNames := by
  unfold ofRuleGroup preferring options
  simp only [Outbound.isSink_iff]
  rfl

/-- A selector prefers a choice that is one of its members. -/
theorem preferred_preferring (name : String) (members : List String) (choice : String) :
    (preferring name members choice).preferred = if choice ∈ members then some choice else none := by
  rw [preferring]
  cases hfound : members.find? (· == choice) with
  | none =>
    have hmem : choice ∉ members := fun h => by
      simpa using List.find?_eq_none.1 hfound choice h
    rw [if_neg hmem]
  | some member =>
    have hmember : member = choice := by simpa using List.find?_some hfound
    rw [if_pos (hmember ▸ List.mem_of_find?_eq_some hfound), hmember]

theorem selectsForRuleGroups_ofRuleGroup (ruleGroups : List RuleGroup)
    (countryNames : List String) :
    SelectsForRuleGroups ruleGroups countryNames
      ((ruleGroups.filter RuleGroup.enabled).map (ofRuleGroup countryNames)) where
  names_eq := List.map_map
  members_eq := by
    rw [List.map_map]
    exact List.map_congr_left fun r _ => members_ofRuleGroup countryNames r
  kinds := by
    rw [List.forall_mem_map]
    exact fun r _ => rfl
  preferred_eq := by
    rw [List.map_map]
    refine List.map_congr_left fun r _ => ?_
    have hmembers : r.outbound ∈ options countryNames r ↔
        r.outbound ∈ ["Proxy", "Auto", "DIRECT", "REJECT"] ++ countryNames := by
      change r.outbound ∈ (ofRuleGroup countryNames r).members ↔ _
      rw [members_ofRuleGroup]
      split_ifs with hsink
      · rcases hsink with hsink | hsink <;> simp [hsink]
      · rw [not_or] at hsink
        simp [hsink]
    rw [Function.comp_apply, ofRuleGroup, preferred_preferring]
    simp only [hmembers]

/-! ## All groups -/

/-- The groups of nodes that were read from records stand in a fixed order.  Every node is in the
group of its country and in the automatic group, and the filters choose among the nodes.  The
top-level selector names the automatic group, the countries and the filters as they stand. -/
theorem groups_divide_nodes {records : List NodeRecord} (hrecords : records ≠ [])
    (filters : List Filter) (ruleGroups : List RuleGroup) (settings : Settings) :
    ∃ (codes tags : List String) (byCountry byFilter byRuleGroup : List Group),
      build (records.map NodeRecord.toNode) filters ruleGroups settings =
        ⟨"Proxy", .select, "Auto" :: byCountry.map name ++ byFilter.map name, none⟩ ::
          (byCountry ++ byFilter ++ [⟨"Auto", .defaultTest, tags, none⟩] ++ byRuleGroup ++
            [⟨"Final", .select, ["Proxy", "DIRECT"],
              ["Proxy", "DIRECT"].find? (· == settings.finalOutbound)⟩]) ∧
      DividesByCountry (records.map NodeRecord.toNode) codes byCountry ∧
      ChoosesByFilter (records.map NodeRecord.toNode) filters byFilter ∧
      InOrderOfOccurrence tags ((records.map NodeRecord.toNode).map Node.tag) ∧
      SelectsForRuleGroups ruleGroups (byCountry.map name) byRuleGroup := by
  have hnodes : records.map NodeRecord.toNode ≠ [] := by simpa using hrecords
  refine ⟨_, _, ofCountries _, ofFilters filters _, _, ?_, dividesByCountry_ofCountries records,
    choosesByFilter_ofFilters filters _, inOrderOfOccurrence_iff.2 rfl,
    selectsForRuleGroups_ofRuleGroup ruleGroups _⟩
  rw [build_eq hnodes, proxySelector, map_name_ofCountries, map_name_ofFilters]
  rfl

/-- Records of a node without a country, of one that is in none by its code, and of two nodes of
one country, the last of which has the tag of the first. -/
def sampleMembers : List NodeRecord :=
  [⟨"plain", "trojan", "a.example", 443, none, []⟩,
   ⟨"first", "shadowsocks", "b.example", 8388, some " hk", []⟩,
   ⟨"odd", "vmess", "c.example", 443, some "Other", []⟩,
   ⟨"plain", "trojan", "d.example", 443, some "HK", []⟩]

/-- The sample has two countries and three tags. -/
theorem groups_divide_nodes_sample :
    sampleMembers ≠ [] ∧
    ∃ (codes tags : List String) (byCountry byFilter byRuleGroup : List Group),
      build (sampleMembers.map NodeRecord.toNode)
          [⟨"Asia", true, .select, [], [], ["hk"], [], none⟩] [⟨"Ads", true, "REJECT", [], []⟩] {} =
        ⟨"Proxy", .select, "Auto" :: byCountry.map name ++ byFilter.map name, none⟩ ::
          (byCountry ++ byFilter ++ [⟨"Auto", .defaultTest, tags, none⟩] ++ byRuleGroup ++
            [⟨"Final", .select, ["Proxy", "DIRECT"], some "Proxy"⟩]) ∧
      DividesByCountry (sampleMembers.map NodeRecord.toNode) codes byCountry ∧
      codes = ["OTHER", "HK"] ∧ tags = ["plain", "first", "odd"] ∧
      byCountry.map members = [["plain", "odd"], ["first", "plain"]] ∧
      byFilter.map members = [["first", "plain"]] ∧
      byRuleGroup.map members = [["DIRECT", "REJECT", "Proxy"]] := by
  have hrecords : sampleMembers ≠ [] := by decide
  obtain ⟨codes, tags, byCountry, byFilter, byRuleGroup, hbuild, hcountry, hfilter, htags, hrules⟩ :=
    groups_divide_nodes hrecords [⟨"Asia", true, .select, [], [], ["hk"], [], none⟩]
      [⟨"Ads", true, "REJECT", [], []⟩] {}
  have hcodes : codes = ["OTHER", "HK"] := by
    rw [inOrderOfOccurrence_iff.1 hcountry.codes_first]
    decide +kernel
  refine ⟨hrecords, codes, tags, byCountry, byFilter, byRuleGroup, hbuild, hcountry, hcodes, ?_, ?_,
    ?_, hrules.members_eq⟩
  · rw [inOrderOfOccurrence_iff.1 htags]
    decide +kernel
  · rw [hcountry.members_eq, hcodes]
    decide +kernel
  · rw [hfilter.groups_eq]
    decide +kernel

end Group
end ProxyConfig
