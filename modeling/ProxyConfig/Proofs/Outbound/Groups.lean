import Mathlib.Data.List.Induction
import Mathlib.Data.List.Nodup
import ProxyConfig.Compile.Plan

/-!
# What the groups are made of

The groups of a model come from five sources.  This module says what each source contributes: the
countries with their nodes, the filters that accept a node, the group of all nodes, the rule groups,
and the two selectors that are always there.

Main results:

- `countries_eq`: each country code stands once, in the order of first occurrence, with the tags of
  its nodes in their order.
- `mem_build_iff`: the sources of the groups.
- `map_name_build`: the names of all groups, in order.
-/

namespace ProxyConfig

/-! ## First occurrences -/

section FirstOccurrences

variable {α : Type} [DecidableEq α]

@[simp]
theorem mem_firstOccurrences {x : α} {l : List α} : x ∈ firstOccurrences l ↔ x ∈ l := by
  induction l with
  | nil => simp [firstOccurrences]
  | cons y rest ih => by_cases h : x = y <;> simp [firstOccurrences, h, ih]

/-- Every element occurs first only once. -/
theorem nodup_firstOccurrences (l : List α) : (firstOccurrences l).Nodup := by
  induction l with
  | nil => exact List.nodup_nil
  | cons y rest ih =>
    rw [firstOccurrences, List.nodup_cons]
    exact ⟨by simp, ih.filter _⟩

/-- An element that follows a list is new or has occurred in it. -/
theorem firstOccurrences_concat (l : List α) (x : α) :
    firstOccurrences (l ++ [x]) =
      if x ∈ l then firstOccurrences l else firstOccurrences l ++ [x] := by
  induction l with
  | nil => simp [firstOccurrences]
  | cons y rest ih =>
    rw [List.cons_append, firstOccurrences, ih]
    by_cases hxy : x = y
    · subst hxy
      by_cases hrest : x ∈ rest <;> simp [firstOccurrences, hrest]
    · by_cases hrest : x ∈ rest <;> simp [firstOccurrences, hrest, hxy]

end FirstOccurrences

/-! ## Countries -/

/-- The tags of the nodes with a country code. -/
def tagsOfCountry (nodes : List Node) (code : String) : List String :=
  (nodes.filter fun n => n.countryCode = code).map Node.tag

/-- Adding a node to countries that are all different. -/
theorem addToCountry_map (code tag : String) (tags : String → List String) {codes : List String}
    (hcodes : codes.Nodup) :
    addToCountry code tag (codes.map fun c => (c, tags c)) =
      if code ∈ codes then codes.map fun c => (c, if c = code then tags c ++ [tag] else tags c)
      else (codes.map fun c => (c, tags c)) ++ [(code, [tag])] := by
  induction codes with
  | nil => simp [addToCountry]
  | cons c rest ih =>
    rw [List.nodup_cons] at hcodes
    rw [List.map_cons, addToCountry]
    by_cases hc : c = code
    · subst hc
      have hrest : ∀ d ∈ rest, (d, tags d) = (d, if d = c then tags d ++ [tag] else tags d) := by
        intro d hd
        have hne : d ≠ c := fun h => hcodes.1 (h ▸ hd)
        rw [if_neg hne]
      rw [if_pos rfl, if_pos (by simp), List.map_cons, if_pos rfl, List.map_congr_left hrest]
    · rw [if_neg hc, ih hcodes.2]
      by_cases hmem : code ∈ rest <;> simp [hmem, hc, Ne.symm hc]

/-- The countries of nodes, with the tags of their nodes. -/
theorem countries_eq (nodes : List Node) :
    countries nodes =
      (firstOccurrences (nodes.map Node.countryCode)).map fun c => (c, tagsOfCountry nodes c) := by
  induction nodes using List.reverseRecOn with
  | nil => rfl
  | append_singleton nodes n ih =>
    have hadd : countries (nodes ++ [n]) =
        addToCountry n.countryCode n.tag (countries nodes) := by
      simp [countries]
    rw [hadd, ih, addToCountry_map _ _ _ (nodup_firstOccurrences _), List.map_append,
      List.map_singleton, firstOccurrences_concat]
    have htags : ∀ c, tagsOfCountry (nodes ++ [n]) c =
        if c = n.countryCode then tagsOfCountry nodes c ++ [n.tag] else tagsOfCountry nodes c := by
      intro c
      by_cases hc : n.countryCode = c
      · subst hc
        simp [tagsOfCountry]
      · simp [tagsOfCountry, hc, Ne.symm hc]
    by_cases hmem : n.countryCode ∈ nodes.map Node.countryCode
    · simp only [mem_firstOccurrences, hmem, if_true, htags]
    · have hnone : tagsOfCountry nodes n.countryCode = [] := by
        rw [tagsOfCountry, List.map_eq_nil_iff, List.filter_eq_nil_iff]
        intro m hm hcode
        exact hmem (of_decide_eq_true hcode ▸ List.mem_map_of_mem hm)
      simp only [mem_firstOccurrences, hmem, if_false, List.map_append, List.map_singleton, htags,
        if_true, hnone, List.nil_append]
      congr 1
      apply List.map_congr_left
      intro c hc
      rw [if_neg]
      intro h
      exact hmem (h ▸ mem_firstOccurrences.1 hc)

/-- Every country has a node. -/
theorem tagsOfCountry_ne_nil {nodes : List Node} {code : String}
    (h : code ∈ nodes.map Node.countryCode) : tagsOfCountry nodes code ≠ [] := by
  rw [List.mem_map] at h
  obtain ⟨n, hn, hcode⟩ := h
  apply List.ne_nil_of_mem (a := n.tag)
  exact List.mem_map_of_mem (by simp [hn, hcode])

/-! ## Filters -/

/-- A filter has members exactly when it accepts some node. -/
theorem Filter.isEmpty_members (f : Filter) (nodes : List Node) :
    (f.members nodes).isEmpty = !nodes.any f.accepts := by
  rw [Bool.eq_iff_iff]
  simp [members, List.filter_eq_nil_iff]

/-! ## Sources of the groups -/

namespace Group

/-- The names of the groups of the countries. -/
def countryNames (nodes : List Node) : List String :=
  (firstOccurrences (nodes.map Node.countryCode)).map Country.groupName

/-- The enabled filters that accept some node. -/
def activeFilters (filters : List Filter) (nodes : List Node) : List Filter :=
  (filters.filter Filter.enabled).filter fun f => !(f.members nodes).isEmpty

/-- The group of a filter. -/
def ofFilter (nodes : List Node) (f : Filter) : Group :=
  ⟨f.name, .ofFilter f, f.members nodes, none⟩

theorem ofCountries_eq (nodes : List Node) :
    ofCountries nodes =
      (firstOccurrences (nodes.map Node.countryCode)).map fun c =>
        tested (Country.groupName c) (tagsOfCountry nodes c) := by
  rw [ofCountries, countries_eq, List.map_map]
  rfl

@[simp]
theorem map_name_ofCountries (nodes : List Node) :
    (ofCountries nodes).map name = countryNames nodes := by
  rw [ofCountries_eq, List.map_map]
  rfl

theorem ofFilters_eq (filters : List Filter) (nodes : List Node) :
    ofFilters filters nodes = (activeFilters filters nodes).map (ofFilter nodes) := by
  rw [ofFilters, activeFilters, List.filter_map]
  rfl

@[simp]
theorem map_name_ofFilters (filters : List Filter) (nodes : List Node) :
    (ofFilters filters nodes).map name = (activeFilters filters nodes).map Filter.name := by
  rw [ofFilters_eq, List.map_map]
  rfl

/-- The group of all nodes. -/
theorem ofAll_eq {nodes : List Node} (h : nodes ≠ []) :
    ofAll nodes = [tested Outbound.auto (firstOccurrences (nodes.map Node.tag))] := by
  rw [ofAll, if_neg]
  simpa using h

/-- The selector on top. -/
def proxySelector (nodes : List Node) (filters : List Filter) : Group :=
  selector Outbound.proxy
    (Outbound.auto :: countryNames nodes ++ (activeFilters filters nodes).map Filter.name)

section Build

variable {nodes : List Node} {filters : List Filter} {ruleGroups : List RuleGroup}
  {settings : Settings}

/-- The groups by their sources, when there are nodes. -/
theorem build_eq (h : nodes ≠ []) :
    build nodes filters ruleGroups settings =
      proxySelector nodes filters ::
        (ofCountries nodes ++ ofFilters filters nodes ++
          [tested Outbound.auto (firstOccurrences (nodes.map Node.tag))] ++
          (ruleGroups.filter RuleGroup.enabled).map (ofRuleGroup (countryNames nodes)) ++
          [finalSelector settings]) := by
  simp only [build, proxySelector, ofAll_eq h, map_name_ofCountries, map_name_ofFilters]

/-- The names of all groups, in order. -/
theorem map_name_build (h : nodes ≠ []) :
    (build nodes filters ruleGroups settings).map name =
      Outbound.proxy ::
        (countryNames nodes ++ (activeFilters filters nodes).map Filter.name ++ [Outbound.auto] ++
          (ruleGroups.filter RuleGroup.enabled).map RuleGroup.name ++ [Outbound.final]) := by
  rw [build_eq h]
  simp only [List.map_cons, List.map_append, map_name_ofCountries, map_name_ofFilters,
    List.map_map, List.map_nil]
  rfl

/-- Where a group comes from. -/
theorem mem_build_iff (h : nodes ≠ []) {g : Group} :
    g ∈ build nodes filters ruleGroups settings ↔
      g = proxySelector nodes filters ∨
      (∃ code ∈ nodes.map Node.countryCode,
        g = tested (Country.groupName code) (tagsOfCountry nodes code)) ∨
      (∃ f ∈ activeFilters filters nodes, g = ofFilter nodes f) ∨
      g = tested Outbound.auto (firstOccurrences (nodes.map Node.tag)) ∨
      (∃ r ∈ ruleGroups.filter RuleGroup.enabled, g = ofRuleGroup (countryNames nodes) r) ∨
      g = finalSelector settings := by
  rw [build_eq h, ofCountries_eq, ofFilters_eq]
  simp only [List.mem_cons, List.mem_append, List.mem_map, mem_firstOccurrences, List.not_mem_nil,
    or_false, eq_comm (a := g), or_assoc]

end Build

/-- The preferred member of a selector is one of its members. -/
theorem preferred_mem_of_preferring {name choice member : String} {members : List String}
    (h : (preferring name members choice).preferred = some member) :
    member ∈ (preferring name members choice).members := by
  exact List.mem_of_find?_eq_some h

end Group
end ProxyConfig
