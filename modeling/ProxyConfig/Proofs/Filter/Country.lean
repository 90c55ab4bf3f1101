import Mathlib
import ProxyConfig.Proofs.Outbound.Membership

/-!
# Filters by country

The groups of the countries come from the codes of the nodes, which are compared as they are.  A
filter compares its codes with them up to the case of letters, and reads a node without a country as
one with the empty code.  The codes of nodes that were read from records are in canonical form, and
for these the two ways to tell countries apart agree.

Main results:

- `sameUpToCase_iff_of_canonical`: up to case, canonical codes are equal only if they are the same.
- `members_of_includesOnly`: a filter on the code of a country chooses the nodes of that country.
- `country_filter_matches_group`: the group of such a filter is that of the country, and a code is
  either included or excluded.
-/

namespace ProxyConfig

/-! ## Codes up to case -/

section Case

open Text

/-- Texts that agree up to case have the same upper case. -/
theorem Text.map_toUpper_eq_of_sameUpToCase {a b : String} (h : sameUpToCase a b = true) :
    a.toList.map Char.toUpper = b.toList.map Char.toUpper := by
  have hupper : ∀ l : List Char, (l.map Char.toLower).map Char.toUpper = l.map Char.toUpper := by
    intro l
    rw [List.map_map]
    apply List.map_congr_left
    intro c _
    exact Char.toUpper_toLower_eq_toUpper c
  rw [← hupper a.toList, sameUpToCase_iff.1 h, hupper]

/-- A canonical code is in upper case. -/
theorem Country.map_toUpper_of_canonical {code : String} (h : canonical code = code) :
    code.toList.map Char.toUpper = code.toList := by
  rw [← h, toList_canonical, List.map_map]
  apply List.map_congr_left
  intro c _
  exact toUpper_toUpper c

/-- A text that agrees with one canonical code up to case agrees with no other. -/
theorem Country.sameUpToCase_iff_of_canonical {text a b : String}
    (htext : sameUpToCase text a = true) (ha : canonical a = a) (hb : canonical b = b) :
    sameUpToCase text b = true ↔ a = b := by
  constructor
  · intro h
    apply String.toList_inj.1
    calc a.toList = a.toList.map Char.toUpper := (map_toUpper_of_canonical ha).symm
      _ = text.toList.map Char.toUpper := (map_toUpper_eq_of_sameUpToCase htext).symm
      _ = b.toList.map Char.toUpper := map_toUpper_eq_of_sameUpToCase h
      _ = b.toList := map_toUpper_of_canonical hb
  · rintro rfl
    exact htext

end Case

/-! ## Filters with one code -/

namespace Filter

/-- The filter includes one country and has no other condition. -/
structure IncludesOnly (filter : Filter) (code : String) : Prop where
  countries : filter.countries = [code]
  excludedCountries : filter.excludedCountries = []
  keywords : filter.keywords = []
  excludedKeywords : filter.excludedKeywords = []

/-- The filter excludes one country and has no other condition. -/
structure ExcludesOnly (filter : Filter) (code : String) : Prop where
  countries : filter.countries = []
  excludedCountries : filter.excludedCountries = [code]
  keywords : filter.keywords = []
  excludedKeywords : filter.excludedKeywords = []

variable {filter : Filter} {code : String} {node : Node}

theorem namesCountry_singleton (code : String) (node : Node) :
    namesCountry [code] node = Text.sameUpToCase code (node.country.getD "") := by
  simp [namesCountry]

theorem accepts_of_includesOnly (h : filter.IncludesOnly code) (node : Node) :
    filter.accepts node = namesCountry [code] node := by
  simp [accepts, h.countries, h.excludedCountries, h.keywords, h.excludedKeywords, namesCountry,
    namesKeyword]

theorem accepts_of_excludesOnly (h : filter.ExcludesOnly code) (node : Node) :
    filter.accepts node = !namesCountry [code] node := by
  simp [accepts, h.countries, h.excludedCountries, h.keywords, h.excludedKeywords, namesCountry,
    namesKeyword]

end Filter

/-! ## Nodes of a country -/

section Loaded

variable {nodes : List Node} {node : Node} {code text : String} {filter : Filter}

/-- The node was read from a record. -/
def Node.IsLoaded (node : Node) : Prop :=
  ∃ record : NodeRecord, record.toNode = node

theorem Node.canonical_countryCode (h : node.IsLoaded) :
    Country.canonical node.countryCode = node.countryCode := by
  obtain ⟨record, rfl⟩ := h
  exact canonical_countryCode_toNode record

theorem Node.countryCode_ne_empty (h : node.IsLoaded) : node.countryCode ≠ "" := by
  obtain ⟨record, rfl⟩ := h
  exact countryCode_toNode_ne_empty record

theorem Node.countryCode_of_some (h : node.country = some code) : node.countryCode = code := by
  simp [countryCode, h]

/-- For a text that agrees up to case with the code of a country, a filter on it accepts the nodes
of that country.  A node without a country is none of them: its empty code agrees with no other. -/
theorem Filter.accepts_iff_countryCode (h : filter.IncludesOnly text)
    (htext : Text.sameUpToCase text code = true) (hcode : Country.canonical code = code)
    (hempty : code ≠ "") (hother : code ≠ Country.other) (hnode : node.IsLoaded) :
    filter.accepts node = true ↔ node.countryCode = code := by
  rw [accepts_of_includesOnly h, namesCountry_singleton]
  cases hcountry : node.country with
  | none =>
    have hblank : Country.canonical "" = "" := by decide
    have hcodeOther : node.countryCode = Country.other := by simp [Node.countryCode, hcountry]
    rw [Option.getD_none, Country.sameUpToCase_iff_of_canonical htext hcode hblank, hcodeOther]
    exact iff_of_false hempty (Ne.symm hother)
  | some own =>
    have hown : node.countryCode = own := Node.countryCode_of_some hcountry
    have hcanonical : Country.canonical own = own := hown ▸ Node.canonical_countryCode hnode
    rw [Option.getD_some, Country.sameUpToCase_iff_of_canonical htext hcode hcanonical, hown]
    exact eq_comm

/-- The members of a filter on the code of a country are those of its group. -/
theorem Filter.members_of_includesOnly (h : filter.IncludesOnly text)
    (htext : Text.sameUpToCase text code = true) (hcode : Country.canonical code = code)
    (hempty : code ≠ "") (hother : code ≠ Country.other) (hnodes : ∀ n ∈ nodes, n.IsLoaded) :
    filter.members nodes = tagsOfCountry nodes code := by
  unfold members tagsOfCountry
  congr 1
  apply List.filter_congr
  intro n hn
  rw [Bool.eq_iff_iff, decide_eq_true_iff]
  exact accepts_iff_countryCode h htext hcode hempty hother (hnodes n hn)

/-- The nodes that carry a code other than the one for nodes without a country. -/
theorem tagsOfCountry_of_ne_other (hother : code ≠ Country.other) :
    tagsOfCountry nodes code = (nodes.filter fun n => n.country = some code).map Node.tag := by
  unfold tagsOfCountry
  congr 1
  apply List.filter_congr
  intro n _
  cases hcountry : n.country with
  | none => simp [Node.countryCode, hcountry, Ne.symm hother]
  | some own => simp [Node.countryCode, hcountry]

/-- A group of a country is told by its name. -/
theorem Group.members_of_mem_ofCountries (hnodes : ∀ n ∈ nodes, n.IsLoaded)
    (hcode : Country.canonical code = code) {g : Group} (hg : g ∈ ofCountries nodes)
    (hname : g.name = Country.groupName code) : g.members = tagsOfCountry nodes code := by
  rw [ofCountries_eq, List.mem_map] at hg
  obtain ⟨own, hown, rfl⟩ := hg
  rw [mem_firstOccurrences, List.mem_map] at hown
  obtain ⟨n, hn, rfl⟩ := hown
  have hsame : Country.groupName n.countryCode = Country.groupName code := hname
  rw [Country.groupName_eq_iff, Node.canonical_countryCode (hnodes n hn), hcode] at hsame
  rw [hsame]
  rfl

end Loaded

/-! ## Groups of filters by country -/

namespace Group

/-- Among nodes that were read from records, take a country that one of them carries, and an enabled
filter whose only condition is the code of that country, in letters of any case.  Then the groups
hold one of the country and one of the filter with the same members in the same order, which are the
nodes that carry the code.  For any code and any node, a filter that only includes the code and one
that only excludes it never agree. -/
theorem country_filter_matches_group (nodes : List Node) (hnodes : ∀ n ∈ nodes, n.IsLoaded)
    (filters : List Filter) (ruleGroups : List RuleGroup) (settings : Settings) :
    (∀ code, code ≠ Country.other → (∃ n ∈ nodes, n.country = some code) →
      ∀ text, Text.sameUpToCase text code = true →
      ∀ filter ∈ filters, filter.enabled = true → filter.IncludesOnly text →
        ∃ members, members = (nodes.filter fun n => n.country = some code).map Node.tag ∧
          members ≠ [] ∧
          tested (Country.groupName code) members ∈
            build nodes filters ruleGroups settings ∧
          ⟨filter.name, .ofFilter filter, members, none⟩ ∈
            build nodes filters ruleGroups settings ∧
          ∀ g ∈ ofCountries nodes, g.name = Country.groupName code → g.members = members) ∧
    ∀ (text : String) (node : Node) (including excluding : Filter),
      including.IncludesOnly text → excluding.ExcludesOnly text →
        Xor (including.accepts node = true) (excluding.accepts node = true) := by
  constructor
  · rintro code hother ⟨n, hn, hcountry⟩ text htext filter hfilter henabled honly
    have hown : n.countryCode = code := Node.countryCode_of_some hcountry
    have hcode : Country.canonical code = code :=
      hown ▸ Node.canonical_countryCode (hnodes n hn)
    have hempty : code ≠ "" := hown ▸ Node.countryCode_ne_empty (hnodes n hn)
    have hmem : code ∈ nodes.map Node.countryCode := List.mem_map.2 ⟨n, hn, hown⟩
    have hmembers : filter.members nodes = tagsOfCountry nodes code :=
      Filter.members_of_includesOnly honly htext hcode hempty hother hnodes
    have hne : tagsOfCountry nodes code ≠ [] := tagsOfCountry_ne_nil hmem
    have hsome : nodes ≠ [] := List.ne_nil_of_mem hn
    have hactive : filter ∈ activeFilters filters nodes := by
      simp [activeFilters, hfilter, henabled, hmembers, hne]
    refine ⟨tagsOfCountry nodes code, tagsOfCountry_of_ne_other hother, hne, ?_, ?_, ?_⟩
    · exact (mem_build_iff hsome).2 (Or.inr (Or.inl ⟨code, hmem, rfl⟩))
    · rw [← hmembers]
      exact (mem_build_iff hsome).2 (Or.inr (Or.inr (Or.inl ⟨filter, hactive, rfl⟩)))
    · intro g hg hname
      exact members_of_mem_ofCountries hnodes hcode hg hname
  · intro text node including excluding hincluding hexcluding
    rw [Filter.accepts_of_includesOnly hincluding, Filter.accepts_of_excludesOnly hexcluding]
    cases Filter.namesCountry [text] node <;> simp [Xor]

/-- A filter that selects nodes by one country alone. -/
def sampleCountryFilter (name : String) (countries excluded : List String) : Filter :=
  ⟨name, true, .select, [], [], countries, excluded, none⟩

/-- Of three nodes two carry the code of the filter, which is written in small letters; the country
of the other one is not known. -/
theorem country_filter_matches_group_sample :
    let nodes := [" hk", "  ", "HK"].map fun text =>
      NodeRecord.toNode ⟨"node" ++ text, "trojan", "s.example", 443, some text, []⟩
    let filter := sampleCountryFilter "Asia" ["hK"] []
    let other := sampleCountryFilter "Elsewhere" [] ["hK"]
    (∀ n ∈ nodes, n.IsLoaded) ∧ "HK" ≠ Country.other ∧
      (∃ n ∈ nodes, n.country = some "HK") ∧ Text.sameUpToCase "hK" "HK" = true ∧
      filter ∈ [other, filter] ∧ filter.enabled = true ∧ filter.IncludesOnly "hK" ∧
      other.ExcludesOnly "hK" ∧
      tested (Country.groupName "HK") ["node hk", "nodeHK"] ∈ build nodes [other, filter] [] {} ∧
      ⟨"Asia", .select, ["node hk", "nodeHK"], none⟩ ∈ build nodes [other, filter] [] {} ∧
      ∀ n ∈ nodes, Xor (filter.accepts n = true) (other.accepts n = true) := by
  intro nodes filter other
  have hnodes : ∀ n ∈ nodes, n.IsLoaded := by
    intro n hn
    obtain ⟨text, _, rfl⟩ := List.mem_map.1 hn
    exact ⟨_, rfl⟩
  have hcarried : ∃ n ∈ nodes, n.country = some "HK" := by decide +kernel
  have hcase : Text.sameUpToCase "hK" "HK" = true := by decide +kernel
  have hincludes : filter.IncludesOnly "hK" := ⟨rfl, rfl, rfl, rfl⟩
  have hexcludes : other.ExcludesOnly "hK" := ⟨rfl, rfl, rfl, rfl⟩
  have hmem : filter ∈ [other, filter] := List.mem_cons_of_mem _ List.mem_cons_self
  obtain ⟨hgroups, hxor⟩ := country_filter_matches_group nodes hnodes [other, filter] [] {}
  obtain ⟨members, hmembers, _, hcountry, hfilter, _⟩ :=
    hgroups "HK" (by decide) hcarried "hK" hcase filter hmem rfl hincludes
  have htags : members = ["node hk", "nodeHK"] := by
    rw [hmembers]
    decide +kernel
  rw [htags] at hcountry hfilter
  exact ⟨hnodes, by decide, hcarried, hcase, hmem, rfl, hincludes, hexcludes, hcountry, hfilter,
    fun n _ => hxor "hK" n filter other hincludes hexcludes⟩

end Group
end ProxyConfig
