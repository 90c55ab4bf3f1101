import ProxyConfig.Filter
import ProxyConfig.Proofs.Text.Lowercase

/-!
# Keywords that stand in a tag

A keyword counts for a node if its lower case occurs in that of the tag.  A keyword that stands in
the tag as it is counts, unless one of its capital sigmas has another form there than in the keyword
alone.

Main results:

- `namesKeyword_of_mem`: a keyword that stands in the tag counts.
- `keyword_in_tag_counts`: what that means for filters.
- `keyword_in_tag_missed`: a keyword that stands in a tag and does not count.
-/

namespace ProxyConfig
namespace Filter

open Text

variable {node : Node} {keyword : String} {before after : List Char}

/-- A keyword that stands in the tag and keeps its sigmas there counts. -/
theorem namesKeyword_of_mem {keywords : List String} (hmem : keyword ∈ keywords)
    (htag : node.tag.toList = before ++ keyword.toList ++ after)
    (hkept : KeepsSigmas before keyword.toList after) : namesKeyword keywords node = true := by
  rw [namesKeyword, List.any_eq_true]
  refine ⟨keyword, hmem, ?_⟩
  rw [htag]
  exact hasInfix_lowerChars hkept

/-- Without other conditions the keywords decide. -/
theorem accepts_of_only_keywords {filter : Filter} (hexcluded : filter.excludedKeywords = [])
    (hcountries : filter.countries = []) (hothers : filter.excludedCountries = [])
    (hnamed : namesKeyword filter.keywords node = true) : filter.accepts node = true := by
  have hnoKeyword : namesKeyword [] node = false := rfl
  have hnoCountry : namesCountry [] node = false := rfl
  simp [accepts, hexcluded, hcountries, hothers, hnamed, hnoKeyword, hnoCountry]

theorem accepts_of_excluded {filter : Filter}
    (hnamed : namesKeyword filter.excludedKeywords node = true) : filter.accepts node = false := by
  simp [accepts, hnamed]

/-- A keyword that stands in a tag, between two other parts, counts if it has the lower case there
that it has alone.  That is so exactly if its capital sigmas keep their forms, as they do in a keyword
without them and in one that no letter adjoins.  A filter that excludes such a keyword rejects the
node; one that lists it among its keywords does not reject the node for them. -/
theorem keyword_in_tag_counts (filter : Filter)
    (htag : node.tag.toList = before ++ keyword.toList ++ after) :
    (lowerIn before.reverse keyword.toList after = lowerChars keyword.toList ↔
      KeepsSigmas before keyword.toList after) ∧
    (KeepsSigmas before keyword.toList after →
      (keyword ∈ filter.excludedKeywords → filter.accepts node = false) ∧
      (keyword ∈ filter.keywords → namesKeyword filter.keywords node = true) ∧
      (keyword ∈ filter.keywords → filter.excludedKeywords = [] → filter.countries = [] →
        filter.excludedCountries = [] → filter.accepts node = true)) ∧
    (capitalSigma ∉ keyword.toList → KeepsSigmas before keyword.toList after) ∧
    (meetsCased before.reverse = false → meetsCased after = false →
      KeepsSigmas before keyword.toList after) := by
  refine ⟨lowerIn_eq_lowerChars_iff, fun hkept => ⟨?_, ?_, ?_⟩, keepsSigmas_of_notMem,
    keepsSigmas_of_apart⟩
  · exact fun hmem => accepts_of_excluded (namesKeyword_of_mem hmem htag hkept)
  · exact fun hmem => namesKeyword_of_mem hmem htag hkept
  · intro hmem hexcluded hcountries hothers
    exact accepts_of_only_keywords hexcluded hcountries hothers
      (namesKeyword_of_mem hmem htag hkept)

/-- A filter that selects nodes by the keywords alone. -/
def ofKeywords (keywords excluded : List String) : Filter where
  name := "F"
  enabled := true
  mode := .select
  keywords := keywords
  excludedKeywords := excluded
  countries := []
  excludedCountries := []
  urlTest := none

/-- A node with a tag. -/
def tagged (tag : String) : Node :=
  NodeRecord.toNode ⟨tag, "trojan", "s.example", 443, none, []⟩

/-- The last word of a tag, which ends in a sigma, as a keyword. -/
theorem keyword_in_tag_counts_sample :
    (tagged "ΑΣ ΟΔΟΣ").tag.toList = "ΑΣ ".toList ++ "ΟΔΟΣ".toList ++ [] ∧
    KeepsSigmas "ΑΣ ".toList "ΟΔΟΣ".toList [] ∧
    (ofKeywords [] ["ΟΔΟΣ"]).accepts (tagged "ΑΣ ΟΔΟΣ") = false ∧
    (ofKeywords ["ΟΔΟΣ"] []).accepts (tagged "ΑΣ ΟΔΟΣ") = true := by
  have htag : (tagged "ΑΣ ΟΔΟΣ").tag.toList = "ΑΣ ".toList ++ "ΟΔΟΣ".toList ++ [] := by decide
  obtain ⟨_, hcounts, _, hapart⟩ := keyword_in_tag_counts (ofKeywords [] ["ΟΔΟΣ"]) htag
  obtain ⟨_, hcounts', _⟩ := keyword_in_tag_counts (ofKeywords ["ΟΔΟΣ"] []) htag
  have hkept := hapart (by decide +kernel) (by decide +kernel)
  exact ⟨htag, hkept, (hcounts hkept).1 (by decide),
    (hcounts' hkept).2.2 (by decide) rfl rfl rfl⟩

/-- The beginning of a word that ends in a sigma does not count as a keyword: its sigma is written in
the form for the end of a word, and that in the tag in the other one. -/
theorem keyword_in_tag_missed :
    "ΡΩΣ".toList <:+: (tagged "ΡΩΣΙΑ 01").tag.toList ∧
    (ofKeywords [] ["ΡΩΣ"]).accepts (tagged "ΡΩΣΙΑ 01") = true ∧
    (ofKeywords ["ΡΩΣ"] []).accepts (tagged "ΡΩΣΙΑ 01") = false := by
  refine ⟨⟨[], "ΙΑ 01".toList, by decide⟩, by decide +kernel, by decide +kernel⟩

end Filter
end ProxyConfig
