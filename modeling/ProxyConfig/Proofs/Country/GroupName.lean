import Mathlib.Data.List.Nodup
import ProxyConfig.Country
import ProxyConfig.Node.Basic
import ProxyConfig.Outbound.Name
import ProxyConfig.Proofs.Text.Trim

/-!
# Names of the groups of countries

A group name shows its code in two ways, as a flag and as a display name, and neither of them alone
tells codes apart: all codes without a flag share the globe, and two codes may share a display
name.  Together they do.

Main results:

- `groupName_eq_iff`: two codes have the same group name exactly when they are the same in
  canonical form.
- `groupName_notMem_fixedNames`: no country takes the name of a built-in group or outbound.
- `groupName_countryCode_inj`: nodes that were read from records share a group name only if they
  share their code.
- `groupName_identifies_country`: what the group name says about the country of a node.
-/

namespace ProxyConfig
namespace Country

open Text

/-! ## Canonical codes -/

@[simp]
theorem toList_canonical (code : String) :
    (canonical code).toList = (trimChars code.toList).map Char.toUpper := by
  simp [canonical, asciiUpper]

/-- A canonical code is its own canonical form. -/
@[simp]
theorem canonical_canonical (code : String) : canonical (canonical code) = canonical code := by
  apply String.toList_inj.1
  rw [toList_canonical (canonical code), toList_canonical, trimChars_map_toUpper,
    trimChars_trimChars, List.map_map]
  congr 1
  funext c
  exact toUpper_toUpper c

/-- There are no letters a to z in a canonical code. -/
theorem not_isLower_of_mem_canonical {code : String} {c : Char}
    (h : c ∈ (canonical code).toList) : ¬ (97 ≤ c.toNat ∧ c.toNat ≤ 122) := by
  rw [toList_canonical, List.mem_map] at h
  obtain ⟨d, _, rfl⟩ := h
  exact not_isLower_toUpper d

/-! ## Flags -/

theorem flagLetters?_eq_some_iff {code : String} {a b : Char} :
    flagLetters? code = some (a, b) ↔ code.toList = [a, b] ∧ a.isUpper ∧ b.isUpper := by
  unfold flagLetters?
  split
  · rename_i x y hcode
    rw [hcode]
    split <;> grind
  · rename_i hcode
    constructor
    · intro h
      cases h
    · rintro ⟨h, _⟩
      exact absurd h (hcode a b)

/-- A valid code point is the code point of its character. -/
theorem toNat_ofNat_of_isValidChar {n : Nat} (h : n.isValidChar) : (Char.ofNat n).toNat = n := by
  unfold Char.ofNat
  rw [dif_pos h]
  rfl

theorem isUpper_iff {c : Char} : c.isUpper = true ↔ 65 ≤ c.toNat ∧ c.toNat ≤ 90 := by
  change decide ('A'.val ≤ c.val ∧ c.val ≤ 'Z'.val) = true ↔ _
  rw [decide_eq_true_eq, UInt32.le_iff_toNat_le, UInt32.le_iff_toNat_le]
  rfl

/-- The code point of a regional indicator. -/
theorem toNat_indicator {letter : Char} (h : letter.isUpper = true) :
    (indicator letter).toNat = 0x1f1a5 + letter.toNat := by
  have hletter := isUpper_iff.1 h
  have hvalid : (0x1f1e6 + (letter.toNat - 65)).isValidChar := by
    unfold Nat.isValidChar
    omega
  have hcode : (indicator letter).toNat = 0x1f1e6 + (letter.toNat - 65) :=
    toNat_ofNat_of_isValidChar hvalid
  omega

theorem indicator_inj {a b : Char} (ha : a.isUpper = true) (hb : b.isUpper = true)
    (h : indicator a = indicator b) : a = b := by
  have hnat := congrArg Char.toNat h
  rw [toNat_indicator ha, toNat_indicator hb] at hnat
  apply Char.toNat_inj.1
  omega

/-- A regional indicator is not the globe. -/
theorem indicator_ne_globe {letter : Char} (h : letter.isUpper = true) :
    indicator letter ≠ '🌐' := by
  intro heq
  have hnat := congrArg Char.toNat heq
  have hletter := isUpper_iff.1 h
  have hglobe : '🌐'.toNat = 0x1f310 := by decide
  rw [toNat_indicator h] at hnat
  omega

/-! ## Display names -/

/-- Of the codes without a flag, only the one for nodes without a country has a display name. -/
theorem eq_other_of_lookup {code name : String} (hname : displayNames.lookup code = some name)
    (hflag : flagLetters? code = none) : code = other ∧ name = "Other" := by
  have hall : ∀ p ∈ displayNames, flagLetters? p.1 = none → p.1 = other ∧ p.2 = "Other" := by
    decide
  have hmem : (code, name) ∈ displayNames := by
    obtain ⟨before, after, hsplit, _⟩ := List.lookup_eq_some_iff.1 hname
    rw [hsplit]
    simp
  exact hall (code, name) hmem hflag

/-- A code without a flag is shown as it is, unless it stands for nodes without a country. -/
theorem displayName_of_flagLetters?_eq_none {code : String}
    (hflag : flagLetters? (canonical code) = none) :
    displayName code = if canonical code = other then "Other" else canonical code := by
  unfold displayName
  cases hname : displayNames.lookup (canonical code) with
  | some name =>
    obtain ⟨hcode, rfl⟩ := eq_other_of_lookup hname hflag
    rw [if_pos hcode]
    rfl
  | none =>
    rw [if_neg]
    · rfl
    · intro hcode
      rw [hcode] at hname
      exact absurd hname (by decide)

/-- No canonical code reads like the display name for nodes without a country. -/
theorem canonical_ne_displayName_other (code : String) : canonical code ≠ "Other" := by
  intro h
  have hmem : 't' ∈ (canonical code).toList := by
    rw [h]
    decide
  exact not_isLower_of_mem_canonical hmem (by decide)

/-- Codes without a flag are told apart by their display names. -/
theorem canonical_eq_of_displayName_eq {a b : String}
    (ha : flagLetters? (canonical a) = none) (hb : flagLetters? (canonical b) = none)
    (h : displayName a = displayName b) : canonical a = canonical b := by
  rw [displayName_of_flagLetters?_eq_none ha, displayName_of_flagLetters?_eq_none hb] at h
  split at h <;> split at h
  · rename_i hao hbo
    rw [hao, hbo]
  · exact absurd h.symm (canonical_ne_displayName_other b)
  · exact absurd h (canonical_ne_displayName_other a)
  · exact h

/-! ## Group names -/

/-- What a group name begins with. -/
def signChars (code : String) : List Char :=
  match flagLetters? (canonical code) with
  | some (a, b) => [indicator a, indicator b]
  | none => ['🌐']

theorem toList_groupName (code : String) :
    (groupName code).toList = signChars code ++ ' ' :: (displayName code).toList := by
  unfold groupName emoji signChars
  cases flagLetters? (canonical code) <;> simp [globe]

/-- The flag and the display name together determine the code. -/
theorem groupName_eq_iff {a b : String} :
    groupName a = groupName b ↔ canonical a = canonical b := by
  constructor
  · intro h
    have hchars := congrArg String.toList h
    rw [toList_groupName, toList_groupName] at hchars
    unfold signChars at hchars
    cases ha : flagLetters? (canonical a) with
    | none =>
      cases hb : flagLetters? (canonical b) with
      | none =>
        simp only [ha, hb, List.cons_append, List.nil_append, List.cons.injEq, true_and] at hchars
        exact canonical_eq_of_displayName_eq ha hb (String.toList_inj.1 hchars)
      | some letters =>
        have hupper := (flagLetters?_eq_some_iff.1 hb).2.1
        simp only [ha, hb, List.cons_append, List.cons.injEq] at hchars
        exact absurd hchars.1.symm (indicator_ne_globe hupper)
    | some letters =>
      have hla := flagLetters?_eq_some_iff.1 ha
      cases hb : flagLetters? (canonical b) with
      | none =>
        simp only [ha, hb, List.cons_append, List.cons.injEq] at hchars
        exact absurd hchars.1 (indicator_ne_globe hla.2.1)
      | some letters' =>
        have hlb := flagLetters?_eq_some_iff.1 hb
        simp only [ha, hb, List.cons_append, List.cons.injEq] at hchars
        apply String.toList_inj.1
        rw [hla.1, hlb.1, indicator_inj hla.2.1 hlb.2.1 hchars.1,
          indicator_inj hla.2.2 hlb.2.2 hchars.2.1]
  · intro h
    unfold groupName emoji displayName
    rw [h]

/-- Different canonical codes have different group names. -/
theorem nodup_map_groupName {codes : List String} (hcodes : codes.Nodup)
    (hcanonical : ∀ code ∈ codes, canonical code = code) : (codes.map groupName).Nodup := by
  apply List.Nodup.map_on ?_ hcodes
  intro a ha b hb hname
  rw [groupName_eq_iff, hcanonical a ha, hcanonical b hb] at hname
  exact hname

/-- A group name begins outside ASCII. -/
theorem exists_head_groupName (code : String) :
    ∃ c rest, (groupName code).toList = c :: rest ∧ 128 ≤ c.toNat := by
  rw [toList_groupName]
  unfold signChars
  cases h : flagLetters? (canonical code) with
  | none => exact ⟨'🌐', _, rfl, by decide⟩
  | some letters =>
    refine ⟨indicator letters.1, _, rfl, ?_⟩
    rw [toNat_indicator (flagLetters?_eq_some_iff.1 h).2.1]
    omega

/-- No country takes the name of a built-in group or outbound. -/
theorem groupName_notMem_fixedNames (code : String) : groupName code ∉ Outbound.fixedNames := by
  intro hmem
  have hascii : (Outbound.fixedNames.all fun name => name.toList.all (·.toNat < 128)) = true := by
    decide
  obtain ⟨c, rest, hchars, hc⟩ := exists_head_groupName code
  have hname := List.all_eq_true.1 hascii _ hmem
  rw [hchars, List.all_cons, Bool.and_eq_true, decide_eq_true_eq] at hname
  omega

end Country

/-! ## Codes of nodes -/

/-- The country code of a node from a record is in canonical form. -/
theorem canonical_countryCode_toNode (record : NodeRecord) :
    Country.canonical record.toNode.countryCode = record.toNode.countryCode := by
  have hother : Country.canonical Country.other = Country.other := by decide
  unfold Node.countryCode NodeRecord.toNode Country.code?
  cases record.country with
  | none => exact hother
  | some text => by_cases h : Country.canonical text = "" <;> simp [Option.filter, h, hother]

/-- Nodes from records are in the same group only if they have the same code. -/
theorem groupName_countryCode_inj {r r' : NodeRecord}
    (h : Country.groupName r.toNode.countryCode = Country.groupName r'.toNode.countryCode) :
    r.toNode.countryCode = r'.toNode.countryCode := by
  rw [Country.groupName_eq_iff] at h
  rwa [canonical_countryCode_toNode, canonical_countryCode_toNode] at h

/-- The code that a country text gives. -/
theorem countryCode_toNode {record : NodeRecord} {text : String}
    (htext : record.country = some text) :
    record.toNode.countryCode =
      if Country.canonical text = "" then Country.other else Country.canonical text := by
  by_cases h : Country.canonical text = "" <;>
    simp [Node.countryCode, NodeRecord.toNode, Country.code?, htext, Option.filter, h]

theorem countryCode_toNode_ne_empty (record : NodeRecord) : record.toNode.countryCode ≠ "" := by
  have hother : Country.other ≠ "" := by decide
  cases hcountry : record.country with
  | none =>
    have hcode : record.toNode.countryCode = Country.other := by
      simp [Node.countryCode, NodeRecord.toNode, Country.code?, hcountry]
    rwa [hcode]
  | some text =>
    rw [countryCode_toNode hcountry]
    split
    · exact hother
    · assumption

/-- Only a blank text has an empty canonical form. -/
theorem canonical_eq_empty_iff {text : String} :
    Country.canonical text = "" ↔ ∀ c ∈ text.toList, Text.isBlank c = true := by
  rw [← String.toList_eq_nil_iff, Country.toList_canonical, List.map_eq_nil_iff,
    Text.trimChars_eq_nil_iff]

/-- The group name tells the countries of two nodes apart.  The code of a node is read as itself, a
text that is not blank has the group name of the code that it gives, and no group name is that of a
built-in group or outbound. -/
theorem groupName_identifies_country (r s : NodeRecord) (code : String) :
    (Country.groupName r.toNode.countryCode = Country.groupName s.toNode.countryCode ↔
      r.toNode.countryCode = s.toNode.countryCode) ∧
    { r with country := some r.toNode.countryCode }.toNode.countryCode = r.toNode.countryCode ∧
    (∀ text, r.country = some text → (∃ c ∈ text.toList, Text.isBlank c = false) →
      Country.groupName r.toNode.countryCode = Country.groupName text) ∧
    Country.groupName code ∉ Outbound.fixedNames := by
  refine ⟨⟨groupName_countryCode_inj, congrArg _⟩, ?_, ?_,
    Country.groupName_notMem_fixedNames code⟩
  · rw [countryCode_toNode rfl, canonical_countryCode_toNode,
      if_neg (countryCode_toNode_ne_empty r)]
  · rintro text htext ⟨c, hc, hnot⟩
    have hne : Country.canonical text ≠ "" := fun hempty => by
      rw [canonical_eq_empty_iff.1 hempty c hc] at hnot
      cases hnot
    rw [countryCode_toNode htext, if_neg hne, Country.groupName_eq_iff, Country.canonical_canonical]

/-- Two codes for one country name have groups of their own, and a code that is written in another
way has the same group. -/
theorem groupName_identifies_country_sample :
    (∃ c ∈ " uk\t".toList, Text.isBlank c = false) ∧
    Country.groupName (NodeRecord.toNode ⟨"a", "trojan", "s", 1, some " uk\t", []⟩).countryCode =
      Country.groupName " uk\t" ∧
    Country.displayName "UK" = Country.displayName "GB" ∧
    Country.groupName (NodeRecord.toNode ⟨"a", "trojan", "s", 1, some " uk\t", []⟩).countryCode ≠
      Country.groupName (NodeRecord.toNode ⟨"b", "trojan", "s", 1, some "gb", []⟩).countryCode := by
  have hblank : ∃ c ∈ " uk\t".toList, Text.isBlank c = false :=
    ⟨'u', by decide +kernel, by decide +kernel⟩
  obtain ⟨hiff, _, hsame, _⟩ := groupName_identifies_country
    ⟨"a", "trojan", "s", 1, some " uk\t", []⟩ ⟨"b", "trojan", "s", 1, some "gb", []⟩ ""
  refine ⟨hblank, hsame _ rfl hblank, by decide +kernel, fun h => ?_⟩
  exact absurd (hiff.1 h) (by decide +kernel)

end ProxyConfig
