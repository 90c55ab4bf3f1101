import Mathlib.Data.List.DropRight
import ProxyConfig.Text.Ascii
import ProxyConfig.Text.Blank

/-!
# Laws of trimming and of the upper case

Both are idempotent, and they commute: no letter of the ASCII alphabet is white space.

Main results:

- `trimChars_trimChars`: what was trimmed has no white space left at its ends.
- `trimChars_eq_nil_iff`: only white space is trimmed away as a whole.
- `isTrimmed_trimChars`: what trimming leaves, told by what stands around it.
- `trimChars_map_toUpper`: it does not matter which of the two comes first.
-/

namespace ProxyConfig
namespace Text

/-- The code point of a letter a to z in upper case, and of every other character. -/
theorem toNat_toUpper (c : Char) :
    c.toUpper.toNat = if 97 ≤ c.toNat ∧ c.toNat ≤ 122 then c.toNat - 32 else c.toNat := by
  unfold Char.toUpper
  split
  · rename_i h
    have hlow : 97 ≤ c.val.toNat := h.1
    have hhigh : c.val.toNat ≤ 122 := h.2
    simp only [Char.toNat, hlow, hhigh, and_self, if_true]
    rw [UInt32.toNat_add]
    have hshift : ('A'.val - 'a'.val).toNat = 4294967264 := by decide
    rw [hshift]
    omega
  · rename_i h
    rw [if_neg]
    exact h

/-- No letter in upper case is one of the letters a to z. -/
theorem not_isLower_toUpper (c : Char) : ¬ (97 ≤ c.toUpper.toNat ∧ c.toUpper.toNat ≤ 122) := by
  rw [toNat_toUpper]
  split <;> omega

/-- The upper case is in upper case. -/
theorem toUpper_toUpper (c : Char) : c.toUpper.toUpper = c.toUpper := by
  apply Char.toNat_inj.1
  rw [toNat_toUpper c.toUpper, if_neg (not_isLower_toUpper c)]

/-- The case of a letter has nothing to do with white space. -/
theorem isBlank_toUpper (c : Char) : isBlank c.toUpper = isBlank c := by
  unfold isBlank Ranges.contains blankRanges
  rw [toNat_toUpper]
  split
  · rename_i h
    simp only [List.any_cons, List.any_nil, Bool.or_false]
    have hletter : ∀ n, 65 ≤ n → n ≤ 122 → n ≠ 0x20 ∧ ¬ n ≤ 0xd ∧ ¬ 0x85 ≤ n := by omega
    have hup := hletter (c.toNat - 32) (by omega) (by omega)
    have hlow := hletter c.toNat (by omega) (by omega)
    grind
  · rfl

/-- Upper case commutes with dropping white space at the start. -/
theorem dropWhile_isBlank_map_toUpper (s : List Char) :
    (s.map Char.toUpper).dropWhile isBlank = (s.dropWhile isBlank).map Char.toUpper := by
  rw [List.dropWhile_map]
  congr 2
  funext c
  exact isBlank_toUpper c

/-- Upper case commutes with trimming. -/
theorem trimChars_map_toUpper (s : List Char) :
    trimChars (s.map Char.toUpper) = (trimChars s).map Char.toUpper := by
  unfold trimChars trimEndChars
  rw [dropWhile_isBlank_map_toUpper, ← List.map_reverse, dropWhile_isBlank_map_toUpper,
    ← List.map_reverse]

/-- If nothing is dropped at the start of a text, nothing is dropped at the start of a beginning of
it. -/
theorem dropWhile_eq_self_of_prefix {p : Char → Bool} {s t : List Char} (hbegin : s <+: t)
    (ht : t.dropWhile p = t) : s.dropWhile p = s := by
  rw [List.dropWhile_eq_self_iff] at ht ⊢
  intro hs
  have hpos : 0 < t.length := lt_of_lt_of_le hs hbegin.length_le
  rw [hbegin.getElem hs]
  exact ht hpos

/-- Nothing is left of a text exactly if it is all white space. -/
theorem trimChars_eq_nil_iff {s : List Char} : trimChars s = [] ↔ ∀ c ∈ s, isBlank c = true := by
  have htrim : trimChars s = (s.dropWhile isBlank).rdropWhile isBlank := rfl
  rw [htrim, List.rdropWhile_eq_nil_iff]
  constructor
  · intro h
    have hnil : s.dropWhile isBlank = [] := by
      by_contra hne
      -- What is left begins with a character that is no white space.
      have hhead := List.head_dropWhile_not isBlank hne
      rw [h _ (List.head_mem hne)] at hhead
      cases hhead
    exact List.dropWhile_eq_nil_iff.1 hnil
  · intro h c hc
    exact h c (List.dropWhile_subset isBlank hc)

/-- Nothing is left to drop at the start of a trimmed text. -/
theorem dropWhile_trimChars (s : List Char) : (trimChars s).dropWhile isBlank = trimChars s := by
  apply dropWhile_eq_self_of_prefix (t := s.dropWhile isBlank)
  · exact List.rdropWhile_prefix isBlank _
  · exact List.dropWhile_idempotent isBlank _

/-- Nothing is left to drop at its end. -/
theorem trimEndChars_trimChars (s : List Char) : trimEndChars (trimChars s) = trimChars s :=
  List.rdropWhile_idempotent isBlank _

/-- Trimming leaves no white space at the ends. -/
theorem trimChars_trimChars (s : List Char) : trimChars (trimChars s) = trimChars s := by
  rw [trimChars, dropWhile_trimChars, trimEndChars_trimChars]

/-! ## What is left between the ends -/

/-- The text is the inner one with white space around it, and no more can be taken away. -/
structure IsTrimmed (s inner : List Char) : Prop where
  around : ∃ before after, s = before ++ inner ++ after ∧
    (∀ c ∈ before, isBlank c = true) ∧ ∀ c ∈ after, isBlank c = true
  first : ∀ c ∈ inner.head?, isBlank c = false
  last : ∀ c ∈ inner.getLast?, isBlank c = false

/-- If nothing is dropped at the start of a text, it does not begin with white space. -/
theorem isBlank_head?_of_dropWhile {s : List Char} (h : s.dropWhile isBlank = s) :
    ∀ c ∈ s.head?, isBlank c = false := by
  intro c hc
  obtain ⟨rest, rfl⟩ : ∃ rest, s = c :: rest := List.head?_eq_some_iff.1 hc
  have hnot := List.dropWhile_eq_self_iff.1 h (Nat.zero_lt_succ _)
  rwa [List.getElem_cons_zero, Bool.not_eq_true] at hnot

/-- Trimming leaves the inner text that has white space around it and none at its ends. -/
theorem isTrimmed_trimChars (s : List Char) : IsTrimmed s (trimChars s) := by
  have htrim : trimChars s = (s.dropWhile isBlank).rdropWhile isBlank := rfl
  refine ⟨⟨s.takeWhile isBlank, (s.dropWhile isBlank).rtakeWhile isBlank, ?_, ?_, ?_⟩, ?_, ?_⟩
  · rw [htrim, List.append_assoc, List.rdropWhile_append_rtakeWhile,
      List.takeWhile_append_dropWhile]
  · intro c hc
    exact List.mem_takeWhile_imp hc
  · intro c hc
    exact List.mem_rtakeWhile_imp hc
  · exact isBlank_head?_of_dropWhile (dropWhile_trimChars s)
  · have hend : (trimChars s).reverse.dropWhile isBlank = (trimChars s).reverse := by
      rw [← List.reverse_inj, List.reverse_reverse]
      exact trimEndChars_trimChars s
    have hlast := isBlank_head?_of_dropWhile hend
    rwa [List.head?_reverse] at hlast

end Text
end ProxyConfig
