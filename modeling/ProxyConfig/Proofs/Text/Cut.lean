import ProxyConfig.Text.Cut

/-!
# Laws of cutting

Cutting goes part by part, so parts that were joined are cut each on its own.  They come back as
they were if none of them has a separator in it, and only then.

Main results:

- `pieces_append_cons`: a separator divides the cutting.
- `pieces_intercalate_eq_iff`: which parts are found again after they were joined.
- `length_flatMap_pieces_eq_iff`: their number alone tells it, too.
- `splitOn_eq_pieces`: the cuts are those of the standard library.
-/

namespace ProxyConfig
namespace Text

variable {α : Type} [DecidableEq α]

/-- Cutting at separators goes part by part. -/
theorem pieces_append_cons (sep : α) (s t : List α) :
    pieces sep (s ++ sep :: t) = pieces sep s ++ pieces sep t := by
  induction s with
  | nil => simp [pieces]
  | cons c rest ih =>
    by_cases hc : c = sep
    · simp [pieces, hc, ih]
    · simp only [List.cons_append, pieces, if_neg hc, ih]
      cases hrest : pieces sep rest with
      | nil => exact absurd hrest (pieces_ne_nil sep rest)
      | cons p ps => rfl

/-- No part has a separator in it. -/
theorem notMem_of_mem_pieces {sep : α} {s p : List α} (h : p ∈ pieces sep s) : sep ∉ p := by
  induction s generalizing p with
  | nil =>
    rw [pieces, List.mem_singleton] at h
    rw [h]
    exact List.not_mem_nil
  | cons c rest ih =>
    by_cases hc : c = sep
    · rw [pieces, if_pos hc, List.mem_cons] at h
      rcases h with rfl | h
      · exact List.not_mem_nil
      · exact ih h
    · rw [pieces, if_neg hc] at h
      cases hrest : pieces sep rest with
      | nil => exact absurd hrest (pieces_ne_nil sep rest)
      | cons first others =>
        rw [hrest] at h ih
        rcases List.mem_cons.1 h with rfl | hother
        · simp [Ne.symm hc, ih List.mem_cons_self]
        · exact ih (List.mem_cons_of_mem _ hother)

/-- Parts that were joined are cut each on its own. -/
theorem pieces_intercalate (sep : α) {parts : List (List α)} (hparts : parts ≠ []) :
    pieces sep ([sep].intercalate parts) = parts.flatMap (pieces sep) := by
  induction parts with
  | nil => exact absurd rfl hparts
  | cons p rest ih =>
    cases rest with
    | nil => simp
    | cons q others =>
      rw [List.intercalate_cons_cons, List.append_assoc, List.singleton_append,
        pieces_append_cons, ih (List.cons_ne_nil _ _), List.flatMap_cons (x := p)]

theorem flatMap_pieces_of_notMem {sep : α} {parts : List (List α)} (h : ∀ p ∈ parts, sep ∉ p) :
    parts.flatMap (pieces sep) = parts := by
  induction parts with
  | nil => rfl
  | cons p rest ih =>
    rw [List.forall_mem_cons] at h
    rw [List.flatMap_cons, pieces_of_not_mem h.1, ih h.2, List.singleton_append]

/-- Joined parts are found again by cutting exactly if there is no separator in them. -/
theorem pieces_intercalate_eq_iff {sep : α} {parts : List (List α)} (hparts : parts ≠ []) :
    pieces sep ([sep].intercalate parts) = parts ↔ ∀ p ∈ parts, sep ∉ p := by
  constructor
  · intro h p hp
    rw [← h] at hp
    exact notMem_of_mem_pieces hp
  · intro h
    rw [pieces_intercalate sep hparts, flatMap_pieces_of_notMem h]

theorem length_pieces (sep : α) (s : List α) : (pieces sep s).length = s.count sep + 1 := by
  induction s with
  | nil => rfl
  | cons c rest ih =>
    by_cases hc : c = sep
    · rw [pieces, if_pos hc, List.length_cons, ih, hc, List.count_cons_self]
    · rw [pieces, if_neg hc, List.count_cons_of_ne hc, ← ih]
      cases hrest : pieces sep rest with
      | nil => exact absurd hrest (pieces_ne_nil sep rest)
      | cons p ps => rfl

/-- Every separator inside a part makes one part more. -/
theorem length_flatMap_pieces (sep : α) (parts : List (List α)) :
    (parts.flatMap (pieces sep)).length = parts.length + parts.flatten.count sep := by
  induction parts with
  | nil => rfl
  | cons p rest ih =>
    rw [List.flatMap_cons, List.length_append, length_pieces, ih, List.flatten_cons,
      List.count_append, List.length_cons]
    omega

/-- Joined parts are cut into as many parts exactly if there is no separator in them. -/
theorem length_flatMap_pieces_eq_iff {sep : α} {parts : List (List α)} :
    (parts.flatMap (pieces sep)).length = parts.length ↔ ∀ p ∈ parts, sep ∉ p := by
  rw [length_flatMap_pieces, Nat.add_eq_left, List.count_eq_zero, List.mem_flatten]
  simp

/-- The same cuts as those of the standard function on lists. -/
theorem splitOn_eq_pieces (sep : Char) (s : List Char) : s.splitOn sep = pieces sep s := by
  induction s with
  | nil => rfl
  | cons c rest ih =>
    rw [List.splitOn_cons_eq_if_modifyHead, ih, pieces]
    by_cases hc : c = sep
    · simp [hc]
    · simp only [beq_eq_false_iff_ne.2 hc, Bool.false_eq_true, if_false, if_neg hc]
      cases hrest : pieces sep rest with
      | nil => exact absurd hrest (pieces_ne_nil sep rest)
      | cons p ps => rfl

end Text
end ProxyConfig
