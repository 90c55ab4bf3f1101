/-!
# Cutting lists at separators

The parsers of the library take lists of characters apart at single characters.  `cutAt`
takes off what precedes the first separator, `pieces` cuts at every one, and
`joinWith` puts parts together again.
-/

namespace ProxyConfig
namespace Text

variable {α : Type} [DecidableEq α]

/-- What stands before and after the first separator, if there is one. -/
def cutAt (sep : α) : List α → Option (List α × List α)
  | [] => none
  | c :: rest =>
    if c = sep then some ([], rest)
    else (cutAt sep rest).map fun p => (c :: p.1, p.2)

/-- The parts between separators; there is one more part than there are separators. -/
def pieces (sep : α) : List α → List (List α)
  | [] => [[]]
  | c :: rest =>
    if c = sep then [] :: pieces sep rest
    else
      match pieces sep rest with
      | [] => [[c]]
      | p :: ps => (c :: p) :: ps

/-- Parts put together with a separator between any two. -/
def joinWith (sep : α) : List (List α) → List α
  | [] => []
  | [p] => p
  | p :: q :: ps => p ++ sep :: joinWith sep (q :: ps)

theorem cutAt_eq_none {sep : α} {s : List α} : cutAt sep s = none ↔ sep ∉ s := by
  induction s with
  | nil => simp [cutAt]
  | cons c rest ih =>
    by_cases h : c = sep
    · simp [cutAt, h]
    · simp [cutAt, h, ih, Ne.symm h]

theorem cutAt_eq_some {sep : α} {s a b : List α} :
    cutAt sep s = some (a, b) ↔ s = a ++ sep :: b ∧ sep ∉ a := by
  induction s generalizing a with
  | nil => simp [cutAt]
  | cons c rest ih =>
    by_cases h : c = sep
    · subst h
      cases a with
      | nil => simp [cutAt]
      | cons x xs =>
        simp only [cutAt, if_pos, Option.some.injEq, Prod.mk.injEq, List.mem_cons, not_or]
        constructor
        · rintro ⟨h, _⟩; cases h
        · rintro ⟨h, hne, _⟩
          simp only [List.cons_append, List.cons.injEq] at h
          exact absurd h.1 hne
    · cases a with
      | nil => simp [cutAt, h]
      | cons x xs =>
        simp only [cutAt, if_neg h, Option.map_eq_some_iff, Prod.exists, Prod.mk.injEq,
          List.cons.injEq, List.cons_append, List.mem_cons, not_or]
        constructor
        · rintro ⟨u, v, hu, ⟨rfl, rfl⟩, rfl⟩
          obtain ⟨hr, hn⟩ := ih.1 hu
          exact ⟨⟨rfl, hr⟩, fun e => h e.symm, hn⟩
        · rintro ⟨⟨rfl, hr⟩, _, hn⟩
          exact ⟨xs, b, ih.2 ⟨hr, hn⟩, ⟨rfl, rfl⟩, rfl⟩

theorem pieces_ne_nil (sep : α) (s : List α) : pieces sep s ≠ [] := by
  induction s with
  | nil => simp [pieces]
  | cons c rest ih =>
    by_cases h : c = sep
    · simp [pieces, h]
    · simp only [pieces, if_neg h]
      split <;> simp

/-- A list without separators is its own only part. -/
theorem pieces_of_not_mem {sep : α} {s : List α} (h : sep ∉ s) : pieces sep s = [s] := by
  induction s with
  | nil => rfl
  | cons c rest ih =>
    simp only [List.mem_cons, not_or] at h
    simp [pieces, Ne.symm h.1, ih h.2]

end Text
end ProxyConfig
