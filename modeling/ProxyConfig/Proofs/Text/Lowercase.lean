import Mathlib.Data.List.Basic
import ProxyConfig.Text.Lowercase

/-!
# Lower case of a part of a text

Every character has a lower case of its own, apart from the capital sigma, whose form depends on the
letters around it.  So the lower case of a text holds that of each of its parts, unless a sigma has
another form in the text than in the part alone.

Main results:

- `lowerChars_append_append`: the lower case of a text by its parts.
- `lowerIn_eq_lowerIn_iff`: a part has the same lower case in two places exactly if its sigmas have
  the same forms there.
- `hasInfix_lowerChars`: a part whose sigmas keep their forms is found in lower case.
- `keepsSigmas_of_notMem`, `keepsSigmas_of_apart`: parts without a sigma, and parts that no letter
  adjoins.
-/

namespace ProxyConfig
namespace Text

/-- A capital sigma between two texts, the first of which is read backwards, ends a word. -/
def endsWord (before after : List Char) : Bool :=
  meetsCased before && !meetsCased after

/-- Lower case of a part of a text; `before` holds what precedes it, last character first, and
`after` what follows it. -/
def lowerIn (before : List Char) : List Char → List Char → List Char
  | [], _ => []
  | c :: rest, after =>
    (if c = capitalSigma then
      [if endsWord before (rest ++ after) then finalSigma else innerSigma]
    else lowerChar c) ++ lowerIn (c :: before) rest after

variable {before after before' after' part : List Char}

theorem lowerFrom_eq_lowerIn (before s : List Char) : lowerFrom before s = lowerIn before s [] := by
  induction s generalizing before with
  | nil => rfl
  | cons c rest ih => rw [lowerFrom, lowerIn, ih, List.append_nil, endsWord]

theorem lowerIn_append (before s t after : List Char) :
    lowerIn before (s ++ t) after =
      lowerIn before s (t ++ after) ++ lowerIn (s.reverse ++ before) t after := by
  induction s generalizing before with
  | nil => rfl
  | cons c rest ih =>
    rw [List.cons_append, lowerIn, lowerIn, ih, List.append_assoc, List.append_assoc,
      List.reverse_cons, List.append_assoc]
    rfl

/-- The lower case of a text is that of its parts, each in its place. -/
theorem lowerChars_append_append (before part after : List Char) :
    lowerChars (before ++ part ++ after) =
      lowerIn [] before (part ++ after) ++ lowerIn before.reverse part after ++
        lowerIn (part.reverse ++ before.reverse) after [] := by
  rw [lowerChars, lowerFrom_eq_lowerIn, lowerIn_append, lowerIn_append]
  simp only [List.append_nil, List.reverse_append]

/-! ## Forms of the sigma -/

/-- An occurrence in a list is its head or lies in its tail. -/
theorem forall_cons_eq_append_cons_iff {c x : Char} {tail : List Char}
    {P : List Char → List Char → Prop} :
    (∀ start rest, c :: tail = start ++ x :: rest → P start rest) ↔
      (c = x → P [] tail) ∧ ∀ start rest, tail = start ++ x :: rest → P (c :: start) rest := by
  constructor
  · intro h
    refine ⟨fun hc => h [] tail (by rw [hc]; rfl), fun start rest htail => ?_⟩
    exact h (c :: start) rest (by rw [htail]; rfl)
  · rintro ⟨hhead, hlater⟩ start rest heq
    cases start with
    | nil =>
      obtain ⟨hc, rfl⟩ := List.cons.inj heq
      exact hhead hc
    | cons d start =>
      obtain ⟨rfl, htail⟩ := List.cons.inj heq
      exact hlater start rest htail

theorem sigmaForm_inj {p q : Bool} :
    (if p then finalSigma else innerSigma) = (if q then finalSigma else innerSigma) ↔ p = q := by
  cases p <;> cases q <;> decide

/-- A part has the same lower case in two places exactly if each of its sigmas ends a word in both or
in neither of them. -/
theorem lowerIn_eq_lowerIn_iff :
    lowerIn before part after = lowerIn before' part after' ↔
      ∀ start rest, part = start ++ capitalSigma :: rest →
        endsWord (start.reverse ++ before) (rest ++ after) =
          endsWord (start.reverse ++ before') (rest ++ after') := by
  induction part generalizing before before' with
  | nil => simp [lowerIn]
  | cons c tail ih =>
    rw [lowerIn, lowerIn, forall_cons_eq_append_cons_iff]
    simp only [List.reverse_cons, List.append_assoc, List.singleton_append]
    by_cases hc : c = capitalSigma
    · rw [if_pos hc, if_pos hc, List.singleton_append, List.singleton_append, List.cons.injEq,
        sigmaForm_inj, ih]
      simp [hc]
    · rw [if_neg hc, if_neg hc, List.append_right_inj, ih]
      simp [hc]

/-- The sigmas of a part of a text have the forms that they have in the part alone. -/
def KeepsSigmas (before part after : List Char) : Prop :=
  ∀ start rest, part = start ++ capitalSigma :: rest →
    endsWord (start.reverse ++ before.reverse) (rest ++ after) = endsWord start.reverse rest

/-- A part of a text has the lower case that it has alone exactly if its sigmas keep their forms. -/
theorem lowerIn_eq_lowerChars_iff :
    lowerIn before.reverse part after = lowerChars part ↔ KeepsSigmas before part after := by
  rw [lowerChars, lowerFrom_eq_lowerIn, lowerIn_eq_lowerIn_iff]
  simp only [List.append_nil, KeepsSigmas]

/-- A part whose sigmas keep their forms is found in lower case, too. -/
theorem hasInfix_lowerChars (h : KeepsSigmas before part after) :
    hasInfix (lowerChars (before ++ part ++ after)) (lowerChars part) = true := by
  rw [hasInfix_iff, lowerChars_append_append, lowerIn_eq_lowerChars_iff.2 h]
  exact List.infix_append _ _ _

theorem keepsSigmas_of_notMem (h : capitalSigma ∉ part) : KeepsSigmas before part after := by
  rintro start rest rfl
  simp at h

/-- Beyond a text that begins without a letter, nothing else is seen. -/
theorem meetsCased_append {s t : List Char} (ht : meetsCased t = false) :
    meetsCased (s ++ t) = meetsCased s := by
  unfold meetsCased at ht ⊢
  rw [List.dropWhile_append]
  cases hs : s.dropWhile caseIgnorableRanges.contains with
  | nil => simpa using ht
  | cons c rest => simp

/-- The sigmas keep their forms if no letter adjoins the part. -/
theorem keepsSigmas_of_apart (hbefore : meetsCased before.reverse = false)
    (hafter : meetsCased after = false) : KeepsSigmas before part after := by
  intro start rest _
  rw [endsWord, endsWord, meetsCased_append hbefore, meetsCased_append hafter]

end Text
end ProxyConfig
