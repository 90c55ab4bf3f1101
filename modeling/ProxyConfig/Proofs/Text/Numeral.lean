import Mathlib.Data.Nat.Digits.Defs
import ProxyConfig.Text.Numeral

/-!
# The language of decimal numerals

A numeral is an optional plus sign and one or more ASCII digits, and it denotes the number of its
digits to the base ten.  The reader of numerals accepts exactly these texts, as long as the number
does not pass the bound.

Main results:

- `digits?_eq_some_iff`: what the reader of digits accepts.
- `numeral?_eq_some_iff_isNumeral`: what the reader of numerals accepts.
- `isNumeral_toDigits`: the digits that are printed for a number are a numeral of it.
-/

namespace ProxyConfig
namespace Text

/-- One of the digits 0 to 9. -/
def IsDigit (c : Char) : Prop :=
  '0' ≤ c ∧ c ≤ '9'

/-- The number that digits denote to the base ten. -/
def decimal (s : List Char) : Nat :=
  Nat.ofDigits 10 (s.map fun c => c.toNat - '0'.toNat).reverse

/-- The text is a numeral of the number. -/
def IsNumeral (s : List Char) (n : Nat) : Prop :=
  ∃ digits, (s = digits ∨ s = '+' :: digits) ∧ digits ≠ [] ∧ (∀ c ∈ digits, IsDigit c) ∧
    decimal digits = n

variable {s : List Char} {n value : Nat} {c : Char}

theorem digitValue?_eq_some_iff : digitValue? c = some n ↔ IsDigit c ∧ c.toNat - '0'.toNat = n := by
  unfold digitValue? IsDigit
  split <;> simp [*]

/-- The first digit counts most. -/
theorem decimal_cons (c : Char) (rest : List Char) :
    decimal (c :: rest) = (c.toNat - '0'.toNat) * 10 ^ rest.length + decimal rest := by
  unfold decimal
  rw [List.map_cons, List.reverse_cons, Nat.ofDigits_append, Nat.ofDigits_singleton,
    List.length_reverse, List.length_map]
  ring

/-- Digits are read after the number that was read already. -/
theorem digitsFrom?_eq_some_iff :
    digitsFrom? value s = some n ↔
      (∀ c ∈ s, IsDigit c) ∧ value * 10 ^ s.length + decimal s = n := by
  induction s generalizing value with
  | nil => simp [digitsFrom?, decimal]
  | cons c rest ih =>
    rw [digitsFrom?, decimal_cons, List.length_cons, List.forall_mem_cons]
    cases hc : digitValue? c with
    | none =>
      have hno : ¬ IsDigit c := fun hdigit => by
        rw [digitValue?_eq_some_iff.2 ⟨hdigit, rfl⟩] at hc
        cases hc
      simp [hno]
    | some d =>
      obtain ⟨hdigit, rfl⟩ := digitValue?_eq_some_iff.1 hc
      have hvalue : ∀ d : Nat, (10 * value + d) * 10 ^ rest.length + decimal rest =
          value * 10 ^ (rest.length + 1) + (d * 10 ^ rest.length + decimal rest) := by
        intro d
        ring
      simp only [ih, hvalue, hdigit, true_and]

/-- The digits of a number are all that is accepted as digits. -/
theorem digits?_eq_some_iff :
    digits? s = some n ↔ s ≠ [] ∧ (∀ c ∈ s, IsDigit c) ∧ decimal s = n := by
  cases s with
  | nil => simp [digits?]
  | cons c rest =>
    rw [digits?, digitsFrom?_eq_some_iff]
    simp

theorem not_isDigit_plus : ¬ IsDigit '+' := by
  unfold IsDigit
  decide

/-- A numeral is what has digits after its sign. -/
theorem isNumeral_iff :
    IsNumeral s n ↔ dropPlus s ≠ [] ∧ (∀ c ∈ dropPlus s, IsDigit c) ∧ decimal (dropPlus s) = n := by
  constructor
  · rintro ⟨digits, rfl | rfl, hne, hdigits, hvalue⟩
    · -- Digits do not begin with a sign.
      have hself : dropPlus s = s := by
        unfold dropPlus
        split
        · exact absurd (hdigits '+' List.mem_cons_self) not_isDigit_plus
        · rfl
      rw [hself]
      exact ⟨hne, hdigits, hvalue⟩
    · exact ⟨hne, hdigits, hvalue⟩
  · intro h
    refine ⟨dropPlus s, ?_, h⟩
    unfold dropPlus
    split
    · exact Or.inr rfl
    · exact Or.inl rfl

/-- Exactly the numerals up to the bound are accepted. -/
theorem numeral?_eq_some_iff_isNumeral {bound : Nat} :
    numeral? bound s = some n ↔ IsNumeral s n ∧ n ≤ bound := by
  rw [numeral?_eq_some, digits?_eq_some_iff, isNumeral_iff]

/-- The number of digits is read as by the standard library. -/
theorem decimal_eq_ofDigitChars (s : List Char) : decimal s = Nat.ofDigitChars 10 s 0 := by
  induction s with
  | nil => rfl
  | cons c rest ih =>
    rw [decimal_cons, Nat.ofDigitChars_cons, Nat.ofDigitChars_eq_ofDigitChars_zero, ih]
    ring

theorem isDigit_of_mem_toDigits {n : Nat} {c : Char} (h : c ∈ Nat.toDigits 10 n) : IsDigit c := by
  have hdigit : c.isDigit = true := Nat.isDigit_of_mem_toDigits (by decide) (by decide) h
  simpa [Char.isDigit, IsDigit, Char.le_def] using hdigit

/-- What is printed is a numeral of the number. -/
theorem isNumeral_toDigits (n : Nat) : IsNumeral (Nat.toDigits 10 n) n := by
  refine ⟨Nat.toDigits 10 n, Or.inl rfl, Nat.toDigits_ne_nil, fun c => isDigit_of_mem_toDigits, ?_⟩
  rw [decimal_eq_ofDigitChars, Nat.ofDigitChars_ten_toDigits]

/-- A numeral denotes one number. -/
theorem IsNumeral.unique {m : Nat} (hn : IsNumeral s n) (hm : IsNumeral s m) : n = m := by
  obtain ⟨_, _, hn⟩ := isNumeral_iff.1 hn
  obtain ⟨_, _, hm⟩ := isNumeral_iff.1 hm
  rw [← hn, hm]

/-- There is no colon in a numeral. -/
theorem IsNumeral.colon_notMem (h : IsNumeral s n) : ':' ∉ s := by
  obtain ⟨digits, hs, _, hdigits, _⟩ := h
  have hcolon : ':' ∉ digits := fun hmem => by
    have hdigit := hdigits ':' hmem
    unfold IsDigit at hdigit
    exact absurd hdigit (by decide)
  rcases hs with rfl | rfl
  · exact hcolon
  · simp [hcolon]

end Text
end ProxyConfig
