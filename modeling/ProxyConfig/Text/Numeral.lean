/-!
# Decimal numerals

A numeral is an optional plus sign and at least one ASCII digit, and it is read only when its
value does not pass a bound: out of range numerals are refused, never wrapped.
-/

namespace ProxyConfig
namespace Text

/-- The value of an ASCII digit. -/
def digitValue? (c : Char) : Option Nat :=
  if '0' ≤ c ∧ c ≤ '9' then some (c.toNat - '0'.toNat) else none

/-- Read digits after a number already read. -/
def digitsFrom? (value : Nat) : List Char → Option Nat
  | [] => some value
  | c :: rest =>
    match digitValue? c with
    | some d => digitsFrom? (10 * value + d) rest
    | none => none

/-- The value of a text of one or more digits. -/
def digits? : List Char → Option Nat
  | [] => none
  | c :: rest => digitsFrom? 0 (c :: rest)

/-- Leave out a single leading plus sign. -/
def dropPlus : List Char → List Char
  | '+' :: rest => rest
  | s => s

/-- The value of a numeral that does not exceed the bound. -/
def numeral? (bound : Nat) (s : List Char) : Option Nat :=
  (digits? (dropPlus s)).filter (· ≤ bound)

/-- The largest 16-bit number. -/
def maxU16 : Nat := 65535

/-- The largest 32-bit number. -/
def maxU32 : Nat := 4294967295

/-- The largest 64-bit number. -/
def maxU64 : Nat := 18446744073709551615

theorem numeral?_eq_some {bound : Nat} {s : List Char} {n : Nat} :
    numeral? bound s = some n ↔ digits? (dropPlus s) = some n ∧ n ≤ bound := by
  simp [numeral?, Option.filter_eq_some_iff]

end Text
end ProxyConfig
