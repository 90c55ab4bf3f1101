/-!
# Double precision numbers, exactly

A finite number is a sign, a whole mantissa and a power of two, so that reading a decimal is one
rounded division of natural numbers and nothing depends on machine arithmetic.  Rounding goes to
the nearest number, and from the middle to the even mantissa.
-/

namespace ProxyConfig

/-- A number of the IEEE 754 binary64 format. -/
inductive Binary64 where
  /-- The number `mantissa * 2 ^ exponent`, with its sign. -/
  | finite (negative : Bool) (mantissa : Nat) (exponent : Int)
  | infinite (negative : Bool)
  | nan
deriving Repr, DecidableEq, Inhabited

namespace Binary64

/-- The first mantissa that needs all bits. -/
def fullMantissa : Nat := Nat.pow 2 52

/-- The exponent of the smallest numbers. -/
def leastExponent : Int := -1074

/-- The exponent of the largest numbers. -/
def greatestExponent : Int := 971

/-- Divide and round to the nearest, from the middle to the even quotient. -/
def roundDiv (num den : Nat) : Nat :=
  let q := num / den
  let r := num % den
  if 2 * r < den then q
  else if den < 2 * r then q + 1
  else if q % 2 = 0 then q
  else q + 1

/-- The quotient of two natural numbers after a shift by a power of two. -/
def shiftedDiv (num den : Nat) (exponent : Int) : Nat × Nat :=
  if 0 ≤ exponent then (num, den * Nat.pow 2 exponent.toNat)
  else (num * Nat.pow 2 (-exponent).toNat, den)

/-- The number nearest to a positive fraction. -/
def ofFraction (negative : Bool) (num den : Nat) : Binary64 :=
  let guess : Int := (Nat.log2 num : Int) - (Nat.log2 den : Int) - 52
  let (n, d) := shiftedDiv num den guess
  let exponent := max (if n / d < fullMantissa then guess - 1 else guess) leastExponent
  let (n, d) := shiftedDiv num den exponent
  let mantissa := roundDiv n d
  let (mantissa, exponent) :=
    if mantissa = 2 * fullMantissa then (fullMantissa, exponent + 1) else (mantissa, exponent)
  if greatestExponent < exponent then .infinite negative
  else if mantissa = 0 then .finite negative 0 0
  else .finite negative mantissa exponent

/-- The number nearest to `digits * 10 ^ exponent`; `size` is the count of the digits, which
settles overflow and underflow before any power is taken. -/
def ofDecimal (negative : Bool) (digits : Nat) (size : Nat) (exponent : Int) : Binary64 :=
  if digits = 0 then .finite negative 0 0
  else if 310 < exponent + size then .infinite negative
  else if exponent + size < -330 then .finite negative 0 0
  else if 0 ≤ exponent then ofFraction negative (digits * Nat.pow 10 exponent.toNat) 1
  else ofFraction negative digits (Nat.pow 10 (-exponent).toNat)

/-- The natural number that the number is, if it is one. -/
def toNat? : Binary64 → Option Nat
  | .finite negative mantissa exponent =>
    if negative ∧ mantissa ≠ 0 then none
    else if 0 ≤ exponent then some (mantissa * Nat.pow 2 exponent.toNat)
    else if mantissa % Nat.pow 2 (-exponent).toNat = 0 then
      some (mantissa / Nat.pow 2 (-exponent).toNat)
    else none
  | .infinite _ | .nan => none

/-- Neither infinite nor undefined. -/
def isFinite : Binary64 → Bool
  | .finite .. => true
  | .infinite _ | .nan => false

end Binary64
end ProxyConfig
