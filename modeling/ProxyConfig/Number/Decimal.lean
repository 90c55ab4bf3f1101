import ProxyConfig.Number.Binary64
import ProxyConfig.Text.Numeral

/-!
# Decimal text of double precision numbers

Reading takes a sign, digits with an optional point, and an optional exponent.  Writing uses the
fewest digits that read back as the same number, the nearest such digits if there are several,
and two layouts: positional throughout, or with an exponent outside a range of magnitudes.
-/

namespace ProxyConfig

/-- A decimal: `digits * 10 ^ exponent`, written with `size` digits. -/
structure Decimal where
  negative : Bool
  digits : Nat
  size : Nat
  exponent : Int
deriving Repr, DecidableEq

namespace Decimal

open Text

/-- The double precision number nearest to a decimal. -/
def toBinary64 (d : Decimal) : Binary64 :=
  Binary64.ofDecimal d.negative d.digits d.size d.exponent

/-- The digits at the start of a text, and what follows them. -/
def spanDigits (s : List Char) : List Char × List Char :=
  (s.takeWhile Char.isDigit, s.dropWhile Char.isDigit)

/-- The value of a list of digits. -/
def valueOf (digits : List Char) : Nat :=
  digits.foldl (fun n c => 10 * n + (c.toNat - '0'.toNat)) 0

/-- A sign and what follows it. -/
def signed : List Char → Bool × List Char
  | '-' :: rest => (true, rest)
  | '+' :: rest => (false, rest)
  | s => (false, s)

/-- An exponent, or nothing at all. -/
def exponent? : List Char → Option Int
  | [] => some 0
  | c :: rest =>
    if c = 'e' ∨ c = 'E' then
      let (negative, digits) := signed rest
      (digits? digits).map fun n => if negative then -(n : Int) else n
    else none

/-- Digits around an optional point, with at least one digit. -/
def unsigned? (negative : Bool) (s : List Char) : Option Decimal :=
  let (whole, rest) := spanDigits s
  let (fraction, rest) :=
    match rest with
    | '.' :: rest => spanDigits rest
    | rest => ([], rest)
  if whole.isEmpty ∧ fraction.isEmpty then none
  else
    (exponent? rest).map fun e =>
      { negative := negative
        digits := valueOf (whole ++ fraction)
        size := (whole ++ fraction).length
        exponent := e - (fraction.length : Int) }

/-- Read a decimal. -/
def parse? (s : List Char) : Option Decimal :=
  let (negative, rest) := signed s
  unsigned? negative rest

/-- The digits of a natural number. -/
def digitChars (n : Nat) : List Char :=
  Nat.toDigits 10 n

/-! ## The fewest digits that read back -/

/-- Compare `a * 10 ^ p` with `b * 2 ^ q`. -/
def compareScaled (a : Nat) (p : Int) (b : Nat) (q : Int) : Ordering :=
  compare (a * Nat.pow 10 p.toNat * Nat.pow 2 (-q).toNat)
    (b * Nat.pow 2 q.toNat * Nat.pow 10 (-p).toNat)

/-- The distance of `a * 10 ^ p` from `b * 2 ^ q`, in a unit that depends on `p` and `q` only. -/
def distanceScaled (a : Nat) (p : Int) (b : Nat) (q : Int) : Nat :=
  let x := a * Nat.pow 10 p.toNat * Nat.pow 2 (-q).toNat
  let y := b * Nat.pow 2 q.toNat * Nat.pow 10 (-p).toNat
  (x - y) + (y - x)

/-- The largest power of ten that does not exceed `mantissa * 2 ^ exponent`. -/
def magnitude (mantissa : Nat) (exponent : Int) : Int :=
  let guess : Int := (((Nat.log2 mantissa : Int) + exponent) * 30103) / 100000
  let fits (p : Int) : Bool := compareScaled 1 p mantissa exponent != .gt
  if fits (guess + 1) then guess + 1 else if fits guess then guess else guess - 1

/-- A multiple of `10 ^ p` that reads back as `mantissa * 2 ^ exponent`, the nearest if both
neighbours do. -/
def onGrid? (mantissa : Nat) (exponent : Int) (p : Int) : Option Nat :=
  let q := exponent - 2
  let low :=
    if mantissa = Binary64.fullMantissa ∧ Binary64.leastExponent < exponent then 4 * mantissa - 1
    else 4 * mantissa - 2
  let high := 4 * mantissa + 2
  let even := mantissa % 2 == 0
  let readsBack (a : Nat) : Bool :=
    match compareScaled a p low q, compareScaled a p high q with
    | .gt, .lt => true
    | .eq, _ => even
    | _, .eq => even
    | _, _ => false
  let below :=
    mantissa * Nat.pow 2 exponent.toNat * Nat.pow 10 (-p).toNat /
      (Nat.pow 10 p.toNat * Nat.pow 2 (-exponent).toNat)
  match readsBack below, readsBack (below + 1) with
  | true, true =>
    match compare (distanceScaled below p mantissa exponent)
        (distanceScaled (below + 1) p mantissa exponent) with
    | .lt => some below
    | .gt => some (below + 1)
    | .eq => some (if below % 2 = 0 then below else below + 1)
  | true, false => some below
  | false, true => some (below + 1)
  | false, false => none

/-- Search the grids of one digit, two digits and so on, after the power of ten just above the
number; seventeen digits always read back. -/
def shortestFrom (mantissa : Nat) (exponent top : Int) : Nat → Nat → Nat × Int
  | 0, _ => (0, 0)
  | fuel + 1, size =>
    let p := top + 1 - (size : Int)
    match onGrid? mantissa exponent p with
    | some a => (a, p)
    | none => shortestFrom mantissa exponent top fuel (size + 1)

/-- The shortest digits of a positive number, and the power of ten that goes with them. -/
def shortest (mantissa : Nat) (exponent : Int) : Nat × Int :=
  shortestFrom mantissa exponent (magnitude mantissa exponent) 19 0

/-! ## Layouts -/

/-- Digits with the point `places` digits before their end, or zeros after them. -/
def positional (digits : List Char) (power : Int) : List Char :=
  if 0 ≤ power then digits ++ List.replicate power.toNat '0' ++ ['.', '0']
  else
    let places := (-power).toNat
    let padded := List.replicate (places + 1 - digits.length) '0' ++ digits
    padded.take (padded.length - places) ++ '.' :: padded.drop (padded.length - places)

/-- Digits with a point after the first, and an exponent of two digits or more with its sign. -/
def scientific (digits : List Char) (power : Int) : List Char :=
  let e := power + (digits.length : Int) - 1
  let front :=
    match digits with
    | [] => []
    | [d] => [d]
    | d :: rest => d :: '.' :: rest
  let size := digitChars e.natAbs
  front ++ 'e' :: (if e < 0 then '-' else '+') ::
    (if size.length < 2 then '0' :: size else size)

/-- A number in positional notation, with at least one place. -/
def plainText : Binary64 → String
  | .nan => "NaN"
  | .infinite negative => if negative then "-inf" else "inf"
  | .finite negative mantissa exponent =>
    let text :=
      if mantissa = 0 then ['0', '.', '0']
      else
        let (digits, power) := shortest mantissa exponent
        positional (digitChars digits) power
    String.ofList (if negative then '-' :: text else text)

/-- A number in positional notation from `10 ^ -5` to below `10 ^ 16`, and with an exponent
outside. -/
def compactText : Binary64 → String
  | .nan => "NaN"
  | .infinite negative => if negative then "-inf" else "inf"
  | .finite negative mantissa exponent =>
    let text :=
      if mantissa = 0 then ['0', '.', '0']
      else
        let (digits, power) := shortest mantissa exponent
        let chars := digitChars digits
        let e := power + (chars.length : Int) - 1
        if -5 ≤ e ∧ e ≤ 15 then positional chars power else scientific chars power
    String.ofList (if negative then '-' :: text else text)

end Decimal
end ProxyConfig
