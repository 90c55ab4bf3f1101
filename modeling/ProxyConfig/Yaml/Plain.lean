import ProxyConfig.Number.Decimal

/-!
# What an unquoted scalar stands for

A scalar that is written without quotes may be read as null, a truth value or a number; all others
are texts.  Numbers with superfluous leading zeros are texts, and so are decimals that are too
large for double precision.
-/

namespace ProxyConfig
namespace Yaml

open Text

/-- The meaning of an unquoted scalar. -/
inductive Plain where
  | null
  | bool (value : Bool)
  /-- A whole number of at most 64 bits. -/
  | int (value : Int)
  /-- A whole number of more than 64 and at most 128 bits. -/
  | wide (value : Int)
  | float (value : Binary64)
  | text
deriving Repr, DecidableEq, Inhabited

namespace Plain

/-- The spellings of null; nothing at all is one of them. -/
def isNull (s : List Char) : Bool :=
  s == [] || s == ['~'] || s == "null".toList || s == "Null".toList || s == "NULL".toList

/-- The spellings of the truth values. -/
def bool? (s : List Char) : Option Bool :=
  if s == "true".toList || s == "True".toList || s == "TRUE".toList then some true
  else if s == "false".toList || s == "False".toList || s == "FALSE".toList then some false
  else none

/-- The value of a digit in a base of at most sixteen. -/
def radixDigit? (radix : Nat) (c : Char) : Option Nat :=
  let value :=
    if '0' ≤ c ∧ c ≤ '9' then c.toNat - '0'.toNat
    else if 'a' ≤ c ∧ c ≤ 'f' then c.toNat - 'a'.toNat + 10
    else if 'A' ≤ c ∧ c ≤ 'F' then c.toNat - 'A'.toNat + 10
    else radix
  if value < radix then some value else none

/-- The value of one or more digits in a base. -/
def radix? (radix : Nat) : List Char → Option Nat
  | [] => none
  | c :: rest =>
    (c :: rest).foldl (fun n c => n.bind fun n => (radixDigit? radix c).map (radix * n + ·))
      (some 0)

/-- A sign and nothing else is left out. -/
def dropSign : List Char → List Char
  | '-' :: rest => rest
  | '+' :: rest => rest
  | s => s

/-- Digits with superfluous leading zeros. -/
def isPaddedDigits (s : List Char) : Bool :=
  match dropSign s with
  | '0' :: c :: rest => (c :: rest).all Char.isDigit
  | _ => false

/-- The absolute value of a number in any of the four bases, after its sign. -/
def magnitude? (s : List Char) : Option Nat :=
  match s with
  | '0' :: 'x' :: rest => radix? 16 rest
  | '0' :: 'o' :: rest => radix? 8 rest
  | '0' :: 'b' :: rest => radix? 2 rest
  | s => if isPaddedDigits s then none else radix? 10 s

/-- A whole number with its sign. -/
def integer? : List Char → Option Int
  | '-' :: rest => (magnitude? rest).map fun n => -(n : Int)
  | '+' :: rest => (magnitude? rest).map fun n => (n : Int)
  | s => (magnitude? s).map fun n => (n : Int)

/-- The class of a whole number by its size; beyond 128 bits it is not read as one. -/
def ofInteger? (n : Int) : Option Plain :=
  if -(Nat.pow 2 63 : Nat) ≤ n ∧ n < (Nat.pow 2 64 : Nat) then some (.int n)
  else if -(Nat.pow 2 127 : Nat) ≤ n ∧ n < (Nat.pow 2 128 : Nat) then some (.wide n)
  else none

/-- A number in double precision. -/
def float? (s : List Char) : Option Binary64 :=
  let body := dropPlus s
  if body == ".inf".toList || body == ".Inf".toList || body == ".INF".toList then
    some (.infinite false)
  else if s == "-.inf".toList || s == "-.Inf".toList || s == "-.INF".toList then
    some (.infinite true)
  else if s == ".nan".toList || s == ".NaN".toList || s == ".NAN".toList then some .nan
  else if body.head? == some '+' || (body != s && body.head? == some '-') then none
  else ((Decimal.parse? body).map Decimal.toBinary64).filter Binary64.isFinite

/-- The whole number that a scalar is read as. -/
def wholeNumber? (s : List Char) : Option Plain :=
  (integer? s).bind ofInteger?

/-- The meaning of an unquoted scalar. -/
def resolve (s : List Char) : Plain :=
  if isNull s then .null
  else
    match bool? s with
    | some b => .bool b
    | none =>
      match wholeNumber? s with
      | some n => n
      | none =>
        if isPaddedDigits s then .text
        else
          match float? s with
          | some x => .float x
          | none => .text

end Plain
end Yaml
end ProxyConfig
