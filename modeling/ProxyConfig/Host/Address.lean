import ProxyConfig.Text.Cut
import ProxyConfig.Text.Numeral

/-!
# Numeric addresses

An address of four bytes may be written with fewer than four parts and in three bases; then the last
part fills the remaining bytes.  An address of eight pieces is written in hexadecimal groups; one
run of zeros may be left out, and the last two pieces may be written as four bytes.
-/

namespace ProxyConfig
namespace Host

open Text

/-! ## Four bytes -/

/-- The value of a digit in a base of at most sixteen. -/
def baseDigit? (base : Nat) (c : Char) : Option Nat :=
  let value :=
    if '0' ≤ c ∧ c ≤ '9' then c.toNat - '0'.toNat
    else if 'a' ≤ c ∧ c ≤ 'f' then c.toNat - 'a'.toNat + 10
    else if 'A' ≤ c ∧ c ≤ 'F' then c.toNat - 'A'.toNat + 10
    else base
  if value < base then some value else none

/-- The value of digits; no digits are zero. -/
def baseNumber? (base : Nat) (s : List Char) : Option Nat :=
  s.foldl (fun n c => n.bind fun n => (baseDigit? base c).map (base * n + ·)) (some 0)

/-- The value of one part: hexadecimal after `0x`, octal after another zero. -/
def part? : List Char → Option Nat
  | [] => none
  | '0' :: 'x' :: rest | '0' :: 'X' :: rest => baseNumber? 16 rest
  | '0' :: c :: rest => baseNumber? 8 (c :: rest)
  | s => baseNumber? 10 s

/-- The parts of a name, where a final point does not count. -/
def parts (s : List Char) : List (List Char) :=
  let all := pieces '.' s
  if all.getLast? = some [] then all.dropLast else all

/-- The last part of a name is a number, so the name has to be an address. -/
def endsInNumber (s : List Char) : Bool :=
  match (parts s).getLast? with
  | none => false
  | some last => (last ≠ [] && last.all Char.isDigit) || (part? last).isSome

/-- The address of the values of its parts: bytes, and a last value for the bytes that are left. -/
def ofParts? (values : List Nat) : Option Nat :=
  match values.reverse with
  | [] => none
  | last :: bytes =>
    if bytes.length ≤ 3 ∧ bytes.all (· ≤ 255) ∧ last < Nat.pow 256 (4 - bytes.length) then
      some (bytes.reverse.foldl (fun n b => 256 * n + b) 0 * Nat.pow 256 (4 - bytes.length) + last)
    else
      none

/-- An address of four bytes. -/
def ipv4? (s : List Char) : Option Nat :=
  ((parts s).mapM part?).bind ofParts?

/-! ## Eight pieces -/

/-- One piece: up to four hexadecimal digits. -/
def piece? (s : List Char) : Option Nat :=
  if s ≠ [] ∧ s.length ≤ 4 then baseNumber? 16 s else none

/-- A byte without superfluous zeros. -/
def byte? : List Char → Option Nat
  | ['0'] => some 0
  | '0' :: _ => none
  | s => (digits? s).filter (· ≤ 255)

/-- Two pieces written as four bytes. -/
def bytePieces? (s : List Char) : Option (List Nat) := do
  match ← (pieces '.' s).mapM byte? with
  | [a, b, c, d] => some [256 * a + b, 256 * c + d]
  | _ => none

/-- Pieces between colons, the last of which may be written in bytes if nothing follows. -/
def pieceList? (isLast : Bool) : List (List Char) → Option (List Nat)
  | [] => some []
  | [s] =>
    match piece? s with
    | some n => some [n]
    | none => if isLast then bytePieces? s else none
  | s :: rest => do
    let n ← piece? s
    return n :: (← pieceList? isLast rest)

/-- Pieces of one side of the zeros that are left out. -/
def side? (isLast : Bool) (s : List Char) : Option (List Nat) :=
  if s = [] then some [] else pieceList? isLast (pieces ':' s)

/-- What stands before and after the first two adjacent colons. -/
def cutAtZeros (before : List Char) : List Char → Option (List Char × List Char)
  | [] => none
  | ':' :: ':' :: rest => some (before.reverse, rest)
  | c :: rest => cutAtZeros (c :: before) rest

/-- The pieces of an address. -/
def ipv6? (s : List Char) : Option (List Nat) :=
  match cutAtZeros [] s with
  | none => (pieceList? true (pieces ':' s)).filter fun p => p.length = 8
  | some (left, right) => do
    let before ← side? false left
    let after ← side? true right
    let known := before.length + after.length
    if known ≤ 7 then some (before ++ List.replicate (8 - known) 0 ++ after) else none

end Host
end ProxyConfig
