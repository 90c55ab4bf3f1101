import ProxyConfig.Text.Cut

/-!
# Encoded labels

A label of a host name with characters beyond ASCII is encoded in ASCII: first its ASCII characters,
then the others as insertions, each written as a number with variable thresholds to the base 36.
-/

namespace ProxyConfig
namespace Punycode

/-- The value of a digit. -/
def digit? (c : Char) : Option Nat :=
  if 'a' ≤ c ∧ c ≤ 'z' then some (c.toNat - 'a'.toNat)
  else if 'A' ≤ c ∧ c ≤ 'Z' then some (c.toNat - 'A'.toNat)
  else if '0' ≤ c ∧ c ≤ '9' then some (c.toNat - '0'.toNat + 26)
  else none

/-- Digits below the threshold end a number. -/
def threshold (position bias : Nat) : Nat :=
  min 26 (max 1 (position - bias))

/-- Scale a distance down until it is small. -/
def scaled (distance steps : Nat) : Nat × Nat :=
  if 455 < distance then scaled (distance / 35) (steps + 36) else (distance, steps)
termination_by distance
decreasing_by omega

/-- The bias after an insertion at a distance into a label of the given length. -/
def adapt (distance length : Nat) (isFirst : Bool) : Nat :=
  let halved := if isFirst then distance / 700 else distance / 2
  let (rest, steps) := scaled (halved + halved / length) 0
  steps + 36 * rest / (rest + 38)

/-- Put a character at a position. -/
def insertAt (position : Nat) (c : Char) (s : List Char) : List Char :=
  s.take position ++ c :: s.drop position

/-- A code point that is a character. -/
def char? (n : Nat) : Option Char :=
  if h : n.isValidChar then some (Char.ofNatAux n h) else none

/-- The progress of decoding. -/
structure Progress where
  label : List Char
  /-- The code point inserted last. -/
  point : Nat
  /-- The position after the last insertion. -/
  position : Nat
  bias : Nat
  isFirst : Bool

/-- Insert the character that a distance leads to. -/
def Progress.advance? (p : Progress) (distance : Nat) : Option Progress := do
  let length := p.label.length + 1
  let index := p.position + distance
  let point := p.point + index / length
  let c ← char? point
  return {
    label := insertAt (index % length) c p.label
    point := point
    position := index % length + 1
    bias := adapt distance length p.isFirst
    isFirst := false }

/-- Decode the digits of insertions.  `distance` and `weight` belong to the number being read, and
`place` is the position of its next digit, zero before the first. -/
def insertions? (p : Progress) (distance weight place : Nat) :
    List Char → Option (List Char)
  | [] => if place = 0 then some p.label else none
  | c :: rest => do
    let d ← digit? c
    let t := threshold (place + 36) p.bias
    let distance := distance + d * weight
    if d < t then insertions? (← p.advance? distance) 0 1 0 rest
    else insertions? p distance (weight * (36 - t)) (place + 36) rest

/-- The ASCII part and the digits of an encoded label; they are separated by the last hyphen that is
not the first character. -/
def split (s : List Char) : List Char × List Char :=
  match Text.cutAt '-' s.reverse with
  | some (digits, basic) => if basic.isEmpty then ([], s) else (basic.reverse, digits.reverse)
  | none => ([], s)

/-- The label that is encoded in a text. -/
def decode? (s : List Char) : Option (List Char) :=
  let (basic, digits) := split s
  if basic.all (·.toNat < 0x80) then
    insertions? ⟨basic, 128, 0, 72, true⟩ 0 1 0 digits
  else
    none

end Punycode
end ProxyConfig
