import ProxyConfig.Host.Address
import ProxyConfig.Host.Domain

/-!
# Hosts

The host of an address is a domain name or a number.  Addresses of schemes that are not known to
this library may name their hosts freely.
-/

namespace ProxyConfig

/-- A host. -/
inductive Host where
  /-- The labels of a domain name, in Unicode. -/
  | domain (labels : List (List Char))
  | ipv4 (value : Nat)
  | ipv6 (pieces : List Nat)
  /-- A name that is not looked into. -/
  | free (name : List Char)
deriving Repr, DecidableEq

namespace Host

/-- The bytes of a text, where a percent sign and two hexadecimal digits stand for a byte. -/
def percentDecoded : List Char → List UInt8
  | [] => []
  | '%' :: a :: b :: rest =>
    match baseDigit? 16 a, baseDigit? 16 b with
    | some high, some low => UInt8.ofNat (16 * high + low) :: percentDecoded rest
    | _, _ => '%'.toNat.toUInt8 :: percentDecoded (a :: b :: rest)
  | c :: rest => (String.singleton c).toUTF8.toList ++ percentDecoded rest

/-- What stands between brackets, if the text begins with one. -/
def bracketed? : List Char → Option (Option (List Char))
  | '[' :: rest => some (if rest.getLast? = some ']' then some rest.dropLast else none)
  | _ => none

/-- A domain name, or the number that it is. -/
def ofName? (name : List Char) : Option Host := do
  let bytes := ByteArray.mk (percentDecoded name).toArray
  let text ← String.fromUTF8? bytes
  let labels ← domainLabels? text.toList
  let whole := Text.joinWith '.' labels
  if whole = [] then none
  else if endsInNumber whole then (ipv4? whole).map Host.ipv4
  else some (.domain labels)

/-- The host of an address of a known scheme. -/
def parse? (s : List Char) : Option Host :=
  match bracketed? s with
  | some inside => inside.bind fun s => (ipv6? s).map Host.ipv6
  | none => ofName? s

/-- The characters that even a free name does not hold. -/
def forbiddenFree : List Char :=
  [Char.ofNat 0, '\t', '\n', '\r', ' ', '#', '/', ':', '<', '>', '?', '@', '[', '\\', ']', '^', '|']

/-- The host of an address of an unknown scheme. -/
def parseFree? (s : List Char) : Option Host :=
  match bracketed? s with
  | some inside => inside.bind fun s => (ipv6? s).map Host.ipv6
  | none => if s.any forbiddenFree.contains then none else some (.free s)

end Host
end ProxyConfig
