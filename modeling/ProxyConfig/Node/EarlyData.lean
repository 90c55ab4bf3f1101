import ProxyConfig.Text.Cut
import ProxyConfig.Text.Numeral

/-!
# Early data in websocket paths

A stored websocket path may carry the limit of early data as a query parameter.  Such a path is
taken apart into the path itself and the limit; every other path is left as it is.

The query is read as a form: pairs between ampersands, empty ones left out, each cut at its first
equals sign, with plus signs for spaces and percent escapes for bytes.
-/

namespace ProxyConfig
namespace EarlyData

open Text

/-- The name of the parameter. -/
def key : List UInt8 := "ed".toUTF8.toList

/-- The header that carries the early data. -/
def header : String := "Sec-WebSocket-Protocol"

/-- The value of a hexadecimal digit. -/
def hexValue? (c : Char) : Option UInt8 :=
  if '0' ≤ c ∧ c ≤ '9' then some (UInt8.ofNat (c.toNat - '0'.toNat))
  else if 'a' ≤ c ∧ c ≤ 'f' then some (UInt8.ofNat (c.toNat - 'a'.toNat + 10))
  else if 'A' ≤ c ∧ c ≤ 'F' then some (UInt8.ofNat (c.toNat - 'A'.toNat + 10))
  else none

/-- The byte of two hexadecimal digits. -/
def hexByte? (high low : Char) : Option UInt8 :=
  match hexValue? high, hexValue? low with
  | some h, some l => some (h * 16 + l)
  | _, _ => none

/-- The bytes of a form text.  A percent sign without two digits stands for itself. -/
def formBytes : List Char → List UInt8
  | [] => []
  | '%' :: high :: low :: rest =>
    match hexByte? high low with
    | some b => b :: formBytes rest
    | none => '%'.toNat.toUInt8 :: formBytes (high :: low :: rest)
  | '+' :: rest => ' '.toNat.toUInt8 :: formBytes rest
  | c :: rest => String.utf8EncodeChar c ++ formBytes rest

/-- The name and the value of a pair. -/
def formPair (part : List Char) : List UInt8 × List UInt8 :=
  match cutAt '=' part with
  | some (name, value) => (formBytes name, formBytes value)
  | none => (formBytes part, [])

/-- The pairs of a query. -/
def formPairs (query : List Char) : List (List UInt8 × List UInt8) :=
  ((pieces '&' query).filter (!·.isEmpty)).map formPair

/-- A limit: a positive number of 32 bits in decimal digits. -/
def limit? (value : List UInt8) : Option Nat :=
  (numeral? maxU32 (value.map fun b => Char.ofNat b.toNat)).filter (0 < ·)

/-- The limit that a query carries; the first parameter of the name decides. -/
def ofQuery? (query : List Char) : Option Nat :=
  ((formPairs query).find? fun p => p.1 == key).bind fun p => limit? p.2

end EarlyData

/-- A websocket path with the limit of early data that was taken from it. -/
structure WebSocketPath where
  path : String
  maxEarlyData : Option Nat
deriving Repr, DecidableEq, Inhabited

namespace WebSocketPath

/-- Take the limit of early data out of a path.  The path becomes what precedes the query, or a
slash if that is empty. -/
def normalize (raw : String) : WebSocketPath :=
  match Text.cutAt '?' raw.toList with
  | none => ⟨raw, none⟩
  | some (path, query) =>
    match EarlyData.ofQuery? query with
    | some limit => ⟨if path.isEmpty then "/" else String.ofList path, some limit⟩
    | none => ⟨raw, none⟩

/-- The header of the early data, which goes with the limit. -/
def header? (p : WebSocketPath) : Option String :=
  p.maxEarlyData.map fun _ => EarlyData.header

end WebSocketPath
end ProxyConfig
