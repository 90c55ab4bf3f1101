import ProxyConfig.Json.Value
import ProxyConfig.Number.Decimal

/-!
# Reading JSON

A recursive descent over the characters of a text.  The bound on the number of steps is twice the
length of the text: a step consumes a character or enters a bracket, so the bound is never met.
-/

namespace ProxyConfig
namespace Json

open Text

/-- White space between tokens. -/
def isSpace (c : Char) : Bool :=
  c = ' ' || c = '\n' || c = '\r' || c = '\t'

/-- Leave out white space. -/
def skipSpace (s : List Char) : List Char :=
  s.dropWhile isSpace

/-- The value of a hexadecimal digit. -/
def hexValue? (c : Char) : Option Nat :=
  if '0' ≤ c ∧ c ≤ '9' then some (c.toNat - '0'.toNat)
  else if 'a' ≤ c ∧ c ≤ 'f' then some (c.toNat - 'a'.toNat + 10)
  else if 'A' ≤ c ∧ c ≤ 'F' then some (c.toNat - 'A'.toNat + 10)
  else none

/-- The value of four hexadecimal digits at the start of a text. -/
def hex4? : List Char → Option (Nat × List Char)
  | a :: b :: c :: d :: rest => do
    let a ← hexValue? a
    let b ← hexValue? b
    let c ← hexValue? c
    let d ← hexValue? d
    pure (((a * 16 + b) * 16 + c) * 16 + d, rest)
  | _ => none

/-- The character of an escape that gives its code point, as one unit or as a pair. -/
def unicodeEscape? (s : List Char) : Option (Char × List Char) := do
  let (high, rest) ← hex4? s
  if 0xd800 ≤ high ∧ high ≤ 0xdbff then
    match rest with
    | '\\' :: 'u' :: rest =>
      let (low, rest) ← hex4? rest
      if 0xdc00 ≤ low ∧ low ≤ 0xdfff then
        pure (Char.ofNat (0x10000 + (high - 0xd800) * 0x400 + (low - 0xdc00)), rest)
      else none
    | _ => none
  else if 0xdc00 ≤ high ∧ high ≤ 0xdfff then none
  else pure (Char.ofNat high, rest)

/-- The rest of a string after its opening quote; what was read is held in reverse. -/
def readString : Nat → List Char → List Char → Option (String × List Char)
  | 0, _, _ => none
  | fuel + 1, done, s =>
    match s with
    | [] => none
    | '"' :: rest => some (String.ofList done.reverse, rest)
    | '\\' :: c :: rest =>
      match c with
      | '"' => readString fuel ('"' :: done) rest
      | '\\' => readString fuel ('\\' :: done) rest
      | '/' => readString fuel ('/' :: done) rest
      | 'b' => readString fuel (Char.ofNat 8 :: done) rest
      | 'f' => readString fuel (Char.ofNat 12 :: done) rest
      | 'n' => readString fuel ('\n' :: done) rest
      | 'r' => readString fuel ('\r' :: done) rest
      | 't' => readString fuel ('\t' :: done) rest
      | 'u' =>
        match unicodeEscape? rest with
        | some (c, rest) => readString fuel (c :: done) rest
        | none => none
      | _ => none
    | '\\' :: [] => none
    | c :: rest => if c.toNat < 32 then none else readString fuel (c :: done) rest

/-- A whole number that fits 64 bits, with or without a sign. -/
def fitsInteger (n : Int) : Bool :=
  -9223372036854775808 ≤ n && n ≤ maxU64

/-- A number.  Written with a point or an exponent, or too large for 64 bits, it is in double
precision, and so is minus zero. -/
def readNumber? (s : List Char) : Option (Number × List Char) :=
  let isPart (c : Char) : Bool :=
    c.isDigit || c == '-' || c == '+' || c == '.' || c == 'e' || c == 'E'
  let word := s.takeWhile isPart
  let rest := s.dropWhile isPart
  (Decimal.parse? word).map fun d =>
    let n : Int := if d.negative then -(d.digits : Int) else d.digits
    let whole := word.all fun c => c.isDigit || c == '-'
    if whole && fitsInteger n && !(d.negative && d.digits = 0) then (.int n, rest)
    else (.float d.toBinary64, rest)

/-- The text after a given word. -/
def expect? (word s : List Char) : Option (List Char) :=
  if word.isPrefixOf s then some (s.drop word.length) else none

mutual

/-- A value, white space before it left out. -/
def readValue : Nat → List Char → Option (Json × List Char)
  | 0, _ => none
  | fuel + 1, s =>
    match skipSpace s with
    | [] => none
    | 'n' :: rest => (expect? ['u', 'l', 'l'] rest).map fun r => (.null, r)
    | 't' :: rest => (expect? ['r', 'u', 'e'] rest).map fun r => (.bool true, r)
    | 'f' :: rest => (expect? ['a', 'l', 's', 'e'] rest).map fun r => (.bool false, r)
    | '"' :: rest => (readString (fuel + 1) [] rest).map fun p => (.string p.1, p.2)
    | '[' :: rest =>
      match skipSpace rest with
      | ']' :: rest => some (.array [], rest)
      | rest => readItems fuel [] rest
    | '\x7b' :: rest =>
      match skipSpace rest with
      | '\x7d' :: rest => some (.object [], rest)
      | rest => readFields fuel [] rest
    | c :: rest => (readNumber? (c :: rest)).map fun p => (.number p.1, p.2)

/-- The items of an array, up to its closing bracket. -/
def readItems : Nat → List Json → List Char → Option (Json × List Char)
  | 0, _, _ => none
  | fuel + 1, done, s => do
    let (v, rest) ← readValue fuel s
    match skipSpace rest with
    | ',' :: rest => readItems fuel (v :: done) rest
    | ']' :: rest => some (.array (v :: done).reverse, rest)
    | _ => none

/-- The fields of an object, up to its closing brace. -/
def readFields : Nat → List (String × Json) → List Char → Option (Json × List Char)
  | 0, _, _ => none
  | fuel + 1, done, s => do
    match skipSpace s with
    | '"' :: rest =>
      let (name, rest) ← readString (fuel + 1) [] rest
      match skipSpace rest with
      | ':' :: rest =>
        let (v, rest) ← readValue fuel rest
        match skipSpace rest with
        | ',' :: rest => readFields fuel ((name, v) :: done) rest
        | '\x7d' :: rest => some (.object (sortFields ((name, v) :: done).reverse), rest)
        | _ => none
      | _ => none
    | _ => none

end

/-- Read a text that holds one value and nothing else. -/
def parse? (s : String) : Option Json :=
  let chars := s.toList
  match readValue (2 * chars.length + 2) chars with
  | some (v, rest) => if (skipSpace rest).isEmpty then some v else none
  | none => none

end Json
end ProxyConfig
