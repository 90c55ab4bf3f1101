import ProxyConfig.Json.Value
import ProxyConfig.Number.Decimal
import ProxyConfig.Text.Quoted

/-!
# Writing JSON

Two layouts of one value: compact, without any white space, and indented by two spaces a level,
with one field or item a line.  Only quotes, backslashes and control characters are escaped.
-/

namespace ProxyConfig
namespace Json

/-- One character inside a JSON string. -/
def escapedChar (c : Char) : List Char :=
  if c = '"' then ['\\', '"']
  else if c = '\\' then ['\\', '\\']
  else if c = '\n' then ['\\', 'n']
  else if c = '\r' then ['\\', 'r']
  else if c = '\t' then ['\\', 't']
  else if c.toNat = 8 then ['\\', 'b']
  else if c.toNat = 12 then ['\\', 'f']
  else if c.toNat < 32 then
    ['\\', 'u', '0', '0', Text.hexDigit (c.toNat / 16), Text.hexDigit (c.toNat % 16)]
  else [c]

/-- A JSON string. -/
def stringText (s : String) : String :=
  String.ofList ('"' :: (s.toList.flatMap escapedChar ++ ['"']))

/-- A JSON number; the numbers that JSON cannot express are written as null. -/
def numberText : Number → String
  | .int n => toString n
  | .float x => if x.isFinite then Decimal.compactText x else "null"

/-- A line break and the indentation of a level. -/
def newline (level : Nat) : String :=
  "\n" ++ String.ofList (List.replicate (2 * level) ' ')

mutual

/-- The layout without white space. -/
def compact : Json → String
  | .null => "null"
  | .bool b => if b then "true" else "false"
  | .number n => numberText n
  | .string s => stringText s
  | .array items => "[" ++ ",".intercalate (compactItems items) ++ "]"
  | .object fields => "\x7b" ++ ",".intercalate (compactFields fields) ++ "\x7d"

/-- The items of an array without white space. -/
def compactItems : List Json → List String
  | [] => []
  | v :: rest => compact v :: compactItems rest

/-- The fields of an object without white space. -/
def compactFields : List (String × Json) → List String
  | [] => []
  | (name, v) :: rest => (stringText name ++ ":" ++ compact v) :: compactFields rest

end

mutual

/-- The indented layout of a value that stands at a level. -/
def prettyAt (level : Nat) : Json → String
  | .null => "null"
  | .bool b => if b then "true" else "false"
  | .number n => numberText n
  | .string s => stringText s
  | .array [] => "[]"
  | .array (v :: rest) =>
    "[" ++ ",".intercalate (prettyItems (level + 1) (v :: rest)) ++ newline level ++ "]"
  | .object [] => "\x7b\x7d"
  | .object (f :: rest) =>
    "\x7b" ++ ",".intercalate (prettyFields (level + 1) (f :: rest)) ++ newline level ++ "\x7d"

/-- The items of an array, each on a line of its own. -/
def prettyItems (level : Nat) : List Json → List String
  | [] => []
  | v :: rest => (newline level ++ prettyAt level v) :: prettyItems level rest

/-- The fields of an object, each on a line of its own. -/
def prettyFields (level : Nat) : List (String × Json) → List String
  | [] => []
  | (name, v) :: rest =>
    (newline level ++ stringText name ++ ": " ++ prettyAt level v) :: prettyFields level rest

end

/-- The indented layout. -/
def pretty (v : Json) : String :=
  prettyAt 0 v

end Json
end ProxyConfig
