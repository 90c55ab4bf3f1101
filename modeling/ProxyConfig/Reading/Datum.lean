import ProxyConfig.Json.Value
import ProxyConfig.Number.Decimal
import ProxyConfig.Text.Quoted

/-!
# Data that is not typed yet

A model arrives as JSON or as YAML.  Both are first brought to one form, in which the keys of a
table may be any data.  Typed values are read from this form, and a value that does not fit is
described in an error.
-/

namespace ProxyConfig

/-- Data of any shape. -/
inductive Datum where
  | unit
  | bool (value : Bool)
  | number (value : Number)
  | text (value : String)
  | list (items : List Datum)
  | table (entries : List (Datum × Datum))
  /-- A scalar that has its text at hand: it is read by its text where a text is wanted and by its
  value elsewhere.  `absent` tells whether it means that there is no value; this stays open when the
  scalar says so and contradicts itself. -/
  | scalar (text : String) (value : Datum) (absent : Option Bool)
deriving Repr, Inhabited

/-- What is told about a value that does not fit. -/
inductive Found where
  | unit
  | bool (value : Bool)
  | number (value : Number)
  /-- A whole number of more than 64 bits. -/
  | wide (value : Int)
  | text (value : String)
  | list
  | table
deriving Repr, DecidableEq, Inhabited

namespace Datum

mutual

/-- JSON as data. -/
def ofJson : Json → Datum
  | .null => .unit
  | .bool b => .bool b
  | .number n => .number n
  | .string s => .text s
  | .array items => .list (ofItems items)
  | .object fields => .table (ofFields fields)

/-- The items of an array as data. -/
def ofItems : List Json → List Datum
  | [] => []
  | v :: rest => ofJson v :: ofItems rest

/-- The fields of an object as entries. -/
def ofFields : List (String × Json) → List (Datum × Datum)
  | [] => []
  | (name, v) :: rest => (.text name, ofJson v) :: ofFields rest

end

/-- What an error tells about data. -/
def found : Datum → Found
  | .unit => .unit
  | .bool b => .bool b
  | .number n => .number n
  | .text s => .text s
  | .list _ => .list
  | .table _ => .table
  | .scalar source .. => Found.text source

end Datum

/-- Why data does not fit a type. -/
inductive ReadError where
  | invalidType (found : Found) (expected : String)
  | invalidValue (found : Found) (expected : String)
  /-- A list that is too short for the fields of a record. -/
  | tooShort (length : Nat) (expected : String)
  /-- A list with more items than a record has fields. -/
  | tooLong (length : Nat) (fields : Nat)
  | missingField (name : String)
  | duplicateField (name : String)
  | unknownVariant (name : String) (variants : List String)
deriving Repr, DecidableEq, Inhabited

/-- How the errors of a source are worded. -/
structure Wording where
  /-- The name of the empty value. -/
  unitName : String
  /-- The text of a number in double precision. -/
  floatText : Binary64 → String
  /-- What is said about superfluous items: expected items, by the count of fields. -/
  surplus : Nat → String

namespace Wording

/-- "1 element" or "n elements". -/
def elements (n : Nat) : String :=
  toString n ++ if n = 1 then " element" else " elements"

/-- JSON that is read directly. -/
def json : Wording where
  unitName := "null"
  floatText := Decimal.compactText
  surplus _ := "fewer elements in array"

/-- JSON that is read as a part of a larger table. -/
def nestedJson : Wording where
  unitName := "null"
  floatText := Decimal.compactText
  surplus n := elements n ++ " in sequence"

/-- YAML. -/
def yaml : Wording where
  unitName := "unit value"
  floatText := Decimal.plainText
  surplus n := elements n ++ " in sequence"

end Wording

/-- A found value in words. -/
def Found.describe (w : Wording) : Found → String
  | .unit => w.unitName
  | .bool b => "boolean `" ++ (if b then "true" else "false") ++ "`"
  | .number (.int n) => "integer `" ++ toString n ++ "`"
  | .number (.float x) => "floating point `" ++ w.floatText x ++ "`"
  | .wide n => "integer `" ++ toString n ++ "` as " ++ if n < 0 then "i128" else "u128"
  | .text s => "string " ++ Text.quoted s
  | .list => "sequence"
  | .table => "map"

/-- One of several names, in words. -/
def oneOf (names : List String) : String :=
  let ticked := names.map fun n => "`" ++ n ++ "`"
  match ticked with
  | [] => "there are no variants"
  | [a] => "expected " ++ a
  | [a, b] => "expected " ++ a ++ " or " ++ b
  | all => "expected one of " ++ ", ".intercalate all

/-- The text of an error. -/
def ReadError.message (w : Wording) : ReadError → String
  | .invalidType found expected =>
    "invalid type: " ++ found.describe w ++ ", expected " ++ expected
  | .invalidValue found expected =>
    "invalid value: " ++ found.describe w ++ ", expected " ++ expected
  | .tooShort length expected =>
    "invalid length " ++ toString length ++ ", expected " ++ expected
  | .tooLong length fields =>
    "invalid length " ++ toString length ++ ", expected " ++ w.surplus fields
  | .missingField name => "missing field `" ++ name ++ "`"
  | .duplicateField name => "duplicate field `" ++ name ++ "`"
  | .unknownVariant name variants =>
    "unknown variant `" ++ name ++ "`, " ++ oneOf variants

end ProxyConfig
