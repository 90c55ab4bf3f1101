import ProxyConfig.Number.Binary64

/-!
# JSON values

A value keeps the difference between a whole number and a number written with a point or an
exponent.  The fields of an object are a list, so that a document is written in the order in which
it was composed; an object that comes from outside is kept in increasing order of its names, each
name once.
-/

namespace ProxyConfig

/-- A number: whole, or in double precision. -/
inductive Number where
  | int (value : Int)
  | float (value : Binary64)
deriving Repr, DecidableEq, Inhabited

/-- A JSON value. -/
inductive Json where
  | null
  | bool (value : Bool)
  | number (value : Number)
  | string (value : String)
  | array (items : List Json)
  | object (fields : List (String × Json))
deriving Repr, Inhabited

namespace Json

/-- A whole number. -/
def ofNat (n : Nat) : Json :=
  .number (.int n)

/-- A list of texts. -/
def strings (items : List String) : Json :=
  .array (items.map .string)

/-- Add a field at its place in the order of names; a field of the same name is replaced. -/
def insertField (name : String) (value : Json) :
    List (String × Json) → List (String × Json)
  | [] => [(name, value)]
  | (n, v) :: rest =>
    if name = n then (name, value) :: rest
    else if name < n then (name, value) :: (n, v) :: rest
    else (n, v) :: insertField name value rest

/-- The fields of an object in the order of their names; the last of equal names counts. -/
def sortFields (fields : List (String × Json)) : List (String × Json) :=
  fields.foldl (fun sorted f => insertField f.1 f.2 sorted) []

/-- The first field of a name. -/
def find? (name : String) : List (String × Json) → Option Json
  | [] => none
  | (n, v) :: rest => if n = name then some v else find? name rest

/-- The value in a place of another one, which is given by the names that lead to it. -/
def at? : List String → Json → Option Json
  | [], value => some value
  | key :: path, .object fields => (find? key fields).bind (at? path)
  | _ :: _, _ => none

/-- A field that is written only when it has a value. -/
def optional (name : String) (value : Option Json) : List (String × Json) :=
  match value with
  | some v => [(name, v)]
  | none => []

/-- A text field that is written only when it has a value. -/
def optionalString (name : String) (value : Option String) : List (String × Json) :=
  optional name (value.map .string)

/-- A list of texts that is written only when it is not empty. -/
def nonEmptyStrings (name : String) (items : List String) : List (String × Json) :=
  if items.isEmpty then [] else [(name, strings items)]

end Json
end ProxyConfig
