import ProxyConfig.Reading.Datum
import ProxyConfig.Text.Numeral

/-!
# Typed reading

A decoder turns data into a typed value or says why it cannot.  Records are read from tables, or
from lists that hold their fields in order.  The entries of a table are read in their own order,
and only then are fields found to be missing, so the first fault of a table is the one reported.
-/

namespace ProxyConfig

/-- A typed reading of data. -/
abbrev Decoder (α : Type) := Datum → Except ReadError α

namespace Decoder

/-- The value of data, where its text does not matter. -/
def bare : Datum → Datum
  | .scalar _ value _ => value
  | d => d

/-- The value does not have the expected type. -/
def mismatch {α : Type} (d : Datum) (expected : String) : Except ReadError α :=
  .error (.invalidType d.found expected)

/-- A text. -/
def string : Decoder String
  | .text s => .ok s
  | .scalar s _ _ => .ok s
  | d => mismatch d "a string"

/-- A truth value. -/
def bool : Decoder Bool := fun d =>
  match bare d with
  | .bool b => .ok b
  | d => mismatch d "a boolean"

/-- A natural number up to a bound. -/
def nat (name : String) (bound : Nat) : Decoder Nat := fun d =>
  match bare d with
  | .number (.int n) =>
    if 0 ≤ n ∧ n.toNat ≤ bound then .ok n.toNat
    else .error (.invalidValue (.number (.int n)) name)
  | d => mismatch d name

/-- A natural number of 16 bits. -/
def u16 : Decoder Nat := nat "u16" Text.maxU16

/-- A natural number of 32 bits. -/
def u32 : Decoder Nat := nat "u32" Text.maxU32

/-- A natural number of 64 bits. -/
def u64 : Decoder Nat := nat "u64" Text.maxU64

/-- A size in bytes. -/
def usize : Decoder Nat := nat "usize" Text.maxU64

/-- A value that may be absent. -/
def option {α : Type} (inner : Decoder α) : Decoder (Option α)
  | .unit => .ok none
  | .scalar _ _ (some true) => .ok none
  | .scalar text _ none => .error (.invalidValue (.text text) "null")
  | d => (inner d).map some

/-- A list. -/
def list {α : Type} (inner : Decoder α) : Decoder (List α) := fun d =>
  match bare d with
  | .list items => items.mapM inner
  | d => mismatch d "a sequence"

/-- Read a value further. -/
def map {α β : Type} (f : α → β) (inner : Decoder α) : Decoder β :=
  fun d => (inner d).map f

/-! ## Records -/

/-- What holds for a field that is not given. -/
inductive Presence where
  | required
  /-- May be missing in a table, but not in a list. -/
  | optional
  /-- Has a default. -/
  | defaulted
deriving Repr, DecidableEq, Inhabited

/-- A field of a record. -/
structure Field where
  name : String
  presence : Presence
  check : Datum → Except ReadError Unit

/-- A field with the type of its values. -/
def Field.of {α : Type} (name : String) (presence : Presence) (inner : Decoder α) : Field :=
  ⟨name, presence, fun d => (inner d).map fun _ => ()⟩

/-- The fields that were found, by name. -/
abbrev Slots := List (String × Datum)

/-- The name of the field that a key denotes.  A natural number counts the fields. -/
def fieldName (fields : List Field) : Datum → Except ReadError (Option Field)
  | .text s => .ok (fields.find? fun f => f.name == s)
  | .scalar s _ _ => .ok (fields.find? fun f => f.name == s)
  | .number (.int n) =>
    if 0 ≤ n then .ok fields[n.toNat]? else mismatch (.number (.int n)) "field identifier"
  | d => mismatch d "field identifier"

/-- Read the entries of a table in their order; entries of unknown names are passed over. -/
def readEntries (fields : List Field) (found : Slots) :
    List (Datum × Datum) → Except ReadError Slots
  | [] => .ok found
  | (key, value) :: rest =>
    match fieldName fields key with
    | .error e => .error e
    | .ok none => readEntries fields found rest
    | .ok (some field) =>
      if (found.lookup field.name).isSome then .error (.duplicateField field.name)
      else
        match field.check value with
        | .error e => .error e
        | .ok _ => readEntries fields ((field.name, value) :: found) rest

/-- The first field that must be there and is not. -/
def missing? (fields : List Field) (found : Slots) : Option String :=
  (fields.find? fun f => f.presence == .required && (found.lookup f.name).isNone).map Field.name

/-- Read items as fields in order. -/
def readItems (expected : String) (index : Nat) (found : Slots) :
    List Field → List Datum → Except ReadError Slots
  | [], [] => .ok found
  | [], rest => .error (.tooLong (index + rest.length) index)
  | field :: fields, [] =>
    if field.presence = .defaulted then readItems expected (index + 1) found fields []
    else .error (.tooShort index expected)
  | field :: fields, value :: rest =>
    match field.check value with
    | .error e => .error e
    | .ok _ => readItems expected (index + 1) ((field.name, value) :: found) fields rest

/-- The fields of a record, each checked against its type. -/
def fields (name : String) (fields : List Field) (d : Datum) : Except ReadError Slots := do
  match bare d with
  | .table entries =>
    let found ← readEntries fields [] entries
    match missing? fields found with
    | some f => .error (.missingField f)
    | none => .ok found
  | .list items =>
    readItems ("struct " ++ name ++ " with " ++ Wording.elements fields.length) 0 [] fields items
  | d => mismatch d ("struct " ++ name)

/-- The value of a field that must be there. -/
def Slots.get {α : Type} (found : Slots) (name : String) (inner : Decoder α) :
    Except ReadError α :=
  match found.lookup name with
  | some d => inner d
  | none => .error (.missingField name)

/-- The value of a field, or its default. -/
def Slots.getOr {α : Type} (found : Slots) (name : String) (default : α) (inner : Decoder α) :
    Except ReadError α :=
  match found.lookup name with
  | some d => inner d
  | none => .ok default

/-- Where a record stands: by itself, or inside a table that was first read without types. -/
inductive Placement where
  | alone
  | nested
deriving Repr, DecidableEq, Inhabited

/-- An empty value.  In a nested record a table without entries counts as one, too. -/
def empty (placement : Placement) (d : Datum) : Except ReadError Unit :=
  match d, placement with
  | .unit, _ => .ok ()
  | .table [], .nested => .ok ()
  | d, _ => mismatch d "unit"

/-- One of several words, alone or as the only key of a table with an empty value. -/
def variant {α : Type} (placement : Placement) (names : List String) (parse : String → Option α) :
    Decoder α := fun d => do
  let word (s : String) : Except ReadError α :=
    match parse s with
    | some a => .ok a
    | none => .error (.unknownVariant s names)
  let key (k : Datum) : Except ReadError α :=
    match k with
    | .text s => word s
    | .number (.int n) =>
      if 0 ≤ n then
        match names[n.toNat]?.bind parse with
        | some a => .ok a
        | none =>
          .error (.invalidValue (.number (.int n))
            ("variant index 0 <= i < " ++ toString names.length))
      else mismatch k "variant identifier"
    | k => mismatch k "variant identifier"
  match d with
  | .text s => word s
  | .table [(k, v)] => do
    let a ← key k
    empty placement v
    return a
  | .table _ => .error (.invalidValue .table "map with a single key")
  | d => mismatch d "string or map"

/-! ## Free values -/

mutual

/-- Data as a JSON value.  Numbers that JSON cannot express become null. -/
def json : Datum → Except ReadError Json
  | .unit => .ok .null
  | .bool b => .ok (.bool b)
  | .number (.int n) => .ok (.number (.int n))
  | .number (.float x) => .ok (if x.isFinite then .number (.float x) else .null)
  | .text s => .ok (.string s)
  | .list items => (jsonItems items).map Json.array
  | .table entries => (jsonFields "a string key" entries).map fun f => .object (Json.sortFields f)
  | .scalar s _ _ => .ok (.string s)

/-- The items of a list. -/
def jsonItems : List Datum → Except ReadError (List Json)
  | [] => .ok []
  | d :: rest =>
    match json d with
    | .error e => .error e
    | .ok v => (jsonItems rest).map (v :: ·)

/-- The entries of a table, whose keys must be texts. -/
def jsonFields (expected : String) :
    List (Datum × Datum) → Except ReadError (List (String × Json))
  | [] => .ok []
  | (key, d) :: rest =>
    match key with
    | .text name =>
      match json d with
      | .error e => .error e
      | .ok v => (jsonFields "a string" rest).map ((name, v) :: ·)
    | key => mismatch key expected

end

/-- A table as a field bag. -/
def bag : Decoder (List (String × Json))
  | .table entries => (jsonFields "a string" entries).map Json.sortFields
  | d => mismatch d "a map"

end Decoder
end ProxyConfig
