import ProxyConfig.Reading.Datum
import ProxyConfig.Yaml.Document
import ProxyConfig.Yaml.Plain

/-!
# What a tree means

A document is turned into data in one of two ways.  When types are not known yet, every scalar
gets its own: by its tag, by its spelling if it is written without quotes, and else it is a text.
When the types are known, a scalar is kept with its text, so that a number can be read as a text.

Reading without types is bounded: in depth, and in how often aliases are followed.
-/

namespace ProxyConfig
namespace Yaml

/-- The tags of the basic types. -/
def coreTag (name : String) : String :=
  "tag:yaml.org,2002:" ++ name

/-- A tag that only the document itself gives a meaning to. -/
def isLocalTag (tag : Option String) : Bool :=
  tag.any fun t => t.toList.head? = some '!'

/-- The data of a plain scalar, or a whole number that is too wide. -/
def plainDatum (text : List Char) : Except ReadError Datum :=
  match Plain.resolve text with
  | .null => .ok .unit
  | .bool b => .ok (.bool b)
  | .int n => .ok (.number (.int n))
  | .wide n => .error (.invalidType (.wide n) "any value")
  | .float x => .ok (.number (.float x))
  | .text => .ok (.text (String.ofList text))

/-- A scalar contradicts its tag. -/
def contradiction (text : List Char) (expected : String) : Except ReadError Datum :=
  .error (.invalidValue (.text (String.ofList text)) expected)

/-- The data of a scalar. -/
def scalarDatum (tag : Option String) (form : ScalarForm) (text : List Char) :
    Except ReadError Datum :=
  match tag with
  | none => if form = .plain then plainDatum text else .ok (.text (String.ofList text))
  | some tag =>
    if tag = coreTag "bool" then
      match Plain.bool? text with
      | some b => .ok (.bool b)
      | none => contradiction text "a boolean"
    else if tag = coreTag "int" then
      match Plain.wholeNumber? text with
      | some (.int n) => .ok (.number (.int n))
      | some (.wide n) => .error (.invalidType (.wide n) "any value")
      | _ => contradiction text "an integer"
    else if tag = coreTag "float" then
      match Plain.float? text with
      | some x => .ok (.number (.float x))
      | none => contradiction text "a float"
    else if tag = coreTag "null" then
      if text ≠ [] && Plain.isNull text then .ok .unit else contradiction text "null"
    else .ok (.text (String.ofList text))

namespace Document

/-! ## Without types -/

/-- Collections may lie this deep inside each other. -/
def deepest : Nat := 128

/-- How often aliases may be followed, for each part of the document. -/
def jumpsPerPart : Nat := 100

/-- Reading that follows aliases, with the count of those followed so far. -/
abbrev Following (α : Type) := StateT Nat Option α

/-- Follow an alias, if the node is one. -/
def follow (d : Document) (n : Node) : Following Node := do
  match n with
  | .alias number =>
    let jumps := (← get) + 1
    if jumpsPerPart * d.parts < jumps then failure
    else do
      set jumps
      return d.target number
  | n => return n

/-- Data of a node without knowledge of its type. -/
def untyped (d : Document) : Nat → Node → Following Datum
  | depth, n => do
    match depth, ← d.follow n with
    | _, .scalar _ tag form text =>
      if isLocalTag tag then failure
      else
        match scalarDatum tag form text with
        | .ok v => return v
        | .error _ => failure
    | depth + 1, .sequence _ tag items =>
      if isLocalTag tag then failure
      else return .list (← items.mapM (d.untyped depth))
    | depth + 1, .mapping _ tag entries =>
      if isLocalTag tag then failure
      else
        return .table (← entries.mapM fun e => do
          let key ← d.untyped depth e.1
          return (key, ← d.untyped depth e.2))
    | _, _ => failure

/-! ## With types -/

/-- What a scalar is when neither its text nor a missing value is meant. -/
def scalarValue (tag : Option String) (form : ScalarForm) (text : List Char) : Datum :=
  let isBare := form = .plain || (form = .literal && tag = some (coreTag "int"))
  if form = .plain && text = [] then .table []
  else
    match if isBare then Plain.wholeNumber? text else none with
    | some (.int n) => .number (.int n)
    | _ => .text (String.ofList text)

/-- Whether a scalar says that there is no value. -/
def isAbsent (tag : Option String) (form : ScalarForm) (text : List Char) : Option Bool :=
  if form ≠ .plain then some false
  else if tag = some (coreTag "null") then
    if text ≠ [] && Plain.isNull text then some true else none
  else some (tag = none && Plain.isNull text)

/-- Data of a node whose types are known, to a depth.  An unquoted scalar without text passes for an
empty table. -/
def typed (d : Document) : Nat → Node → Datum
  | depth, n =>
    match depth, d.resolve n with
    | _, .scalar _ tag form text =>
      .scalar (String.ofList text) (scalarValue tag form text) (isAbsent tag form text)
    | depth + 1, .sequence _ _ items => .list (items.map (d.typed depth))
    | depth + 1, .mapping _ _ entries =>
      .table (entries.map fun e => (d.typed depth e.1, d.typed depth e.2))
    | 0, .sequence .. => .list []
    | 0, .mapping .. => .table []
    | _, _ => .unit

end Document

mutual

/-- The text is malformed inside a node. -/
def Node.isCut : Node → Bool
  | .missing => true
  | .sequence _ _ items => anyCut items
  | .mapping _ _ entries => anyEntryCut entries
  | _ => false

/-- The text is malformed inside one of several nodes. -/
def anyCut : List Node → Bool
  | [] => false
  | n :: rest => n.isCut || anyCut rest

/-- The text is malformed inside one of several entries. -/
def anyEntryCut : List (Node × Node) → Bool
  | [] => false
  | (key, value) :: rest => key.isCut || value.isCut || anyEntryCut rest

end

end Yaml
end ProxyConfig
