import ProxyConfig.Reading.Model
import ProxyConfig.Yaml.Meaning

/-!
# Reading a configuration from YAML

The entries of the document are read in their order.  The download parameters are read with their
types at once.  All other entries are first read without types, and the model is read from them when
the whole document is known.

An error is told with its position in the text, except at the very beginning of the text.
-/

namespace ProxyConfig

/-- Why a text is not a configuration. -/
inductive TextReadError where
  /-- An error that is told with its position, such as malformed text. -/
  | located
  /-- An error at the beginning of the text, which is told without position. -/
  | atOrigin (error : ReadError)
deriving Repr, DecidableEq, Inhabited

/-- The text of an error that has no position. -/
def TextReadError.message? : TextReadError → Option String
  | .located => none
  | .atOrigin e => some ("YAML parsing error: " ++ e.message .yaml)

namespace Reading

open Yaml

/-- An error at a place. -/
def errorAt (mark : Mark) (e : ReadError) : TextReadError :=
  if mark.isOrigin then .atOrigin e else .located

/-- The name of an entry. -/
def entryName (d : Document) (key : Yaml.Node) : Except TextReadError String :=
  match d.resolve key with
  | .scalar _ _ _ text => .ok (String.ofList text)
  | .sequence mark .. => .error (errorAt mark (.invalidType .list "field identifier"))
  | .mapping mark .. => .error (errorAt mark (.invalidType .table "field identifier"))
  | _ => .error .located

/-- What was read of the entries so far. -/
structure Progress where
  download : Option Download := none
  /-- The entries that have no type yet, the last one first. -/
  others : List (Datum × Datum) := []
  /-- How often an alias was followed. -/
  jumps : Nat := 0

/-- The depth of the download parameters. -/
def downloadDepth : Nat := 4

/-- Read an entry. -/
def entry (d : Document) (root : Mark) (p : Progress) (key value : Yaml.Node) :
    Except TextReadError Progress := do
  let name ← entryName d key
  if name = "download" then
    if p.download.isSome then .error (errorAt root (.duplicateField name))
    else if value.isCut then .error .located
    else
      match Download.decoder (d.typed downloadDepth value) with
      | .ok download => .ok { p with download := some download }
      | .error _ => .error .located
  else
    match (d.untyped (Document.deepest - 1) value).run p.jumps with
    | some (datum, jumps) =>
      .ok { p with others := (.text name, datum) :: p.others, jumps := jumps }
    | none => .error .located

/-- Read the entries of a document. -/
def entries (d : Document) (root : Mark) (p : Progress) :
    List (Yaml.Node × Yaml.Node) → Except TextReadError Progress
  | [] => .ok p
  | (key, value) :: rest => do entries d root (← entry d root p key value) rest

/-- Read a configuration from the content of a document. -/
def config (d : Document) : Yaml.Node → Except TextReadError Config
  | .mapping mark _ nodes => do
    let p ← entries d mark {} nodes
    let model ← (Model.ofEntries p.others.reverse).mapError (errorAt mark)
    return { model := model, download := p.download.getD {} }
  | .sequence mark .. => .error (errorAt mark (.invalidType .list "struct Config"))
  | .scalar mark tag form text =>
    if form = .plain ∧ text = [] then .ok {}
    else
      match scalarDatum tag form text with
      | .ok v => .error (errorAt mark (.invalidType v.found "struct Config"))
      | .error (.invalidType found _) =>
        .error (errorAt mark (.invalidType found "struct Config"))
      | .error e => .error (errorAt mark e)
  | _ => .error .located

end Reading

/-- Read a configuration from YAML.  A text without any document is an empty configuration, and a
text with more than one is refused. -/
def Config.ofYaml (text : String) : Except TextReadError Config := do
  let d := Yaml.Document.ofText text
  let config ←
    match d.root with
    | none => .ok {}
    | some root => Reading.config d root
  if d.isAlone then return config else .error .located

end ProxyConfig
