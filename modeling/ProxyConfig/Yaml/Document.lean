import ProxyConfig.Yaml.Node

/-!
# Documents

A text holds one document, possibly after directives, or none at all.  Whatever follows the first
document is only noted.
-/

namespace ProxyConfig
namespace Yaml

/-- The first document of a text. -/
structure Document where
  /-- The content; there is none in a text without documents. -/
  root : Option Node
  anchored : List Anchored
  parts : Nat
  /-- Nothing follows the document, and the text is well formed to its end. -/
  isAlone : Bool

namespace Document

/-- The versions of the language that are understood. -/
def isKnownVersion (major minor : Nat) : Bool :=
  major = 1 && (minor = 1 || minor = 2)

open TreeStep in
/-- Read directives.  The version and each handle may be declared once. -/
def directives : Nat → Bool → TreeStep Unit
  | 0, _ => fail
  | fuel + 1, hasVersion => do
    match ← peek with
    | some (.version major minor) =>
      if hasVersion || !isKnownVersion major minor then fail
      else do
        skip
        directives fuel true
    | some (.handle name meaning) =>
      if ((← get).handles.lookup name).isSome then fail
      else do
        skip
        modify fun g => { g with handles := (name, meaning) :: g.handles }
        directives fuel hasVersion
    | _ => return ()

open TreeStep in
/-- The content of a document after its first line. -/
def content (fuel : Nat) : TreeStep Node := do
  match ← peek with
  | some (.version ..) | some (.handle ..) | some .documentStart | some .documentEnd
  | some .streamEnd => empty (← mark) none
  | _ => node fuel true false

open TreeStep in
/-- The content of the first document, if there is one. -/
def first (fuel : Nat) : TreeStep (Option Node) := do
  match ← peek with
  | none => return some .missing
  | some .streamEnd => return none
  | some (.version ..) | some (.handle ..) | some .documentStart => do
    directives fuel false
    if ← meets [.documentStart] then do
      skip
      return some (← content fuel)
    else return some (← absent)
  | some _ => return some (← node fuel true false)

open TreeStep in
/-- The text ends here, perhaps after marks of the end of the document. -/
def ending : Nat → TreeStep Bool
  | 0 => return false
  | fuel + 1 => do
    match ← peek with
    | some .documentEnd => do
      skip
      ending fuel
    | some .streamEnd => return true
    | _ => return false

/-- The first document of a text. -/
def ofText (text : String) : Document :=
  let tokens := tokens text
  let fuel := 4 * tokens.length + 8
  let (root, g) := first fuel { tokens := tokens }
  let (isAlone, _) := ending fuel g
  { root := root, anchored := g.anchored, parts := g.parts, isAlone := isAlone }

/-- The node that an alias refers to. -/
def target (d : Document) (number : Nat) : Node :=
  let best := d.anchored.foldl
    (fun (best : Option Anchored) a =>
      if a.number ≠ number then best
      else
        match best with
        | some b => if b.position < a.position then some a else best
        | none => some a)
    none
  (best.map Anchored.node).getD .missing

/-- A node, or the one that it refers to. -/
def resolve (d : Document) : Node → Node
  | .alias number => d.target number
  | n => n

end Document
end Yaml
end ProxyConfig
