import ProxyConfig.Yaml.Scanner

/-!
# The tree of a document

Tokens are grouped into a tree of scalars, lists and tables.  Where the text is malformed the tree
has a node that is missing, and what precedes it is kept: a fault of the values before that place is
found first.

An anchor gives a number to a node, and an alias refers to the number.  The number is the count of
different names given so far, so a name that is given again can share its number with a later one;
the last node of a number counts.
-/

namespace ProxyConfig
namespace Yaml

/-- A node of a document. -/
inductive Node where
  | scalar (mark : Mark) (tag : Option String) (form : ScalarForm) (text : List Char)
  | sequence (mark : Mark) (tag : Option String) (items : List Node)
  | mapping (mark : Mark) (tag : Option String) (entries : List (Node × Node))
  | alias (number : Nat)
  /-- The text is malformed here. -/
  | missing
deriving Repr, Inhabited

/-- A node with an anchor. -/
structure Anchored where
  number : Nat
  /-- The count of the parts of the document before the node. -/
  position : Nat
  node : Node
deriving Repr, Inhabited

/-- The progress of building a tree. -/
structure TreeProgress where
  /-- The tokens that are left; none when the text is malformed. -/
  tokens : List Token
  /-- The meanings of handles of tags that the document declares. -/
  handles : List (List Char × List Char) := []
  /-- The numbers of names, the last given first. -/
  names : List (List Char × Nat) := []
  anchored : List Anchored := []
  /-- The count of scalars, aliases, and beginnings and ends of collections. -/
  parts : Nat := 0

/-- A step of building a tree. -/
abbrev TreeStep (α : Type) := StateM TreeProgress α

namespace TreeStep

/-- The next token. -/
def peek : TreeStep (Option TokenKind) := do
  return (← get).tokens.head?.map Token.kind

/-- The place of the next token. -/
def mark : TreeStep Mark := do
  return ((← get).tokens.head?.map Token.mark).getD {}

/-- Pass over a token. -/
def skip : TreeStep Unit :=
  modify fun g => { g with tokens := g.tokens.drop 1 }

/-- The text is malformed. -/
def fail : TreeStep Unit :=
  modify fun g => { g with tokens := [] }

/-- Count a part of the document. -/
def count : TreeStep Unit :=
  modify fun g => { g with parts := g.parts + 1 }

/-- A node that is not there. -/
def absent : TreeStep Node := do
  fail
  return .missing

/-- A scalar that is left out. -/
def empty (mark : Mark) (tag : Option String) : TreeStep Node := do
  count
  return .scalar mark tag .plain []

/-- The next token is one of these, or there is none. -/
def meets (kinds : List TokenKind) : TreeStep Bool := do
  match ← peek with
  | some kind => return kinds.contains kind
  | none => return false

/-! ## Properties of nodes -/

/-- What stands before the content of a node. -/
structure Properties where
  mark : Mark
  anchor : Option (List Char) := none
  tag : Option (List Char × List Char) := none

/-- Read an anchor and a tag in either order. -/
def properties : TreeStep Properties := do
  let p : Properties := { mark := ← mark }
  match ← peek with
  | some (.anchor name) =>
    skip
    match ← peek with
    | some (.tag handle suffix) => do
      skip
      return { p with anchor := some name, tag := some (handle, suffix) }
    | _ => return { p with anchor := some name }
  | some (.tag handle suffix) =>
    skip
    match ← peek with
    | some (.anchor name) => do
      skip
      return { p with anchor := some name, tag := some (handle, suffix) }
    | _ => return { p with tag := some (handle, suffix) }
  | _ => return p

/-- The meanings of the handles that need no declaration. -/
def standardHandles : List (List Char × List Char) :=
  [(['!'], ['!']), (['!', '!'], "tag:yaml.org,2002:".toList)]

/-- The full tag of a handle and a suffix.  A handle must be known. -/
def fullTag? (handles : List (List Char × List Char)) (handle suffix : List Char) :
    Option String :=
  if handle = [] then some (String.ofList suffix)
  else ((handles ++ standardHandles).lookup handle).map fun m => String.ofList (m ++ suffix)

/-- The number for an anchor, and the count of parts before its node. -/
def enter (anchor : Option (List Char)) : TreeStep (Option (Nat × Nat)) := do
  let g ← get
  match anchor with
  | none => return none
  | some name =>
    let number := (g.names.map Prod.fst).eraseDups.length
    set { g with names := (name, number) :: g.names }
    return some (number, g.parts)

/-- Keep a node that has a number. -/
def leave (entered : Option (Nat × Nat)) (node : Node) : TreeStep Node := do
  match entered with
  | none => return node
  | some (number, position) =>
    modify fun g => { g with anchored := ⟨number, position, node⟩ :: g.anchored }
    return node

/-! ## Nodes -/

mutual

/-- Group a node.  Blocks are allowed only outside flow collections, and the items of a list may
stand at the column of a key. -/
def node : Nat → Bool → Bool → TreeStep Node
  | 0, _, _ => absent
  | fuel + 1, inBlock, underKey => do
    match ← peek with
    | none => absent
    | some (.alias name) =>
      match (← get).names.lookup name with
      | none => absent
      | some number => do
        skip
        count
        return .alias number
    | some _ => do
      let p ← properties
      let handles := (← get).handles
      let tag? : Option (Option String) :=
        match p.tag with
        | none => some none
        | some (handle, suffix) => (fullTag? handles handle suffix).map some
      match tag? with
      | none => absent
      | some tag =>
        match ← peek with
        | none => absent
        | some .blockEntry =>
          if underKey then collect p.anchor (.sequence p.mark tag <$> looseItems fuel)
          else content p tag
        | some (.scalar form text) => do
          let entered ← enter p.anchor
          skip
          count
          leave entered (.scalar p.mark (if tag = some "!" then none else tag) form text)
        | some .flowSequenceStart => do
          collect p.anchor (.sequence p.mark tag <$> flowItems fuel true)
        | some .flowMappingStart => do
          collect p.anchor (.mapping p.mark tag <$> flowEntries fuel true)
        | some .blockSequenceStart =>
          if inBlock then collect p.anchor (.sequence p.mark tag <$> blockItems fuel true)
          else content p tag
        | some .blockMappingStart =>
          if inBlock then collect p.anchor (.mapping p.mark tag <$> blockEntries fuel true)
          else content p tag
        | some _ => content p tag

/-- A node without content, which is permitted only with an anchor or a tag. -/
def content (p : Properties) (tag : Option String) : TreeStep Node := do
  if p.anchor.isSome || p.tag.isSome then do
    let entered ← enter p.anchor
    leave entered (← empty p.mark tag)
  else absent

/-- Count the beginning and the end of a collection. -/
def collect (anchor : Option (List Char)) (items : TreeStep Node) : TreeStep Node := do
  let entered ← enter anchor
  count
  let node ← items
  count
  leave entered node

/-- The items of a block list. -/
def blockItems : Nat → Bool → TreeStep (List Node)
  | 0, _ => return [← absent]
  | fuel + 1, isFirst => do
    if isFirst then skip
    match ← peek with
    | some .blockEntry => do
      let place ← mark
      skip
      let item ←
        if ← meets [.blockEntry, .blockEnd] then empty place none else node fuel true false
      return item :: (← blockItems fuel false)
    | some .blockEnd => do
      skip
      return []
    | _ => return [← absent]

/-- The items of a list at the column of its key. -/
def looseItems : Nat → TreeStep (List Node)
  | 0 => return [← absent]
  | fuel + 1 => do
    match ← peek with
    | some .blockEntry => do
      let place ← mark
      skip
      let item ←
        if ← meets [.blockEntry, .key, .value, .blockEnd] then empty place none
        else node fuel true false
      return item :: (← looseItems fuel)
    | some _ => return []
    | none => return [← absent]

/-- The key or the value of a block table. -/
def blockPart : Nat → TreeStep Node
  | 0 => absent
  | fuel + 1 => do
    let place ← mark
    skip
    if ← meets [.key, .value, .blockEnd] then empty place none else node fuel true true

/-- The entries of a block table. -/
def blockEntries : Nat → Bool → TreeStep (List (Node × Node))
  | 0, _ => return [(← absent, .missing)]
  | fuel + 1, isFirst => do
    if isFirst then skip
    match ← peek with
    | some .key => do
      let key ← blockPart fuel
      let value ← if ← meets [.value] then blockPart fuel else empty (← mark) none
      return (key, value) :: (← blockEntries fuel false)
    | some .blockEnd => do
      skip
      return []
    | _ => return [(← absent, .missing)]

/-- The value of an entry inside a flow collection. -/
def flowValue : Nat → TokenKind → TreeStep Node
  | 0, _ => absent
  | fuel + 1, closing => do
    match ← peek with
    | none => absent
    | some .value => do
      skip
      if ← meets [.flowEntry, closing] then empty (← mark) none else node fuel false false
    | some _ => empty (← mark) none

/-- The items of a flow list.  An item with a key is a table of its own. -/
def flowItems : Nat → Bool → TreeStep (List Node)
  | 0, _ => return [← absent]
  | fuel + 1, isFirst => do
    if isFirst then skip
    if ← meets [.flowSequenceEnd] then do
      skip
      return []
    else do
      if !isFirst then
        if ← meets [.flowEntry] then skip else fail
      match ← peek with
      | none => return [.missing]
      | some .flowSequenceEnd => do
        skip
        return []
      | some .key => do
        let place ← mark
        let item ← collect none (pair fuel place)
        return item :: (← flowItems fuel false)
      | some _ => do
        let item ← node fuel false false
        return item :: (← flowItems fuel false)

/-- A single entry inside a flow list.  A key that is left out takes the next token with it. -/
def pair : Nat → Mark → TreeStep Node
  | 0, _ => absent
  | fuel + 1, place => do
    skip
    let key ←
      if ← meets [.value, .flowEntry, .flowSequenceEnd] then do
        let place ← mark
        skip
        empty place none
      else node fuel false false
    let value ← flowValue fuel .flowSequenceEnd
    return .mapping place none [(key, value)]

/-- The entries of a flow table. -/
def flowEntries : Nat → Bool → TreeStep (List (Node × Node))
  | 0, _ => return [(← absent, .missing)]
  | fuel + 1, isFirst => do
    if isFirst then skip
    if ← meets [.flowMappingEnd] then do
      skip
      return []
    else do
      if !isFirst then
        if ← meets [.flowEntry] then skip else fail
      match ← peek with
      | none => return [(.missing, .missing)]
      | some .flowMappingEnd => do
        skip
        return []
      | some .key => do
        skip
        let key ←
          if ← meets [.value, .flowEntry, .flowMappingEnd] then empty (← mark) none
          else node fuel false false
        let value ← flowValue fuel .flowMappingEnd
        return (key, value) :: (← flowEntries fuel false)
      | some _ => do
        let key ← node fuel false false
        let value ← empty (← mark) none
        return (key, value) :: (← flowEntries fuel false)

end

end TreeStep
end Yaml
end ProxyConfig
