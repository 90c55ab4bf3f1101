import ProxyConfig.Yaml.Token

/-!
# From text to tokens

Indentation opens and closes blocks, and a colon turns what stands before it into a key.  A place
where a key may have begun is remembered until it is known whether a colon follows: the tokens of
a key are inserted there afterwards.  Therefore the tokens after such a place are not certain, and
when the text turns out to be malformed, only the tokens before it are given.
-/

namespace ProxyConfig
namespace Yaml

/-- A place where a key may have begun. -/
structure SimpleKey where
  /-- The count of tokens before the place. -/
  position : Nat
  /-- The place is where the block requires a key. -/
  isRequired : Bool
  mark : Mark
deriving Repr, Inhabited

/-- Keys without an indicator stand on one line and are not longer than this. -/
def longestSimpleKey : Nat := 1024

/-- The progress of scanning. -/
structure Scanner where
  cursor : Cursor
  /-- The columns of the open blocks, the innermost first. -/
  indents : List Nat := []
  /-- Where a key may have begun in the innermost collection. -/
  simpleKey : Option SimpleKey := none
  /-- The same for the collections around the innermost flow collection. -/
  outerKeys : List (Option SimpleKey) := []
  /-- A key may begin at the next character. -/
  allowsKey : Bool := true
  tokens : Array Token := #[]
  isFinished : Bool := false

namespace Scanner

/-- The next character lies inside a flow collection. -/
def inFlow (s : Scanner) : Bool :=
  !s.outerKeys.isEmpty

/-- The place of the next character. -/
def mark (s : Scanner) : Mark :=
  s.cursor.mark

/-- The first column that lies inside the innermost block. -/
def leastColumn (s : Scanner) : Nat :=
  match s.indents with
  | [] => 0
  | n :: _ => n + 1

/-- Add a token. -/
def add (s : Scanner) (kind : TokenKind) (mark : Mark) : Scanner :=
  { s with tokens := s.tokens.push ⟨kind, mark⟩ }

/-- Insert a token behind the given count of tokens. -/
def insert (s : Scanner) (position : Nat) (kind : TokenKind) (mark : Mark) : Scanner :=
  { s with
    tokens :=
      s.tokens.extract 0 position ++ #[⟨kind, mark⟩] ++
        s.tokens.extract position s.tokens.size }

/-- Add a token for an indicator of the given length. -/
def addIndicator (s : Scanner) (kind : TokenKind) (length : Nat) : Scanner :=
  let added := s.add kind s.mark
  { added with cursor := s.cursor.advance length }

/-- Allow or forbid a key at the next character. -/
def allow (s : Scanner) (allowsKey : Bool) : Scanner :=
  { s with allowsKey := allowsKey }

/-! ## Possible keys -/

/-- A key that began there can still be recognized. -/
def isCurrent (s : Scanner) (key : SimpleKey) : Bool :=
  key.mark.line = s.mark.line && s.mark.index ≤ key.mark.index + longestSimpleKey

/-- Forget a place that is too far away; a required key must not be forgotten. -/
def refresh (s : Scanner) : Option SimpleKey → Option (Option SimpleKey)
  | none => some none
  | some key =>
    if s.isCurrent key then some (some key) else if key.isRequired then none else some none

/-- Forget the places that are too far away. -/
def dropStale (s : Scanner) : Option Scanner := do
  let outer ← s.outerKeys.mapM s.refresh
  let inner ← s.refresh s.simpleKey
  return { s with outerKeys := outer, simpleKey := inner }

/-- Forget the innermost place. -/
def dropKey (s : Scanner) : Option Scanner :=
  if s.simpleKey.any SimpleKey.isRequired then none else some { s with simpleKey := none }

/-- Remember the next character as a place where a key may begin. -/
def saveKey (s : Scanner) : Option Scanner :=
  if s.allowsKey then do
    let s ← s.dropKey
    let isRequired := !s.inFlow && s.indents.head? = some s.cursor.column
    return { s with simpleKey := some ⟨s.tokens.size, isRequired, s.mark⟩ }
  else
    some s

/-! ## Blocks -/

/-- Close the blocks that are indented further than the given column. -/
def closeBlocks (keep : Nat → Bool) (s : Scanner) : Scanner :=
  if s.inFlow then s
  else
    let closed := s.indents.takeWhile fun n => !keep n
    let ends := (List.replicate closed.length (Token.mk .blockEnd s.mark)).toArray
    { s with indents := s.indents.drop closed.length, tokens := s.tokens ++ ends }

/-- Open a block at a column inside the innermost block. -/
def openBlock (s : Scanner) (column position : Nat) (kind : TokenKind) (mark : Mark) : Scanner :=
  if s.inFlow ∨ column < s.leastColumn then s
  else
    let opened := s.insert position kind mark
    { opened with indents := column :: s.indents }

/-- Open a block at the next character. -/
def openBlockHere (s : Scanner) (kind : TokenKind) : Scanner :=
  s.openBlock s.cursor.column s.tokens.size kind s.mark

/-! ## Kinds of tokens -/

/-- Pass over blanks, comments and line breaks.  Tabs do not indent a block. -/
def skipToToken : Nat → Scanner → Scanner
  | 0, s => s
  | fuel + 1, s =>
    let c :=
      if s.mark.index = 0 ∧ s.cursor.rest.head? = some (Char.ofNat 0xfeff) then s.cursor.advance 1
      else s.cursor
    let c := (c.skip fun x => x = ' ' || ((s.inFlow || !s.allowsKey) && x = '\t')).skipComment
    let atToken := { s with cursor := c }
    if c.rest.head?.any isBreak then
      let next := { atToken with cursor := c.readBreak.2 }
      skipToToken fuel (if s.inFlow then next else next.allow true)
    else atToken

/-- The end of the text. -/
def finish (s : Scanner) : Option Scanner := do
  let c := s.cursor
  let ended := { s with cursor := if c.column = 0 then c else c.newLine 0 }
  let ended ← (ended.closeBlocks fun _ => false).dropKey
  let ended := (ended.allow false).add .streamEnd ended.mark
  return { ended with isFinished := true }

/-- A directive. -/
def directive (s : Scanner) : Option Scanner := do
  let s ← (s.closeBlocks fun _ => false).dropKey
  let (kind, c) ← scanDirective s.cursor
  return { (s.allow false).add kind s.mark with cursor := c }

/-- The beginning or the end of a document. -/
def documentMark (s : Scanner) (kind : TokenKind) : Option Scanner := do
  let s ← (s.closeBlocks fun _ => false).dropKey
  return (s.allow false).addIndicator kind 3

/-- The beginning of a flow collection. -/
def flowStart (s : Scanner) (kind : TokenKind) : Option Scanner := do
  let s ← s.saveKey
  let inner := { s with outerKeys := s.simpleKey :: s.outerKeys, simpleKey := none }
  return (inner.allow true).addIndicator kind 1

/-- The end of a flow collection. -/
def flowEnd (s : Scanner) (kind : TokenKind) : Option Scanner := do
  let s ← s.dropKey
  let outer :=
    match s.outerKeys with
    | [] => s
    | key :: rest => { s with outerKeys := rest, simpleKey := key }
  return (outer.allow false).addIndicator kind 1

/-- The comma. -/
def flowEntry (s : Scanner) : Option Scanner := do
  let s ← s.dropKey
  return (s.allow true).addIndicator .flowEntry 1

/-- The hyphen of a list item.  Inside flow collections it is left to the grammar to refuse it. -/
def blockEntry (s : Scanner) : Option Scanner := do
  if !s.inFlow ∧ !s.allowsKey then none
  else
    let s ← (s.openBlockHere .blockSequenceStart).dropKey
    return (s.allow true).addIndicator .blockEntry 1

/-- The question mark of a key. -/
def key (s : Scanner) : Option Scanner := do
  if !s.inFlow ∧ !s.allowsKey then none
  else
    let s ← (s.openBlockHere .blockMappingStart).dropKey
    return (s.allow !s.inFlow).addIndicator .key 1

/-- The colon of a value. -/
def value (s : Scanner) : Option Scanner :=
  match s.simpleKey with
  | some key =>
    let s := s.insert key.position .key key.mark
    let s := s.openBlock key.mark.column key.position .blockMappingStart key.mark
    let s := { s with simpleKey := none }
    some ((s.allow false).addIndicator .value 1)
  | none =>
    if !s.inFlow ∧ !s.allowsKey then none
    else
      let s := s.openBlockHere .blockMappingStart
      some ((s.allow !s.inFlow).addIndicator .value 1)

/-- An anchor or an alias. -/
def name (s : Scanner) (kind : List Char → TokenKind) : Option Scanner := do
  let s ← s.saveKey
  let (name, c) ← scanName s.cursor
  return { (s.allow false).add (kind name) s.mark with cursor := c }

/-- A tag. -/
def tag (s : Scanner) : Option Scanner := do
  let s ← s.saveKey
  let (kind, c) ← scanTag s.inFlow s.cursor
  return { (s.allow false).add kind s.mark with cursor := c }

/-- A block scalar. -/
def block (s : Scanner) (isLiteral : Bool) : Option Scanner := do
  let s ← s.dropKey
  let scalar ← blockScalar isLiteral s.leastColumn s.cursor
  let kind := TokenKind.scalar (if isLiteral then .literal else .folded) scalar.text
  return { (s.allow true).add kind s.mark with cursor := scalar.cursor }

/-- A scalar between quotes. -/
def quoted (s : Scanner) (isSingle : Bool) : Option Scanner := do
  let s ← s.saveKey
  let scalar ← quotedScalar isSingle s.cursor
  return { (s.allow false).add (.scalar .quoted scalar.text) s.mark with cursor := scalar.cursor }

/-- A scalar without quotes.  When line breaks follow it, a key may begin after them. -/
def plain (s : Scanner) : Option Scanner := do
  let s ← s.saveKey
  let scalar ← plainScalar s.inFlow s.leastColumn s.cursor
  return { (s.allow scalar.endsLine).add (.scalar .plain scalar.text) s.mark with
    cursor := scalar.cursor }

/-- The characters that do not begin a scalar without quotes. -/
def indicators : List Char :=
  "-?:,[]\x7b\x7d#&*!|>'\"%@\x60".toList

/-- A scalar without quotes begins with the text. -/
def startsPlain (inFlow : Bool) : List Char → Bool
  | [] => false
  | c :: rest =>
    (!isBlankOrBreak c && !indicators.contains c) ||
      (c = '-' && !rest.head?.any isBlank) ||
      (!inFlow && (c = '?' || c = ':') && !startsBlank rest)

/-- Add the next token and those that go before it. -/
def step (s : Scanner) : Option Scanner := do
  let s ← (skipToToken (s.cursor.rest.length + 1) s).dropStale
  let column := s.cursor.column
  let s := s.closeBlocks fun n => n ≤ column
  match s.cursor.rest with
  | [] => s.finish
  | c :: rest =>
    if column = 0 ∧ c = '%' then s.directive
    else if s.cursor.isAt "---".toList then s.documentMark .documentStart
    else if s.cursor.isAt "...".toList then s.documentMark .documentEnd
    else if c = '[' then s.flowStart .flowSequenceStart
    else if c = '\x7b' then s.flowStart .flowMappingStart
    else if c = ']' then s.flowEnd .flowSequenceEnd
    else if c = '\x7d' then s.flowEnd .flowMappingEnd
    else if c = ',' then s.flowEntry
    else if c = '-' ∧ startsBlank rest then s.blockEntry
    else if c = '?' ∧ (s.inFlow ∨ startsBlank rest) then s.key
    else if c = ':' ∧ (s.inFlow ∨ startsBlank rest) then s.value
    else if c = '*' then s.name .alias
    else if c = '&' then s.name .anchor
    else if c = '!' then s.tag
    else if (c = '|' ∨ c = '>') ∧ !s.inFlow then s.block (c = '|')
    else if c = '\'' then s.quoted true
    else if c = '"' then s.quoted false
    else if startsPlain s.inFlow s.cursor.rest then s.plain
    else none

/-- The count of tokens that no later colon can change. -/
def certain (s : Scanner) : Nat :=
  (s.simpleKey :: s.outerKeys).foldl
    (fun n key =>
      match key with
      | some key => min n key.position
      | none => n)
    s.tokens.size

/-- The tokens of a text: all of them, or the certain ones before the text is malformed. -/
def run : Nat → Scanner → List Token
  | 0, s => s.tokens.toList.take s.certain
  | fuel + 1, s =>
    match s.step.bind dropStale with
    | none => s.tokens.toList.take s.certain
    | some next => if next.isFinished then next.tokens.toList else run fuel next

end Scanner

/-- The tokens of a text.  They end with the end of the stream only if the text is well formed; a
text with a character that must not be read has none. -/
def tokens (text : String) : List Token :=
  let chars := text.toList
  if chars.all isReadable then Scanner.run (chars.length + 2) { cursor := ⟨chars, {}⟩ } else []

end Yaml
end ProxyConfig
