import ProxyConfig.Yaml.Scalar

/-!
# Tokens

The smallest parts of a document: indicators, scalars, and the beginnings and ends of blocks that
follow from indentation.
-/

namespace ProxyConfig
namespace Yaml

/-- How a scalar was written, as far as its meaning depends on it. -/
inductive ScalarForm where
  | plain
  | quoted
  | literal
  | folded
deriving Repr, DecidableEq, Inhabited

/-- The kinds of tokens. -/
inductive TokenKind where
  /-- A declaration of the version. -/
  | version (major minor : Nat)
  /-- A declaration of what a handle of tags stands for. -/
  | handle (name meaning : List Char)
  | documentStart
  | documentEnd
  | blockSequenceStart
  | blockMappingStart
  | blockEnd
  | flowSequenceStart
  | flowSequenceEnd
  | flowMappingStart
  | flowMappingEnd
  | blockEntry
  | flowEntry
  | key
  | value
  | alias (name : List Char)
  | anchor (name : List Char)
  | tag (handle suffix : List Char)
  | scalar (form : ScalarForm) (text : List Char)
  | streamEnd
deriving Repr, DecidableEq, Inhabited

/-- A token with the place where it begins. -/
structure Token where
  kind : TokenKind
  mark : Mark
deriving Repr, Inhabited

/-! ## Anchors, tags and directives -/

/-- Read the name of an anchor or an alias after its indicator. -/
def scanName (c : Cursor) : Option (List Char × Cursor) :=
  let (name, c) := (c.advance 1).span isNameChar
  let mayFollow (d : Char) : Bool := ['?', ':', ',', ']', '\x7d', '%', '@', '\x60'].contains d
  if name = [] then none
  else if startsBlank c.rest || c.rest.head?.any mayFollow then some (name, c)
  else none

/-- The first byte of a character beyond ASCII tells how many bytes follow. -/
def followingBytes? (first : Nat) : Option Nat :=
  if first < 0x80 then some 0
  else if 0xc0 ≤ first ∧ first < 0xe0 then some 1
  else if 0xe0 ≤ first ∧ first < 0xf0 then some 2
  else if 0xf0 ≤ first ∧ first < 0xf8 then some 3
  else none

/-- A percent sign with two hexadecimal digits. -/
def percentByte? : List Char → Option Nat
  | '%' :: a :: b :: _ => do return 16 * (← hexValue? a) + (← hexValue? b)
  | _ => none

/-- The bytes that continue a character. -/
def continuation? (value : Nat) : Nat → List Char → Option Nat
  | 0, _ => some value
  | n + 1, s => do
    let byte ← percentByte? s
    if 0x80 ≤ byte ∧ byte < 0xc0 then continuation? (64 * value + byte % 64) n (s.drop 3)
    else none

/-- A character written in percent escapes, and the count of escapes. -/
def percentChar? (s : List Char) : Option (Char × Nat) := do
  let first ← percentByte? s
  let n ← followingBytes? first
  let lead := if n = 0 then first else first % Nat.pow 2 (6 - n)
  let value ← continuation? lead n (s.drop 3)
  if value.isValidChar then some (Char.ofNat value, n + 1) else none

/-- A character of a tag.  Inside angle brackets the indicators of flow collections may stand. -/
def isTagChar (isVerbatim : Bool) (c : Char) : Bool :=
  isNameChar c || ";/?:@&=+$.!~*'()".toList.contains c ||
    (isVerbatim && (c = ',' || c = '[' || c = ']'))

/-- Read the characters of a tag. -/
def tagText (isVerbatim : Bool) : Nat → List Char → Cursor → Option (List Char × Cursor)
  | 0, read, c => some (read.reverse, c)
  | fuel + 1, read, c =>
    match c.rest with
    | [] => some (read.reverse, c)
    | x :: _ =>
      if x = '%' then
        match percentChar? c.rest with
        | some (y, n) => tagText isVerbatim fuel (y :: read) (c.advance (3 * n))
        | none => none
      else if isTagChar isVerbatim x then tagText isVerbatim fuel (x :: read) (c.advance 1)
      else some (read.reverse, c)

/-- Read a tag's text after a part that was read already; both together must not be empty. -/
def scanTagText (isVerbatim : Bool) (before : List Char) (c : Cursor) :
    Option (List Char × Cursor) := do
  let (text, c) ← tagText isVerbatim (c.rest.length + 1) [] c
  if before = [] ∧ text = [] then none else some (before.drop 1 ++ text, c)

/-- Read an exclamation mark, name characters and perhaps a second exclamation mark. -/
def scanHandle (c : Cursor) : Option (List Char × Cursor) :=
  if c.rest.head? = some '!' then
    let (name, c) := (c.advance 1).span isNameChar
    if c.rest.head? = some '!' then some ('!' :: name ++ ['!'], c.advance 1)
    else some ('!' :: name, c)
  else none

/-- A handle with a second exclamation mark. -/
def isClosedHandle (handle : List Char) : Bool :=
  2 ≤ handle.length && handle.getLast? = some '!'

/-- Read a tag. -/
def scanTag (inFlow : Bool) (c : Cursor) : Option (TokenKind × Cursor) := do
  let (kind, c) ←
    if (c.rest.drop 1).head? = some '<' then do
      let (text, c) ← scanTagText true [] (c.advance 2)
      if c.rest.head? = some '>' then some (TokenKind.tag [] text, c.advance 1) else none
    else do
      let (handle, c) ← scanHandle c
      if isClosedHandle handle then
        let (suffix, c) ← scanTagText false [] c
        some (TokenKind.tag handle suffix, c)
      else
        let (suffix, c) ← scanTagText false handle c
        some (if suffix = [] then TokenKind.tag [] ['!'] else TokenKind.tag ['!'] suffix, c)
  if startsBlank c.rest ∨ (inFlow ∧ c.rest.head? = some ',') then some (kind, c) else none

/-- Read a number of at most nine digits. -/
def scanVersionNumber (c : Cursor) : Option (Nat × Cursor) :=
  let (digits, c) := c.span Char.isDigit
  if digits = [] ∨ 9 < digits.length then none
  else some (digits.foldl (fun n d => 10 * n + (d.toNat - '0'.toNat)) 0, c)

/-- Read a directive after its name. -/
def scanDirectiveValue (name : List Char) (c : Cursor) : Option (TokenKind × Cursor) := do
  let c := c.skip isBlank
  if name = "YAML".toList then
    let (major, c) ← scanVersionNumber c
    if c.rest.head? = some '.' then
      let (minor, c) ← scanVersionNumber (c.advance 1)
      some (.version major minor, c)
    else none
  else if name = "TAG".toList then
    let (handle, c) ← scanHandle c
    if (handle ≠ ['!'] ∧ !isClosedHandle handle) ∨ !c.rest.head?.any isBlank then none
    else
      let (meaning, c) ← scanTagText true [] (c.skip isBlank)
      if startsBlank c.rest then some (.handle handle meaning, c) else none
  else none

/-- Read a directive. -/
def scanDirective (c : Cursor) : Option (TokenKind × Cursor) := do
  let (name, c) := (c.advance 1).span isNameChar
  if name = [] ∨ !startsBlank c.rest then none
  else
    let (kind, c) ← scanDirectiveValue name c
    let c := (c.skip isBlank).skipComment
    if startsBreak c.rest then some (kind, c.readBreak.2) else none

end Yaml
end ProxyConfig
