import ProxyConfig.Yaml.Cursor

/-!
# Scalars in a document

Reading scalars of the five styles.  Line breaks inside a scalar without a block are folded: a
single one stands for a space, and of several the first is dropped.  In a block they are kept, or
folded between lines that are not indented further.
-/

namespace ProxyConfig
namespace Yaml

/-! ## White space inside scalars -/

/-- White space between two words. -/
structure Gap where
  /-- Blanks before the first line break. -/
  blanks : List Char := []
  hasBreak : Bool := false
  /-- The first line break, unless it was escaped. -/
  first : List Char := []
  /-- The line breaks after the first. -/
  more : List Char := []
deriving Repr, Inhabited

/-- The gap after an escaped line break. -/
def Gap.escaped : Gap where
  hasBreak := true

/-- What a gap stands for. -/
def Gap.text (gap : Gap) : List Char :=
  if !gap.hasBreak then gap.blanks
  else if gap.first = ['\n'] then if gap.more = [] then [' '] else gap.more
  else gap.first ++ gap.more

/-- Read the rest of a gap.  After a line break no tab may stand before the given column. -/
def Gap.scan (leastColumn : Nat) : Nat → Gap → Cursor → Option (Gap × Cursor)
  | 0, gap, c => some (gap, c)
  | fuel + 1, gap, c =>
    match c.rest with
    | x :: _ =>
      if isBlank x then
        if !gap.hasBreak then
          Gap.scan leastColumn fuel { gap with blanks := gap.blanks ++ [x] } (c.advance 1)
        else if x = '\t' ∧ c.column < leastColumn then none
        else Gap.scan leastColumn fuel gap (c.advance 1)
      else if isBreak x then
        let (b, c) := c.readBreak
        if gap.hasBreak then Gap.scan leastColumn fuel { gap with more := gap.more ++ b } c
        else Gap.scan leastColumn fuel { gap with hasBreak := true, first := b } c
      else some (gap, c)
    | [] => some (gap, c)

/-! ## Scalars without quotes -/

/-- Brackets, braces and the comma, which have a meaning inside flow collections. -/
def isFlowIndicator (c : Char) : Bool :=
  c = ',' || c = '[' || c = ']' || c = '\x7b' || c = '\x7d'

/-- The length of the word that a text begins with.  Inside flow collections a colon must not stand
directly before an indicator. -/
def plainWord (inFlow : Bool) : List Char → Option Nat
  | [] => some 0
  | c :: rest =>
    let next := rest.head?
    if isBlankOrBreak c then some 0
    else if inFlow && c = ':' && next.any fun d => isFlowIndicator d || d = '?' then none
    else if c = ':' && startsBlank rest then some 0
    else if inFlow && isFlowIndicator c then some 0
    else (plainWord inFlow rest).map (· + 1)

/-- A scalar that was read. -/
structure Scanned where
  text : List Char
  /-- Line breaks follow the scalar. -/
  endsLine : Bool
  cursor : Cursor
deriving Repr, Inhabited

/-- Read a scalar without quotes further; `pending` is the gap before the next word. -/
def plainFrom (inFlow : Bool) (leastColumn : Nat) :
    Nat → List Char → Gap → Cursor → Option Scanned
  | 0, text, pending, c => some ⟨text, pending.hasBreak, c⟩
  | fuel + 1, text, pending, c =>
    if c.isAtDocument || c.rest.head? = some '#' then some ⟨text, pending.hasBreak, c⟩
    else
      match plainWord inFlow c.rest with
      | none => none
      | some 0 => some ⟨text, pending.hasBreak, c⟩
      | some n =>
        let text := text ++ pending.text ++ c.rest.take n
        let c := c.advance n
        match Gap.scan leastColumn (c.rest.length + 1) {} c with
        | none => none
        | some (gap, c) =>
          if !inFlow ∧ c.column < leastColumn then some ⟨text, gap.hasBreak, c⟩
          else plainFrom inFlow leastColumn fuel text gap c

/-- Read a scalar without quotes. -/
def plainScalar (inFlow : Bool) (leastColumn : Nat) (c : Cursor) : Option Scanned :=
  plainFrom inFlow leastColumn (c.rest.length + 1) [] {} c

/-! ## Scalars between quotes -/

/-- The character of a one letter escape. -/
def shortEscape? : Char → Option Char
  | '0' => some (Char.ofNat 0)
  | 'a' => some (Char.ofNat 7)
  | 'b' => some (Char.ofNat 8)
  | 't' => some '\t'
  | '\t' => some '\t'
  | 'n' => some '\n'
  | 'v' => some (Char.ofNat 0xb)
  | 'f' => some (Char.ofNat 0xc)
  | 'r' => some '\r'
  | 'e' => some (Char.ofNat 0x1b)
  | ' ' => some ' '
  | '"' => some '"'
  | '/' => some '/'
  | '\\' => some '\\'
  | 'N' => some (Char.ofNat 0x85)
  | '_' => some (Char.ofNat 0xa0)
  | 'L' => some (Char.ofNat 0x2028)
  | 'P' => some (Char.ofNat 0x2029)
  | _ => none

/-- The count of digits after the letter of a numeric escape. -/
def escapeDigits? : Char → Option Nat
  | 'x' => some 2
  | 'u' => some 4
  | 'U' => some 8
  | _ => none

/-- The value of a hexadecimal digit. -/
def hexValue? (c : Char) : Option Nat :=
  if '0' ≤ c ∧ c ≤ '9' then some (c.toNat - '0'.toNat)
  else if 'a' ≤ c ∧ c ≤ 'f' then some (c.toNat - 'a'.toNat + 10)
  else if 'A' ≤ c ∧ c ≤ 'F' then some (c.toNat - 'A'.toNat + 10)
  else none

/-- The value of hexadecimal digits. -/
def hexNumber? (s : List Char) : Option Nat :=
  s.foldl (fun n c => n.bind fun n => (hexValue? c).map (16 * n + ·)) (some 0)

/-- The character of an escape, and the count of characters after the backslash. -/
def escape? (s : List Char) : Option (Char × Nat) :=
  match s with
  | [] => none
  | c :: rest =>
    match shortEscape? c, escapeDigits? c with
    | some x, _ => some (x, 1)
    | none, some n => do
      let digits := rest.take n
      if digits.length < n then none
      else
        let value ← hexNumber? digits
        if value.isValidChar then some (Char.ofNat value, n + 1) else none
    | none, none => none

/-- Read a word between quotes; `read` holds its characters, the last one first.  The last component
tells whether an escaped line break ended the word. -/
def quotedWord (isSingle : Bool) : Nat → List Char → Cursor → Option (List Char × Cursor × Bool)
  | 0, read, c => some (read.reverse, c, false)
  | fuel + 1, read, c =>
    match c.rest with
    | [] => some (read.reverse, c, false)
    | x :: rest =>
      if isBlankOrBreak x then some (read.reverse, c, false)
      else if isSingle then
        if x = '\'' then
          if rest.head? = some '\'' then quotedWord isSingle fuel (x :: read) (c.advance 2)
          else some (read.reverse, c, false)
        else quotedWord isSingle fuel (x :: read) (c.advance 1)
      else if x = '"' then some (read.reverse, c, false)
      else if x = '\\' then
        if rest.head?.any isBreak then some (read.reverse, (c.advance 1).readBreak.2, true)
        else
          match escape? rest with
          | some (y, n) => quotedWord isSingle fuel (y :: read) (c.advance (n + 1))
          | none => none
      else quotedWord isSingle fuel (x :: read) (c.advance 1)

/-- Read a scalar further after its opening quote. -/
def quotedFrom (isSingle : Bool) : Nat → List Char → Cursor → Option Scanned
  | 0, _, _ => none
  | fuel + 1, text, c =>
    if c.isAtDocument ∨ c.rest = [] then none
    else
      match quotedWord isSingle (c.rest.length + 1) [] c with
      | none => none
      | some (word, c, isEscaped) =>
        if c.rest.head? = some (if isSingle then '\'' else '"') then
          some ⟨text ++ word, false, c.advance 1⟩
        else
          match Gap.scan 0 (c.rest.length + 1) (if isEscaped then Gap.escaped else {}) c with
          | none => none
          | some (gap, c) => quotedFrom isSingle fuel (text ++ word ++ gap.text) c

/-- Read a scalar between quotes. -/
def quotedScalar (isSingle : Bool) (c : Cursor) : Option Scanned :=
  quotedFrom isSingle (c.rest.length + 1) [] (c.advance 1)

/-! ## Block scalars -/

/-- What happens to the line breaks at the end of a block. -/
inductive Chomping where
  | strip
  | clip
  | keep
deriving Repr, DecidableEq, Inhabited

/-- The chomping that a sign stands for. -/
def Chomping.ofSign? : Char → Option Chomping
  | '+' => some .keep
  | '-' => some .strip
  | _ => none

/-- Read the line breaks before a line of a block, and find the indentation of the block if it is
not known yet.  Gives the indentation, the breaks and what follows. -/
def blockBreaks (leastColumn : Nat) :
    Nat → Option Nat → Nat → List Char → Cursor → Option (Nat × List Char × Cursor)
  | 0, _, _, _, _ => none
  | fuel + 1, indent, deepest, breaks, c =>
    let spaces := (c.rest.takeWhile (· = ' ')).length
    let c :=
      c.advance (match indent with
        | some n => min spaces (n - c.column)
        | none => spaces)
    let deepest := max deepest c.column
    let next := c.rest.head?
    let isInside := indent.all fun n => c.column < n
    if isInside ∧ next = some '\t' then none
    else if next.any isBreak then
      let (b, c) := c.readBreak
      blockBreaks leastColumn fuel indent deepest (breaks ++ b) c
    else some (indent.getD (max (max deepest leastColumn) 1), breaks, c)

/-- The lines of a block. -/
structure BlockLines where
  text : List Char := []
  /-- The line break after the last line. -/
  lastBreak : List Char := []
  /-- The empty lines after it. -/
  emptyLines : List Char := []
  /-- The last line begins with a blank. -/
  isIndented : Bool := false

/-- Read the lines of a block. -/
def blockLines (isLiteral : Bool) (leastColumn indent : Nat) :
    Nat → BlockLines → Cursor → Option (BlockLines × Cursor)
  | 0, _, _ => none
  | fuel + 1, lines, c =>
    if c.column = indent ∧ c.rest ≠ [] then
      let isIndented := c.rest.head?.any isBlank
      let between :=
        if !isLiteral && lines.lastBreak = ['\n'] && !lines.isIndented && !isIndented then
          if lines.emptyLines = [] then [' '] else lines.emptyLines
        else lines.lastBreak ++ lines.emptyLines
      let (line, c) := c.span fun x => !isBreak x
      let (b, c) := c.readBreak
      match blockBreaks leastColumn (c.rest.length + 1) (some indent) 0 [] c with
      | none => none
      | some (_, emptyLines, c) =>
        blockLines isLiteral leastColumn indent fuel
          ⟨lines.text ++ between ++ line, b, emptyLines, isIndented⟩ c
    else some (lines, c)

/-- What stands after the indicator of a block: chomping and additional indentation, in either
order. -/
def blockHeader (s : List Char) : Option (Chomping × Option Nat × Nat) :=
  let increment? (c : Char) : Option Nat :=
    if c.isDigit then some (c.toNat - '0'.toNat) else none
  let refused (n : Nat) (header : Chomping × Option Nat × Nat) :=
    if n = 0 then none else some header
  match s with
  | a :: rest =>
    match Chomping.ofSign? a, increment? a with
    | some chomping, _ =>
      match rest.head?.bind increment? with
      | some n => refused n (chomping, some n, 2)
      | none => some (chomping, none, 1)
    | none, some n =>
      match rest.head?.bind Chomping.ofSign? with
      | some chomping => refused n (chomping, some n, 2)
      | none => refused n (.clip, some n, 1)
    | none, none => some (.clip, none, 0)
  | [] => some (.clip, none, 0)

/-- Read a block.  `leastColumn` is the column after the indentation of the surrounding block. -/
def blockScalar (isLiteral : Bool) (leastColumn : Nat) (c : Cursor) : Option Scanned := do
  let (chomping, increment, n) ← blockHeader (c.rest.drop 1)
  let c := ((c.advance (n + 1)).skip isBlank).skipComment
  if !startsBreak c.rest then none
  else
    let c := c.readBreak.2
    let known := increment.map fun n => (leastColumn - 1) + n
    let (indent, breaks, c) ← blockBreaks leastColumn (c.rest.length + 1) known 0 [] c
    let (lines, c) ←
      blockLines isLiteral leastColumn indent (c.rest.length + 1) { emptyLines := breaks } c
    let text :=
      match chomping with
      | .strip => lines.text
      | .clip => lines.text ++ lines.lastBreak
      | .keep => lines.text ++ lines.lastBreak ++ lines.emptyLines
    return ⟨text, false, c⟩

end Yaml
end ProxyConfig
