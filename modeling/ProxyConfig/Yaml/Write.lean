import ProxyConfig.Json.Value
import ProxyConfig.Text.Quoted
import ProxyConfig.Yaml.Character
import ProxyConfig.Yaml.Plain

/-!
# Writing YAML

Trees of named values in block style.  A list under a key is not indented further than the key.
A text is written in the plainest style that reads back as the same text: without quotes, between
single quotes, as a literal block when it has line breaks, and otherwise between double quotes
with escapes.
-/

namespace ProxyConfig
namespace Yaml

/-! ## Which styles a text admits -/

/-- How a text is written. -/
inductive Style where
  | plain
  | single
  | double
  | literal
deriving Repr, DecidableEq, Inhabited

/-- What decides about the styles of a text. -/
structure Traits where
  /-- Holds a character that has a meaning at its place. -/
  indicator : Bool := false
  lineBreak : Bool := false
  /-- Holds a character that must be escaped. -/
  special : Bool := false
  leadingSpace : Bool := false
  leadingBreak : Bool := false
  trailingSpace : Bool := false
  trailingBreak : Bool := false
  spaceAfterBreak : Bool := false
  breakAfterSpace : Bool := false
deriving Repr, DecidableEq, Inhabited

/-- Characters that have a meaning at the start of a scalar. -/
def isLeadingIndicator (c : Char) : Bool :=
  c ∈ ['#', ',', '[', ']', '\x7b', '\x7d', '&', '*', '!', '|', '>', '\'', '"', '%', '@', '`']

/-- The characters that follow are blank, or there are none. -/
def beforeBlank : List Char → Bool
  | [] => true
  | c :: _ => isBlankOrBreak c

/-- The first character of a scalar has a meaning there. -/
def startsWithIndicator : List Char → Bool
  | [] => false
  | c :: rest =>
    isLeadingIndicator c || ((c = '?' || c = ':' || c = '-') && beforeBlank rest)

/-- A character inside a scalar has a meaning there; `before` is the one before it. -/
def isInnerIndicator (before c : Char) (rest : List Char) : Bool :=
  (c = ':' && beforeBlank rest) || (c = '#' && isBlankOrBreak before)

/-- Two neighbours of a text, and what follows them. -/
def hasNeighbours (p : Char → Char → List Char → Bool) : List Char → Bool
  | a :: b :: rest => p a b rest || hasNeighbours p (b :: rest)
  | _ => false

/-- The traits of a text. -/
def Traits.ofChars (s : List Char) : Traits where
  indicator :=
    "---".toList.isPrefixOf s || "...".toList.isPrefixOf s || startsWithIndicator s ||
      hasNeighbours isInnerIndicator s
  lineBreak := s.any isBreak
  special := s.any fun c => !isPrintable c
  leadingSpace := s.head?.any (· = ' ')
  leadingBreak := s.head?.any isBreak
  trailingSpace := s.getLast?.any (· = ' ')
  trailingBreak := s.getLast?.any isBreak
  spaceAfterBreak := hasNeighbours (fun a b _ => isBreak a && b = ' ') s
  breakAfterSpace := hasNeighbours (fun a b _ => a = ' ' && isBreak b) s

namespace Traits

/-- May be written without quotes. -/
def allowsPlain (t : Traits) : Bool :=
  !(t.indicator || t.lineBreak || t.special || t.leadingSpace || t.leadingBreak ||
    t.trailingSpace || t.trailingBreak || t.spaceAfterBreak || t.breakAfterSpace)

/-- May be written between single quotes. -/
def allowsSingle (t : Traits) : Bool :=
  !(t.special || t.spaceAfterBreak || t.breakAfterSpace)

/-- May be written as a literal block. -/
def allowsLiteral (t : Traits) : Bool :=
  !(t.special || t.trailingSpace || t.breakAfterSpace)

end Traits

/-- Without quotes the text would be read as something else. -/
def isAmbiguous (s : List Char) : Bool :=
  Plain.resolve s != .text || Plain.isPaddedDigits s

/-- The style of a text.  A key stands on one line. -/
def Style.ofText (isKey : Bool) (s : List Char) : Style :=
  let t := Traits.ofChars s
  if '\n' ∈ s then
    if t.allowsLiteral && !isKey then .literal else .double
  else if isKey && t.lineBreak then .double
  else if t.allowsPlain && !isAmbiguous s then .plain
  else if t.allowsSingle then .single
  else .double

/-! ## The styles -/

/-- Spaces. -/
def pad (n : Nat) : List Char :=
  List.replicate n ' '

/-- Upper case hexadecimal digits of a given count. -/
def hexUpper : Nat → Nat → List Char
  | 0, _ => []
  | count + 1, n => hexUpper count (n / 16) ++ [(Text.hexDigit (n % 16)).toUpper]

/-- One character between double quotes. -/
def doubleQuotedChar (c : Char) : List Char :=
  let n := c.toNat
  if isPrintable c && !isBreak c && c ≠ '"' && c ≠ '\\' then [c]
  else if n = 0 then ['\\', '0']
  else if n = 7 then ['\\', 'a']
  else if n = 8 then ['\\', 'b']
  else if n = 9 then ['\\', 't']
  else if n = 0xa then ['\\', 'n']
  else if n = 0xb then ['\\', 'v']
  else if n = 0xc then ['\\', 'f']
  else if n = 0xd then ['\\', 'r']
  else if n = 0x1b then ['\\', 'e']
  else if c = '"' || c = '\\' then ['\\', c]
  else if n = 0x85 then ['\\', 'N']
  else if n = 0x2028 then ['\\', 'L']
  else if n = 0x2029 then ['\\', 'P']
  else if n ≤ 0xff then '\\' :: 'x' :: hexUpper 2 n
  else if n ≤ 0xffff then '\\' :: 'u' :: hexUpper 4 n
  else '\\' :: 'U' :: hexUpper 8 n

/-- Between double quotes. -/
def doubleQuoted (s : List Char) : List Char :=
  '"' :: (s.flatMap doubleQuotedChar ++ ['"'])

/-- The inside of single quotes.  After a line break the text goes on at the indentation. -/
def singleQuotedFrom (indent : Nat) (afterBreak : Bool) : List Char → List Char
  | [] => if afterBreak then pad indent else []
  | c :: rest =>
    if isBreak c then
      (if !afterBreak && c = '\n' then ['\n'] else []) ++ c :: singleQuotedFrom indent true rest
    else if c = ' ' then c :: singleQuotedFrom indent afterBreak rest
    else
      (if afterBreak then pad indent else []) ++ (if c = '\'' then ['\'', '\''] else [c]) ++
        singleQuotedFrom indent false rest

/-- Between single quotes, where a quote is written twice. -/
def singleQuoted (indent : Nat) (s : List Char) : List Char :=
  '\'' :: (singleQuotedFrom indent false s ++ ['\''])

/-- The lines of a literal block; every line that is not empty is indented. -/
def literalFrom (indent : Nat) (afterBreak : Bool) : List Char → List Char
  | [] => []
  | c :: rest =>
    if isBreak c then c :: literalFrom indent true rest
    else (if afterBreak then pad indent else []) ++ c :: literalFrom indent false rest

/-- The mark for the line breaks at the end of a literal block: none is kept, one, or all. -/
def chomping (s : List Char) : List Char :=
  match s.reverse with
  | [] => ['-']
  | last :: before =>
    if !isBreak last then ['-']
    else if before.head?.all isBreak then ['+']
    else []

/-- A literal block.  Its indentation is given when the text starts with a blank line or space. -/
def literal (indent : Nat) (s : List Char) : List Char :=
  '|' :: ((if s.head?.any fun c => c = ' ' || isBreak c then ['2'] else []) ++ chomping s ++
    '\n' :: literalFrom indent true s)

/-- A text in its style; `indent` is the column at which its further lines start. -/
def scalarText (isKey : Bool) (indent : Nat) (text : String) : String :=
  let s := text.toList
  String.ofList <|
    match Style.ofText isKey s with
    | .plain => s
    | .single => singleQuoted indent s
    | .double => doubleQuoted s
    | .literal => literal indent s

/-- A key fits before a colon on one line: it has no line breaks and at most 128 bytes. -/
def isSimpleKey (key : String) : Bool :=
  !key.toList.any isBreak && key.utf8ByteSize ≤ 128

/-! ## Trees -/

/-- A value that stands on the line of its key or dash. -/
def inlineText (indent : Nat) : Json → Option String
  | .null => some "null"
  | .bool b => some (if b then "true" else "false")
  | .number (.int n) => some (toString n)
  | .number (.float x) => some (Decimal.compactText x)
  | .string s => some (scalarText false indent s)
  | .array [] => some "[]"
  | .object [] => some "\x7b\x7d"
  | .array (_ :: _) => none
  | .object (_ :: _) => none

/-- The text ends its line, as a literal block may. -/
def endsLine (text : String) : Bool :=
  text.toList.getLast?.any isBreak

/-- Entries one below the other, at an indentation. -/
def stack (indent : Nat) : List String → String
  | [] => ""
  | [entry] => entry
  | entry :: rest =>
    entry ++ (if endsLine entry then "" else "\n") ++ String.ofList (pad indent) ++
      stack indent rest

mutual

/-- What stands after the dash of an item, the dash being at the indentation. -/
def itemText (indent : Nat) : Json → String
  | .array (v :: rest) => stack (indent + 2) (itemTexts (indent + 2) (v :: rest))
  | .object (f :: rest) => stack (indent + 2) (fieldTexts (indent + 2) (f :: rest))
  | v => (inlineText (indent + 2) v).getD ""

/-- The items of a list, with dashes at the indentation. -/
def itemTexts (indent : Nat) : List Json → List String
  | [] => []
  | v :: rest => ("- " ++ itemText indent v) :: itemTexts indent rest

/-- The fields of an object, with keys at the indentation. -/
def fieldTexts (indent : Nat) : List (String × Json) → List String
  | [] => []
  | (key, v) :: rest => fieldText indent key v :: fieldTexts indent rest

/-- A field whose key is at the indentation. -/
def fieldText (indent : Nat) (key : String) : Json → String
  | .array (v :: rest) =>
    if isSimpleKey key then
      scalarText true indent key ++ ":\n" ++ String.ofList (pad indent) ++
        stack indent (itemTexts indent (v :: rest))
    else
      stack indent ["? " ++ scalarText false (indent + 2) key,
        ": " ++ stack (indent + 2) (itemTexts (indent + 2) (v :: rest))]
  | .object (f :: rest) =>
    if isSimpleKey key then
      scalarText true indent key ++ ":\n" ++ String.ofList (pad (indent + 2)) ++
        stack (indent + 2) (fieldTexts (indent + 2) (f :: rest))
    else
      stack indent ["? " ++ scalarText false (indent + 2) key,
        ": " ++ stack (indent + 2) (fieldTexts (indent + 2) (f :: rest))]
  | v =>
    if isSimpleKey key then
      scalarText true indent key ++ ": " ++ (inlineText (indent + 2) v).getD ""
    else
      stack indent ["? " ++ scalarText false (indent + 2) key,
        ": " ++ (inlineText (indent + 2) v).getD ""]

end

/-- A document, ended by a line break. -/
def document (v : Json) : String :=
  let body :=
    match v with
    | .array (v :: rest) => stack 0 (itemTexts 0 (v :: rest))
    | .object (f :: rest) => stack 0 (fieldTexts 0 (f :: rest))
    | v => (inlineText 2 v).getD ""
  body ++ if endsLine body then "" else "\n"

end Yaml
end ProxyConfig
