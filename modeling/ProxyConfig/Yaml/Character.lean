/-!
# Classes of characters in YAML

Which characters end lines, separate words and stand in a document as they are.
-/

namespace ProxyConfig
namespace Yaml

/-- Ends a line. -/
def isBreak (c : Char) : Bool :=
  c = '\n' || c = '\r' || c.toNat = 0x85 || c.toNat = 0x2028 || c.toNat = 0x2029

/-- A space or a tab. -/
def isBlank (c : Char) : Bool :=
  c = ' ' || c = '\t'

/-- A blank, a line break, or the character zero. -/
def isBlankOrBreak (c : Char) : Bool :=
  isBlank c || isBreak c || c.toNat = 0

/-- May stand in a document as it is.  Tabs and carriage returns may not. -/
def isPrintable (c : Char) : Bool :=
  let n := c.toNat
  n = 0xa || (0x20 ≤ n && n ≤ 0x7e) || (0xa0 ≤ n && n ≤ 0xd7ff) ||
    (0xe000 ≤ n && n ≤ 0xfffd && n ≠ 0xfeff) || 0x10000 ≤ n

/-- May stand in a document that is read. -/
def isReadable (c : Char) : Bool :=
  isPrintable c || c = '\t' || c = '\r' || c.toNat = 0x85 || c.toNat = 0xfeff

/-- May stand in names of anchors and handles of tags. -/
def isNameChar (c : Char) : Bool :=
  c.isAlphanum || c = '_' || c = '-'

/-- A text ends, or continues with a blank or a line break. -/
def startsBlank (s : List Char) : Bool :=
  match s with
  | [] => true
  | c :: _ => isBlankOrBreak c

/-- A text ends, or continues with a line break. -/
def startsBreak (s : List Char) : Bool :=
  match s with
  | [] => true
  | c :: _ => isBreak c

end Yaml
end ProxyConfig
