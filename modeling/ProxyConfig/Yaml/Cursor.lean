import ProxyConfig.Yaml.Character

/-!
# A place in a text

Scanning keeps what is left of the text together with the place where it begins.  Lines and columns
are counted from zero, and all line breaks are alike except that the separators of lines and
paragraphs are kept as they are.
-/

namespace ProxyConfig
namespace Yaml

/-- A place in a text. -/
structure Mark where
  index : Nat := 0
  line : Nat := 0
  column : Nat := 0
deriving Repr, DecidableEq, Inhabited

/-- The very beginning of a text, as far as lines and columns tell. -/
def Mark.isOrigin (mark : Mark) : Bool :=
  mark.line = 0 && mark.column = 0

/-- What is left of a text, with its place. -/
structure Cursor where
  rest : List Char
  mark : Mark := {}
deriving Repr, Inhabited

namespace Cursor

/-- The column of the next character. -/
def column (c : Cursor) : Nat :=
  c.mark.column

/-- Go on by characters of the same line. -/
def advance (c : Cursor) (n : Nat) : Cursor where
  rest := c.rest.drop n
  mark := { c.mark with index := c.mark.index + n, column := c.mark.column + n }

/-- The characters up to the first that does not belong to a class. -/
def span (c : Cursor) (p : Char → Bool) : List Char × Cursor :=
  let word := c.rest.takeWhile p
  (word, c.advance word.length)

/-- Pass over the characters of a class. -/
def skip (c : Cursor) (p : Char → Bool) : Cursor :=
  (c.span p).2

/-- Go to the next line; the number of characters of the line break is given. -/
def newLine (c : Cursor) (n : Nat) : Cursor where
  rest := c.rest.drop n
  mark := { index := c.mark.index + n, line := c.mark.line + 1, column := 0 }

/-- Read a line break, if there is one. -/
def readBreak (c : Cursor) : List Char × Cursor :=
  match c.rest with
  | '\r' :: '\n' :: _ => (['\n'], c.newLine 2)
  | b :: _ =>
    if isBreak b then
      (if b = '\r' || b.toNat = 0x85 then ['\n'] else [b], c.newLine 1)
    else
      ([], c)
  | [] => ([], c)

/-- Pass over a comment, if there is one. -/
def skipComment (c : Cursor) : Cursor :=
  if c.rest.head? = some '#' then c.skip fun x => !isBreak x else c

/-- Three characters that mark the beginning or the end of a document stand at the beginning of the
line. -/
def isAt (c : Cursor) (indicator : List Char) : Bool :=
  c.column = 0 && indicator.isPrefixOf c.rest && startsBlank (c.rest.drop 3)

/-- The line begins or ends a document. -/
def isAtDocument (c : Cursor) : Bool :=
  c.isAt "---".toList || c.isAt "...".toList

end Cursor
end Yaml
end ProxyConfig
