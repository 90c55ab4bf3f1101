import ProxyConfig.Text.CombiningTable

/-!
# Canonical composition

One letter with marks can be written in several ways.  Composition chooses one of them: composed
characters are taken apart, the marks after each base are ordered by their classes, and every mark
that can be joined with its base is joined.

Only characters that composition can produce are taken apart.  The others that Unicode decomposes
are replaced by the mapping of host names, so they do not occur where this module is used.
-/

namespace ProxyConfig
namespace Text

/-- A composed character with its parts. -/
structure Composite where
  whole : Char
  base : Char
  mark : Char
deriving Repr, DecidableEq

/-- A composite from its packed code points. -/
def Composite.ofPacked? : List (List Char) → Option Composite
  | [whole, base, mark] =>
    some
      ⟨Char.ofNat (packedNumber whole), Char.ofNat (packedNumber base),
        Char.ofNat (packedNumber mark)⟩
  | _ => none

/-- All composed characters except Hangul syllables. -/
def composites : List Composite :=
  (packedWords compositeText).filterMap fun w => Composite.ofPacked? (pieces ':' w)

/-- A packed range given by its ends. -/
def packedRange? (s : List Char) : Option (Nat × Nat) :=
  match pieces ',' s with
  | [first, last] => some (packedNumber first, packedNumber last)
  | _ => none

/-- The combining classes with the ranges of their marks. -/
def combiningClasses : List (Nat × Ranges) :=
  (packedWords combiningClassText).filterMap fun w =>
    match pieces ':' w with
    | [] => none
    | k :: ranges => some (packedNumber k, ranges.filterMap packedRange?)

/-- The class by which a mark is ordered; zero for everything that is not ordered. -/
def combiningClass (c : Char) : Nat :=
  if c.toNat < 0x300 then 0
  else ((combiningClasses.find? fun k => k.2.contains c).map Prod.fst).getD 0

/-! ## Hangul -/

/-- The first syllable. -/
def hangulFirst : Nat := 0xac00

/-- The count of syllables. -/
def hangulCount : Nat := 11172

/-- The parts of a syllable: a leading consonant, a vowel and perhaps a trailing consonant. -/
def hangulParts? (c : Char) : Option (List Char) :=
  if hangulFirst ≤ c.toNat ∧ c.toNat < hangulFirst + hangulCount then
    let n := c.toNat - hangulFirst
    let pair := [Char.ofNat (0x1100 + n / 588), Char.ofNat (0x1161 + n % 588 / 28)]
    some (if n % 28 = 0 then pair else pair ++ [Char.ofNat (0x11a7 + n % 28)])
  else
    none

/-- The syllable that two parts make. -/
def hangulJoin? (a b : Char) : Option Char :=
  if 0x1100 ≤ a.toNat ∧ a.toNat < 0x1113 ∧ 0x1161 ≤ b.toNat ∧ b.toNat < 0x1176 then
    some (Char.ofNat (hangulFirst + (a.toNat - 0x1100) * 588 + (b.toNat - 0x1161) * 28))
  else if hangulFirst ≤ a.toNat ∧ a.toNat < hangulFirst + hangulCount ∧
      (a.toNat - hangulFirst) % 28 = 0 ∧ 0x11a7 < b.toNat ∧ b.toNat < 0x11c3 then
    some (Char.ofNat (a.toNat + (b.toNat - 0x11a7)))
  else
    none

/-! ## Taking apart and composing -/

/-- A character taken apart; the parts of a base are taken apart in their turn. -/
def decomposed : Nat → Char → List Char
  | 0, c => [c]
  | depth + 1, c =>
    if c.toNat < 0x80 then [c]
    else
      match hangulParts? c with
      | some parts => parts
      | none =>
        match composites.find? fun p => p.whole = c with
        | some p => decomposed depth p.base ++ [p.mark]
        | none => [c]

/-- No character carries more marks in one composite than this. -/
def compositeDepth : Nat := 4

/-- Put a character before ordered ones, behind the marks of a lower class. -/
def insertMark (c : Char) : List Char → List Char
  | [] => [c]
  | d :: rest =>
    if 0 < combiningClass d ∧ combiningClass d < combiningClass c then d :: insertMark c rest
    else c :: d :: rest

/-- The marks after each base, ordered by their classes. -/
def orderMarks (s : List Char) : List Char :=
  s.foldr insertMark []

/-- The character that a base and a mark make. -/
def join? (base mark : Char) : Option Char :=
  match hangulJoin? base mark with
  | some c => some c
  | none => (composites.find? fun p => p.base = base ∧ p.mark = mark).map Composite.whole

/-- Compose the rest of a text after a base and the marks that were not joined with it, the last of
them first. -/
def composeFrom (base : Char) (marks : List Char) : List Char → List Char
  | [] => base :: marks.reverse
  | c :: rest =>
    let isBlocked := marks.head?.any fun m => combiningClass c ≤ combiningClass m
    match if isBlocked then none else join? base c with
    | some whole => composeFrom whole marks rest
    | none =>
      if combiningClass c = 0 then base :: (marks.reverse ++ composeFrom c [] rest)
      else composeFrom base (c :: marks) rest

/-- The canonical composition of a text. -/
def compose (s : List Char) : List Char :=
  if s.all fun c => c.toNat < 0x300 then s
  else
    match orderMarks (s.flatMap (decomposed compositeDepth)) with
    | [] => []
    | c :: rest => composeFrom c [] rest

end Text
end ProxyConfig
