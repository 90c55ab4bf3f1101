import ProxyConfig.Host.DirectionTable
import ProxyConfig.Host.JoiningTable
import ProxyConfig.Host.MappingTable
import ProxyConfig.Host.Punycode
import ProxyConfig.Text.Composition

/-!
# Domain names

A domain name may be written in any script.  Its characters are first mapped: letters to lower case,
variants to the character they stand for, and invisible characters to nothing.  Then each label is
checked: an encoded label has to be the encoding of a mapped one, no label begins with a mark, the
invisible joiners stand only where they matter, and in a name with letters written from right to
left every label keeps to one direction.
-/

namespace ProxyConfig
namespace Host

open Text

/-! ## Mapping -/

/-- Evenly spaced characters with their replacements, which are evenly spaced as well. -/
structure MappingRun where
  first : Nat
  count : Nat
  stride : Nat
  step : Nat
  replacement : List Nat
deriving Repr, DecidableEq

namespace MappingRun

/-- The position after the run. -/
def next (run : MappingRun) : Nat :=
  run.first + run.stride * (run.count - 1) + 1

/-- A packed run after a position: the gap before it, and either the replacement of one character
or the count, the two distances and the first replacement. -/
def ofPacked? (position : Nat) (word : List Char) : Option MappingRun :=
  match pieces ':' word with
  | [gap, replacement] =>
    some ⟨position + packedNumber gap, 1, 1, 0, (pieces ',' replacement).map packedNumber⟩
  | [gap, count, stride, step, replacement] =>
    some ⟨position + packedNumber gap, packedNumber count, packedNumber stride, packedNumber step,
      [packedNumber replacement]⟩
  | _ => none

/-- Packed runs after a position. -/
def listOfPacked (position : Nat) : List (List Char) → List MappingRun
  | [] => []
  | word :: rest =>
    match ofPacked? position word with
    | some run => run :: listOfPacked run.next rest
    | none => []

/-- The replacement of a character of the run. -/
def replace? (run : MappingRun) (c : Char) : Option (List Char) :=
  let offset := c.toNat - run.first
  if run.first ≤ c.toNat ∧ c.toNat < run.next ∧ offset % run.stride = 0 then
    some (run.replacement.map fun n => Char.ofNat (n + run.step * (offset / run.stride)))
  else
    none

end MappingRun

/-- All characters that are replaced. -/
def mappingRuns : List MappingRun :=
  MappingRun.listOfPacked 0 (packedWords mappingText)

/-- What a character of a host name is mapped to, if it is permitted. -/
def mapChar? (c : Char) : Option (List Char) :=
  if validRanges.contains c then some [c]
  else if ignoredRanges.contains c then some []
  else mappingRuns.findSome? fun run => run.replace? c

/-- Map a whole name. -/
def mapChars? (s : List Char) : Option (List Char) :=
  (s.mapM mapChar?).map fun mapped => compose mapped.flatten

/-- Mapping leaves the text as it is. -/
def isMapped (s : List Char) : Bool :=
  s.all validRanges.contains && compose s == s

/-! ## Joiners -/

/-- The joiner that breaks a ligature. -/
def nonJoiner : Char := Char.ofNat 0x200c

/-- The joiner that makes one. -/
def joiner : Char := Char.ofNat 0x200d

/-- The class of the marks that suppress a vowel. -/
def viramaClass : Nat := 9

/-- Joiners stand where they matter; `before` is what precedes the rest, last character first. -/
def joinersFit (before : List Char) : List Char → Bool
  | [] => true
  | c :: rest =>
    let afterVirama := before.head?.any fun b => combiningClass b = viramaClass
    let skip := fun s : List Char => (s.dropWhile transparentRanges.contains).head?
    let betweenJoining :=
      (skip before).any joinsNextRanges.contains && (skip rest).any joinsPreviousRanges.contains
    let fits :=
      if c = joiner then afterVirama
      else if c = nonJoiner then afterVirama || betweenJoining
      else true
    fits && joinersFit (c :: before) rest

/-! ## Direction -/

/-- Letters written from right to left. -/
def isRightToLeft (c : Char) : Bool :=
  rightRanges.contains c || arabicLetterRanges.contains c

/-- Characters that make a name subject to the rules of direction. -/
def turnsDirection (c : Char) : Bool :=
  isRightToLeft c || arabicNumberRanges.contains c

/-- Characters that may stand in a label of either direction. -/
def isDirectionless (c : Char) : Bool :=
  [europeanNumberRanges, separatorRanges, commonSeparatorRanges, terminatorRanges, neutralRanges,
    boundaryRanges, attachedRanges].any fun r => r.contains c

/-- Letters written from left to right. -/
def isLeftToRight (c : Char) : Bool :=
  !(turnsDirection c || isDirectionless c || spaceRanges.contains c)

/-- A label keeps to one direction. -/
def keepsDirection (label : List Char) : Bool :=
  let last? := (label.reverse.dropWhile attachedRanges.contains).head?
  match label with
  | [] => true
  | c :: _ =>
    if isRightToLeft c then
      label.all (fun c => turnsDirection c || isDirectionless c) &&
        last?.any (fun c => turnsDirection c || europeanNumberRanges.contains c) &&
        !(label.any europeanNumberRanges.contains && label.any arabicNumberRanges.contains)
    else if isLeftToRight c then
      label.all (fun c => isLeftToRight c || isDirectionless c) &&
        last?.any fun c => isLeftToRight c || europeanNumberRanges.contains c
    else false

/-! ## Labels and names -/

/-- The characters beside the control characters that no host name holds. -/
def forbidden : List Char :=
  [' ', '%', '#', '/', ':', '<', '>', '?', '@', '[', '\\', ']', '^', '|', Char.ofNat 0x7f]

/-- A character that no host name holds. -/
def isForbidden (c : Char) : Bool :=
  c.toNat < 0x20 || forbidden.contains c

/-- The beginning of an encoded label. -/
def encodingMark : List Char := "xn--".toList

/-- The longest label that is encoded. -/
def longestPlain : Nat := 1000

/-- The longest text that is decoded. -/
def longestEncoded : Nat := 2000

/-- A text holds characters beyond ASCII. -/
def isInternational (s : List Char) : Bool :=
  s.any fun c => 0x80 ≤ c.toNat

/-- The label in Unicode for a mapped label. -/
def unicodeLabel? (label : List Char) : Option (List Char) :=
  if encodingMark.isPrefixOf label then
    let encoded := label.drop encodingMark.length
    if encoded.length ≤ longestEncoded then
      (Punycode.decode? encoded).filter fun s =>
        isInternational s && isMapped s && !encodingMark.isPrefixOf s
    else none
  else if isInternational label ∧ longestPlain < label.length then none
  else some label

/-- A label in Unicode is well formed. -/
def isLabel (label : List Char) : Bool :=
  !(label.head?.any markRanges.contains) && joinersFit [] label

/-- The labels of a domain name, in Unicode. -/
def domainLabels? (name : List Char) : Option (List (List Char)) := do
  let mapped ← mapChars? name
  if mapped.any isForbidden then none
  else
    let labels ← (pieces '.' mapped).mapM unicodeLabel?
    let oneDirection := !(labels.any fun l => l.any turnsDirection) || labels.all keepsDirection
    if labels.all isLabel && oneDirection then some labels else none

end Host
end ProxyConfig
