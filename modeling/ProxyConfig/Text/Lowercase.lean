import ProxyConfig.Text.CaseTable

/-!
# Lower case of a text

Every letter has its own lower case, with two exceptions of Unicode: the capital I with a dot
becomes two characters, and the capital sigma depends on its place.  It is written as a final
sigma when a cased letter precedes it in its word and none follows, where characters that do not
end a word are passed over.
-/

namespace ProxyConfig
namespace Text

/-- The letter of a run's character, if the character belongs to the run. -/
def CaseRun.lower? (run : CaseRun) (c : Char) : Option Char :=
  if run.first ≤ c.toNat ∧ c.toNat ≤ run.last ∧ (c.toNat - run.first) % run.stride = 0 then
    some (Char.ofNat (Int.toNat (c.toNat + run.shift)))
  else
    none

/-- The lower case of a single character, its neighbours aside. -/
def lowerChar (c : Char) : List Char :=
  if c.toNat = 0x130 then ['i', Char.ofNat 0x307]
  else [(lowercaseRuns.findSome? fun run => run.lower? c).getD c]

/-- The first character that is not passed over has a case. -/
def meetsCased (s : List Char) : Bool :=
  match s.dropWhile caseIgnorableRanges.contains with
  | c :: _ => casedRanges.contains c
  | [] => false

/-- The capital sigma. -/
def capitalSigma : Char := 'Σ'

/-- The sigma inside a word. -/
def innerSigma : Char := 'σ'

/-- The sigma at the end of a word. -/
def finalSigma : Char := 'ς'

/-- Lower case of the rest of a text; `before` holds what precedes it, last character first. -/
def lowerFrom (before : List Char) : List Char → List Char
  | [] => []
  | c :: rest =>
    (if c = capitalSigma then
      [if meetsCased before && !meetsCased rest then finalSigma else innerSigma]
    else lowerChar c) ++ lowerFrom (c :: before) rest

/-- Lower case of a text. -/
def lowerChars (s : List Char) : List Char :=
  lowerFrom [] s

/-- The characters of one text stand together in another. -/
def hasInfix {α : Type} [DecidableEq α] (whole part : List α) : Bool :=
  match whole with
  | [] => part.isEmpty
  | c :: rest => part.isPrefixOf (c :: rest) || hasInfix rest part

theorem hasInfix_iff {α : Type} [DecidableEq α] {whole part : List α} :
    hasInfix whole part = true ↔ part <:+: whole := by
  induction whole with
  | nil => simp [hasInfix]
  | cons c rest ih => simp [hasInfix, ih, List.infix_cons_iff]

end Text
end ProxyConfig
