import ProxyConfig.Text.Cut
import ProxyConfig.Text.Ranges

/-!
# Packed tables

Large tables of characters are kept as text: hexadecimal numbers, separated by spaces and line
breaks.  Ranges are packed as the gap before each range and the count of further characters in it.
-/

namespace ProxyConfig
namespace Text

/-- The value of a digit from 0 to f. -/
def packedDigit (c : Char) : Nat :=
  if c.toNat < 'a'.toNat then c.toNat - '0'.toNat else c.toNat - 'a'.toNat + 10

/-- The value of a packed number. -/
def packedNumber (s : List Char) : Nat :=
  s.foldl (fun n c => 16 * n + packedDigit c) 0

/-- The words of a packed table. -/
def packedWords (s : String) : List (List Char) :=
  (pieces ' ' (s.toList.map fun c => if c = '\n' then ' ' else c)).filter (· ≠ [])

/-- Ranges after a position, given as gaps and counts. -/
def Ranges.ofGaps (position : Nat) : List Nat → Ranges
  | gap :: more :: rest =>
    (position + gap, position + gap + more) :: Ranges.ofGaps (position + gap + more + 1) rest
  | _ => []

/-- The ranges of a packed table. -/
def Ranges.ofPacked (s : String) : Ranges :=
  Ranges.ofGaps 0 ((packedWords s).map packedNumber)

end Text
end ProxyConfig
