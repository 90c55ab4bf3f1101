import ProxyConfig.Text.Ascii
import ProxyConfig.Text.Blank

/-!
# Countries

Nodes are grouped by the country code they carry.  The name of a group is the flag of the code and
a display name.  Codes of two letters have a flag; all others are shown with a globe.
-/

namespace ProxyConfig
namespace Country

open Text

/-- The code that stands for nodes without a country. -/
def other : String := "OTHER"

/-- A code as it is compared: without white space around it and in upper case. -/
def canonical (code : String) : String :=
  asciiUpper (trim code)

/-- The code of a node, if its country text is not blank. -/
def code? (text : Option String) : Option String :=
  (text.map canonical).filter (· ≠ "")

/-- The sign for a code without a flag. -/
def globe : String := "🌐"

/-- The two letters of a code that has a flag. -/
def flagLetters? (code : String) : Option (Char × Char) :=
  match code.toList with
  | [a, b] => if a.isUpper && b.isUpper then some (a, b) else none
  | _ => none

/-- The regional indicator of a letter; two of them form a flag. -/
def indicator (letter : Char) : Char :=
  Char.ofNat (0x1f1e6 + (letter.toNat - 'A'.toNat))

/-- The flag of a code, or the globe. -/
def emoji (code : String) : String :=
  match flagLetters? (canonical code) with
  | some (a, b) => String.ofList [indicator a, indicator b]
  | none => globe

/-- The codes with a display name. -/
def displayNames : List (String × String) :=
  [("HK", "Hong Kong"), ("TW", "Taiwan"), ("MO", "Macau"), ("CN", "China"), ("JP", "Japan"),
   ("KR", "South Korea"), ("SG", "Singapore"), ("MY", "Malaysia"), ("TH", "Thailand"),
   ("VN", "Vietnam"), ("PH", "Philippines"), ("ID", "Indonesia"), ("IN", "India"),
   ("US", "United States"), ("CA", "Canada"), ("MX", "Mexico"), ("BR", "Brazil"),
   ("AR", "Argentina"), ("GB", "United Kingdom"), ("UK", "United Kingdom"), ("DE", "Germany"),
   ("FR", "France"), ("NL", "Netherlands"), ("IT", "Italy"), ("ES", "Spain"),
   ("CH", "Switzerland"), ("SE", "Sweden"), ("PL", "Poland"), ("RU", "Russia"),
   ("UA", "Ukraine"), ("TR", "Turkey"), ("AE", "United Arab Emirates"), ("IL", "Israel"),
   ("AU", "Australia"), ("NZ", "New Zealand"), ("ZA", "South Africa"), (other, "Other")]

/-- The display name of a code; a code without one is its own name. -/
def displayName (code : String) : String :=
  (displayNames.lookup (canonical code)).getD (canonical code)

/-- The name of the group of a country. -/
def groupName (code : String) : String :=
  emoji code ++ " " ++ displayName code

end Country
end ProxyConfig
