/-!
# Case of the ASCII letters

Protocol words and country codes are compared without regard to the case of the twenty-six ASCII
letters; every other character stands for itself.
-/

namespace ProxyConfig
namespace Text

/-- Turn the letters a to z into A to Z. -/
def asciiUpper (s : String) : String :=
  String.ofList (s.toList.map Char.toUpper)

/-- Turn the letters A to Z into a to z. -/
def asciiLower (s : String) : String :=
  String.ofList (s.toList.map Char.toLower)

/-- Two texts agree up to the case of ASCII letters. -/
def sameUpToCase (a b : String) : Bool :=
  a.toList.map Char.toLower == b.toList.map Char.toLower

theorem sameUpToCase_iff {a b : String} :
    sameUpToCase a b = true ↔ a.toList.map Char.toLower = b.toList.map Char.toLower := by
  simp [sameUpToCase]

end Text
end ProxyConfig
