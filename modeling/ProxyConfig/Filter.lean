import ProxyConfig.Node.Basic
import ProxyConfig.Text.Lowercase

/-!
# Filters

A filter selects nodes by country and by keywords in their tag.  A condition that is not given
holds, so an empty filter matches every node.
-/

namespace ProxyConfig

/-- How the group of a filter chooses among its members. -/
inductive FilterMode where
  | select
  | urlTest
deriving Repr, DecidableEq, Inhabited

/-- The mode of a text: two spellings of the automatic test, and manual selection otherwise. -/
def FilterMode.ofText (text : String) : FilterMode :=
  let word := Text.asciiLower (Text.trim text)
  if word = "url-test" ∨ word = "urltest" then .urlTest else .select

/-- The name of a mode. -/
def FilterMode.name : FilterMode → String
  | .select => "select"
  | .urlTest => "url-test"

/-- Parameters of the automatic test. -/
structure UrlTest where
  url : String
  tolerance : Nat
deriving Repr, DecidableEq, Inhabited

/-- A named selection of nodes. -/
structure Filter where
  name : String
  enabled : Bool
  mode : FilterMode
  keywords : List String
  excludedKeywords : List String
  countries : List String
  excludedCountries : List String
  urlTest : Option UrlTest
deriving Repr, DecidableEq, Inhabited

namespace Filter

open Text

/-- The country of the node is listed, the case of letters aside. -/
def namesCountry (codes : List String) (node : Node) : Bool :=
  codes.any fun code => sameUpToCase code (node.country.getD "")

/-- A keyword occurs in the tag of the node, case aside. -/
def namesKeyword (keywords : List String) (node : Node) : Bool :=
  keywords.any fun keyword => hasInfix (lowerChars node.tag.toList) (lowerChars keyword.toList)

/-- The node meets every condition of the filter. -/
def accepts (filter : Filter) (node : Node) : Bool :=
  (filter.countries.isEmpty || namesCountry filter.countries node) &&
  !namesCountry filter.excludedCountries node &&
  (filter.keywords.isEmpty || namesKeyword filter.keywords node) &&
  !namesKeyword filter.excludedKeywords node

/-- The tags of the accepted nodes, in the order of the nodes. -/
def members (filter : Filter) (nodes : List Node) : List String :=
  (nodes.filter filter.accepts).map Node.tag

end Filter
end ProxyConfig
