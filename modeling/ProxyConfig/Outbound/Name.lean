/-!
# Names of the built-in outbounds

Both documents refer to outbounds by name.  Two sinks are always there, and three groups have
fixed names; a node, filter or rule group may use none of them.
-/

namespace ProxyConfig
namespace Outbound

/-- The top-level selector. -/
def proxy : String := "Proxy"

/-- The group that tests every node. -/
def auto : String := "Auto"

/-- The selector for traffic that no rule matches. -/
def final : String := "Final"

/-- The sink that connects without a proxy. -/
def direct : String := "DIRECT"

/-- The sink that refuses the connection. -/
def reject : String := "REJECT"

/-- The names that are taken in every document. -/
def fixedNames : List String :=
  [proxy, auto, final, direct, reject]

/-- One of the two sinks. -/
def isSink (name : String) : Bool :=
  name == direct || name == reject

theorem isSink_iff {name : String} : isSink name = true ↔ name = direct ∨ name = reject := by
  simp [isSink]

end Outbound
end ProxyConfig
