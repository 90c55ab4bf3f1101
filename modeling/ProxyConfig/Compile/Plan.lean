import ProxyConfig.Files.RawPath
import ProxyConfig.Outbound.Group
import ProxyConfig.Routing.Record
import ProxyConfig.Text.Ascii
import ProxyConfig.Text.Blank

/-!
# The plan of a compilation

Groups and routing records are derived once and then rendered in either format.  A plan exists
only when some node can be encoded.
-/

namespace ProxyConfig

/-- A document format. -/
inductive Format where
  | singBox
  | clash
deriving Repr, DecidableEq, Inhabited

/-- The name of a format. -/
def Format.name : Format → String
  | .singBox => "sing-box"
  | .clash => "clash"

/-- Why a compilation fails. -/
inductive CompileError where
  | noNodes
  | unsupportedFormat (word : String)
deriving Repr, DecidableEq, Inhabited

/-- The text of a compilation error. -/
def CompileError.message : CompileError → String
  | .noNodes => "No nodes available for compilation"
  | .unsupportedFormat word => "Unsupported export format: " ++ word

/-- The format of a word, white space around it and the case of its letters aside. -/
def Format.parse (text : String) : Except CompileError Format :=
  let word := Text.asciiLower (Text.trim text)
  if word ∈ ["singbox", "sing-box", "json"] then .ok .singBox
  else if word ∈ ["clash", "mihomo", "yaml"] then .ok .clash
  else .error (.unsupportedFormat word)

/-- What the caller of a compilation chooses. -/
structure CompileOptions where
  mobile : Bool := false
  /-- The directory of synchronized rule-sets, which the document may then refer to. -/
  localRuleSets : Option Files.RawPath := none
deriving Repr, DecidableEq, Inhabited

/-- What both documents are rendered from. -/
structure Plan where
  settings : Settings
  nodes : List Node
  groups : List Group
  records : List RouteRecord
  mobile : Bool
  localRuleSets : Option Files.RawPath
deriving Repr, DecidableEq, Inhabited

/-- The nodes of a model that appear in the documents. -/
def Model.encodable (model : Model) : List Node :=
  model.nodes.filter Node.isEncodable

/-- The plan for a model. -/
def Plan.prepare (model : Model) (options : CompileOptions) : Except CompileError Plan :=
  let nodes := model.encodable
  if nodes.isEmpty then .error .noNodes
  else
    .ok
      { settings := model.settings
        nodes := nodes
        groups := Group.build nodes model.filters model.ruleGroups model.settings
        records := Routing.records model.rules model.ruleGroups
        mobile := options.mobile || model.settings.mobileMode
        localRuleSets := options.localRuleSets }

end ProxyConfig
