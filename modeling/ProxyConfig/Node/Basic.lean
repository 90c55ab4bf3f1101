import ProxyConfig.Country
import ProxyConfig.Node.FieldBag

/-!
# Nodes

A node is stored as a record with a free field bag, and compiled from typed options.  The bag is
read once, when the record is turned into a node.
-/

namespace ProxyConfig

/-- A node as it is stored. -/
structure NodeRecord where
  tag : String
  kind : String
  server : String
  serverPort : Nat
  country : Option String
  extra : FieldBag
deriving Repr, Inhabited

/-- A node as it is compiled.  The protocol is absent when its name is unknown. -/
structure Node where
  tag : String
  kind : String
  server : String
  serverPort : Nat
  /-- The canonical country code; never the empty text. -/
  country : Option String
  protocol : Option Protocol
deriving Repr, DecidableEq, Inhabited

/-- The node of a record. -/
def NodeRecord.toNode (record : NodeRecord) : Node where
  tag := record.tag
  kind := record.kind
  server := record.server
  serverPort := record.serverPort
  country := Country.code? record.country
  protocol := Protocol.ofBag? record.kind record.extra

/-- A node of a known protocol, which appears in the documents. -/
def Node.isEncodable (node : Node) : Bool :=
  node.protocol.isSome

/-- The country code under which a node is grouped. -/
def Node.countryCode (node : Node) : String :=
  node.country.getD Country.other

/-- The record as JSON, with the names under which it is stored. -/
def NodeRecord.toJson (record : NodeRecord) : Json :=
  .object
    [("tag", .string record.tag), ("type", .string record.kind),
     ("server", .string record.server), ("server_port", .ofNat record.serverPort),
     ("country", (record.country.map Json.string).getD .null), ("extra", .object record.extra)]

end ProxyConfig
