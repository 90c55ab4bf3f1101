import ProxyConfig.Node.Basic
import ProxyConfig.Node.EarlyData

/-!
# Nodes in the sing-box document

A node becomes one outbound.  The TLS block of a VMess or VLESS node is written only when TLS is
on; the other protocols that know TLS always have it.
-/

namespace ProxyConfig
namespace SingBox

/-- The TLS block of an outbound. -/
structure TlsBlock where
  enabled : Bool
  serverName : Option String
  insecure : Option Bool
  alpn : List String
  fingerprint : Option String
  reality : Option Reality
deriving Repr, DecidableEq, Inhabited

/-- The block with the server name and the check of the certificate only. -/
def TlsBlock.basic (tls : Option Tls) : TlsBlock where
  enabled := true
  serverName := tls.bind Tls.serverName
  insecure := tls.bind Tls.insecure
  alpn := []
  fingerprint := none
  reality := none

/-- The transport block of an outbound. -/
structure TransportBlock where
  kind : String
  path : Option String
  headers : List (String × String)
  maxEarlyData : Option Nat
  earlyDataHeader : Option String
  serviceName : Option String
deriving Repr, DecidableEq, Inhabited

/-- The block of a transport. -/
def TransportBlock.ofTransport (transport : Transport) : TransportBlock :=
  match transport with
  | .webSocket path headers =>
    let p := path.map WebSocketPath.normalize
    { kind := transport.network
      path := p.map WebSocketPath.path
      headers := headers
      maxEarlyData := p.bind WebSocketPath.maxEarlyData
      earlyDataHeader := p.bind WebSocketPath.header?
      serviceName := none }
  | .grpc serviceName => ⟨transport.network, none, [], none, none, serviceName⟩
  | .other _ => ⟨transport.network, none, [], none, none, none⟩

/-- What an outbound has beyond its address. -/
inductive ProxyBody where
  | shadowsocks (method password : Option String)
  | vmess (uuid : Option String) (security : String) (alterId : Nat) (tls : Option TlsBlock)
      (transport : Option TransportBlock)
  | vless (uuid flow : Option String) (tls : Option TlsBlock)
      (transport : Option TransportBlock)
  | trojan (password : Option String) (tls : TlsBlock) (transport : Option TransportBlock)
  | hysteria2 (password : Option String) (obfuscation : Option Obfuscation) (tls : TlsBlock)
  | tuic (uuid password congestionControl : Option String) (tls : TlsBlock)
deriving Repr, DecidableEq, Inhabited

/-- A node as an outbound. -/
structure Proxy where
  tag : String
  server : String
  serverPort : Nat
  body : ProxyBody
deriving Repr, DecidableEq, Inhabited

/-- The body for the options of a protocol. -/
def ProxyBody.ofProtocol : Protocol → ProxyBody
  | .shadowsocks o => .shadowsocks o.method o.password
  | .vmess o =>
    .vmess o.uuid "auto" o.alterId
      ((o.tls.filter Tls.enabled).map fun tls => TlsBlock.basic (some tls))
      (o.transport.map TransportBlock.ofTransport)
  | .vless o =>
    .vless o.uuid o.flow
      ((o.tls.filter Tls.enabled).map fun tls =>
        { TlsBlock.basic (some tls) with fingerprint := tls.fingerprint, reality := tls.reality })
      (o.transport.map TransportBlock.ofTransport)
  | .trojan o =>
    .trojan o.password (TlsBlock.basic o.tls) (o.transport.map TransportBlock.ofTransport)
  | .hysteria2 o => .hysteria2 o.password o.obfuscation (TlsBlock.basic o.tls)
  | .tuic o =>
    .tuic o.uuid o.password o.congestionControl
      { TlsBlock.basic o.tls with alpn := (o.tls.map Tls.alpn).getD [] }

/-- The outbound of a node; nodes of unknown type have none. -/
def encode (node : Node) : Option Proxy :=
  node.protocol.map fun p => ⟨node.tag, node.server, node.serverPort, .ofProtocol p⟩

/-- The outbounds of nodes, in the order of the nodes. -/
def encodeAll (nodes : List Node) : List Proxy :=
  nodes.filterMap encode

/-! ## As JSON -/

/-- A Reality block, which is written only when it is on. -/
def realityJson (r : Reality) : Json :=
  .object (("enabled", .bool true) ::
    (Json.optionalString "public_key" r.publicKey ++ Json.optionalString "short_id" r.shortId))

/-- A TLS block. -/
def TlsBlock.toJson (t : TlsBlock) : Json :=
  .object (("enabled", .bool t.enabled) ::
    (Json.optionalString "server_name" t.serverName ++
      Json.optional "insecure" (t.insecure.map Json.bool) ++
      Json.nonEmptyStrings "alpn" t.alpn ++
      Json.optional "utls" (t.fingerprint.map fun f =>
        .object [("enabled", .bool true), ("fingerprint", .string f)]) ++
      Json.optional "reality" (t.reality.map realityJson)))

/-- Header fields, left out when there are none. -/
def headerFields (name : String) (headers : List (String × String)) : List (String × Json) :=
  if headers.isEmpty then []
  else [(name, .object (headers.map fun h => (h.1, .string h.2)))]

/-- A transport block. -/
def TransportBlock.toJson (t : TransportBlock) : Json :=
  .object (("type", .string t.kind) ::
    (Json.optionalString "path" t.path ++ headerFields "headers" t.headers ++
      Json.optional "max_early_data" (t.maxEarlyData.map Json.ofNat) ++
      Json.optionalString "early_data_header_name" t.earlyDataHeader ++
      Json.optionalString "service_name" t.serviceName))

/-- The name of the protocol of an outbound. -/
def ProxyBody.kind : ProxyBody → String
  | .shadowsocks .. => "shadowsocks"
  | .vmess .. => "vmess"
  | .vless .. => "vless"
  | .trojan .. => "trojan"
  | .hysteria2 .. => "hysteria2"
  | .tuic .. => "tuic"

/-- The fields of an outbound beyond its address. -/
def ProxyBody.fields : ProxyBody → List (String × Json)
  | .shadowsocks method password =>
    Json.optionalString "method" method ++ Json.optionalString "password" password
  | .vmess uuid security alterId tls transport =>
    Json.optionalString "uuid" uuid ++
      [("security", .string security), ("alter_id", .ofNat alterId)] ++
      Json.optional "tls" (tls.map TlsBlock.toJson) ++
      Json.optional "transport" (transport.map TransportBlock.toJson)
  | .vless uuid flow tls transport =>
    Json.optionalString "uuid" uuid ++ Json.optionalString "flow" flow ++
      Json.optional "tls" (tls.map TlsBlock.toJson) ++
      Json.optional "transport" (transport.map TransportBlock.toJson)
  | .trojan password tls transport =>
    Json.optionalString "password" password ++ [("tls", tls.toJson)] ++
      Json.optional "transport" (transport.map TransportBlock.toJson)
  | .hysteria2 password obfuscation tls =>
    Json.optionalString "password" password ++
      Json.optional "obfs" (obfuscation.map fun o =>
        .object (Json.optionalString "type" o.kind ++ Json.optionalString "password" o.password)) ++
      [("tls", tls.toJson)]
  | .tuic uuid password congestionControl tls =>
    Json.optionalString "uuid" uuid ++ Json.optionalString "password" password ++
      Json.optionalString "congestion_control" congestionControl ++ [("tls", tls.toJson)]

/-- An outbound. -/
def Proxy.toJson (p : Proxy) : Json :=
  .object ([("type", .string p.body.kind), ("tag", .string p.tag), ("server", .string p.server),
    ("server_port", .ofNat p.serverPort)] ++ p.body.fields)

end SingBox
end ProxyConfig
