import ProxyConfig.Node.Basic
import ProxyConfig.Node.EarlyData

/-!
# Nodes in the Clash document

A node becomes one proxy entry.  The TLS fields of a VMess or VLESS entry are written only when
TLS is on; the other protocols carry the server name and the certificate check on their own.
-/

namespace ProxyConfig
namespace Clash

/-- TLS fields of VMess and VLESS entries; all of them are absent when TLS is off. -/
structure TlsFields where
  tls : Option Bool := none
  serverName : Option String := none
  skipCertVerify : Option Bool := none
deriving Repr, DecidableEq, Inhabited

/-- The fields for a TLS block. -/
def TlsFields.ofTls (tls : Option Tls) : TlsFields :=
  match tls.filter Tls.enabled with
  | some tls => ⟨some true, tls.serverName, tls.insecure⟩
  | none => {}

/-- TLS fields of the entries that always use TLS. -/
structure SniFields where
  sni : Option String
  skipCertVerify : Option Bool
deriving Repr, DecidableEq, Inhabited

/-- The fields for a TLS block. -/
def SniFields.ofTls (tls : Option Tls) : SniFields :=
  ⟨tls.bind Tls.serverName, tls.bind Tls.insecure⟩

/-- Options of a websocket. -/
structure WebSocketOptions where
  path : Option String
  headers : List (String × String)
  maxEarlyData : Option Nat
  earlyDataHeader : Option String
deriving Repr, DecidableEq, Inhabited

/-- Transport fields of an entry. -/
structure TransportFields where
  network : Option String := none
  webSocket : Option WebSocketOptions := none
  /-- The service name of a gRPC transport. -/
  grpc : Option (Option String) := none
deriving Repr, DecidableEq, Inhabited

/-- The fields for a transport. -/
def TransportFields.ofTransport : Option Transport → TransportFields
  | none => {}
  | some transport =>
    match transport with
    | .webSocket path headers =>
      let p := path.map WebSocketPath.normalize
      { network := some transport.network
        webSocket := some
          { path := p.map WebSocketPath.path
            headers := headers
            maxEarlyData := p.bind WebSocketPath.maxEarlyData
            earlyDataHeader := p.bind WebSocketPath.header? } }
    | .grpc serviceName => { network := some transport.network, grpc := some serviceName }
    | .other _ => { network := some transport.network }

/-- What an entry has beyond its address. -/
inductive ProxyBody where
  | shadowsocks (cipher password : Option String)
  | vmess (uuid : Option String) (alterId : Nat) (cipher : String) (tls : TlsFields)
      (transport : TransportFields)
  | vless (uuid flow : Option String) (tls : TlsFields) (reality : Option Reality)
      (fingerprint : Option String) (transport : TransportFields)
  | trojan (password : Option String) (sni : SniFields) (transport : TransportFields)
  | hysteria2 (password : Option String) (sni : SniFields) (obfs obfsPassword : Option String)
  | tuic (uuid password congestionController : Option String) (sni : SniFields)
      (alpn : List String)
deriving Repr, DecidableEq, Inhabited

/-- A node as a proxy entry. -/
structure Proxy where
  name : String
  server : String
  port : Nat
  body : ProxyBody
deriving Repr, DecidableEq, Inhabited

/-- The body for the options of a protocol. -/
def ProxyBody.ofProtocol : Protocol → ProxyBody
  | .shadowsocks o => .shadowsocks o.method o.password
  | .vmess o =>
    .vmess o.uuid o.alterId "auto" (.ofTls o.tls) (.ofTransport o.transport)
  | .vless o =>
    let tls := o.tls.filter Tls.enabled
    .vless o.uuid o.flow (.ofTls tls) (tls.bind Tls.reality) (tls.bind Tls.fingerprint)
      (.ofTransport o.transport)
  | .trojan o => .trojan o.password (.ofTls o.tls) (.ofTransport o.transport)
  | .hysteria2 o =>
    .hysteria2 o.password (.ofTls o.tls) (o.obfuscation.bind Obfuscation.kind)
      (o.obfuscation.bind Obfuscation.password)
  | .tuic o =>
    .tuic o.uuid o.password o.congestionControl (.ofTls o.tls) ((o.tls.map Tls.alpn).getD [])

/-- The entry of a node; nodes of unknown type have none. -/
def encode (node : Node) : Option Proxy :=
  node.protocol.map fun p => ⟨node.tag, node.server, node.serverPort, .ofProtocol p⟩

/-- The entries of nodes, in the order of the nodes. -/
def encodeAll (nodes : List Node) : List Proxy :=
  nodes.filterMap encode

/-! ## As a tree of named values -/

/-- TLS fields of VMess and VLESS entries. -/
def TlsFields.fields (t : TlsFields) : List (String × Json) :=
  Json.optional "tls" (t.tls.map Json.bool) ++ Json.optionalString "servername" t.serverName ++
    Json.optional "skip-cert-verify" (t.skipCertVerify.map Json.bool)

/-- TLS fields of the other entries. -/
def SniFields.fields (t : SniFields) : List (String × Json) :=
  Json.optionalString "sni" t.sni ++
    Json.optional "skip-cert-verify" (t.skipCertVerify.map Json.bool)

/-- Options of a websocket. -/
def WebSocketOptions.toJson (w : WebSocketOptions) : Json :=
  .object (Json.optionalString "path" w.path ++
    (if w.headers.isEmpty then []
      else [("headers", .object (w.headers.map fun h => (h.1, .string h.2)))]) ++
    Json.optional "max-early-data" (w.maxEarlyData.map Json.ofNat) ++
    Json.optionalString "early-data-header-name" w.earlyDataHeader)

/-- Transport fields. -/
def TransportFields.fields (t : TransportFields) : List (String × Json) :=
  Json.optionalString "network" t.network ++
    Json.optional "ws-opts" (t.webSocket.map WebSocketOptions.toJson) ++
    Json.optional "grpc-opts" (t.grpc.map fun serviceName =>
      .object (Json.optionalString "grpc-service-name" serviceName))

/-- The name of the protocol of an entry. -/
def ProxyBody.kind : ProxyBody → String
  | .shadowsocks .. => "ss"
  | .vmess .. => "vmess"
  | .vless .. => "vless"
  | .trojan .. => "trojan"
  | .hysteria2 .. => "hysteria2"
  | .tuic .. => "tuic"

/-- The field that allows datagrams. -/
def udp : List (String × Json) :=
  [("udp", .bool true)]

/-- The fields of an entry beyond its address. -/
def ProxyBody.fields : ProxyBody → List (String × Json)
  | .shadowsocks cipher password =>
    Json.optionalString "cipher" cipher ++ Json.optionalString "password" password ++ udp
  | .vmess uuid alterId cipher tls transport =>
    Json.optionalString "uuid" uuid ++ [("alterId", .ofNat alterId), ("cipher", .string cipher)] ++
      tls.fields ++ transport.fields ++ udp
  | .vless uuid flow tls reality fingerprint transport =>
    Json.optionalString "uuid" uuid ++ Json.optionalString "flow" flow ++ tls.fields ++
      Json.optional "reality-opts" (reality.map fun r =>
        .object (Json.optionalString "public-key" r.publicKey ++
          Json.optionalString "short-id" r.shortId)) ++
      Json.optionalString "client-fingerprint" fingerprint ++ transport.fields ++ udp
  | .trojan password sni transport =>
    Json.optionalString "password" password ++ sni.fields ++ transport.fields ++ udp
  | .hysteria2 password sni obfs obfsPassword =>
    Json.optionalString "password" password ++ sni.fields ++ Json.optionalString "obfs" obfs ++
      Json.optionalString "obfs-password" obfsPassword
  | .tuic uuid password congestionController sni alpn =>
    Json.optionalString "uuid" uuid ++ Json.optionalString "password" password ++
      Json.optionalString "congestion-controller" congestionController ++ sni.fields ++
      Json.nonEmptyStrings "alpn" alpn

/-- A proxy entry. -/
def Proxy.toJson (p : Proxy) : Json :=
  .object ([("type", .string p.body.kind), ("name", .string p.name), ("server", .string p.server),
    ("port", .ofNat p.port)] ++ p.body.fields)

end Clash
end ProxyConfig
