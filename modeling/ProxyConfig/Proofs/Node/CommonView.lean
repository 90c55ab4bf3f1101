import Mathlib.Data.List.Forall2
import ProxyConfig.Clash.Proxy
import ProxyConfig.SingBox.Proxy

/-!
# What both documents say about a node

The two documents lay out the entry of a node in different ways: one nests the TLS options in a
block and writes the block always or only when TLS is on, the other spreads them over the fields of
the entry.  What an entry means is the same in both.  This module reads each entry back into a view
without a format and compares the views with the one of the options themselves.

Main results:

- `SingBox.view_ofProtocol`, `Clash.view_ofProtocol`: no option is lost or changed in an entry.
- `SingBox.forall₂_encodeAll`, `Clash.forall₂_encodeAll`: the entries of a list of nodes are those of
  the nodes that can be encoded, in their order.
- `isEncodable_toNode_iff`: which records can be encoded.
-/

namespace ProxyConfig

/-! ## Views -/

/-- A transport, with the path and the early data of a websocket taken apart. -/
structure TransportView where
  kind : String
  path : Option String
  headers : List (String × String)
  maxEarlyData : Option Nat
  earlyDataHeader : Option String
  serviceName : Option String
deriving DecidableEq

/-- The TLS options of a protocol that may go without TLS. -/
structure TlsView where
  isOn : Bool
  serverName : Option String
  insecure : Option Bool
deriving DecidableEq

/-- The TLS options of a protocol that always has TLS. -/
structure SniView where
  sni : Option String
  insecure : Option Bool
deriving DecidableEq

/-- A protocol with everything that both documents can say about it. -/
inductive BodyView where
  | shadowsocks (method password : Option String)
  | vmess (uuid : Option String) (cipher : String) (alterId : Nat) (tls : TlsView)
      (transport : Option TransportView)
  | vless (uuid flow : Option String) (tls : TlsView) (reality : Option Reality)
      (fingerprint : Option String) (transport : Option TransportView)
  | trojan (password : Option String) (sni : SniView) (transport : Option TransportView)
  | hysteria2 (password : Option String) (sni : SniView)
      (obfuscationKind obfuscationPassword : Option String)
  | tuic (uuid password congestionControl : Option String) (sni : SniView) (alpn : List String)
deriving DecidableEq

/-- A node with everything that both documents can say about it. -/
structure ProxyView where
  name : String
  server : String
  port : Nat
  body : BodyView
deriving DecidableEq

/-! ## The view of the options -/

/-- What a transport stands for. -/
def TransportView.ofTransport : Transport → TransportView
  | .webSocket none headers => ⟨"ws", none, headers, none, none, none⟩
  | .webSocket (some raw) headers =>
    let p := WebSocketPath.normalize raw
    ⟨"ws", some p.path, headers, p.maxEarlyData, p.header?, none⟩
  | .grpc serviceName => ⟨"grpc", none, [], none, none, serviceName⟩
  | .other network => ⟨network, none, [], none, none, none⟩

/-- The TLS options count only when TLS is on. -/
def TlsView.ofTls (tls : Option Tls) : TlsView :=
  match tls.filter Tls.enabled with
  | some tls => ⟨true, tls.serverName, tls.insecure⟩
  | none => ⟨false, none, none⟩

/-- The TLS options count whether or not they say that TLS is on. -/
def SniView.ofTls (tls : Option Tls) : SniView :=
  ⟨tls.bind Tls.serverName, tls.bind Tls.insecure⟩

/-- What the options of a protocol stand for. -/
def BodyView.ofProtocol : Protocol → BodyView
  | .shadowsocks o => .shadowsocks o.method o.password
  | .vmess o =>
    .vmess o.uuid "auto" o.alterId (.ofTls o.tls) (o.transport.map .ofTransport)
  | .vless o =>
    let tls := o.tls.filter Tls.enabled
    .vless o.uuid o.flow (.ofTls o.tls) (tls.bind Tls.reality) (tls.bind Tls.fingerprint)
      (o.transport.map .ofTransport)
  | .trojan o => .trojan o.password (.ofTls o.tls) (o.transport.map .ofTransport)
  | .hysteria2 o =>
    .hysteria2 o.password (.ofTls o.tls) (o.obfuscation.bind Obfuscation.kind)
      (o.obfuscation.bind Obfuscation.password)
  | .tuic o =>
    .tuic o.uuid o.password o.congestionControl (.ofTls o.tls) ((o.tls.map Tls.alpn).getD [])

/-- What a node stands for; nodes of unknown type stand for nothing. -/
def Node.view? (node : Node) : Option ProxyView :=
  node.protocol.map fun p => ⟨node.tag, node.server, node.serverPort, .ofProtocol p⟩

/-! ## Entries of the sing-box document -/

namespace SingBox

/-- The view of a transport block. -/
def TransportBlock.view (t : TransportBlock) : TransportView :=
  ⟨t.kind, t.path, t.headers, t.maxEarlyData, t.earlyDataHeader, t.serviceName⟩

/-- The view of a TLS block that may be missing. -/
def tlsView : Option TlsBlock → TlsView
  | some t => ⟨t.enabled, t.serverName, t.insecure⟩
  | none => ⟨false, none, none⟩

/-- The view of a TLS block that is always there. -/
def TlsBlock.sniView (t : TlsBlock) : SniView :=
  ⟨t.serverName, t.insecure⟩

/-- The view of what an outbound has beyond its address. -/
def ProxyBody.view : ProxyBody → BodyView
  | .shadowsocks method password => .shadowsocks method password
  | .vmess uuid security alterId tls transport =>
    .vmess uuid security alterId (tlsView tls) (transport.map TransportBlock.view)
  | .vless uuid flow tls transport =>
    .vless uuid flow (tlsView tls) (tls.bind TlsBlock.reality) (tls.bind TlsBlock.fingerprint)
      (transport.map TransportBlock.view)
  | .trojan password tls transport =>
    .trojan password tls.sniView (transport.map TransportBlock.view)
  | .hysteria2 password obfuscation tls =>
    .hysteria2 password tls.sniView (obfuscation.bind Obfuscation.kind)
      (obfuscation.bind Obfuscation.password)
  | .tuic uuid password congestionControl tls =>
    .tuic uuid password congestionControl tls.sniView tls.alpn

/-- The view of an outbound. -/
def Proxy.view (p : Proxy) : ProxyView :=
  ⟨p.tag, p.server, p.serverPort, p.body.view⟩

/-- A block says what its transport stands for. -/
theorem view_ofTransport (transport : Transport) :
    (TransportBlock.ofTransport transport).view = TransportView.ofTransport transport := by
  cases transport with
  | webSocket path headers => cases path <;> rfl
  | grpc serviceName => rfl
  | other network => rfl

theorem map_view_ofTransport (transport : Option Transport) :
    (transport.map TransportBlock.ofTransport).map TransportBlock.view =
      transport.map TransportView.ofTransport := by
  rw [Option.map_map]
  congr 1
  funext t
  exact view_ofTransport t

/-- An outbound says what the options of its protocol stand for. -/
theorem view_ofProtocol (protocol : Protocol) :
    (ProxyBody.ofProtocol protocol).view = BodyView.ofProtocol protocol := by
  cases protocol with
  | shadowsocks o => rfl
  | vmess o =>
    have htls : tlsView ((o.tls.filter Tls.enabled).map fun tls => TlsBlock.basic (some tls)) =
        TlsView.ofTls o.tls := by
      unfold TlsView.ofTls
      cases o.tls.filter Tls.enabled <;> rfl
    simp only [ProxyBody.ofProtocol, ProxyBody.view, BodyView.ofProtocol, htls,
      map_view_ofTransport]
  | vless o =>
    -- The block of a VLESS node also holds the imitated client and the Reality handshake.
    simp only [ProxyBody.ofProtocol, ProxyBody.view, BodyView.ofProtocol, map_view_ofTransport]
    unfold TlsView.ofTls
    cases o.tls.filter Tls.enabled <;> rfl
  | trojan o =>
    simp only [ProxyBody.ofProtocol, ProxyBody.view, BodyView.ofProtocol, map_view_ofTransport]
    rfl
  | hysteria2 o => rfl
  | tuic o => rfl

/-- The outbound of a node says what the node stands for. -/
theorem map_view_encode (node : Node) : (encode node).map Proxy.view = node.view? := by
  unfold encode Node.view?
  cases node.protocol with
  | none => rfl
  | some p => simp only [Option.map_some, Proxy.view, view_ofProtocol]

@[simp]
theorem isSome_encode (node : Node) : (encode node).isSome = node.isEncodable := by
  simp [encode, Node.isEncodable]

end SingBox

/-! ## Entries of the Clash document -/

namespace Clash

/-- The view of the transport fields. -/
def TransportFields.view? (t : TransportFields) : Option TransportView :=
  t.network.map fun kind =>
    { kind := kind
      path := t.webSocket.bind WebSocketOptions.path
      headers := (t.webSocket.map WebSocketOptions.headers).getD []
      maxEarlyData := t.webSocket.bind WebSocketOptions.maxEarlyData
      earlyDataHeader := t.webSocket.bind WebSocketOptions.earlyDataHeader
      serviceName := t.grpc.join }

/-- The view of the TLS fields.  TLS is off when it is not mentioned. -/
def TlsFields.view (t : TlsFields) : TlsView :=
  ⟨t.tls.getD false, t.serverName, t.skipCertVerify⟩

/-- The view of the fields of entries that always use TLS. -/
def SniFields.view (t : SniFields) : SniView :=
  ⟨t.sni, t.skipCertVerify⟩

/-- The view of what an entry has beyond its address. -/
def ProxyBody.view : ProxyBody → BodyView
  | .shadowsocks cipher password => .shadowsocks cipher password
  | .vmess uuid alterId cipher tls transport =>
    .vmess uuid cipher alterId tls.view transport.view?
  | .vless uuid flow tls reality fingerprint transport =>
    .vless uuid flow tls.view reality fingerprint transport.view?
  | .trojan password sni transport => .trojan password sni.view transport.view?
  | .hysteria2 password sni obfs obfsPassword => .hysteria2 password sni.view obfs obfsPassword
  | .tuic uuid password congestionController sni alpn =>
    .tuic uuid password congestionController sni.view alpn

/-- The view of an entry. -/
def Proxy.view (p : Proxy) : ProxyView :=
  ⟨p.name, p.server, p.port, p.body.view⟩

/-- The fields say what their transport stands for. -/
theorem view?_ofTransport (transport : Option Transport) :
    (TransportFields.ofTransport transport).view? = transport.map TransportView.ofTransport := by
  cases transport with
  | none => rfl
  | some t =>
    cases t with
    | webSocket path headers => cases path <;> rfl
    | grpc serviceName => rfl
    | other network => rfl

/-- The fields say what the TLS options stand for. -/
theorem view_ofTls (tls : Option Tls) : (TlsFields.ofTls tls).view = TlsView.ofTls tls := by
  unfold TlsFields.ofTls TlsView.ofTls
  cases tls.filter Tls.enabled <;> rfl

/-- Options that do not count may be left out before the fields are written. -/
theorem ofTls_filter (tls : Option Tls) :
    TlsFields.ofTls (tls.filter Tls.enabled) = TlsFields.ofTls tls := by
  unfold TlsFields.ofTls
  rw [Option.filter_filter]
  simp only [Bool.and_self]

/-- An entry says what the options of its protocol stand for. -/
theorem view_ofProtocol (protocol : Protocol) :
    (ProxyBody.ofProtocol protocol).view = BodyView.ofProtocol protocol := by
  cases protocol with
  | shadowsocks o => rfl
  | vmess o =>
    simp only [ProxyBody.ofProtocol, ProxyBody.view, BodyView.ofProtocol, view_ofTls,
      view?_ofTransport]
  | vless o =>
    simp only [ProxyBody.ofProtocol, ProxyBody.view, BodyView.ofProtocol, ofTls_filter, view_ofTls,
      view?_ofTransport]
  | trojan o =>
    simp only [ProxyBody.ofProtocol, ProxyBody.view, BodyView.ofProtocol, view?_ofTransport]
    rfl
  | hysteria2 o => rfl
  | tuic o => rfl

/-- The entry of a node says what the node stands for. -/
theorem map_view_encode (node : Node) : (encode node).map Proxy.view = node.view? := by
  unfold encode Node.view?
  cases node.protocol with
  | none => rfl
  | some p => simp only [Option.map_some, Proxy.view, view_ofProtocol]

@[simp]
theorem isSome_encode (node : Node) : (encode node).isSome = node.isEncodable := by
  simp [encode, Node.isEncodable]

end Clash

/-! ## Lists of nodes -/

/-- A partial encoder goes through a list and keeps the elements that have a code, in order. -/
theorem forall₂_filterMap {α β : Type} {encode : α → Option β} {keeps : α → Bool}
    (hkeeps : ∀ x, (encode x).isSome = keeps x) (l : List α) :
    List.Forall₂ (fun x y => encode x = some y) (l.filter keeps) (l.filterMap encode) := by
  induction l with
  | nil => exact .nil
  | cons x rest ih =>
    cases hx : encode x with
    | none =>
      have hout : keeps x = false := by rw [← hkeeps, hx, Option.isSome_none]
      rw [List.filter_cons_of_neg (by simp [hout]), List.filterMap_cons_none hx]
      exact ih
    | some y =>
      have hin : keeps x = true := by rw [← hkeeps, hx, Option.isSome_some]
      rw [List.filter_cons_of_pos hin, List.filterMap_cons_some hx]
      exact .cons hx ih

/-- The outbounds are those of the nodes that can be encoded, in order. -/
theorem SingBox.forall₂_encodeAll (nodes : List Node) :
    List.Forall₂ (fun n s => SingBox.encode n = some s) (nodes.filter Node.isEncodable)
      (SingBox.encodeAll nodes) :=
  forall₂_filterMap SingBox.isSome_encode nodes

/-- The entries are those of the nodes that can be encoded, in order. -/
theorem Clash.forall₂_encodeAll (nodes : List Node) :
    List.Forall₂ (fun n p => Clash.encode n = some p) (nodes.filter Node.isEncodable)
      (Clash.encodeAll nodes) :=
  forall₂_filterMap Clash.isSome_encode nodes

theorem SingBox.map_view_encodeAll (nodes : List Node) :
    (SingBox.encodeAll nodes).map SingBox.Proxy.view = nodes.filterMap Node.view? := by
  rw [SingBox.encodeAll, List.map_filterMap]
  congr 1
  funext n
  exact SingBox.map_view_encode n

theorem Clash.map_view_encodeAll (nodes : List Node) :
    (Clash.encodeAll nodes).map Clash.Proxy.view = nodes.filterMap Node.view? := by
  rw [Clash.encodeAll, List.map_filterMap]
  congr 1
  funext n
  exact Clash.map_view_encode n

/-- The names in the views are the tags of the nodes that can be encoded. -/
theorem map_name_filterMap_view? (nodes : List Node) :
    (nodes.filterMap Node.view?).map ProxyView.name =
      (nodes.filter Node.isEncodable).map Node.tag := by
  induction nodes with
  | nil => rfl
  | cons n rest ih => cases h : n.protocol <;> simp [Node.view?, Node.isEncodable, h, ← ih]

theorem SingBox.map_tag_encodeAll (nodes : List Node) :
    (SingBox.encodeAll nodes).map SingBox.Proxy.tag =
      (nodes.filter Node.isEncodable).map Node.tag := by
  rw [← map_name_filterMap_view?, ← SingBox.map_view_encodeAll, List.map_map]
  rfl

theorem Clash.map_name_encodeAll (nodes : List Node) :
    (Clash.encodeAll nodes).map Clash.Proxy.name =
      (nodes.filter Node.isEncodable).map Node.tag := by
  rw [← map_name_filterMap_view?, ← Clash.map_view_encodeAll, List.map_map]
  rfl

/-! ## Records -/

/-- The node of a record can be encoded exactly when the type of the record is a known one. -/
theorem isEncodable_toNode_iff (record : NodeRecord) :
    record.toNode.isEncodable = true ↔ record.kind ∈ Protocol.names := by
  unfold Node.isEncodable NodeRecord.toNode Protocol.ofBag? Protocol.names
  split <;> simp_all

end ProxyConfig
