/-!
# Protocol options of a node

The options of a node are a closed set of protocols, each with the fields that it reads.  All of
them are optional, since a node is stored without any check of its fields.
-/

namespace ProxyConfig

/-- The public key and identifier of a Reality handshake. -/
structure Reality where
  publicKey : Option String
  shortId : Option String
deriving Repr, DecidableEq, Inhabited

/-- Options of the TLS layer. -/
structure Tls where
  enabled : Bool
  serverName : Option String
  /-- Skip the check of the certificate. -/
  insecure : Option Bool
  alpn : List String
  /-- The client whose handshake is imitated. -/
  fingerprint : Option String
  reality : Option Reality
deriving Repr, DecidableEq, Inhabited

/-- The layer that carries a proxy protocol. -/
inductive Transport where
  | webSocket (path : Option String) (headers : List (String × String))
  | grpc (serviceName : Option String)
  /-- A layer of which only the name is known. -/
  | other (network : String)
deriving Repr, DecidableEq, Inhabited

/-- The name of a transport. -/
def Transport.network : Transport → String
  | .webSocket .. => "ws"
  | .grpc _ => "grpc"
  | .other network => network

/-- Obfuscation of the traffic. -/
structure Obfuscation where
  kind : Option String
  password : Option String
deriving Repr, DecidableEq, Inhabited

/-- Options of a Shadowsocks node. -/
structure Shadowsocks where
  method : Option String
  password : Option String
deriving Repr, DecidableEq, Inhabited

/-- Options of a VMess node. -/
structure Vmess where
  uuid : Option String
  alterId : Nat
  tls : Option Tls
  transport : Option Transport
deriving Repr, DecidableEq, Inhabited

/-- Options of a VLESS node; an empty flow counts as no flow. -/
structure Vless where
  uuid : Option String
  flow : Option String
  tls : Option Tls
  transport : Option Transport
deriving Repr, DecidableEq, Inhabited

/-- Options of a Trojan node. -/
structure Trojan where
  password : Option String
  tls : Option Tls
  transport : Option Transport
deriving Repr, DecidableEq, Inhabited

/-- Options of a Hysteria2 node. -/
structure Hysteria2 where
  password : Option String
  tls : Option Tls
  obfuscation : Option Obfuscation
deriving Repr, DecidableEq, Inhabited

/-- Options of a TUIC node. -/
structure Tuic where
  uuid : Option String
  password : Option String
  congestionControl : Option String
  tls : Option Tls
deriving Repr, DecidableEq, Inhabited

/-- A known protocol with its options. -/
inductive Protocol where
  | shadowsocks (options : Shadowsocks)
  | vmess (options : Vmess)
  | vless (options : Vless)
  | trojan (options : Trojan)
  | hysteria2 (options : Hysteria2)
  | tuic (options : Tuic)
deriving Repr, DecidableEq, Inhabited

end ProxyConfig
