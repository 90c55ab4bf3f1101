import ProxyConfig.Json.Value
import ProxyConfig.Node.Options
import ProxyConfig.Text.Numeral

/-!
# The field bag of a node

What a node stores beyond its address is a bag of named JSON values.  Every look-up asks for one
shape, and a value of another shape counts as absent; the options of a protocol are read by such
look-ups only, so reading never fails on a known protocol.
-/

namespace ProxyConfig

/-- Named JSON values of any shape. -/
abbrev FieldBag := List (String × Json)

namespace FieldBag

/-- A text. -/
def string? (bag : FieldBag) (key : String) : Option String :=
  match Json.find? key bag with
  | some (.string s) => some s
  | _ => none

/-- A truth value. -/
def bool? (bag : FieldBag) (key : String) : Option Bool :=
  match Json.find? key bag with
  | some (.bool b) => some b
  | _ => none

/-- A nested bag. -/
def bag? (bag : FieldBag) (key : String) : Option FieldBag :=
  match Json.find? key bag with
  | some (.object fields) => some fields
  | _ => none

end FieldBag

/-- The natural number that a JSON number is, written with a point or without. -/
def Number.toNat? : Number → Option Nat
  | .int n => if 0 ≤ n then some n.toNat else none
  | .float x => x.toNat?

namespace FieldBag

/-- A natural number of at most 32 bits, written with a point or without. -/
def u32? (bag : FieldBag) (key : String) : Option Nat :=
  match Json.find? key bag with
  | some (.number n) => n.toNat?.filter (· ≤ Text.maxU32)
  | _ => none

/-- The text of a string value. -/
def text? : Json → Option String
  | .string s => some s
  | _ => none

/-- The texts of a list; items of another shape are left out. -/
def strings (bag : FieldBag) (key : String) : List String :=
  match Json.find? key bag with
  | some (.array items) => items.filterMap text?
  | _ => []

/-- The entries whose value is a text. -/
def stringEntries (bag : FieldBag) : List (String × String) :=
  bag.filterMap fun f => (text? f.2).map fun s => (f.1, s)

end FieldBag

/-! ## Blocks of options -/

/-- The Reality block, which counts only when it is marked as enabled. -/
def Reality.ofBag? (bag : FieldBag) : Option Reality :=
  if bag.bool? "enabled" = some true then
    some { publicKey := bag.string? "public_key", shortId := bag.string? "short_id" }
  else none

/-- The TLS block. -/
def Tls.ofBag (bag : FieldBag) : Tls where
  enabled := (bag.bool? "enabled").getD false
  serverName := bag.string? "server_name"
  insecure := bag.bool? "insecure"
  alpn := bag.strings "alpn"
  fingerprint := (bag.bag? "utls").bind fun utls => utls.string? "fingerprint"
  reality := (bag.bag? "reality").bind Reality.ofBag?

/-- The transport block, which counts only when it names its type. -/
def Transport.ofBag? (bag : FieldBag) : Option Transport :=
  (bag.string? "type").map fun kind =>
    if kind = "ws" then
      .webSocket (bag.string? "path") (((bag.bag? "headers").map FieldBag.stringEntries).getD [])
    else if kind = "grpc" then .grpc (bag.string? "service_name")
    else .other kind

/-- The obfuscation block. -/
def Obfuscation.ofBag (bag : FieldBag) : Obfuscation where
  kind := bag.string? "type"
  password := bag.string? "password"

/-- The TLS block of a node's bag. -/
def FieldBag.tls? (bag : FieldBag) : Option Tls :=
  (bag.bag? "tls").map Tls.ofBag

/-- The transport block of a node's bag. -/
def FieldBag.transport? (bag : FieldBag) : Option Transport :=
  (bag.bag? "transport").bind Transport.ofBag?

/-- The names of the protocols that can be encoded. -/
def Protocol.names : List String :=
  ["shadowsocks", "vmess", "vless", "trojan", "hysteria2", "tuic"]

/-- The options of a protocol, read from a field bag; nothing for an unknown protocol. -/
def Protocol.ofBag? (kind : String) (bag : FieldBag) : Option Protocol :=
  match kind with
  | "shadowsocks" =>
    some (.shadowsocks { method := bag.string? "method", password := bag.string? "password" })
  | "vmess" =>
    some (.vmess
      { uuid := bag.string? "uuid"
        alterId := (bag.u32? "alter_id").getD 0
        tls := bag.tls?
        transport := bag.transport? })
  | "vless" =>
    some (.vless
      { uuid := bag.string? "uuid"
        flow := (bag.string? "flow").filter (· ≠ "")
        tls := bag.tls?
        transport := bag.transport? })
  | "trojan" =>
    some (.trojan
      { password := bag.string? "password", tls := bag.tls?, transport := bag.transport? })
  | "hysteria2" =>
    some (.hysteria2
      { password := bag.string? "password"
        tls := bag.tls?
        obfuscation := (bag.bag? "obfs").map Obfuscation.ofBag })
  | "tuic" =>
    some (.tuic
      { uuid := bag.string? "uuid"
        password := bag.string? "password"
        congestionControl := bag.string? "congestion_control"
        tls := bag.tls? })
  | _ => none

end ProxyConfig
