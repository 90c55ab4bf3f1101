import ProxyConfig.Proofs.Node.EntryFrame

/-!
# Stored flags and the blocks of a VLESS node

The bag of a VLESS node keeps three flags beside the options that they are meant to switch: one of
its TLS block, one of the Reality handshake in it and one of the imitated client.  The first is read
into the options and decides in both encoders, the second decides when the options are read.  The
third is not read at all: an imitated client is written, and written as enabled, whenever TLS is on
and the client is named.

Main results:

- `SingBox.at?_vless`, `Clash.at?_vless_of_tlsNames`: where a written VLESS node speaks of TLS.
- `blocks_follow_flags`: which stored flags decide about the blocks of a VLESS node.
- `disabled_client_is_written`: a client whose flag is off appears in both documents.
-/

namespace ProxyConfig

/-! ## Places in a JSON value -/

namespace Json

variable {key name : String}

@[simp]
theorem find?_append (fields rest : List (String × Json)) :
    find? key (fields ++ rest) = (find? key fields).or (find? key rest) := by
  induction fields with
  | nil => rfl
  | cons f tail ih =>
    rw [List.cons_append, find?, find?, ih]
    split <;> rfl

@[simp]
theorem find?_optional (value : Option Json) :
    find? key (optional name value) = if name = key then value else none := by
  cases value with
  | none => exact (ite_self none).symm
  | some v => rfl

@[simp]
theorem find?_optionalString (value : Option String) :
    find? key (optionalString name value) = if name = key then value.map .string else none :=
  find?_optional _

theorem find?_nonEmptyStrings (items : List String) (h : name ≠ key) :
    find? key (nonEmptyStrings name items) = none := by
  unfold nonEmptyStrings
  split
  · rfl
  · exact if_neg h

end Json

namespace FieldBag

variable {bag : FieldBag} {key name : String} {path : List String}

/-- The flag in a place of a bag is set: it is there, and it is true. -/
def isOn (bag : FieldBag) (path : List String) : Bool :=
  match (Json.object bag).at? path with
  | some (.bool b) => b
  | _ => false

/-- The text in a place of a bag. -/
def textAt? (bag : FieldBag) (path : List String) : Option String :=
  ((Json.object bag).at? path).bind text?

theorem at?_entry : (Json.object bag).at? [key] = Json.find? key bag := by
  rw [Json.at?]
  cases Json.find? key bag <;> rfl

/-- A place in a block is found through the block. -/
theorem at?_block : (Json.object bag).at? (key :: name :: path) =
    (bag.bag? key).bind fun fields => (Json.object fields).at? (name :: path) := by
  rw [Json.at?, bag?]
  cases Json.find? key bag with
  | none => rfl
  | some v => cases v <;> rfl

theorem isOn_entry : bag.isOn [key] = (bag.bool? key).getD false := by
  rw [isOn, at?_entry, bool?]
  cases Json.find? key bag with
  | none => rfl
  | some v => cases v <;> rfl

theorem isOn_block : bag.isOn (key :: name :: path) =
    ((bag.bag? key).map fun fields => fields.isOn (name :: path)).getD false := by
  rw [isOn, at?_block]
  cases bag.bag? key <;> rfl

theorem textAt?_entry : bag.textAt? [key] = bag.string? key := by
  rw [textAt?, at?_entry, string?]
  cases Json.find? key bag with
  | none => rfl
  | some v => cases v <;> rfl

theorem textAt?_block : bag.textAt? (key :: name :: path) =
    (bag.bag? key).bind fun fields => fields.textAt? (name :: path) := by
  rw [textAt?, at?_block, Option.bind_assoc]
  rfl

/-! ## Flags and options -/

theorem isOn_tls : bag.isOn ["tls", "enabled"] = (bag.tls?.map Tls.enabled).getD false := by
  rw [isOn_block, tls?, Option.map_map]
  simp only [isOn_entry]
  rfl

/-- The options of TLS hold a Reality handshake exactly if its flag is set. -/
theorem isOn_reality :
    bag.isOn ["tls", "reality", "enabled"] = (bag.tls?.bind Tls.reality).isSome := by
  rw [isOn_block, tls?]
  cases bag.bag? "tls" with
  | none => rfl
  | some tls =>
    rw [Option.map_some, Option.getD_some, isOn_block, Option.map_some, Option.bind_some, Tls.ofBag]
    cases tls.bag? "reality" with
    | none => rfl
    | some reality =>
      rw [Option.map_some, Option.getD_some, isOn_entry, Option.bind_some, Reality.ofBag?]
      cases reality.bool? "enabled" with
      | none => rfl
      | some b => cases b <;> rfl

/-- The options of TLS name a client whatever its flag says. -/
theorem textAt?_fingerprint :
    bag.textAt? ["tls", "utls", "fingerprint"] = bag.tls?.bind Tls.fingerprint := by
  rw [textAt?_block, tls?, Option.bind_map]
  simp only [textAt?_block, textAt?_entry]
  rfl

theorem filter_enabled_tls? : bag.tls?.filter Tls.enabled =
    if bag.isOn ["tls", "enabled"] then bag.tls? else none := by
  rw [isOn_tls]
  cases bag.tls? <;> rfl

theorem isSome_filter_enabled_tls? :
    (bag.tls?.filter Tls.enabled).isSome = bag.isOn ["tls", "enabled"] := by
  rw [isOn_tls]
  cases bag.tls? with
  | none => rfl
  | some o => cases h : o.enabled <;> simp [Option.filter, h]

end FieldBag

/-! ## Written nodes -/

namespace SingBox

variable {tag server : String} {port : Nat} {uuid flow : Option String} {tls : Option TlsBlock}
  {transport : Option TransportBlock} {options : Option Tls}

/-- What a VLESS outbound says about TLS is in its TLS block. -/
theorem at?_vless (path : List String) :
    (Proxy.toJson ⟨tag, server, port, .vless uuid flow tls transport⟩).at? ("tls" :: path) =
      tls.bind fun block => block.toJson.at? path := by
  cases tls <;> simp [Proxy.toJson, ProxyBody.fields, Json.at?, Json.find?]

theorem TlsBlock.at?_utls (block : TlsBlock) :
    block.toJson.at? ["utls"] = block.fingerprint.map fun client =>
      .object [("enabled", .bool true), ("fingerprint", .string client)] := by
  simp [TlsBlock.toJson, FieldBag.at?_entry, Json.find?, Json.find?_nonEmptyStrings]

theorem TlsBlock.at?_reality (block : TlsBlock) :
    block.toJson.at? ["reality"] = block.reality.map realityJson := by
  simp [TlsBlock.toJson, FieldBag.at?_entry, Json.find?, Json.find?_nonEmptyStrings]

/-- The TLS block of a VLESS outbound. -/
def TlsBlock.full (tls : Tls) : TlsBlock :=
  { TlsBlock.basic (some tls) with fingerprint := tls.fingerprint, reality := tls.reality }

theorem at?_vless_client :
    (Proxy.toJson ⟨tag, server, port,
        .vless uuid flow (options.map TlsBlock.full) transport⟩).at? ["tls", "utls"] =
      (options.bind Tls.fingerprint).map fun client =>
        .object [("enabled", .bool true), ("fingerprint", .string client)] := by
  rw [at?_vless]
  cases options with
  | none => rfl
  | some o => exact TlsBlock.at?_utls _

theorem at?_vless_reality :
    (Proxy.toJson ⟨tag, server, port,
        .vless uuid flow (options.map TlsBlock.full) transport⟩).at? ["tls", "reality"] =
      (options.bind Tls.reality).map realityJson := by
  rw [at?_vless]
  cases options with
  | none => rfl
  | some o => exact TlsBlock.at?_reality _

end SingBox

namespace Clash

/-- The names of the fields of an entry that say something about TLS. -/
def tlsNames : List String :=
  ["tls", "servername", "skip-cert-verify", "reality-opts", "client-fingerprint"]

section

variable {name server : String} {port : Nat} {uuid flow client : Option String} {tls : TlsFields}
  {reality : Option Reality} {transport : TransportFields}

/-- Without TLS options, a VLESS entry says nothing about TLS. -/
theorem at?_vless_of_tlsNames {key : String} (hkey : key ∈ tlsNames) :
    (Proxy.toJson ⟨name, server, port, .vless uuid flow {} none none transport⟩).at? [key] =
      none := by
  simp only [tlsNames, List.mem_cons, List.not_mem_nil, or_false] at hkey
  rcases hkey with rfl | rfl | rfl | rfl | rfl <;>
    simp [Proxy.toJson, ProxyBody.fields, TlsFields.fields, TransportFields.fields, udp,
      FieldBag.at?_entry, Json.find?]

theorem at?_vless_reality :
    (Proxy.toJson ⟨name, server, port, .vless uuid flow tls reality client transport⟩).at?
        ["reality-opts"] =
      reality.map fun r => .object (Json.optionalString "public-key" r.publicKey ++
        Json.optionalString "short-id" r.shortId) := by
  simp [Proxy.toJson, ProxyBody.fields, TlsFields.fields, TransportFields.fields, udp,
    FieldBag.at?_entry, Json.find?]

theorem at?_vless_client :
    (Proxy.toJson ⟨name, server, port, .vless uuid flow tls reality client transport⟩).at?
        ["client-fingerprint"] = client.map .string := by
  simp [Proxy.toJson, ProxyBody.fields, TlsFields.fields, TransportFields.fields, udp,
    FieldBag.at?_entry, Json.find?]

end
end Clash

/-! ## Nodes as they are stored -/

open FieldBag

/-- The flag of the imitated client decides nothing. -/
theorem Tls.forget_clientFlag (o : Tls) : o.forget ["utls", "enabled"] = o := by
  obtain ⟨enabled, serverName, insecure, alpn, fingerprint, reality⟩ := o
  cases fingerprint <;> simp [Tls.forget, forgetOption, forgetBlock]

theorem Protocol.forget_clientFlag (o : Protocol) : o.forget ["tls", "utls", "enabled"] = o := by
  cases o <;> simp [Protocol.forget, forgetOption, forgetTls, forgetTransport, forgetBlock,
    Tls.forget_clientFlag]

theorem toNode_eq_of_clientFlag {record : NodeRecord} {bag : FieldBag}
    (h : SameBut ["tls", "utls", "enabled"] record.extra bag) :
    record.toNode = { record with extra := bag }.toNode := by
  have hforget : Protocol.forget ["tls", "utls", "enabled"] = id := by
    funext o
    exact Protocol.forget_clientFlag o
  have hoptions := Protocol.map_forget_ofBag? h record.kind
  rw [hforget, Option.map_id_fun, id, id] at hoptions
  simp only [NodeRecord.toNode, hoptions]

/-- The client that a VLESS node with the bag is written to imitate. -/
def FieldBag.client? (bag : FieldBag) : Option String :=
  if bag.isOn ["tls", "enabled"] then bag.textAt? ["tls", "utls", "fingerprint"] else none

/-- What the stored flags do to the stanzas of a VLESS node. -/
structure FollowFlags (bag : FieldBag) (s : SingBox.Proxy) (c : Clash.Proxy) : Prop where
  /-- The outbound has a TLS block, which holds all that it says about TLS, if TLS is on. -/
  block : (s.toJson.at? ["tls"]).isSome = bag.isOn ["tls", "enabled"]
  /-- The entry says nothing about TLS if TLS is off. -/
  entry : bag.isOn ["tls", "enabled"] = false →
    ∀ name ∈ Clash.tlsNames, c.toJson.at? [name] = none
  /-- There is a Reality block if both TLS and the handshake are on. -/
  reality :
    (s.toJson.at? ["tls", "reality"]).isSome =
      (bag.isOn ["tls", "enabled"] && bag.isOn ["tls", "reality", "enabled"]) ∧
    (c.toJson.at? ["reality-opts"]).isSome =
      (bag.isOn ["tls", "enabled"] && bag.isOn ["tls", "reality", "enabled"])
  /-- A client is written if it is named, whatever its own flag says. -/
  client :
    s.toJson.at? ["tls", "utls"] = (bag.client?.map fun client =>
      .object [("enabled", .bool true), ("fingerprint", .string client)]) ∧
    c.toJson.at? ["client-fingerprint"] = bag.client?.map .string

theorem bind_fingerprint_filter_enabled (bag : FieldBag) :
    (bag.tls?.filter Tls.enabled).bind Tls.fingerprint = bag.client? := by
  rw [filter_enabled_tls?, client?, textAt?_fingerprint]
  split <;> rfl

theorem isSome_bind_reality_filter_enabled (bag : FieldBag) :
    ((bag.tls?.filter Tls.enabled).bind Tls.reality).isSome =
      (bag.isOn ["tls", "enabled"] && bag.isOn ["tls", "reality", "enabled"]) := by
  rw [filter_enabled_tls?, isOn_reality]
  cases bag.isOn ["tls", "enabled"] <;> rfl

/-- Each VLESS node has a stanza in both documents.  Its TLS fields follow the flag of the TLS
block, its Reality block follows its own flag too, and its imitated client does not follow its own
flag: what is stored there, if anything, changes no stanza. -/
theorem blocks_follow_flags (record : NodeRecord) (hkind : record.kind = "vless") :
    ∃ s c, SingBox.encode record.toNode = some s ∧ Clash.encode record.toNode = some c ∧
      FollowFlags record.extra s c ∧
      ∀ bag, SameBut ["tls", "utls", "enabled"] record.extra bag →
        SingBox.encode { record with extra := bag }.toNode = some s ∧
        Clash.encode { record with extra := bag }.toNode = some c := by
  obtain ⟨tag, kind, server, port, country, extra⟩ := record
  obtain rfl : kind = "vless" := hkind
  refine ⟨_, _, rfl, rfl, ⟨?block, ?entry, ?reality, ?client⟩, ?same⟩
  case block =>
    refine (congrArg Option.isSome (SingBox.at?_vless [])).trans ?_
    rw [← isSome_filter_enabled_tls?]
    cases extra.tls?.filter Tls.enabled <;> rfl
  case entry =>
    intro hoff
    have hnone : extra.tls?.filter Tls.enabled = none := by
      rw [filter_enabled_tls?, hoff]
      rfl
    dsimp only [Clash.ProxyBody.ofProtocol]
    rw [hnone]
    exact fun name hname => Clash.at?_vless_of_tlsNames hname
  case reality =>
    have hboth := isSome_bind_reality_filter_enabled extra
    constructor
    · refine (congrArg Option.isSome SingBox.at?_vless_reality).trans ?_
      rw [Option.isSome_map, hboth]
    · refine (congrArg Option.isSome Clash.at?_vless_reality).trans ?_
      rw [Option.isSome_map, hboth]
  case client =>
    have hclient := bind_fingerprint_filter_enabled extra
    constructor
    · refine SingBox.at?_vless_client.trans ?_
      rw [hclient]
    · refine Clash.at?_vless_client.trans ?_
      rw [hclient]
  case same =>
    intro bag h
    rw [← toNode_eq_of_clientFlag h]
    exact ⟨rfl, rfl⟩

/-- A VLESS node with TLS on, and with a Reality handshake and a client that are marked as off. -/
def halfDisabled : NodeRecord where
  tag := "a"
  kind := "vless"
  server := "s.example"
  serverPort := 443
  country := none
  extra :=
    [("tls", .object
      [("enabled", .bool true),
        ("reality", .object [("enabled", .bool false), ("public_key", .string "k")]),
        ("utls", .object [("enabled", .bool false), ("fingerprint", .string "chrome")])])]

/-- The Reality handshake is left out of both stanzas. -/
theorem blocks_follow_flags_sample :
    halfDisabled.kind = "vless" ∧
    ∃ s c, SingBox.encode halfDisabled.toNode = some s ∧
      Clash.encode halfDisabled.toNode = some c ∧ (s.toJson.at? ["tls"]).isSome = true ∧
      (s.toJson.at? ["tls", "reality"]).isSome = false ∧
      (c.toJson.at? ["reality-opts"]).isSome = false := by
  obtain ⟨s, c, hs, hc, hflags, -⟩ := blocks_follow_flags halfDisabled rfl
  exact ⟨rfl, s, c, hs, hc, hflags.block, hflags.reality⟩

/-- The client is named in both, and even marked as on. -/
theorem disabled_client_is_written :
    halfDisabled.kind = "vless" ∧
    (Json.object halfDisabled.extra).at? ["tls", "utls", "enabled"] = some (.bool false) ∧
    ∃ s c, SingBox.encode halfDisabled.toNode = some s ∧
      Clash.encode halfDisabled.toNode = some c ∧
      s.toJson.at? ["tls", "utls"] =
        some (.object [("enabled", .bool true), ("fingerprint", .string "chrome")]) ∧
      c.toJson.at? ["client-fingerprint"] = some (.string "chrome") :=
  ⟨rfl, rfl, _, _, rfl, rfl, rfl, rfl⟩

end ProxyConfig
