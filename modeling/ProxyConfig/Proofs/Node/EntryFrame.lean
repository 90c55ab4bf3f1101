import ProxyConfig.Proofs.Node.Cleaning
import ProxyConfig.Proofs.Node.CommonView

/-!
# What one entry of a field bag decides

An entry of a bag, or of a block in it, decides one option or one block of options.  Whatever is
stored in its place, of whatever shape, and also if it is missing, all other options stay the same.

Two bags that are the same but for one entry are compared by forgetting what the entry decides: the
options that are left must be equal.  An entry that marks its block as present decides the whole
block: the type of a transport, and the flag of a Reality handshake.

Main results:

- `Protocol.map_forget_ofBag?`: the options that an entry does not decide.
- `wrong_shapes_count_as_absent`: entries of another shape are as good as missing ones.
-/

namespace ProxyConfig

namespace FieldBag

/-- Two bags are the same but for what they have in one place, which is given by the names that
lead to it. -/
inductive SameBut : List String → FieldBag → FieldBag → Prop
  /-- The entry itself may be there or not, with any value. -/
  | entry {key : String} {bag bag' : FieldBag}
      (hrest : bag.filter (·.1 ≠ key) = bag'.filter (·.1 ≠ key)) : SameBut [key] bag bag'
  /-- The place is in a block of both. -/
  | inside {key : String} {path : List String} {bag bag' fields fields' : FieldBag}
      (hrest : bag.filter (·.1 ≠ key) = bag'.filter (·.1 ≠ key))
      (hfields : bag.bag? key = some fields) (hfields' : bag'.bag? key = some fields')
      (h : SameBut path fields fields') : SameBut (key :: path) bag bag'

end FieldBag

/-! ## Forgetting what an entry decides -/

/-- What is left of an option that is read from the entry of a name: it is blanked if the place is
there. -/
def forgetOption {α : Type} (key : String) (path : List String) (blank option : α) : α :=
  if path.head? = some key then blank else option

/-- What is left of a block that is read from the entry of a name. -/
def forgetBlock {α : Type} (key : String) (path : List String)
    (forget : List String → α → Option α) (block : Option α) : Option α :=
  match path with
  | [] => block
  | name :: rest =>
    if name = key then
      if rest = [] then none else block.bind (forget rest)
    else block

/-- What is left of a Reality block. -/
def Reality.forget (path : List String) (o : Reality) : Option Reality :=
  forgetOption "enabled" path none (some
    { publicKey := forgetOption "public_key" path none o.publicKey
      shortId := forgetOption "short_id" path none o.shortId })

/-- What is left of a TLS block. -/
def Tls.forget (path : List String) (o : Tls) : Tls where
  enabled := forgetOption "enabled" path false o.enabled
  serverName := forgetOption "server_name" path none o.serverName
  insecure := forgetOption "insecure" path none o.insecure
  alpn := forgetOption "alpn" path [] o.alpn
  fingerprint := forgetBlock "utls" path
    (fun path fingerprint => forgetOption "fingerprint" path none (some fingerprint)) o.fingerprint
  reality := forgetBlock "reality" path Reality.forget o.reality

/-- What is left of the headers of a websocket. -/
def forgetHeaders (path : List String) (headers : List (String × String)) :
    List (String × String) :=
  match path with
  | ["headers"] => []
  | "headers" :: name :: _ => headers.filter (·.1 ≠ name)
  | _ => headers

/-- What is left of a transport beside its type. -/
def Transport.forgetFields (path : List String) : Transport → Transport
  | .webSocket p headers =>
    .webSocket (forgetOption "path" path none p) (forgetHeaders path headers)
  | .grpc serviceName => .grpc (forgetOption "service_name" path none serviceName)
  | .other network => .other network

/-- What is left of a transport. -/
def Transport.forget (path : List String) (o : Transport) : Option Transport :=
  forgetOption "type" path none (some (o.forgetFields path))

/-- What is left of an obfuscation. -/
def Obfuscation.forget (path : List String) (o : Obfuscation) : Obfuscation where
  kind := forgetOption "type" path none o.kind
  password := forgetOption "password" path none o.password

/-- What is left of the TLS options of a node. -/
def forgetTls (path : List String) (tls : Option Tls) : Option Tls :=
  forgetBlock "tls" path (fun path o => some (o.forget path)) tls

/-- What is left of the transport of a node. -/
def forgetTransport (path : List String) (transport : Option Transport) : Option Transport :=
  forgetBlock "transport" path Transport.forget transport

/-- What is left of the options of a protocol when everything that the entry in one place decides
is forgotten. -/
def Protocol.forget (path : List String) : Protocol → Protocol
  | .shadowsocks o =>
    .shadowsocks
      { method := forgetOption "method" path none o.method
        password := forgetOption "password" path none o.password }
  | .vmess o =>
    .vmess
      { uuid := forgetOption "uuid" path none o.uuid
        alterId := forgetOption "alter_id" path 0 o.alterId
        tls := forgetTls path o.tls
        transport := forgetTransport path o.transport }
  | .vless o =>
    .vless
      { uuid := forgetOption "uuid" path none o.uuid
        flow := forgetOption "flow" path none o.flow
        tls := forgetTls path o.tls
        transport := forgetTransport path o.transport }
  | .trojan o =>
    .trojan
      { password := forgetOption "password" path none o.password
        tls := forgetTls path o.tls
        transport := forgetTransport path o.transport }
  | .hysteria2 o =>
    .hysteria2
      { password := forgetOption "password" path none o.password
        tls := forgetTls path o.tls
        obfuscation :=
          forgetBlock "obfs" path (fun path o => some (o.forget path)) o.obfuscation }
  | .tuic o =>
    .tuic
      { uuid := forgetOption "uuid" path none o.uuid
        password := forgetOption "password" path none o.password
        congestionControl := forgetOption "congestion_control" path none o.congestionControl
        tls := forgetTls path o.tls }

/-! ## Bags that are the same but for one entry -/

namespace FieldBag

variable {path : List String} {bag bag' : FieldBag} {key name : String}

theorem find?_filter_ne (h : name ≠ key) (bag : FieldBag) :
    Json.find? key (bag.filter (·.1 ≠ name)) = Json.find? key bag := by
  induction bag with
  | nil => rfl
  | cons f rest ih =>
    by_cases hf : f.1 = name
    · have hkey : f.1 ≠ key := hf ▸ h
      rw [List.filter_cons_of_neg (by simpa using hf), ih, Json.find?, if_neg hkey]
    · rw [List.filter_cons_of_pos (by simpa using hf), Json.find?, Json.find?, ih]

theorem SameBut.find? (h : SameBut path bag bag') (hkey : path.head? ≠ some key) :
    Json.find? key bag = Json.find? key bag' := by
  cases h with
  | entry hrest | inside hrest =>
    have hne := fun heq => hkey (congrArg some heq)
    rw [← find?_filter_ne hne bag, hrest, find?_filter_ne hne]

theorem SameBut.string? (h : SameBut path bag bag') (hkey : path.head? ≠ some key) :
    bag.string? key = bag'.string? key := by
  rw [FieldBag.string?, h.find? hkey, FieldBag.string?]

theorem SameBut.bool? (h : SameBut path bag bag') (hkey : path.head? ≠ some key) :
    bag.bool? key = bag'.bool? key := by
  rw [FieldBag.bool?, h.find? hkey, FieldBag.bool?]

theorem SameBut.u32? (h : SameBut path bag bag') (hkey : path.head? ≠ some key) :
    bag.u32? key = bag'.u32? key := by
  rw [FieldBag.u32?, h.find? hkey, FieldBag.u32?]

theorem SameBut.strings (h : SameBut path bag bag') (hkey : path.head? ≠ some key) :
    bag.strings key = bag'.strings key := by
  rw [FieldBag.strings, h.find? hkey, FieldBag.strings]

theorem SameBut.bag? (h : SameBut path bag bag') (hkey : path.head? ≠ some key) :
    bag.bag? key = bag'.bag? key := by
  rw [FieldBag.bag?, h.find? hkey, FieldBag.bag?]

theorem SameBut.ne_nil (h : SameBut path bag bag') : path ≠ [] := by
  cases h <;> exact List.cons_ne_nil _ _

theorem stringEntries_filter_ne (name : String) (bag : FieldBag) :
    (stringEntries bag).filter (·.1 ≠ name) = stringEntries (bag.filter (·.1 ≠ name)) := by
  rw [stringEntries, List.filter_filterMap, stringEntries, List.filterMap_filter]
  congr 1
  funext f
  obtain ⟨n, v⟩ := f
  by_cases hn : n = name <;> cases v <;> simp [text?, hn]

end FieldBag

/-! ## Options that an entry does not decide -/

open FieldBag

section

variable {α : Type} {path : List String} {bag bag' : FieldBag} {key : String}

theorem forgetOption_congr {blank option option' : α}
    (h : path.head? ≠ some key → option = option') :
    forgetOption key path blank option = forgetOption key path blank option' := by
  unfold forgetOption
  split
  · rfl
  · rename_i hkey
    exact h hkey

theorem forgetOption_string? (h : SameBut path bag bag') (key : String) :
    forgetOption key path none (bag.string? key) =
      forgetOption key path none (bag'.string? key) :=
  forgetOption_congr h.string?

theorem forgetBlock_congr (h : SameBut path bag bag') {forget : List String → α → Option α}
    {read : FieldBag → Option α}
    (hread : ∀ {path : List String} {fields fields' : FieldBag}, SameBut path fields fields' →
      (read fields).bind (forget path) = (read fields').bind (forget path)) :
    forgetBlock key path forget ((bag.bag? key).bind read) =
      forgetBlock key path forget ((bag'.bag? key).bind read) := by
  by_cases hkey : path.head? = some key
  · cases h with
    | entry hrest =>
      obtain rfl := Option.some.inj hkey
      simp only [forgetBlock, if_true]
    | inside hrest hfields hfields' hinner =>
      obtain rfl := Option.some.inj hkey
      simp only [forgetBlock, if_true, if_neg hinner.ne_nil, hfields, hfields', Option.bind_some]
      exact hread hinner
  · rw [h.bag? hkey]

/-- A block that is forgotten with the entry of one name depends on the entry no further. -/
theorem bind_forgetOption_congr {β : Type} {rest : α → β} {block block' : Option α}
    (h : path.head? ≠ some key → block.map rest = block'.map rest) :
    (block.bind fun o => forgetOption key path none (some (rest o))) =
      block'.bind fun o => forgetOption key path none (some (rest o)) := by
  by_cases hkey : path.head? = some key
  · simp only [forgetOption, if_pos hkey, Option.bind_fun_none]
  · simp only [forgetOption, if_neg hkey]
    rw [← Function.comp_def some rest, ← Option.map_eq_bind, ← Option.map_eq_bind, h hkey]

theorem Reality.bind_forget_ofBag? (h : SameBut path bag bag') :
    (Reality.ofBag? bag).bind (Reality.forget path) =
      (Reality.ofBag? bag').bind (Reality.forget path) := by
  refine bind_forgetOption_congr fun hflag => ?_
  unfold Reality.ofBag?
  rw [h.bool? hflag]
  split
  · rw [Option.map_some, forgetOption_string? h "public_key", forgetOption_string? h "short_id",
      Option.map_some]
  · rfl

theorem Tls.forget_ofBag (h : SameBut path bag bag') :
    (Tls.ofBag bag).forget path = (Tls.ofBag bag').forget path := by
  simp only [Tls.forget, Tls.ofBag, Tls.mk.injEq]
  refine ⟨?enabled, ?serverName, ?insecure, ?alpn, ?fingerprint, ?reality⟩
  case enabled => exact forgetOption_congr fun hkey => by rw [h.bool? hkey]
  case serverName => exact forgetOption_string? h "server_name"
  case insecure => exact forgetOption_congr h.bool?
  case alpn => exact forgetOption_congr h.strings
  case fingerprint =>
    refine forgetBlock_congr h fun hinner => bind_forgetOption_congr fun hkey => ?_
    rw [hinner.string? hkey]
  case reality => exact forgetBlock_congr h Reality.bind_forget_ofBag?

theorem forgetHeaders_stringEntries (h : SameBut path bag bag') :
    forgetHeaders path (((bag.bag? "headers").map stringEntries).getD []) =
      forgetHeaders path (((bag'.bag? "headers").map stringEntries).getD []) := by
  by_cases hkey : path.head? = some "headers"
  · cases h with
    | entry hrest =>
      obtain rfl := Option.some.inj hkey
      rfl
    | inside hrest hfields hfields' hinner =>
      obtain rfl := Option.some.inj hkey
      simp only [hfields, hfields', Option.map_some, Option.getD_some]
      -- Both blocks have the same entries but for those of one name.
      cases hinner with
      | entry hrest | inside hrest =>
        simp only [forgetHeaders, stringEntries_filter_ne, hrest]
  · rw [h.bag? hkey]

theorem Transport.bind_forget_ofBag? (h : SameBut path bag bag') :
    (Transport.ofBag? bag).bind (Transport.forget path) =
      (Transport.ofBag? bag').bind (Transport.forget path) := by
  refine bind_forgetOption_congr fun hkind => ?_
  unfold Transport.ofBag?
  rw [h.string? hkind]
  cases bag'.string? "type" with
  | none => rfl
  | some kind =>
    simp only [Option.map_some]
    by_cases hws : kind = "ws"
    · simp only [if_pos hws, Transport.forgetFields]
      rw [forgetOption_string? h "path", forgetHeaders_stringEntries h]
    · by_cases hgrpc : kind = "grpc"
      · simp only [if_neg hws, if_pos hgrpc, Transport.forgetFields]
        rw [forgetOption_string? h "service_name"]
      · simp only [if_neg hws, if_neg hgrpc]

theorem Obfuscation.forget_ofBag (h : SameBut path bag bag') :
    (Obfuscation.ofBag bag).forget path = (Obfuscation.ofBag bag').forget path := by
  simp only [Obfuscation.forget, Obfuscation.ofBag]
  rw [forgetOption_string? h "type", forgetOption_string? h "password"]

theorem forgetTls_tls? (h : SameBut path bag bag') :
    forgetTls path bag.tls? = forgetTls path bag'.tls? := by
  simp only [forgetTls, tls?, Option.map_eq_bind]
  exact forgetBlock_congr h fun hinner => congrArg some (Tls.forget_ofBag hinner)

theorem forgetTransport_transport? (h : SameBut path bag bag') :
    forgetTransport path bag.transport? = forgetTransport path bag'.transport? :=
  forgetBlock_congr h Transport.bind_forget_ofBag?

theorem forgetBlock_obfuscation (h : SameBut path bag bag') :
    forgetBlock "obfs" path (fun path o => some (Obfuscation.forget path o))
        ((bag.bag? "obfs").map Obfuscation.ofBag) =
      forgetBlock "obfs" path (fun path o => some (Obfuscation.forget path o))
        ((bag'.bag? "obfs").map Obfuscation.ofBag) := by
  simp only [Option.map_eq_bind]
  exact forgetBlock_congr h fun hinner => congrArg some (Obfuscation.forget_ofBag hinner)

/-- Two bags that are the same but for one entry give the same options but for those that the entry
decides. -/
theorem Protocol.map_forget_ofBag? (h : SameBut path bag bag') (kind : String) :
    (Protocol.ofBag? kind bag).map (Protocol.forget path) =
      (Protocol.ofBag? kind bag').map (Protocol.forget path) := by
  have htext := forgetOption_string? h
  unfold Protocol.ofBag?
  split
  · simp only [Option.map_some, Protocol.forget, htext]
  · have hcount : forgetOption "alter_id" path 0 ((bag.u32? "alter_id").getD 0) =
        forgetOption "alter_id" path 0 ((bag'.u32? "alter_id").getD 0) :=
      forgetOption_congr fun hkey => by rw [h.u32? hkey]
    simp only [Option.map_some, Protocol.forget, htext, hcount, forgetTls_tls? h,
      forgetTransport_transport? h]
  · have hflow : forgetOption "flow" path none ((bag.string? "flow").filter (· ≠ "")) =
        forgetOption "flow" path none ((bag'.string? "flow").filter (· ≠ "")) :=
      forgetOption_congr fun hkey => by rw [h.string? hkey]
    simp only [Option.map_some, Protocol.forget, htext, hflow, forgetTls_tls? h,
      forgetTransport_transport? h]
  · simp only [Option.map_some, Protocol.forget, htext, forgetTls_tls? h,
      forgetTransport_transport? h]
  · simp only [Option.map_some, Protocol.forget, htext, forgetTls_tls? h,
      forgetBlock_obfuscation h]
  · simp only [Option.map_some, Protocol.forget, htext, forgetTls_tls? h]
  · rfl

end

/-- The options of a protocol are read exactly if the protocol is known. -/
theorem Protocol.ofBag?_eq_none_iff {kind : String} {bag : FieldBag} :
    Protocol.ofBag? kind bag = none ↔ kind ∉ Protocol.names := by
  rw [← isEncodable_toNode_iff ⟨"", kind, "", 0, none, bag⟩, Bool.not_eq_true]
  exact (Option.isSome_eq_false_iff.trans Option.isNone_iff_eq_none).symm

/-- The node of a record depends on what its protocol asks the bag for. -/
theorem toNode_eq_of_cleaned {record : NodeRecord} {bag : FieldBag}
    (hrecord : (Json.object record.extra).IsMap) (hbag : (Json.object bag).IsMap)
    (h : cleaned (Protocol.schema record.kind) record.extra =
      cleaned (Protocol.schema record.kind) bag) :
    record.toNode = { record with extra := bag }.toNode := by
  have hoptions : Protocol.ofBag? record.kind record.extra = Protocol.ofBag? record.kind bag := by
    rw [← Protocol.ofBag?_cleaned hrecord, h, Protocol.ofBag?_cleaned hbag]
  simp only [NodeRecord.toNode, hoptions]

/-- The bag of each node that is read is a map, and in a map the entries that a protocol does not
ask for and those of another shape count as absent.  Reading options fails for unknown protocols
only, an entry has no effect beyond the option or block that it decides, and a node is written from
what is left when such entries are taken out. -/
theorem wrong_shapes_count_as_absent :
    (∀ d record, NodeRecord.decoder d = .ok record → (Json.object record.extra).IsMap) ∧
    (∀ kind bag, (Json.object bag).IsMap →
      Protocol.ofBag? kind (cleaned (Protocol.schema kind) bag) = Protocol.ofBag? kind bag) ∧
    (∀ kind bag, Protocol.ofBag? kind bag = none ↔ kind ∉ Protocol.names) ∧
    (∀ kind path bag bag', SameBut path bag bag' →
      (Protocol.ofBag? kind bag).map (Protocol.forget path) =
        (Protocol.ofBag? kind bag').map (Protocol.forget path)) ∧
    ∀ (record : NodeRecord) (bag : FieldBag), (Json.object record.extra).IsMap →
      (Json.object bag).IsMap →
      cleaned (Protocol.schema record.kind) record.extra =
        cleaned (Protocol.schema record.kind) bag →
      SingBox.encode record.toNode = SingBox.encode { record with extra := bag }.toNode ∧
      Clash.encode record.toNode = Clash.encode { record with extra := bag }.toNode := by
  refine ⟨fun d record => isMap_extra_of_decoder, fun kind bag h => Protocol.ofBag?_cleaned h kind,
    fun kind bag => Protocol.ofBag?_eq_none_iff,
    fun kind path bag bag' h => Protocol.map_forget_ofBag? h kind,
    fun record bag hrecord hbag h => ?_⟩
  rw [toNode_eq_of_cleaned hrecord hbag h]
  exact ⟨rfl, rfl⟩

/-- The bag of a VLESS node, with a value for the server name and entries of the wrong shape at each
level. -/
def mixedBag (serverName : Json) : FieldBag :=
  [("flow", .string ""),
    ("tls", .object
      [("alpn", .array [.string "h2", .ofNat 3]), ("enabled", .string "yes"),
        ("reality", .object [("enabled", .bool false), ("public_key", .string "pk")]),
        ("server_name", serverName)]),
    ("uuid", .ofNat 12345)]

/-- What a VLESS node reads of it when the server name is no text. -/
def plainBag : FieldBag :=
  [("flow", .string ""),
    ("tls", .object
      [("alpn", .array [.string "h2"]),
        ("reality", .object [("enabled", .bool false), ("public_key", .string "pk")])])]

/-- A stored node whose bag has a name twice. -/
def storedTwice : Datum :=
  .table
    [(.text "tag", .text "a"), (.text "type", .text "vless"), (.text "server", .text "b"),
      (.text "server_port", .number (.int 443)),
      (.text "extra", .table
        [(.text "uuid", .number (.int 1)), (.text "flow", .text ""), (.text "uuid", .text "u")])]

/-- A bag that is read, one with entries of the wrong shape, and one whose server name is lost. -/
theorem wrong_shapes_count_as_absent_sample :
    NodeRecord.decoder storedTwice =
      .ok ⟨"a", "vless", "b", 443, none, [("flow", .string ""), ("uuid", .string "u")]⟩ ∧
    (Json.object [("flow", .string ""), ("uuid", .string "u")]).IsMap ∧
    (Json.object (mixedBag .null)).IsMap ∧ (Json.object plainBag).IsMap ∧
    cleaned (Protocol.schema "vless") (mixedBag .null) = plainBag ∧
    Protocol.ofBag? "vless" plainBag = Protocol.ofBag? "vless" (mixedBag .null) ∧
    Protocol.ofBag? "vless" plainBag ≠ none ∧
    SameBut ["tls", "server_name"] (mixedBag (.string "vl.example.com")) (mixedBag .null) ∧
    (Protocol.ofBag? "vless" (mixedBag (.string "vl.example.com"))).map
        (Protocol.forget ["tls", "server_name"]) =
      (Protocol.ofBag? "vless" (mixedBag .null)).map (Protocol.forget ["tls", "server_name"]) ∧
    Clash.encode (NodeRecord.toNode ⟨"a", "vless", "b", 443, none, mixedBag .null⟩) =
      Clash.encode (NodeRecord.toNode ⟨"a", "vless", "b", 443, none, plainBag⟩) := by
  obtain ⟨hread, hclean, hnone, hframe, hstanzas⟩ := wrong_shapes_count_as_absent
  have hstored : NodeRecord.decoder storedTwice =
      .ok ⟨"a", "vless", "b", 443, none, [("flow", .string ""), ("uuid", .string "u")]⟩ := rfl
  have hmixed : (Json.object (mixedBag .null)).IsMap := by simp [mixedBag, Json.ofNat]
  have hplain : (Json.object plainBag).IsMap := by simp [plainBag]
  have hcleaned : cleaned (Protocol.schema "vless") (mixedBag .null) = plainBag := rfl
  have hagain : cleaned (Protocol.schema "vless") plainBag = plainBag := rfl
  have hsame : SameBut ["tls", "server_name"] (mixedBag (.string "vl.example.com"))
      (mixedBag .null) := .inside rfl rfl rfl (.entry rfl)
  have hoptions := hclean "vless" _ hmixed
  rw [hcleaned] at hoptions
  have hknown : Protocol.ofBag? "vless" plainBag ≠ none := by
    rw [Ne, hnone]
    decide
  exact ⟨hstored, hread _ _ hstored, hmixed, hplain, hcleaned, hoptions, hknown, hsame,
    hframe _ _ _ _ hsame,
    (hstanzas ⟨"a", "vless", "b", 443, none, mixedBag .null⟩ plainBag hmixed hplain
      (hcleaned.trans hagain.symm)).2⟩

end ProxyConfig
