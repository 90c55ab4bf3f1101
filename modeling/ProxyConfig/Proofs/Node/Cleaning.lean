import Mathlib.Algebra.Order.Field.Power
import Mathlib.Data.Rat.Cast.Order
import Mathlib.Tactic.Linarith
import Mathlib.Tactic.Positivity
import ProxyConfig.Proofs.Node.StoredBag

/-!
# What a protocol reads of a field bag

A protocol asks for certain names in the bag of a node and in the blocks below it, and for a value
of one shape under each.  Everything else may be taken out of the bag: names that it does not ask
for, values of another shape, single items of a list and single entries of a block that are no
texts.  The options that are read are the same afterwards.

Taking an entry out must not bring another one of the same name to light, so a bag is a map here:
each name stands in it once, at every level.

Main results:

- `Number.toNat?_eq_some_iff`: which JSON numbers are natural numbers.
- `find?_cleaned`: looking up a name in a cleaned bag.
- `Protocol.ofBag?_cleaned`: the options of a protocol are those of the cleaned bag.
-/

namespace ProxyConfig

/-! ## Whole numbers -/

/-- The value of a number, if it is finite. -/
def Binary64.value? : Binary64 → Option ℚ
  | .finite negative mantissa exponent =>
    some ((if negative then -1 else 1) * (mantissa * 2 ^ exponent))
  | .infinite _ | .nan => none

/-- The value of a JSON number. -/
def Number.value? : Number → Option ℚ
  | .int n => some n
  | .float x => x.value?

theorem exactDiv_eq_some_iff {m d n : Nat} (hd : 0 < d) :
    (if m % d = 0 then some (m / d) else none) = some n ↔ m = n * d := by
  constructor
  · intro h
    split at h
    · rename_i hdvd
      rw [← Option.some.inj h, Nat.div_mul_cancel (Nat.dvd_of_mod_eq_zero hdvd)]
    · cases h
  · rintro rfl
    rw [if_pos (Nat.mul_mod_left n d), Nat.mul_div_cancel n hd]

theorem Binary64.toNat?_eq_some_iff {x : Binary64} {n : Nat} :
    x.toNat? = some n ↔ x.value? = some (n : ℚ) := by
  cases x with
  | infinite negative => simp [toNat?, value?]
  | nan => simp [toNat?, value?]
  | finite negative m e =>
    by_cases hneg : negative = true ∧ m ≠ 0
    · have hpos : (0 : ℚ) < m * 2 ^ e := by
        have := Nat.pos_of_ne_zero hneg.2
        positivity
      have hlt : (-1 : ℚ) * (m * 2 ^ e) < n :=
        (by linarith : (-1 : ℚ) * (m * 2 ^ e) < 0).trans_le n.cast_nonneg
      rw [toNat?, if_pos hneg, value?, if_pos hneg.1, Option.some_inj]
      exact iff_of_false (by simp) hlt.ne
    · have hvalue : value? (.finite negative m e) = some (m * 2 ^ e : ℚ) := by
        cases negative with
        | false => simp [value?]
        | true =>
          obtain rfl : m = 0 := by simpa using hneg
          simp [value?]
      rw [toNat?, if_neg hneg, hvalue, Option.some_inj]
      by_cases he : 0 ≤ e
      · obtain ⟨k, rfl⟩ := Int.eq_ofNat_of_zero_le he
        rw [if_pos he, Option.some_inj, Int.toNat_natCast, zpow_natCast]
        exact_mod_cast Iff.rfl
      · obtain ⟨k, rfl⟩ : ∃ k : Nat, e = -k := ⟨(-e).toNat, by omega⟩
        have hk : (2 : ℚ) ^ k ≠ 0 := by positivity
        rw [if_neg he, neg_neg, Int.toNat_natCast, Nat.pow_eq,
          exactDiv_eq_some_iff (Nat.two_pow_pos k), zpow_neg, zpow_natCast, ← div_eq_mul_inv,
          div_eq_iff hk]
        exact_mod_cast Iff.rfl

/-- A JSON number is read as the natural number that is its value. -/
theorem Number.toNat?_eq_some_iff {x : Number} {n : Nat} :
    x.toNat? = some n ↔ x.value? = some (n : ℚ) := by
  cases x with
  | float x => exact Binary64.toNat?_eq_some_iff
  | int i =>
    have hcast : ((i : ℚ) = n) ↔ i = n := by exact_mod_cast Iff.rfl
    rw [value?, Option.some_inj, hcast, toNat?]
    split
    · rw [Option.some_inj]
      omega
    · simp only [reduceCtorEq, false_iff]
      omega

/-- The number is whole and fits into 32 bits. -/
def Number.IsCount (x : Number) : Prop :=
  ∃ n ≤ Text.maxU32, x.value? = some (n : ℚ)

theorem Number.isCount_iff {x : Number} :
    x.IsCount ↔ (x.toNat?.filter (· ≤ Text.maxU32)).isSome := by
  rw [Option.isSome_iff_exists]
  simp only [IsCount, Option.filter_eq_some_iff, toNat?_eq_some_iff, decide_eq_true_iff, and_comm]

instance (x : Number) : Decidable x.IsCount :=
  decidable_of_iff _ Number.isCount_iff.symm

/-! ## Shapes -/

namespace FieldBag

/-- What is kept of a value where one of a certain shape is asked for; nothing of a value of another
shape. -/
abbrev Shape := Json → Option Json

namespace Shape

/-- A text. -/
def text : Shape
  | .string s => some (.string s)
  | _ => none

/-- A truth value. -/
def flag : Shape
  | .bool b => some (.bool b)
  | _ => none

/-- A natural number of 32 bits. -/
def count : Shape
  | .number n => if n.IsCount then some (.number n) else none
  | _ => none

/-- The value is a text. -/
def isText (value : Json) : Bool :=
  (text value).isSome

/-- A list, of which the texts are kept. -/
def texts : Shape
  | .array items => some (.array (items.filter isText))
  | _ => none

/-- A bag, of which the entries with a text are kept. -/
def textEntries : Shape
  | .object fields => some (.object (fields.filter fun f => isText f.2))
  | _ => none

end Shape

/-- The names that are asked for, each with the shape of its value. -/
abbrev Schema := List (String × Shape)

/-- What is kept of an entry: nothing, if its name is not asked for or its value has another
shape. -/
def kept? (schema : Schema) (f : String × Json) : Option (String × Json) :=
  ((schema.lookup f.1).bind fun shape => shape f.2).map fun v => (f.1, v)

/-- The bag with what is kept of its entries. -/
def cleaned (schema : Schema) (bag : FieldBag) : FieldBag :=
  bag.filterMap (kept? schema)

/-- A bag, which is cleaned. -/
def Shape.block (schema : Schema) : Shape
  | .object bag => some (.object (cleaned schema bag))
  | _ => none

end FieldBag

open FieldBag Shape

/-- What a Reality block is asked for. -/
def Reality.schema : Schema :=
  [("enabled", flag), ("public_key", text), ("short_id", text)]

/-- What a TLS block is asked for. -/
def Tls.schema : Schema :=
  [("enabled", flag), ("server_name", text), ("insecure", flag), ("alpn", texts),
    ("utls", block [("fingerprint", text)]), ("reality", block Reality.schema)]

/-- What a transport block is asked for. -/
def Transport.schema : Schema :=
  [("type", text), ("path", text), ("headers", textEntries), ("service_name", text)]

/-- What an obfuscation block is asked for. -/
def Obfuscation.schema : Schema :=
  [("type", text), ("password", text)]

/-- What the bag of a node is asked for; nothing when the protocol is not known. -/
def Protocol.schema (kind : String) : Schema :=
  match kind with
  | "shadowsocks" => [("method", text), ("password", text)]
  | "vmess" =>
    [("uuid", text), ("alter_id", count), ("tls", block Tls.schema),
      ("transport", block Transport.schema)]
  | "vless" =>
    [("uuid", text), ("flow", text), ("tls", block Tls.schema),
      ("transport", block Transport.schema)]
  | "trojan" =>
    [("password", text), ("tls", block Tls.schema), ("transport", block Transport.schema)]
  | "hysteria2" =>
    [("password", text), ("tls", block Tls.schema), ("obfs", block Obfuscation.schema)]
  | "tuic" =>
    [("uuid", text), ("password", text), ("congestion_control", text), ("tls", block Tls.schema)]
  | _ => []

/-! ## Reading a cleaned bag -/

namespace FieldBag

variable {schema inner : Schema} {bag : FieldBag} {key : String}

theorem find?_eq_none (h : key ∉ bag.map Prod.fst) : Json.find? key bag = none := by
  induction bag with
  | nil => rfl
  | cons f rest ih =>
    rw [List.map_cons, List.mem_cons, not_or] at h
    rw [Json.find?, if_neg (Ne.symm h.1), ih h.2]

theorem mem_of_find? {value : Json} (h : Json.find? key bag = some value) :
    (key, value) ∈ bag := by
  induction bag with
  | nil => cases h
  | cons f rest ih =>
    rw [Json.find?] at h
    split at h
    · rename_i hn
      cases h
      exact hn ▸ List.mem_cons_self
    · exact List.mem_cons_of_mem _ (ih h)

/-- A name is found in a cleaned bag with what is kept of its value. -/
theorem find?_cleaned (hnodup : (bag.map Prod.fst).Nodup) (key : String) :
    Json.find? key (cleaned schema bag) =
      (schema.lookup key).bind fun shape => (Json.find? key bag).bind shape := by
  induction bag with
  | nil => simp [cleaned, Json.find?]
  | cons f rest ih =>
    obtain ⟨n, v⟩ := f
    rw [List.map_cons, List.nodup_cons] at hnodup
    have hrest := ih hnodup.2
    cases hkept : (schema.lookup n).bind fun shape => shape v with
    | none =>
      have hcleaned : cleaned schema ((n, v) :: rest) = cleaned schema rest :=
        List.filterMap_cons_none (by rw [kept?, hkept, Option.map_none])
      rw [hcleaned, hrest, Json.find?]
      split
      · rename_i hn
        subst hn
        -- The name stands in the bag once, so nothing comes to light behind the dropped entry.
        simp only [find?_eq_none hnodup.1, Option.bind_none, Option.bind_fun_none,
          Option.bind_some, hkept]
      · rfl
    | some w =>
      have hcleaned : cleaned schema ((n, v) :: rest) = (n, w) :: cleaned schema rest :=
        List.filterMap_cons_some (by rw [kept?, hkept, Option.map_some])
      rw [hcleaned, Json.find?, Json.find?, hrest]
      split
      · rename_i hn
        subst hn
        exact hkept.symm
      · rfl

/-- A name that is asked for is found with what its shape keeps of its value. -/
theorem find?_cleaned_of_lookup {shape : Shape} (h : (bag.map Prod.fst).Nodup)
    (hkey : schema.lookup key = some shape) :
    Json.find? key (cleaned schema bag) = (Json.find? key bag).bind shape := by
  rw [find?_cleaned h, hkey, Option.bind_some]

theorem string?_cleaned (h : (bag.map Prod.fst).Nodup) (hkey : schema.lookup key = some text) :
    (cleaned schema bag).string? key = bag.string? key := by
  rw [string?, string?, find?_cleaned_of_lookup h hkey]
  cases Json.find? key bag with
  | none => rfl
  | some v => cases v <;> rfl

theorem bool?_cleaned (h : (bag.map Prod.fst).Nodup) (hkey : schema.lookup key = some flag) :
    (cleaned schema bag).bool? key = bag.bool? key := by
  rw [bool?, bool?, find?_cleaned_of_lookup h hkey]
  cases Json.find? key bag with
  | none => rfl
  | some v => cases v <;> rfl

theorem u32?_cleaned (h : (bag.map Prod.fst).Nodup) (hkey : schema.lookup key = some count) :
    (cleaned schema bag).u32? key = bag.u32? key := by
  rw [u32?, u32?, find?_cleaned_of_lookup h hkey]
  cases Json.find? key bag with
  | none => rfl
  | some v =>
    cases v with
    | number n =>
      by_cases hn : n.IsCount
      · simp only [Option.bind_some, count, if_pos hn]
      · have hnone : n.toNat?.filter (· ≤ Text.maxU32) = none := by
          rwa [Number.isCount_iff, Bool.not_eq_true, Option.isSome_eq_false_iff,
            Option.isNone_iff_eq_none] at hn
        simp only [Option.bind_some, count, if_neg hn, hnone]
    | _ => rfl

theorem strings_cleaned (h : (bag.map Prod.fst).Nodup) (hkey : schema.lookup key = some texts) :
    (cleaned schema bag).strings key = bag.strings key := by
  rw [strings, strings, find?_cleaned_of_lookup h hkey]
  cases Json.find? key bag with
  | none => rfl
  | some v =>
    cases v with
    | array items =>
      simp only [Option.bind_some, texts, List.filterMap_filter]
      congr 1
      funext item
      cases item <;> rfl
    | _ => rfl

theorem stringEntries_filter (bag : FieldBag) :
    stringEntries (bag.filter fun f => isText f.2) = stringEntries bag := by
  rw [stringEntries, List.filterMap_filter, stringEntries]
  congr 1
  funext f
  obtain ⟨name, value⟩ := f
  cases value <;> rfl

theorem headers_cleaned (h : (bag.map Prod.fst).Nodup)
    (hkey : schema.lookup key = some textEntries) :
    ((cleaned schema bag).bag? key).map stringEntries = (bag.bag? key).map stringEntries := by
  rw [bag?, bag?, find?_cleaned_of_lookup h hkey]
  cases Json.find? key bag with
  | none => rfl
  | some v =>
    cases v with
    | object fields => exact congrArg some (stringEntries_filter fields)
    | _ => rfl

theorem bag?_cleaned (h : (bag.map Prod.fst).Nodup)
    (hkey : schema.lookup key = some (block inner)) :
    (cleaned schema bag).bag? key = (bag.bag? key).map (cleaned inner) := by
  rw [bag?, bag?, find?_cleaned_of_lookup h hkey]
  cases Json.find? key bag with
  | none => rfl
  | some v => cases v <;> rfl

theorem isMap_of_bag? {fields : FieldBag} (h : (Json.object bag).IsMap)
    (hfields : bag.bag? key = some fields) : (Json.object fields).IsMap := by
  unfold bag? at hfields
  split at hfields
  · rename_i inner hfound
    cases hfields
    exact (Json.isMap_object.1 h).2 _ (mem_of_find? hfound)
  · cases hfields

/-- A block that reads the same from its cleaned bag reads the same below a cleaned bag. -/
theorem bind_bag?_cleaned {α : Type} {read : FieldBag → Option α} (h : (Json.object bag).IsMap)
    (hkey : schema.lookup key = some (block inner))
    (hread : ∀ {fields : FieldBag}, (Json.object fields).IsMap →
      read (cleaned inner fields) = read fields) :
    ((cleaned schema bag).bag? key).bind read = (bag.bag? key).bind read := by
  rw [bag?_cleaned h.nodup hkey]
  cases hfields : bag.bag? key with
  | none => rfl
  | some fields =>
    rw [Option.map_some, Option.bind_some, Option.bind_some]
    exact hread (isMap_of_bag? h hfields)

end FieldBag

/-! ## Options read from a cleaned bag -/

variable {bag : FieldBag}

theorem Reality.ofBag?_cleaned (h : (Json.object bag).IsMap) :
    Reality.ofBag? (cleaned Reality.schema bag) = Reality.ofBag? bag := by
  have hnodup := h.nodup
  rw [Reality.ofBag?, Reality.ofBag?, bool?_cleaned hnodup rfl, string?_cleaned hnodup rfl,
    string?_cleaned hnodup rfl]

theorem Tls.ofBag_cleaned (h : (Json.object bag).IsMap) :
    Tls.ofBag (cleaned Tls.schema bag) = Tls.ofBag bag := by
  have hnodup := h.nodup
  rw [Tls.ofBag, Tls.ofBag, bool?_cleaned hnodup rfl, string?_cleaned hnodup rfl,
    bool?_cleaned hnodup rfl, strings_cleaned hnodup rfl,
    bind_bag?_cleaned h rfl fun hutls => string?_cleaned hutls.nodup rfl,
    bind_bag?_cleaned h rfl Reality.ofBag?_cleaned]

theorem Transport.ofBag?_cleaned (h : (Json.object bag).IsMap) :
    Transport.ofBag? (cleaned Transport.schema bag) = Transport.ofBag? bag := by
  have hnodup := h.nodup
  rw [Transport.ofBag?, Transport.ofBag?, string?_cleaned hnodup rfl, string?_cleaned hnodup rfl,
    headers_cleaned hnodup rfl, string?_cleaned hnodup rfl]

theorem Obfuscation.ofBag_cleaned (h : (Json.object bag).IsMap) :
    Obfuscation.ofBag (cleaned Obfuscation.schema bag) = Obfuscation.ofBag bag := by
  have hnodup := h.nodup
  rw [Obfuscation.ofBag, Obfuscation.ofBag, string?_cleaned hnodup rfl, string?_cleaned hnodup rfl]

section Protocol

variable {schema : Schema} (h : (Json.object bag).IsMap)
include h

theorem FieldBag.tls?_cleaned (hkey : schema.lookup "tls" = some (block Tls.schema)) :
    (cleaned schema bag).tls? = bag.tls? := by
  simp only [tls?, Option.map_eq_bind]
  exact bind_bag?_cleaned h hkey fun hinner => congrArg some (Tls.ofBag_cleaned hinner)

theorem FieldBag.transport?_cleaned
    (hkey : schema.lookup "transport" = some (block Transport.schema)) :
    (cleaned schema bag).transport? = bag.transport? :=
  bind_bag?_cleaned h hkey Transport.ofBag?_cleaned

theorem FieldBag.obfuscation?_cleaned
    (hkey : schema.lookup "obfs" = some (block Obfuscation.schema)) :
    ((cleaned schema bag).bag? "obfs").map Obfuscation.ofBag =
      (bag.bag? "obfs").map Obfuscation.ofBag := by
  simp only [Option.map_eq_bind]
  exact bind_bag?_cleaned h hkey fun hinner => congrArg some (Obfuscation.ofBag_cleaned hinner)

/-- What a protocol does not ask for, or not in the shape that it has, might as well not be
there. -/
theorem Protocol.ofBag?_cleaned (kind : String) :
    Protocol.ofBag? kind (cleaned (Protocol.schema kind) bag) = Protocol.ofBag? kind bag := by
  have hnodup := h.nodup
  unfold Protocol.ofBag?
  split
  · rw [string?_cleaned hnodup rfl, string?_cleaned hnodup rfl]
  · rw [string?_cleaned hnodup rfl, u32?_cleaned hnodup rfl, tls?_cleaned h rfl,
      transport?_cleaned h rfl]
  · rw [string?_cleaned hnodup rfl, string?_cleaned hnodup rfl, tls?_cleaned h rfl,
      transport?_cleaned h rfl]
  · rw [string?_cleaned hnodup rfl, tls?_cleaned h rfl, transport?_cleaned h rfl]
  · rw [string?_cleaned hnodup rfl, tls?_cleaned h rfl, obfuscation?_cleaned h rfl]
  · rw [string?_cleaned hnodup rfl, string?_cleaned hnodup rfl, string?_cleaned hnodup rfl,
      tls?_cleaned h rfl]
  · rfl

end Protocol

end ProxyConfig
