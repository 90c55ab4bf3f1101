import ProxyConfig.Reading.Model

/-!
# The bags of stored nodes

The fields of a JSON value are a list, but an object that is read is a map: its fields are put in
the order of their names, and the last of equal names counts.  So each name stands in it once, and
the same holds of every object inside.

Main results:

- `Json.isMap_sortFields`: fields that are put in order.
- `isMap_extra_of_decoder`: the bag of every node that is read.
-/

namespace ProxyConfig

/-- Every object in a value has each of its names once. -/
inductive Json.IsMap : Json → Prop
  | null : IsMap .null
  | bool (b : Bool) : IsMap (.bool b)
  | number (n : Number) : IsMap (.number n)
  | string (s : String) : IsMap (.string s)
  | array {items : List Json} (h : ∀ item ∈ items, IsMap item) : IsMap (.array items)
  | object {fields : List (String × Json)} (hnodup : (fields.map Prod.fst).Nodup)
      (h : ∀ f ∈ fields, IsMap f.2) : IsMap (.object fields)

attribute [simp] Json.IsMap.null Json.IsMap.bool Json.IsMap.number Json.IsMap.string

@[simp]
theorem Json.isMap_array {items : List Json} :
    (Json.array items).IsMap ↔ ∀ item ∈ items, item.IsMap :=
  ⟨fun h => by cases h; assumption, .array⟩

@[simp]
theorem Json.isMap_object {fields : List (String × Json)} :
    (Json.object fields).IsMap ↔ (fields.map Prod.fst).Nodup ∧ ∀ f ∈ fields, f.2.IsMap :=
  ⟨fun h => by cases h with | object hnodup h => exact ⟨hnodup, h⟩, fun h => .object h.1 h.2⟩

theorem Json.IsMap.nodup {fields : List (String × Json)} (h : (Json.object fields).IsMap) :
    (fields.map Prod.fst).Nodup :=
  (isMap_object.1 h).1

/-! ## Fields in order -/

namespace Json

variable {name : String} {value : Json} {fields : List (String × Json)}

theorem eq_or_mem_of_mem_insertField {f : String × Json} (h : f ∈ insertField name value fields) :
    f = (name, value) ∨ f ∈ fields := by
  induction fields with
  | nil => exact Or.inl (List.mem_singleton.1 h)
  | cons g rest ih =>
    rw [insertField] at h
    split at h
    · exact (List.mem_cons.1 h).imp_right (List.mem_cons_of_mem g)
    · split at h
      · exact List.mem_cons.1 h
      · rcases List.mem_cons.1 h with rfl | h
        · exact Or.inr List.mem_cons_self
        · exact (ih h).imp_right (List.mem_cons_of_mem g)

theorem pairwise_insertField (h : fields.Pairwise (·.1 < ·.1)) :
    (insertField name value fields).Pairwise (·.1 < ·.1) := by
  induction fields with
  | nil => exact List.pairwise_singleton _ _
  | cons g rest ih =>
    obtain ⟨hfirst, hrest⟩ := List.pairwise_cons.1 h
    rw [insertField]
    split
    · rename_i heq
      subst heq
      exact List.pairwise_cons.2 ⟨hfirst, hrest⟩
    · rename_i hne
      split
      · rename_i hlt
        refine List.pairwise_cons.2 ⟨fun f hf => ?_, h⟩
        rcases List.mem_cons.1 hf with rfl | hf
        · exact hlt
        · exact String.lt_trans hlt (hfirst f hf)
      · rename_i hnot
        have hgt : g.1 < name :=
          Decidable.byContradiction fun hle => hne (String.le_antisymm hle hnot)
        refine List.pairwise_cons.2 ⟨fun f hf => ?_, ih hrest⟩
        rcases eq_or_mem_of_mem_insertField hf with rfl | hf
        · exact hgt
        · exact hfirst f hf

/-- Fields whose values are maps make a map when they are put in order. -/
theorem isMap_sortFields (h : ∀ f ∈ fields, f.2.IsMap) : (object (sortFields fields)).IsMap := by
  have hfold : ∀ sorted : List (String × Json), sorted.Pairwise (·.1 < ·.1) →
      (∀ f ∈ sorted, f.2.IsMap) →
      (object (fields.foldl (fun sorted f => insertField f.1 f.2 sorted) sorted)).IsMap := by
    induction fields with
    | nil =>
      intro sorted horder hmaps
      refine isMap_object.2 ⟨List.pairwise_map.2 (horder.imp ?_), hmaps⟩
      intro f g hlt heq
      rw [heq] at hlt
      exact String.lt_irrefl _ hlt
    | cons g rest ih =>
      intro sorted horder hmaps
      rw [List.forall_mem_cons] at h
      refine ih h.2 _ (pairwise_insertField horder) fun f hf => ?_
      rcases eq_or_mem_of_mem_insertField hf with rfl | hf
      · exact h.1
      · exact hmaps f hf
  exact hfold [] List.Pairwise.nil (fun _ hf => absurd hf List.not_mem_nil)

end Json

/-! ## Values that are read -/

namespace Decoder

theorem bind_eq_ok {α β : Type} {r : Except ReadError α} {f : α → Except ReadError β} {b : β}
    (h : r >>= f = .ok b) : ∃ a, r = .ok a ∧ f a = .ok b := by
  cases r with
  | error e => cases h
  | ok a => exact ⟨a, rfl, h⟩

theorem map_eq_ok {α β : Type} {f : α → β} {r : Except ReadError α} {b : β}
    (h : r.map f = .ok b) : ∃ a, r = .ok a ∧ f a = b := by
  cases r with
  | error e => cases h
  | ok a =>
    cases h
    exact ⟨a, rfl, rfl⟩

mutual

theorem isMap_of_json {d : Datum} {value : Json} (h : json d = .ok value) : value.IsMap := by
  cases d with
  | unit | bool b | text s | scalar s v a =>
    cases h
    simp
  | number n =>
    cases n with
    | int n =>
      cases h
      simp
    | float x =>
      cases h
      split <;> simp
  | list items =>
    obtain ⟨values, hvalues, rfl⟩ := map_eq_ok h
    exact .array (isMap_of_jsonItems hvalues)
  | table entries =>
    obtain ⟨fields, hfields, rfl⟩ := map_eq_ok h
    exact Json.isMap_sortFields (isMap_of_jsonFields hfields)

theorem isMap_of_jsonItems {items : List Datum} {values : List Json}
    (h : jsonItems items = .ok values) : ∀ value ∈ values, value.IsMap := by
  cases items with
  | nil =>
    cases h
    exact fun _ hmem => absurd hmem List.not_mem_nil
  | cons d rest =>
    rw [jsonItems] at h
    split at h
    · cases h
    · rename_i value hvalue
      obtain ⟨others, hothers, rfl⟩ := map_eq_ok h
      exact List.forall_mem_cons.2 ⟨isMap_of_json hvalue, isMap_of_jsonItems hothers⟩

theorem isMap_of_jsonFields {expected : String} {entries : List (Datum × Datum)}
    {fields : List (String × Json)} (h : jsonFields expected entries = .ok fields) :
    ∀ f ∈ fields, f.2.IsMap := by
  cases entries with
  | nil =>
    cases h
    exact fun _ hmem => absurd hmem List.not_mem_nil
  | cons entry rest =>
    obtain ⟨key, d⟩ := entry
    cases key with
    | text name =>
      rw [jsonFields] at h
      split at h
      · cases h
      · rename_i value hvalue
        obtain ⟨others, hothers, rfl⟩ := map_eq_ok h
        exact List.forall_mem_cons.2 ⟨isMap_of_json hvalue, isMap_of_jsonFields hothers⟩
    | _ => cases h

end

theorem isMap_of_bag {d : Datum} {fields : FieldBag} (h : bag d = .ok fields) :
    (Json.object fields).IsMap := by
  cases d with
  | table entries =>
    obtain ⟨found, hfound, rfl⟩ := map_eq_ok h
    exact Json.isMap_sortFields (isMap_of_jsonFields hfound)
  | _ => cases h

/-- A bag that is left out is empty. -/
theorem isMap_of_getOr {found : Slots} {name : String} {fields : FieldBag}
    (h : found.getOr name [] bag = .ok fields) : (Json.object fields).IsMap := by
  unfold Slots.getOr at h
  split at h
  · exact isMap_of_bag h
  · cases h
    simp

end Decoder

/-- The bag of a node that is read is a map. -/
theorem isMap_extra_of_decoder {d : Datum} {record : NodeRecord}
    (h : NodeRecord.decoder d = .ok record) : (Json.object record.extra).IsMap := by
  unfold NodeRecord.decoder at h
  obtain ⟨found, -, h⟩ := Decoder.bind_eq_ok h
  obtain ⟨tag, -, h⟩ := Decoder.bind_eq_ok h
  obtain ⟨kind, -, h⟩ := Decoder.bind_eq_ok h
  obtain ⟨server, -, h⟩ := Decoder.bind_eq_ok h
  obtain ⟨port, -, h⟩ := Decoder.bind_eq_ok h
  obtain ⟨country, -, h⟩ := Decoder.bind_eq_ok h
  obtain ⟨extra, hextra, h⟩ := Decoder.bind_eq_ok h
  cases h
  exact Decoder.isMap_of_getOr hextra

end ProxyConfig
