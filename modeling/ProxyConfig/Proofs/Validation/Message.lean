import ProxyConfig.Loading
import ProxyConfig.Proofs.Validation.Violations

/-!
# The text of faults

The faults of a value are a tree, and their text is one message below the other, where the message
of a record or of an item has the text of its own faults inside.  The order in which the fields of a
record are visited is not determined.  In whatever order they are, no failed check is lost: each is
named with its field in the text of the record to which it belongs, and that text stands inside the
message of every record and item around it.

Main results:

- `HasFailure.isShown`: a failed check is shown, by induction on what is around it.
- `Reordered.hasFailure`: the failed checks do not depend on an order of fields.
- `exists_of_mem_failures`: the path of a failed check names what is around it.
- `every_failure_shown`: the message for an invalid configuration shows all that is reported.
-/

namespace ProxyConfig

/-- What can be around faults: a nested record, or an item of a list. -/
inductive Enclosure where
  | record (name : String)
  | item (list : String) (index : Nat)
deriving Repr, DecidableEq

namespace Enclosure

/-- The message with the text of the faults inside. -/
def message (text : String) : Enclosure → String
  | .record name => "Struct '" ++ name ++ "' validation failed: " ++ text
  | .item list index => "List '" ++ list ++ "' at index " ++ toString index ++ ": " ++ text

/-- What stands for the enclosure in a path. -/
def path : Enclosure → String
  | .record name => name ++ "."
  | .item list index => list ++ "[" ++ toString index ++ "]."

end Enclosure

/-- The path to a field inside enclosures, the outermost first. -/
def pathTo (field : String) : List Enclosure → String
  | [] => field
  | e :: around => e.path ++ pathTo field around

/-- What is said of a field with a failed check. -/
def FailedCheck.fieldMessage (field : String) (check : FailedCheck) : String :=
  "Field '" ++ field ++ "': " ++ check.text

namespace Faults

/-! ## Failed checks and where they are -/

/-- The faults inside an enclosure. -/
def Encloses (faults inner : Faults) : Enclosure → Prop
  | .record name => (name, .record inner) ∈ faults
  | .item list index => ∃ items, (list, .items items) ∈ faults ∧ (index, inner) ∈ items

/-- A check of a field has failed inside the enclosures, the outermost of which comes first. -/
inductive HasFailure : Faults → List Enclosure → String → FailedCheck → Prop
  | field {faults : Faults} {field : String} {failed : List FailedCheck} {check : FailedCheck}
      (hfield : (field, .checks failed) ∈ faults) (hcheck : check ∈ failed) :
      HasFailure faults [] field check
  | within {faults inner : Faults} {e : Enclosure} {around : List Enclosure} {field : String}
      {check : FailedCheck} (hinner : Encloses faults inner e)
      (h : HasFailure inner around field check) : HasFailure faults (e :: around) field check

/-- The fields of some records are in another order. -/
inductive Reordered : Faults → Faults → Prop
  | fields {faults others : Faults} (h : faults.Perm others) : Reordered faults others
  | record {inner others rest : Faults} {name : String} (h : Reordered inner others) :
      Reordered ((name, .record inner) :: rest) ((name, .record others) :: rest)
  | item {inner others rest : Faults} {list : String} {index : Nat}
      {before after : List (Nat × Faults)} (h : Reordered inner others) :
      Reordered ((list, .items (before ++ (index, inner) :: after)) :: rest)
        ((list, .items (before ++ (index, others) :: after)) :: rest)
  | trans {faults middle others : Faults} (h : Reordered faults middle)
      (hrest : Reordered middle others) : Reordered faults others

/-- The text consists of messages one below the other, and this is one of them. -/
def HasMessage (text message : String) : Prop :=
  ∃ before after, text = "\n".intercalate (before ++ message :: after)

/-- The text of the faults shows a failed check: it has the message of the outermost enclosure, and
the text that this message encloses shows the check inside the other enclosures. -/
inductive IsShown : Faults → List Enclosure → String → FailedCheck → Prop
  | field {faults : Faults} {field : String} {check : FailedCheck}
      (hmessage : HasMessage (text faults) (check.fieldMessage field)) :
      IsShown faults [] field check
  | within {faults inner : Faults} {e : Enclosure} {around : List Enclosure} {field : String}
      {check : FailedCheck} (hinner : Encloses faults inner e)
      (hmessage : HasMessage (text faults) (e.message (text inner)))
      (h : IsShown inner around field check) : IsShown faults (e :: around) field check

variable {faults others inner : Faults} {e : Enclosure} {around : List Enclosure}
  {field name : String} {check : FailedCheck}

/-! ## Messages -/

theorem messages_eq_flatMap (faults : Faults) :
    messages faults = faults.flatMap fun f => fieldMessages f.1 f.2 := by
  induction faults with
  | nil => rfl
  | cons f rest ih => rw [messages, ih, List.flatMap_cons]

theorem itemMessages_eq_map (items : List (Nat × Faults)) :
    itemMessages name items =
      items.map fun item => (Enclosure.item name item.1).message (text item.2) := by
  induction items with
  | nil => rfl
  | cons item rest ih =>
    rw [itemMessages, ih, List.map_cons]
    rfl

/-- A message of the faults is one of the messages in their text. -/
theorem hasMessage_text_of_mem {message : String} (h : message ∈ messages faults) :
    HasMessage (text faults) message := by
  obtain ⟨before, after, hmessages⟩ := List.append_of_mem h
  refine ⟨before, after, ?_⟩
  rw [text, joined, hmessages, if_neg (by simp)]

theorem hasMessage_text_of_field {failed : List FailedCheck}
    (hfield : (field, .checks failed) ∈ faults) (hcheck : check ∈ failed) :
    HasMessage (text faults) (check.fieldMessage field) := by
  apply hasMessage_text_of_mem
  rw [messages_eq_flatMap, List.mem_flatMap]
  refine ⟨(field, .checks failed), hfield, ?_⟩
  rw [fieldMessages]
  exact List.mem_map_of_mem hcheck

theorem hasMessage_text_of_encloses (h : Encloses faults inner e) :
    HasMessage (text faults) (e.message (text inner)) := by
  apply hasMessage_text_of_mem
  rw [messages_eq_flatMap, List.mem_flatMap]
  cases e with
  | record name =>
    refine ⟨(name, .record inner), h, ?_⟩
    rw [fieldMessages]
    exact List.mem_singleton_self _
  | item list index =>
    obtain ⟨items, hitems, hitem⟩ := h
    refine ⟨(list, .items items), hitems, ?_⟩
    rw [fieldMessages, itemMessages_eq_map]
    exact List.mem_map.2 ⟨(index, inner), hitem, rfl⟩

/-- No failed check is lost on any level. -/
theorem HasFailure.isShown (h : HasFailure faults around field check) :
    IsShown faults around field check := by
  induction h with
  | field hfield hcheck => exact .field (hasMessage_text_of_field hfield hcheck)
  | within hinner _ ih => exact .within hinner (hasMessage_text_of_encloses hinner) ih

/-! ## Failed checks, field by field -/

theorem encloses_iff_exists_mem :
    Encloses faults inner e ↔ ∃ f ∈ faults, Encloses [f] inner e := by
  cases e with
  | record name => simp [Encloses]
  | item list index =>
    constructor
    · rintro ⟨items, hitems, hitem⟩
      exact ⟨_, hitems, items, List.mem_singleton_self _, hitem⟩
    · rintro ⟨f, hf, items, hitems, hitem⟩
      exact ⟨items, List.mem_singleton.1 hitems ▸ hf, hitem⟩

/-- A failure is in one of the fields, whatever the others are. -/
theorem hasFailure_iff_exists_mem :
    HasFailure faults around field check ↔ ∃ f ∈ faults, HasFailure [f] around field check := by
  constructor
  · intro h
    cases h with
    | field hfield hcheck => exact ⟨_, hfield, .field (List.mem_singleton_self _) hcheck⟩
    | within hinner h =>
      obtain ⟨f, hf, hinner⟩ := encloses_iff_exists_mem.1 hinner
      exact ⟨f, hf, .within hinner h⟩
  · rintro ⟨f, hf, h⟩
    cases h with
    | field hfield hcheck => exact .field (List.mem_singleton.1 hfield ▸ hf) hcheck
    | within hinner h => exact .within (encloses_iff_exists_mem.2 ⟨f, hf, hinner⟩) h

theorem hasFailure_cons_iff {f : String × Fault} {rest : Faults} :
    HasFailure (f :: rest) around field check ↔
      HasFailure [f] around field check ∨ HasFailure rest around field check := by
  rw [hasFailure_iff_exists_mem, List.exists_mem_cons_iff, ← hasFailure_iff_exists_mem]

theorem HasFailure.of_record (h : HasFailure inner around field check) :
    HasFailure [(name, .record inner)] (.record name :: around) field check :=
  .within (List.mem_singleton_self _) h

theorem HasFailure.of_item {items : List (Nat × Faults)} {index : Nat}
    (hitem : (index, inner) ∈ items) (h : HasFailure inner around field check) :
    HasFailure [(name, .items items)] (.item name index :: around) field check :=
  .within ⟨items, List.mem_singleton_self _, hitem⟩ h

/-- The failures of a nested record are inside of it. -/
theorem exists_of_hasFailure_record (h : HasFailure [(name, .record inner)] around field check) :
    ∃ rest, around = .record name :: rest ∧ HasFailure inner rest field check := by
  cases h with
  | field hfield hcheck => simp at hfield
  | within hinner h =>
    rename_i e rest
    cases e with
    | record other =>
      obtain ⟨rfl, rfl⟩ : other = name ∧ _ = inner := by simpa [Encloses] using hinner
      exact ⟨rest, rfl, h⟩
    | item list index => simp [Encloses] at hinner

/-- The failures of a list are inside of its items. -/
theorem exists_of_hasFailure_items {items : List (Nat × Faults)}
    (h : HasFailure [(name, .items items)] around field check) :
    ∃ index inner rest, (index, inner) ∈ items ∧ around = .item name index :: rest ∧
      HasFailure inner rest field check := by
  cases h with
  | field hfield hcheck => simp at hfield
  | within hinner h =>
    rename_i e rest
    cases e with
    | record other => simp [Encloses] at hinner
    | item list index =>
      obtain ⟨rfl, hitem⟩ : list = name ∧ (index, _) ∈ items := by simpa [Encloses] using hinner
      exact ⟨index, _, rest, hitem, rfl, h⟩

/-! ## Order of fields -/

/-- The failed checks do not depend on an order of fields. -/
theorem Reordered.hasFailure (hsame : Reordered faults others)
    (h : HasFailure faults around field check) : HasFailure others around field check := by
  induction hsame generalizing around with
  | fields hperm =>
    obtain ⟨f, hf, h⟩ := hasFailure_iff_exists_mem.1 h
    exact hasFailure_iff_exists_mem.2 ⟨f, hperm.mem_iff.1 hf, h⟩
  | record _ ih =>
    rw [hasFailure_cons_iff] at h ⊢
    apply h.imp_left
    intro hfirst
    obtain ⟨rest, rfl, hinner⟩ := exists_of_hasFailure_record hfirst
    exact .of_record (ih hinner)
  | item _ ih =>
    rw [hasFailure_cons_iff] at h ⊢
    apply h.imp_left
    intro hfirst
    obtain ⟨i, found, rest, hitem, rfl, hinner⟩ := exists_of_hasFailure_items hfirst
    rw [List.mem_append, List.mem_cons] at hitem
    rcases hitem with hbefore | heq | hafter
    · exact .of_item (List.mem_append_left _ hbefore) hinner
    · cases heq
      exact .of_item (List.mem_append_right _ List.mem_cons_self) (ih hinner)
    · exact .of_item (List.mem_append_right _ (List.mem_cons_of_mem _ hafter)) hinner
  | trans _ _ ih ihrest => exact ihrest (ih h)

/-! ## Paths -/

variable {f : String × FailedCheck}

mutual

/-- The failed checks of a field are where their paths say. -/
theorem exists_of_mem_fieldFailures (start name : String) (fault : Fault)
    (h : f ∈ fieldFailures (start ++ name) fault) :
    ∃ around field, HasFailure [(name, fault)] around field f.2 ∧
      f.1 = start ++ pathTo field around := by
  match fault with
  | .checks failed =>
    rw [fieldFailures, List.mem_map] at h
    obtain ⟨check, hcheck, rfl⟩ := h
    exact ⟨[], name, .field (List.mem_singleton_self _) hcheck, rfl⟩
  | .record faults =>
    rw [fieldFailures] at h
    obtain ⟨around, field, hinner, hpath⟩ := exists_of_mem_failures _ faults h
    refine ⟨.record name :: around, field, .of_record hinner, ?_⟩
    simp [hpath, pathTo, Enclosure.path, String.append_assoc]
  | .items items =>
    rw [fieldFailures] at h
    exact exists_of_mem_itemFailures start name items h

theorem exists_of_mem_failures (start : String) (faults : List (String × Fault))
    (h : f ∈ failures start faults) :
    ∃ around field, HasFailure faults around field f.2 ∧ f.1 = start ++ pathTo field around := by
  match faults with
  | [] =>
    rw [failures] at h
    cases h
  | (name, fault) :: rest =>
    rw [failures, List.mem_append] at h
    rcases h with h | h
    · obtain ⟨around, field, hfirst, hpath⟩ := exists_of_mem_fieldFailures start name fault h
      exact ⟨around, field, hasFailure_cons_iff.2 (Or.inl hfirst), hpath⟩
    · obtain ⟨around, field, hrest, hpath⟩ := exists_of_mem_failures start rest h
      exact ⟨around, field, hasFailure_cons_iff.2 (Or.inr hrest), hpath⟩

theorem exists_of_mem_itemFailures (start name : String)
    (items : List (Nat × List (String × Fault))) (h : f ∈ itemFailures (start ++ name) items) :
    ∃ around field, HasFailure [(name, .items items)] around field f.2 ∧
      f.1 = start ++ pathTo field around := by
  match items with
  | [] =>
    rw [itemFailures] at h
    cases h
  | (index, faults) :: rest =>
    rw [itemFailures, List.mem_append] at h
    rcases h with h | h
    · obtain ⟨around, field, hinner, hpath⟩ := exists_of_mem_failures _ faults h
      refine ⟨.item name index :: around, field, .of_item List.mem_cons_self hinner, ?_⟩
      simp [hpath, pathTo, Enclosure.path, String.append_assoc]
    · obtain ⟨around, field, hrest, hpath⟩ := exists_of_mem_itemFailures start name rest h
      obtain ⟨i, found, inside, hitem, rfl, hfound⟩ := exists_of_hasFailure_items hrest
      exact ⟨_, field, .of_item (List.mem_cons_of_mem _ hitem) hfound, hpath⟩

end

/-! ## Invalid configurations -/

section Reported

open Condition

variable {c : Config} {isUrl : String → Bool}

/-- What stands on the left has something on the right that belongs to it. -/
theorem exists_of_mem_of_forall₂ {α β : Type} {R : α → β → Prop} {l : List α} {l' : List β} {a : α}
    (h : List.Forall₂ R l l') (ha : a ∈ l) : ∃ b ∈ l', R a b := by
  induction h with
  | nil => cases ha
  | cons hfirst _ ih =>
    rcases List.mem_cons.1 ha with rfl | ha
    · exact ⟨_, List.mem_cons_self, hfirst⟩
    · obtain ⟨b, hb, hR⟩ := ih ha
      exact ⟨b, List.mem_cons_of_mem _ hb, hR⟩

/-- A reported condition has a failed check at its path. -/
theorem exists_mem_failures_of_isReported {k : Condition} (hk : k.IsReported isUrl c) :
    ∃ f ∈ failures "" (Validation.config isUrl c), f.1 = k.path ∧ k.Tells c f.2 := by
  classical
  apply exists_of_mem_of_forall₂ accounts_config
  rw [List.mem_filter]
  exact ⟨mem_ofConfig_of_isViolated hk.1, decide_eq_true hk⟩

theorem eq_config_of_validated {found : Faults} (h : c.validated = .error (.invalid found)) :
    found = Validation.config Url.isValid c := by
  simp only [Config.validated] at h
  split at h
  · cases h
  · cases h
    rfl

end Reported

/-- In whatever order the fields of records are visited, the text of faults shows every failed
check, with its field and with what is around it.  So the message for an invalid configuration shows
every failed check at its path, and with it every condition that is reported. -/
theorem every_failure_shown :
    (∀ faults visited : Faults, faults.Reordered visited →
      ∀ around field check, faults.HasFailure around field check →
        visited.IsShown around field check) ∧
    ∀ (c : Config) (found : Faults), c.validated = .error (.invalid found) →
      ∀ visited, found.Reordered visited →
        (ConfigError.invalid visited).message =
          "Configuration validation error: " ++ text visited ∧
        (∀ f ∈ failures "" found, ∃ around field, pathTo field around = f.1 ∧
          visited.IsShown around field f.2) ∧
        ∀ k : Condition, k.IsReported Url.isValid c → ∃ around field check,
          pathTo field around = k.path ∧ k.Tells c check ∧ visited.IsShown around field check := by
  refine ⟨fun faults visited hsame around field check h => (hsame.hasFailure h).isShown, ?_⟩
  intro c found hfound visited hsame
  have hall : ∀ f ∈ failures "" found, ∃ around field, pathTo field around = f.1 ∧
      visited.IsShown around field f.2 := by
    intro f hf
    obtain ⟨around, field, h, hpath⟩ := exists_of_mem_failures "" found hf
    rw [String.empty_append] at hpath
    exact ⟨around, field, hpath.symm, (hsame.hasFailure h).isShown⟩
  refine ⟨rfl, hall, ?_⟩
  intro k hk
  obtain ⟨f, hf, hpath, htells⟩ := exists_mem_failures_of_isReported hk
  rw [← eq_config_of_validated hfound] at hf
  obtain ⟨around, field, hplace, hshown⟩ := hall f hf
  exact ⟨around, field, f.2, hplace.trans hpath, htells, hshown⟩

/-! ### A sample -/

def samplePort : String × Fault :=
  ("settings", .record
    [("mixed_port", .checks [⟨"range", some "Mixed port must be greater than 0"⟩])])

def sampleNames : String × Fault :=
  ("filters", .items
    [(0, [("name", .checks [⟨"length", some "Filter name must not be empty"⟩])]),
     (2, [("name", .checks [⟨"length", some "Filter name must not be empty"⟩])])])

def sampleSize : String × Fault :=
  ("download", .record [("max_size", .checks [⟨"range", some "Max size must be greater than 0"⟩])])

/-- A configuration without a port and with two filters that have no name. -/
def sampleInvalid : Config where
  model :=
    { settings := { mixedPort := 0, ruleSetBaseUrl := "a:b" }
      filters := ["", "Asia", ""].map fun name => ⟨name, true, .select, [], [], [], [], none⟩ }
  download := { maxSize := 0 }

example : text [sampleSize, ("model", .record [sampleNames, samplePort])] =
    "Struct 'download' validation failed: Field 'max_size': Max size must be greater than 0\n" ++
    "Struct 'model' validation failed: " ++
    "List 'filters' at index 0: Field 'name': Filter name must not be empty\n" ++
    "List 'filters' at index 2: Field 'name': Filter name must not be empty\n" ++
    "Struct 'settings' validation failed: " ++
    "Field 'mixed_port': Mixed port must be greater than 0" := by
  decide +kernel

/-- The fields of the sample are visited in another order on two levels. -/
theorem every_failure_shown_sample :
    let found := [("model", .record [samplePort, sampleNames]), sampleSize]
    let visited := [sampleSize, ("model", .record [sampleNames, samplePort])]
    let around := [Enclosure.record "model", .item "filters" 2]
    let check : FailedCheck := ⟨"length", some "Filter name must not be empty"⟩
    sampleInvalid.validated = .error (.invalid found) ∧ Reordered found visited ∧
      HasFailure found around "name" check ∧ IsShown visited around "name" check ∧
      Condition.mixedPort.IsReported Url.isValid sampleInvalid ∧
      ∃ around field check, pathTo field around = "model.settings.mixed_port" ∧
        Condition.mixedPort.Tells sampleInvalid check ∧ IsShown visited around field check := by
  intro found visited around check
  have hfound : sampleInvalid.validated = .error (.invalid found) := rfl
  have hsame : Reordered found visited :=
    .trans (.record (.fields (List.Perm.swap _ _ _))) (.fields (List.Perm.swap _ _ _))
  have hname : HasFailure [("name", .checks [check])] [] "name" check :=
    .field List.mem_cons_self List.mem_cons_self
  have hitem : HasFailure [sampleNames] [.item "filters" 2] "name" check :=
    hname.of_item (List.mem_cons_of_mem _ List.mem_cons_self)
  have hmodel : HasFailure [samplePort, sampleNames] [.item "filters" 2] "name" check :=
    hasFailure_cons_iff.2 (Or.inr hitem)
  have hfailure : HasFailure found around "name" check :=
    hasFailure_cons_iff.2 (Or.inl hmodel.of_record)
  have hreported : Condition.mixedPort.IsReported Url.isValid sampleInvalid :=
    (Condition.isReported_iff_isViolated rfl).2 rfl
  refine ⟨hfound, hsame, hfailure, every_failure_shown.1 found visited hsame _ _ _ hfailure,
    hreported, ?_⟩
  exact (every_failure_shown.2 sampleInvalid found hfound visited hsame).2.2 _ hreported

end Faults
end ProxyConfig
