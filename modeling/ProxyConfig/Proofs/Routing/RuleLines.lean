import ProxyConfig.Clash.Document
import ProxyConfig.Proofs.Text.Cut

/-!
# Reading rule lines

The texts of a record stand in its line as they are, between commas and without any escapes.  So
the parts of a line are those of its record exactly if there is no comma in the value and none in
the outbound.  Such a line tells the record: a value may be empty or look like a directive, but the
first part says what each of the others stands for.

Main results:

- `lineParts_ruleLine_eq_iff`: when the parts of a line are those of its record.
- `readLine?_ruleLine_eq_some_iff`: a line is read back as its record, or not at all if there is a
  stray comma in it.
- `rule_lines_decodable`: which lines can be read, and that they have one meaning.
-/

namespace ProxyConfig
namespace Clash

/-- The parts of a line between its commas. -/
def lineParts (line : String) : List String :=
  (line.split ',').toList.map String.Slice.copy

/-- What the line of a record has to say. -/
def expectedParts : RouteRecord → List String
  | ⟨.domain value, outbound⟩ => ["DOMAIN", value, outbound]
  | ⟨.domainSuffix value, outbound⟩ => ["DOMAIN-SUFFIX", value, outbound]
  | ⟨.domainKeyword value, outbound⟩ => ["DOMAIN-KEYWORD", value, outbound]
  | ⟨.ipCidr value, outbound⟩ => ["IP-CIDR", value, outbound, "no-resolve"]
  | ⟨.ruleSet ⟨.geosite, name⟩, outbound⟩ => ["GEOSITE", name, outbound]
  | ⟨.ruleSet ⟨.geoip, name⟩, outbound⟩ => ["GEOIP", name, outbound]
  | ⟨.port value, outbound⟩ => ["DST-PORT", value, outbound]
  | ⟨.always, outbound⟩ => ["MATCH", outbound]

/-- The line says what the record says, each text between commas as it is. -/
def Renders (line : String) (record : RouteRecord) : Prop :=
  line = ",".intercalate (expectedParts record)

/-- The record that parts stand for. -/
def ofParts? : List String → Option RouteRecord
  | ["DOMAIN", value, outbound] => some ⟨.domain value, outbound⟩
  | ["DOMAIN-SUFFIX", value, outbound] => some ⟨.domainSuffix value, outbound⟩
  | ["DOMAIN-KEYWORD", value, outbound] => some ⟨.domainKeyword value, outbound⟩
  | ["IP-CIDR", value, outbound, "no-resolve"] => some ⟨.ipCidr value, outbound⟩
  | ["GEOSITE", name, outbound] => some ⟨.ruleSet ⟨.geosite, name⟩, outbound⟩
  | ["GEOIP", name, outbound] => some ⟨.ruleSet ⟨.geoip, name⟩, outbound⟩
  | ["DST-PORT", value, outbound] => some ⟨.port value, outbound⟩
  | ["MATCH", outbound] => some ⟨.always, outbound⟩
  | _ => none

/-- The record that a line stands for. -/
def readLine? (line : String) : Option RouteRecord :=
  ofParts? (lineParts line)

/-- Neither the value nor the outbound of the record has a comma in it. -/
def CommaFree (record : RouteRecord) : Prop :=
  (∀ value ∈ value? record.criterion, ',' ∉ value.toList) ∧ ',' ∉ record.outbound.toList

instance (record : RouteRecord) : Decidable (CommaFree record) :=
  inferInstanceAs (Decidable ((∀ value ∈ value? record.criterion, ',' ∉ value.toList) ∧
    ',' ∉ record.outbound.toList))

variable {a b record other : RouteRecord}

theorem ruleParts_eq_expectedParts (record : RouteRecord) :
    ruleParts record = expectedParts record := by
  obtain ⟨criterion, outbound⟩ := record
  cases criterion with
  | ruleSet tag =>
    obtain ⟨kind, name⟩ := tag
    cases kind <;> rfl
  | _ => rfl

/-- The line of a record has its parts between commas. -/
theorem renders_ruleLine (record : RouteRecord) : Renders (ruleLine record) record := by
  rw [Renders, ruleLine, ruleParts_eq_expectedParts]

theorem ofParts?_expectedParts (record : RouteRecord) :
    ofParts? (expectedParts record) = some record := by
  obtain ⟨criterion, outbound⟩ := record
  cases criterion with
  | ruleSet tag =>
    obtain ⟨kind, name⟩ := tag
    cases kind <;> rfl
  | _ => rfl

/-- Parts stand for the record that has to say them. -/
theorem ofParts?_eq_some_iff {parts : List String} :
    ofParts? parts = some record ↔ parts = expectedParts record := by
  constructor
  · intro h
    unfold ofParts? at h
    split at h <;> cases h <;> rfl
  · rintro rfl
    exact ofParts?_expectedParts record

/-- A directive has no comma in it, nor has what follows the outbound. -/
theorem comma_notMem_directive (criterion : Criterion) :
    ',' ∉ (directive criterion).toList ∧ ∀ part ∈ modifiers criterion, ',' ∉ part.toList := by
  cases criterion with
  | ruleSet tag =>
    obtain ⟨kind, name⟩ := tag
    cases kind <;> simp [directive, modifiers]
  | _ => simp [directive, modifiers]

theorem forall_mem_ruleParts_iff :
    (∀ part ∈ ruleParts record, ',' ∉ part.toList) ↔ CommaFree record := by
  obtain ⟨hdirective, hmodifiers⟩ := comma_notMem_directive record.criterion
  rw [ruleParts, List.forall_mem_append, List.forall_mem_cons, List.forall_mem_cons]
  simp only [hdirective, not_false_iff, true_and, and_iff_left hmodifiers, CommaFree,
    Option.mem_toList, Option.mem_def]

theorem toList_ruleLine (record : RouteRecord) :
    (ruleLine record).toList = [','].intercalate ((ruleParts record).map String.toList) :=
  String.toList_intercalate

theorem map_toList_lineParts (line : String) :
    (lineParts line).map String.toList = Text.pieces ',' line.toList := by
  rw [lineParts, String.toList_split_char, List.map_map, Text.splitOn_eq_pieces]
  simp [Function.comp_def]

/-- Cutting a line at its commas gives the parts that its record has to say exactly if none of its
texts has a comma in it. -/
theorem lineParts_ruleLine_eq_iff :
    lineParts (ruleLine record) = expectedParts record ↔ CommaFree record := by
  have hne : (ruleParts record).map String.toList ≠ [] := by simp [ruleParts]
  rw [← ruleParts_eq_expectedParts, ← List.map_inj_right fun _ _ h => String.toList_inj.1 h,
    map_toList_lineParts, toList_ruleLine, Text.pieces_intercalate_eq_iff hne, List.forall_mem_map,
    forall_mem_ruleParts_iff]

/-- A line without stray commas is read back as its record. -/
theorem readLine?_ruleLine (h : CommaFree record) : readLine? (ruleLine record) = some record := by
  rw [readLine?, lineParts_ruleLine_eq_iff.2 h, ofParts?_expectedParts]

/-- The directive of a line tells how many parts the line has. -/
theorem length_ruleParts (record : RouteRecord) :
    (ruleParts record).length =
      if directive record.criterion = "MATCH" then 2
      else if directive record.criterion = "IP-CIDR" then 4 else 3 := by
  obtain ⟨criterion, outbound⟩ := record
  cases criterion with
  | ruleSet tag =>
    obtain ⟨kind, name⟩ := tag
    cases kind <;> rfl
  | _ => rfl

/-- The parts of a line are those of its texts, one text after the other. -/
theorem map_toList_lineParts_ruleLine (record : RouteRecord) :
    (lineParts (ruleLine record)).map String.toList =
      ((ruleParts record).map String.toList).flatMap (Text.pieces ',') := by
  rw [map_toList_lineParts, toList_ruleLine, Text.pieces_intercalate _ (by simp [ruleParts])]

/-- A line with a stray comma is not read as any record. -/
theorem commaFree_of_readLine?_eq_some (h : readLine? (ruleLine record) = some other) :
    CommaFree record := by
  rw [readLine?, ofParts?_eq_some_iff, ← ruleParts_eq_expectedParts] at h
  have hparts := map_toList_lineParts_ruleLine record
  rw [h] at hparts
  -- The first part is the directive, and it tells how many parts there are.
  have hdirective : directive other.criterion = directive record.criterion := by
    have hfirst := congrArg List.head? hparts
    simp only [ruleParts, List.cons_append, List.map_cons, List.flatMap_cons, List.head?_cons,
      Text.pieces_of_not_mem (comma_notMem_directive record.criterion).1] at hfirst
    exact String.toList_inj.1 (Option.some.inj hfirst)
  have hlength := congrArg List.length hparts
  rw [List.length_map, length_ruleParts, hdirective, ← length_ruleParts,
    ← List.length_map String.toList, eq_comm,
    Text.length_flatMap_pieces_eq_iff, List.forall_mem_map, forall_mem_ruleParts_iff] at hlength
  exact hlength

/-- Which lines of records are read, and as what. -/
theorem readLine?_ruleLine_eq_some_iff :
    readLine? (ruleLine record) = some other ↔ CommaFree record ∧ record = other := by
  constructor
  · intro h
    have hfree := commaFree_of_readLine?_eq_some h
    rw [readLine?_ruleLine hfree] at h
    exact ⟨hfree, Option.some.inj h⟩
  · rintro ⟨hfree, rfl⟩
    exact readLine?_ruleLine hfree

/-- The line of a record can be cut into its directive, value and outbound exactly if neither text
has a comma in it, and two such records with the same line have the same criterion and outbound. -/
theorem rule_lines_decodable :
    (∀ record, lineParts (ruleLine record) = expectedParts record ↔ CommaFree record) ∧
    ∀ a b, CommaFree a → CommaFree b → ruleLine a = ruleLine b →
      a.criterion = b.criterion ∧ a.outbound = b.outbound := by
  refine ⟨fun record => lineParts_ruleLine_eq_iff, fun a b ha hb hline => ?_⟩
  have hread : some a = some b := by rw [← readLine?_ruleLine ha, ← readLine?_ruleLine hb, hline]
  obtain rfl := Option.some.inj hread
  exact ⟨rfl, rfl⟩

/-- A rule and a rule group on a site database that is named like a directive, for an outbound that
is named like what follows the outbound of an address: their lines have one meaning.  With a comma
in its value a line has other parts. -/
theorem rule_lines_decodable_sample :
    (∃ a ∈ Rule.records ⟨.geosite, ["GEOIP"], "no-resolve", true⟩,
      ∃ b ∈ RuleGroup.records ⟨"no-resolve", true, "DIRECT", ["GEOIP"], []⟩,
        CommaFree a ∧ CommaFree b ∧ ruleLine a = ruleLine b ∧
        lineParts (ruleLine a) = ["GEOSITE", "GEOIP", "no-resolve"] ∧
        a.criterion = b.criterion ∧ a.outbound = b.outbound) ∧
    lineParts (ruleLine ⟨.domain "a,b", "Proxy"⟩) ≠ ["DOMAIN", "a,b", "Proxy"] := by
  have hfree : CommaFree ⟨.ruleSet ⟨.geosite, "GEOIP"⟩, "no-resolve"⟩ := by decide
  refine ⟨⟨_, List.mem_singleton_self _, _, List.mem_singleton_self _, hfree, hfree, rfl,
    (rule_lines_decodable.1 _).2 hfree, rule_lines_decodable.2 _ _ hfree hfree rfl⟩, fun h => ?_⟩
  have hcomma : CommaFree ⟨.domain "a,b", "Proxy"⟩ := (rule_lines_decodable.1 _).1 h
  exact absurd hcomma (by decide)

end Clash
end ProxyConfig
