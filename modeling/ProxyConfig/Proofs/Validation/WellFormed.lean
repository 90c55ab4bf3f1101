import ProxyConfig.Proofs.Validation.Names

/-!
# Well-formed configurations

A configuration is well formed when each of its parts is, down to the parameters inside of other
parameters, and when the names that it gives do not collide.  What counts as an address is left
open.  Validation looks for faults in the same places, but it leaves out the checks of a whole record
as soon as a field of the record is faulty; since the faulty field is reported, no fault gets through.

Main results:

- `Config.IsWellFormed`: what is asked of a configuration.
- `config_eq_nil_iff`: the configurations without faults are those that are well formed.
-/

namespace ProxyConfig

/-! ## What is asked of a configuration -/

/-- A node has a tag, a server and a port. -/
structure Node.IsWellFormed (n : Node) : Prop where
  tag : n.tag ≠ ""
  server : n.server ≠ ""
  serverPort : 1 ≤ n.serverPort

/-- A filter has a name, and its test has an address if there is one.  It does not matter whether
the filter is enabled. -/
structure Filter.IsWellFormed (isUrl : String → Bool) (f : Filter) : Prop where
  name : f.name ≠ ""
  urlTest : ∀ t, f.urlTest = some t → isUrl t.url = true

/-- The settings have ports and addresses; the empty text counts as no proxy. -/
structure Settings.IsWellFormed (isUrl : String → Bool) (s : Settings) : Prop where
  mixedPort : 1 ≤ s.mixedPort
  controllerPort : 1 ≤ s.controllerPort
  ruleSetBaseUrl : isUrl s.ruleSetBaseUrl = true
  githubProxy : ∀ proxy, s.githubProxy = some proxy → proxy ≠ "" → isUrl proxy = true

/-- Times of the HTTP client, in seconds. -/
structure HttpClient.IsWellFormed (c : HttpClient) : Prop where
  connectTimeout : 1 ≤ c.connectTimeout ∧ c.connectTimeout ≤ 120
  requestTimeout : 1 ≤ c.requestTimeout ∧ c.requestTimeout ≤ 1200
  idleTimeout : ∀ t, c.idleTimeout = some t → 5 ≤ t ∧ t ≤ 1800
  keepalive : ∀ t, c.keepalive = some t → 5 ≤ t ∧ t ≤ 600

/-- How often, and after how many seconds. -/
structure Retry.IsWellFormed (r : Retry) : Prop where
  attempts : 1 ≤ r.attempts ∧ r.attempts ≤ 10
  delay : 1 ≤ r.delay ∧ r.delay ≤ 120

/-- The download parameters have permitted values. -/
structure Download.IsWellFormed (d : Download) : Prop where
  client : d.client.IsWellFormed
  retry : ∀ r, d.retry = some r → r.IsWellFormed
  maxSize : 1 ≤ d.maxSize

/-- The names of nodes, enabled filters and enabled rule groups are different from each other, from
the fixed names and from the groups of the countries of all nodes. -/
structure Model.HasFreeNames (m : Model) : Prop where
  distinct : (Validation.givenNames m).Nodup
  notFixed : ∀ name ∈ Validation.givenNames m, name ∉ Outbound.fixedNames
  notCountry : ∀ name ∈ Validation.givenNames m, ∀ n ∈ m.nodes,
    name ≠ Country.groupName n.countryCode

/-- What is asked of a model. -/
structure Model.IsWellFormed (isUrl : String → Bool) (m : Model) : Prop where
  settings : m.settings.IsWellFormed isUrl
  nodes : ∀ n ∈ m.nodes, n.IsWellFormed
  filters : ∀ f ∈ m.filters, f.IsWellFormed isUrl
  rules : ∀ r ∈ m.rules, r.outbound ≠ ""
  ruleGroups : ∀ g ∈ m.ruleGroups, g.name ≠ ""
  names : m.HasFreeNames

/-- What is asked of a configuration. -/
structure Config.IsWellFormed (isUrl : String → Bool) (c : Config) : Prop where
  model : c.model.IsWellFormed isUrl
  download : c.download.IsWellFormed

/-! ## Faults that are not there -/

namespace Faults

variable {name code message : String}

@[simp]
theorem check_eq_nil_iff {holds : Bool} : check name holds code message = [] ↔ holds = true := by
  cases holds <;> simp [check]

theorem faultyItems_eq_nil_iff {α : Type} {validate : α → Faults} {items : List α} {index : Nat} :
    faultyItems validate index items = [] ↔ ∀ x ∈ items, validate x = [] := by
  induction items generalizing index with
  | nil => simp [faultyItems]
  | cons x rest ih =>
    simp only [faultyItems, List.append_eq_nil_iff, ih, List.forall_mem_cons]
    cases validate x <;> simp

/-- A list is in order when its items are. -/
@[simp]
theorem each_eq_nil_iff {α : Type} {validate : α → Faults} {items : List α} :
    each name validate items = [] ↔ ∀ x ∈ items, validate x = [] := by
  have hfirst : each name validate items = [] ↔ faultyItems validate 0 items = [] := by
    unfold each
    cases faultyItems validate 0 items <;> simp
  rw [hfirst, faultyItems_eq_nil_iff]

end Faults

namespace Validation

open Faults

variable {isUrl : String → Bool} {name value message code : String}

@[simp]
theorem notEmpty_eq_nil_iff : notEmpty name value message = [] ↔ value ≠ "" := by
  simp [notEmpty]

@[simp]
theorem positive_eq_nil_iff {value : Nat} : positive name value message = [] ↔ 1 ≤ value := by
  simp [positive, Nat.succ_le_iff]

@[simp]
theorem within_eq_nil_iff {interval : Interval} {value : Nat} :
    within name interval value message = [] ↔
      interval.least ≤ value ∧ value ≤ interval.greatest := by
  simp [within, Interval.contains_iff]

@[simp]
theorem whole_eq_nil_iff {holds : Bool} : whole holds code message = [] ↔ holds = true := by
  cases holds <;> simp [whole]

/-! ## Parts without faults -/

theorem node_eq_nil_iff {n : Node} : node n = [] ↔ n.IsWellFormed := by
  simp only [node, List.append_eq_nil_iff, notEmpty_eq_nil_iff, positive_eq_nil_iff]
  exact ⟨fun h => ⟨h.1.1, h.1.2, h.2⟩, fun h => ⟨⟨h.tag, h.server⟩, h.serverPort⟩⟩

theorem filter_eq_nil_iff {f : Filter} : filter isUrl f = [] ↔ f.IsWellFormed isUrl := by
  have hparts : filter isUrl f = [] ↔
      f.name ≠ "" ∧ ∀ t, f.urlTest = some t → isUrl t.url = true := by
    unfold filter
    cases f.urlTest <;> simp [urlTest]
  rw [hparts]
  exact ⟨fun h => ⟨h.1, h.2⟩, fun h => ⟨h.name, h.urlTest⟩⟩

theorem all_downloadPrefix?_iff {s : Settings} :
    s.downloadPrefix?.all isUrl = true ↔
      ∀ proxy, s.githubProxy = some proxy → proxy ≠ "" → isUrl proxy = true := by
  unfold Settings.downloadPrefix? nonEmpty
  cases s.githubProxy with
  | none => simp
  | some proxy => by_cases hempty : proxy = "" <;> simp [hempty]

theorem settings_eq_nil_iff {s : Settings} : settings isUrl s = [] ↔ s.IsWellFormed isUrl := by
  simp only [settings, orElseWhole_eq_nil_iff, List.append_eq_nil_iff, positive_eq_nil_iff,
    check_eq_nil_iff, whole_eq_nil_iff, all_downloadPrefix?_iff]
  exact ⟨fun h => ⟨h.1.1.1, h.1.1.2, h.1.2, h.2⟩,
    fun h => ⟨⟨⟨h.mixedPort, h.controllerPort⟩, h.ruleSetBaseUrl⟩, h.githubProxy⟩⟩

theorem all_contains_iff {interval : Interval} {value : Option Nat} :
    value.all interval.contains = true ↔
      ∀ n, value = some n → interval.least ≤ n ∧ n ≤ interval.greatest := by
  cases value <;> simp [Interval.contains_iff]

theorem httpClient_eq_nil_iff {c : HttpClient} : httpClient c = [] ↔ c.IsWellFormed := by
  simp only [httpClient, orElseWhole_eq_nil_iff, List.append_eq_nil_iff, within_eq_nil_iff,
    whole_eq_nil_iff, all_contains_iff]
  exact ⟨fun h => ⟨h.1.1, h.1.2, h.2.1, h.2.2⟩,
    fun h => ⟨⟨h.connectTimeout, h.requestTimeout⟩, h.idleTimeout, h.keepalive⟩⟩

theorem retry_eq_nil_iff {r : Retry} : retry r = [] ↔ r.IsWellFormed := by
  simp only [retry, List.append_eq_nil_iff, within_eq_nil_iff]
  exact ⟨fun h => ⟨h.1, h.2⟩, fun h => ⟨h.attempts, h.delay⟩⟩

theorem download_eq_nil_iff {d : Download} : download d = [] ↔ d.IsWellFormed := by
  have hparts : download d = [] ↔
      d.client.IsWellFormed ∧ (∀ r, d.retry = some r → r.IsWellFormed) ∧ 1 ≤ d.maxSize := by
    unfold download
    cases d.retry <;> simp [httpClient_eq_nil_iff, retry_eq_nil_iff]
  rw [hparts]
  exact ⟨fun h => ⟨h.1, h.2.1, h.2.2⟩, fun h => ⟨h.client, h.retry, h.maxSize⟩⟩

/-- No name clashes when the names that the model gives are free. -/
theorem nameClash?_givenNames_eq_none_iff {m : Model} :
    nameClash? (reservedNames m) [] (givenNames m) = none ↔ m.HasFreeNames := by
  simp only [nameClash?_eq_none_iff, reservedNames, List.mem_append, List.mem_map, not_or,
    not_exists, not_and, List.not_mem_nil, not_false_eq_true, and_true]
  constructor
  · rintro ⟨hdistinct, hfree⟩
    exact ⟨hdistinct, fun name hname => (hfree name hname).1,
      fun name hname n hn => Ne.symm ((hfree name hname).2 n hn)⟩
  · intro h
    exact ⟨h.distinct, fun name hname =>
      ⟨h.notFixed name hname, fun n hn => Ne.symm (h.notCountry name hname n hn)⟩⟩

theorem model_eq_nil_iff {m : Model} : model isUrl m = [] ↔ m.IsWellFormed isUrl := by
  simp only [model, orElseWhole_eq_nil_iff, List.append_eq_nil_iff, nested_eq_nil_iff,
    settings_eq_nil_iff, each_eq_nil_iff, node_eq_nil_iff, filter_eq_nil_iff, rule, ruleGroup,
    notEmpty_eq_nil_iff, Option.toList_eq_nil_iff, nameClash?_givenNames_eq_none_iff]
  constructor
  · rintro ⟨⟨⟨⟨⟨hsettings, hnodes⟩, hfilters⟩, hrules⟩, hgroups⟩, hnames⟩
    exact ⟨hsettings, hnodes, hfilters, hrules, hgroups, hnames⟩
  · intro h
    exact ⟨⟨⟨⟨⟨h.settings, h.nodes⟩, h.filters⟩, h.rules⟩, h.ruleGroups⟩, h.names⟩

/-- A configuration has no faults exactly if it is well formed. -/
theorem config_eq_nil_iff {c : Config} : config isUrl c = [] ↔ c.IsWellFormed isUrl := by
  simp only [config, List.append_eq_nil_iff, nested_eq_nil_iff, model_eq_nil_iff,
    download_eq_nil_iff]
  exact ⟨fun h => ⟨h.1, h.2⟩, fun h => ⟨h.model, h.download⟩⟩

end Validation
end ProxyConfig
