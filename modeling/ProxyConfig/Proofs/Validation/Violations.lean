import Mathlib.Data.List.Forall2
import Mathlib.Data.List.Nodup
import ProxyConfig.Proofs.Validation.WellFormed

/-!
# Reported violations

Every condition of a configuration has a place, to which a path leads, and a check that fails there
when the condition is violated.  Most conditions are about single fields.  Four of them are about a
whole record (the settings, the HTTP client or the model), and they are looked at only when no
condition inside the record is violated.  What validation reports are the violated conditions
without the masked ones, each of them once.

Main results:

- `nameClash?_eq_some`: the name that is reported is the first one that clashes.
- `accounts_config`: the failed checks of a configuration, condition by condition.
- `exists_isReported`: a violated condition can be masked, but not all violated conditions are.
- `validation_exact`: which configurations are accepted, and what is reported of the others.
-/

namespace ProxyConfig

/-! ## Conditions -/

/-- A condition of a configuration.  Conditions on items of a list carry the index of the item. -/
inductive Condition where
  | mixedPort
  | controllerPort
  | ruleSetBaseUrl
  | githubProxy
  | nodeTag (index : Nat)
  | nodeServer (index : Nat)
  | nodePort (index : Nat)
  | filterName (index : Nat)
  | filterUrl (index : Nat)
  | ruleOutbound (index : Nat)
  | ruleGroupName (index : Nat)
  | outboundNames
  | connectTimeout
  | requestTimeout
  | idleTimeout
  | keepalive
  | retryAttempts
  | retryDelay
  | maxSize
deriving DecidableEq

/-- A record that has conditions on it as a whole. -/
inductive WholeRecord where
  | settings
  | httpClient
  | model
deriving DecidableEq

/-- The first name of a list that is reserved or was given before, and what is said of it. -/
inductive FirstClash (reserved names : List String) : FailedCheck → Prop
  | reserved {before after : List String} {name : String} (hnames : names = before ++ name :: after)
      (hbefore : before.Nodup ∧ ∀ other ∈ before, other ∉ reserved) (hname : name ∈ reserved) :
      FirstClash reserved names ⟨"reserved_outbound_name",
        some ("Outbound name '" ++ name ++ "' is reserved for a built-in group or outbound")⟩
  | repeated {before after : List String} {name : String} (hnames : names = before ++ name :: after)
      (hbefore : before.Nodup ∧ ∀ other ∈ before, other ∉ reserved) (hname : name ∉ reserved)
      (hagain : name ∈ before) :
      FirstClash reserved names ⟨"duplicate_outbound_name",
        some ("Outbound name '" ++ name ++ "' is not unique")⟩

namespace Condition

/-- The record of which the condition says something as a whole. -/
def whole? : Condition → Option WholeRecord
  | githubProxy => some .settings
  | idleTimeout | keepalive => some .httpClient
  | outboundNames => some .model
  | _ => none

/-- The condition is about a part of the record. -/
def IsInside : WholeRecord → Condition → Prop
  | .settings, mixedPort | .settings, controllerPort | .settings, ruleSetBaseUrl => True
  | .httpClient, connectTimeout | .httpClient, requestTimeout => True
  | .model, mixedPort | .model, controllerPort | .model, ruleSetBaseUrl => True
  | .model, githubProxy => True
  | .model, nodeTag _ | .model, nodeServer _ | .model, nodePort _ => True
  | .model, filterName _ | .model, filterUrl _ | .model, ruleOutbound _ => True
  | .model, ruleGroupName _ => True
  | _, _ => False

/-- What it means that the condition is violated. -/
def IsViolated (isUrl : String → Bool) (c : Config) : Condition → Prop
  | mixedPort => c.model.settings.mixedPort = 0
  | controllerPort => c.model.settings.controllerPort = 0
  | ruleSetBaseUrl => isUrl c.model.settings.ruleSetBaseUrl = false
  | githubProxy => ∃ proxy, c.model.settings.githubProxy = some proxy ∧ proxy ≠ "" ∧
      isUrl proxy = false
  | nodeTag i => ∃ n, c.model.nodes[i]? = some n ∧ n.tag = ""
  | nodeServer i => ∃ n, c.model.nodes[i]? = some n ∧ n.server = ""
  | nodePort i => ∃ n, c.model.nodes[i]? = some n ∧ n.serverPort = 0
  | filterName i => ∃ f, c.model.filters[i]? = some f ∧ f.name = ""
  | filterUrl i => ∃ f t, c.model.filters[i]? = some f ∧ f.urlTest = some t ∧ isUrl t.url = false
  | ruleOutbound i => ∃ r, c.model.rules[i]? = some r ∧ r.outbound = ""
  | ruleGroupName i => ∃ g, c.model.ruleGroups[i]? = some g ∧ g.name = ""
  | outboundNames => ¬ c.model.HasFreeNames
  | connectTimeout => ¬ (1 ≤ c.download.client.connectTimeout ∧
      c.download.client.connectTimeout ≤ 120)
  | requestTimeout => ¬ (1 ≤ c.download.client.requestTimeout ∧
      c.download.client.requestTimeout ≤ 1200)
  | idleTimeout => ∃ t, c.download.client.idleTimeout = some t ∧ ¬ (5 ≤ t ∧ t ≤ 1800)
  | keepalive => ∃ t, c.download.client.keepalive = some t ∧ ¬ (5 ≤ t ∧ t ≤ 600)
  | retryAttempts => ∃ r, c.download.retry = some r ∧ ¬ (1 ≤ r.attempts ∧ r.attempts ≤ 10)
  | retryDelay => ∃ r, c.download.retry = some r ∧ ¬ (1 ≤ r.delay ∧ r.delay ≤ 120)
  | maxSize => c.download.maxSize = 0

/-- The condition is violated, and nothing masks it: if it is about a whole record, no condition
inside the record is violated. -/
def IsReported (isUrl : String → Bool) (c : Config) (k : Condition) : Prop :=
  k.IsViolated isUrl c ∧ ∀ r, k.whole? = some r → ∀ j, IsInside r j → ¬ j.IsViolated isUrl c

/-- The path to an item of a list of the model. -/
def itemPath (list : String) (index : Nat) : String :=
  "model." ++ list ++ "[" ++ toString index ++ "]."

/-- The path to the place of the condition. -/
def path : Condition → String
  | mixedPort => "model.settings.mixed_port"
  | controllerPort => "model.settings.clash_api_port"
  | ruleSetBaseUrl => "model.settings.ruleset_base_url"
  | githubProxy => "model.settings.__all__"
  | nodeTag i => itemPath "nodes" i ++ "tag"
  | nodeServer i => itemPath "nodes" i ++ "server"
  | nodePort i => itemPath "nodes" i ++ "server_port"
  | filterName i => itemPath "filters" i ++ "name"
  | filterUrl i => itemPath "filters" i ++ "url_test_config.url"
  | ruleOutbound i => itemPath "rules" i ++ "outbound"
  | ruleGroupName i => itemPath "rule_groups" i ++ "name"
  | outboundNames => "model.__all__"
  | connectTimeout => "download.http_client.connect_timeout"
  | requestTimeout => "download.http_client.request_timeout"
  | idleTimeout | keepalive => "download.http_client.__all__"
  | retryAttempts => "download.retry.attempts"
  | retryDelay => "download.retry.delay"
  | maxSize => "download.max_size"

/-- What is said of the configuration when the condition is violated. -/
def Tells (c : Config) (check : FailedCheck) : Condition → Prop
  | mixedPort => check = ⟨"range", some "Mixed port must be greater than 0"⟩
  | controllerPort => check = ⟨"range", some "Clash API port must be greater than 0"⟩
  | ruleSetBaseUrl => check = ⟨"invalid_url", some "Rule-set base URL is invalid"⟩
  | githubProxy => check = ⟨"invalid_url", some "GitHub proxy must be a valid URL"⟩
  | nodeTag _ => check = ⟨"length", some "Node tag must not be empty"⟩
  | nodeServer _ => check = ⟨"length", some "Node server must not be empty"⟩
  | nodePort _ => check = ⟨"range", some "Node port must be greater than 0"⟩
  | filterName _ => check = ⟨"length", some "Filter name must not be empty"⟩
  | filterUrl _ => check = ⟨"invalid_url", some "URL test address is invalid"⟩
  | ruleOutbound _ => check = ⟨"length", some "Rule outbound must not be empty"⟩
  | ruleGroupName _ => check = ⟨"length", some "Rule group name must not be empty"⟩
  | outboundNames =>
    FirstClash (Validation.reservedNames c.model) (Validation.givenNames c.model) check
  | connectTimeout =>
    check = ⟨"range", some "Connect timeout must be between \x7b\x7d and \x7b\x7d seconds"⟩
  | requestTimeout =>
    check = ⟨"range", some "Request timeout must be between \x7b\x7d and \x7b\x7d seconds"⟩
  | idleTimeout => check = ⟨"invalid_idle_timeout", some "Idle timeout is out of range"⟩
  | keepalive => check = ⟨"invalid_keepalive", some "Keepalive is out of range"⟩
  | retryAttempts => check = ⟨"range", some "Retry attempts must be between \x7b\x7d and \x7b\x7d"⟩
  | retryDelay =>
    check = ⟨"range", some "Retry delay must be between \x7b\x7d and \x7b\x7d seconds"⟩
  | maxSize => check = ⟨"range", some "Max size must be greater than 0"⟩

/-! ### All conditions -/

def ofSettings : List Condition :=
  [mixedPort, controllerPort, ruleSetBaseUrl] ++ [githubProxy]

def ofNode (index : Nat) : List Condition :=
  [nodeTag index, nodeServer index, nodePort index]

def ofFilter (index : Nat) : List Condition :=
  [filterName index, filterUrl index]

/-- The conditions of a model, with those on the whole model last. -/
def ofModel (m : Model) : List Condition :=
  (ofSettings ++ (List.range m.nodes.length).flatMap ofNode ++
    (List.range m.filters.length).flatMap ofFilter ++
    (List.range m.rules.length).flatMap (fun i => [ruleOutbound i]) ++
    (List.range m.ruleGroups.length).flatMap fun i => [ruleGroupName i]) ++ [outboundNames]

def ofHttpClient : List Condition :=
  [connectTimeout, requestTimeout] ++ [idleTimeout, keepalive]

def ofRetry : List Condition :=
  [retryAttempts, retryDelay]

/-- The conditions of a configuration, in the order in which they are checked. -/
def ofConfig (c : Config) : List Condition :=
  ofModel c.model ++ (ofHttpClient ++ ofRetry ++ [maxSize])

variable {isUrl : String → Bool} {c : Config}

theorem isReported_iff_isViolated {k : Condition} (h : k.whole? = none) :
    k.IsReported isUrl c ↔ k.IsViolated isUrl c := by
  simp [IsReported, h]

/-- A condition on a whole record is reported if it is violated and nothing inside the record is. -/
theorem isReported_iff_of_whole {k : Condition} {r : WholeRecord} (h : k.whole? = some r) :
    k.IsReported isUrl c ↔
      k.IsViolated isUrl c ∧ ∀ j, IsInside r j → ¬ j.IsViolated isUrl c := by
  simp [IsReported, h]

end Condition

/-! ## Records in which nothing is violated -/

section Inside

open Condition

variable {isUrl : String → Bool} {c : Config}

theorem inside_settings_iff :
    (∀ j, IsInside .settings j → ¬ j.IsViolated isUrl c) ↔
      1 ≤ c.model.settings.mixedPort ∧ 1 ≤ c.model.settings.controllerPort ∧
        isUrl c.model.settings.ruleSetBaseUrl = true := by
  constructor
  · intro h
    refine ⟨Nat.one_le_iff_ne_zero.2 (h .mixedPort trivial),
      Nat.one_le_iff_ne_zero.2 (h .controllerPort trivial), ?_⟩
    exact eq_true_of_ne_false (h .ruleSetBaseUrl trivial)
  · rintro ⟨hmixed, hcontroller, hbase⟩ j hj
    cases j with
    | mixedPort => exact Nat.one_le_iff_ne_zero.1 hmixed
    | controllerPort => exact Nat.one_le_iff_ne_zero.1 hcontroller
    | ruleSetBaseUrl => simp [IsViolated, hbase]
    | _ => cases hj

theorem inside_httpClient_iff :
    (∀ j, IsInside .httpClient j → ¬ j.IsViolated isUrl c) ↔
      (1 ≤ c.download.client.connectTimeout ∧ c.download.client.connectTimeout ≤ 120) ∧
        (1 ≤ c.download.client.requestTimeout ∧ c.download.client.requestTimeout ≤ 1200) := by
  constructor
  · intro h
    exact ⟨not_not.1 (h .connectTimeout trivial), not_not.1 (h .requestTimeout trivial)⟩
  · rintro ⟨hconnect, hrequest⟩ j hj
    cases j with
    | connectTimeout => exact not_not.2 hconnect
    | requestTimeout => exact not_not.2 hrequest
    | _ => cases hj

theorem not_isViolated_githubProxy_iff :
    ¬ githubProxy.IsViolated isUrl c ↔
      ∀ proxy, c.model.settings.githubProxy = some proxy → proxy ≠ "" → isUrl proxy = true := by
  simp [IsViolated]

theorem inside_model_iff :
    (∀ j, IsInside .model j → ¬ j.IsViolated isUrl c) ↔
      c.model.settings.IsWellFormed isUrl ∧ (∀ n ∈ c.model.nodes, n.IsWellFormed) ∧
        (∀ f ∈ c.model.filters, f.IsWellFormed isUrl) ∧
        (∀ r ∈ c.model.rules, r.outbound ≠ "") ∧ ∀ g ∈ c.model.ruleGroups, g.name ≠ "" := by
  constructor
  · intro h
    refine ⟨?_, ?_, ?_, ?_, ?_⟩
    · obtain ⟨hmixed, hcontroller, hbase⟩ := inside_settings_iff.1 fun j hj => h j (by
        cases j <;> first | exact trivial | cases hj)
      exact ⟨hmixed, hcontroller, hbase, not_isViolated_githubProxy_iff.1 (h .githubProxy trivial)⟩
    · intro n hn
      obtain ⟨i, hi⟩ := List.getElem?_of_mem hn
      exact ⟨fun htag => h (.nodeTag i) trivial ⟨n, hi, htag⟩,
        fun hserver => h (.nodeServer i) trivial ⟨n, hi, hserver⟩,
        Nat.one_le_iff_ne_zero.2 fun hport => h (.nodePort i) trivial ⟨n, hi, hport⟩⟩
    · intro f hf
      obtain ⟨i, hi⟩ := List.getElem?_of_mem hf
      refine ⟨fun hname => h (.filterName i) trivial ⟨f, hi, hname⟩, fun t ht => ?_⟩
      exact eq_true_of_ne_false fun hurl => h (.filterUrl i) trivial ⟨f, t, hi, ht, hurl⟩
    · intro r hr houtbound
      obtain ⟨i, hi⟩ := List.getElem?_of_mem hr
      exact h (.ruleOutbound i) trivial ⟨r, hi, houtbound⟩
    · intro g hg hname
      obtain ⟨i, hi⟩ := List.getElem?_of_mem hg
      exact h (.ruleGroupName i) trivial ⟨g, hi, hname⟩
  · rintro ⟨hsettings, hnodes, hfilters, hrules, hgroups⟩ j hj
    cases j with
    | mixedPort => exact Nat.one_le_iff_ne_zero.1 hsettings.mixedPort
    | controllerPort => exact Nat.one_le_iff_ne_zero.1 hsettings.controllerPort
    | ruleSetBaseUrl => simp [IsViolated, hsettings.ruleSetBaseUrl]
    | githubProxy => exact not_isViolated_githubProxy_iff.2 hsettings.githubProxy
    | nodeTag i =>
      rintro ⟨n, hn, htag⟩
      exact (hnodes n (List.mem_of_getElem? hn)).tag htag
    | nodeServer i =>
      rintro ⟨n, hn, hserver⟩
      exact (hnodes n (List.mem_of_getElem? hn)).server hserver
    | nodePort i =>
      rintro ⟨n, hn, hport⟩
      exact Nat.one_le_iff_ne_zero.1 (hnodes n (List.mem_of_getElem? hn)).serverPort hport
    | filterName i =>
      rintro ⟨f, hf, hname⟩
      exact (hfilters f (List.mem_of_getElem? hf)).name hname
    | filterUrl i =>
      rintro ⟨f, t, hf, ht, hurl⟩
      simp [(hfilters f (List.mem_of_getElem? hf)).urlTest t ht] at hurl
    | ruleOutbound i =>
      rintro ⟨r, hr, houtbound⟩
      exact hrules r (List.mem_of_getElem? hr) houtbound
    | ruleGroupName i =>
      rintro ⟨g, hg, hname⟩
      exact hgroups g (List.mem_of_getElem? hg) hname
    | _ => cases hj

end Inside

/-! ## Clashing names -/

/-- The clash that is found is the first one. -/
theorem nameClash?_eq_some {reserved seen names : List String} {check : FailedCheck}
    (hseen : seen.Nodup ∧ ∀ other ∈ seen, other ∉ reserved)
    (h : Validation.nameClash? reserved seen names = some check) :
    FirstClash reserved (seen.reverse ++ names) check := by
  induction names generalizing seen with
  | nil => cases h
  | cons name rest ih =>
    have hbefore : seen.reverse.Nodup ∧ ∀ other ∈ seen.reverse, other ∉ reserved :=
      ⟨List.nodup_reverse.2 hseen.1, fun other hother => hseen.2 other (List.mem_reverse.1 hother)⟩
    unfold Validation.nameClash? at h
    split at h
    · rename_i hreserved
      cases h
      exact .reserved rfl hbefore hreserved
    · rename_i hfree
      split at h
      · rename_i hagain
        cases h
        exact .repeated rfl hbefore hfree (List.mem_reverse.2 hagain)
      · rename_i hnew
        have hseen' : (name :: seen).Nodup ∧ ∀ other ∈ name :: seen, other ∉ reserved :=
          ⟨List.nodup_cons.2 ⟨hnew, hseen.1⟩, List.forall_mem_cons.2 ⟨hfree, hseen.2⟩⟩
        have hrest := ih hseen' h
        rwa [List.reverse_cons, List.append_assoc, List.singleton_append] at hrest

/-! ## Failed checks, condition by condition -/

namespace Faults

variable {path name : String}

theorem failures_append {faults others : Faults} :
    failures path (faults ++ others) = failures path faults ++ failures path others := by
  induction faults with
  | nil => rfl
  | cons field rest ih => simp [failures, ih]

theorem failures_nested {faults : Faults} :
    failures path (nested name faults) = failures (path ++ name ++ ".") faults := by
  cases faults <;> simp [nested, failures, fieldFailures]

theorem failures_each {α : Type} {validate : α → Faults} {items : List α} :
    failures path (each name validate items) =
      itemFailures (path ++ name) (faultyItems validate 0 items) := by
  unfold each
  cases faultyItems validate 0 items <;> simp [failures, fieldFailures, itemFailures]

end Faults

section Accounts

open Faults Condition Validation

/-- The failed checks are those of the reported ones among these conditions, in the same order. -/
def Accounts (isUrl : String → Bool) (c : Config) (scope : List Condition)
    (failed : List (String × FailedCheck)) : Prop :=
  List.Forall₂ (fun k f => f.1 = k.path ∧ k.Tells c f.2)
    (scope.filter fun k => @decide (k.IsReported isUrl c) (Classical.propDecidable _)) failed

variable {isUrl : String → Bool} {c : Config} {scope others : List Condition} {k : Condition}
  {failed more : List (String × FailedCheck)} {path name code message : String} {faults : Faults}

theorem Accounts.nil : Accounts isUrl c [] [] :=
  List.Forall₂.nil

theorem Accounts.append (h : Accounts isUrl c scope failed) (hmore : Accounts isUrl c others more) :
    Accounts isUrl c (scope ++ others) (failed ++ more) := by
  unfold Accounts
  rw [List.filter_append]
  exact List.rel_append h hmore

/-- Where no condition is reported there is no failed check. -/
theorem Accounts.of_not_isReported (h : ∀ k ∈ scope, ¬ k.IsReported isUrl c) :
    Accounts isUrl c scope [] := by
  unfold Accounts
  rw [List.filter_eq_nil_iff.2 (by simpa using h)]
  exact List.Forall₂.nil

theorem Accounts.of_isReported {check : FailedCheck} (hreported : k.IsReported isUrl c)
    (htells : k.Tells c check) : Accounts isUrl c [k] [(k.path, check)] := by
  unfold Accounts
  rw [List.filter_cons_of_pos (by simpa using hreported)]
  exact .cons ⟨rfl, htells⟩ .nil

/-- A check of a field stands for the condition on the field. -/
theorem accounts_check {holds : Bool} (hwhole : k.whole? = none) (hpath : path ++ name = k.path)
    (htells : k.Tells c ⟨code, some message⟩) (hholds : k.IsViolated isUrl c ↔ holds = false) :
    Accounts isUrl c [k] (failures path (check name holds code message)) := by
  rw [← isReported_iff_isViolated hwhole] at hholds
  cases holds with
  | true => exact .of_not_isReported (by simpa using hholds)
  | false =>
    simp only [check, failures, fieldFailures, Bool.false_eq_true, if_false, List.map_cons,
      List.map_nil, List.append_nil, hpath]
    exact .of_isReported (hholds.2 rfl) htells

/-- The items of a list are accounted for one by one. -/
theorem accounts_itemFailures {α : Type} {validate : α → Faults} {items : List α} {index : Nat}
    {scopeAt : Nat → List Condition}
    (h : ∀ i x, items[i]? = some x → Accounts isUrl c (scopeAt (index + i))
      (failures (path ++ "[" ++ toString (index + i) ++ "].") (validate x))) :
    Accounts isUrl c ((List.range' index items.length).flatMap scopeAt)
      (itemFailures path (faultyItems validate index items)) := by
  induction items generalizing index with
  | nil => exact .nil
  | cons x rest ih =>
    have hfirst := h 0 x rfl
    have hrest : Accounts isUrl c ((List.range' (index + 1) rest.length).flatMap scopeAt)
        (itemFailures path (faultyItems validate (index + 1) rest)) := by
      refine ih fun i y hy => ?_
      have hitem := h (i + 1) y hy
      rwa [Nat.add_right_comm index 1 i]
    rw [List.length_cons, List.range'_succ, List.flatMap_cons]
    have hsplit : itemFailures path (faultyItems validate index (x :: rest)) =
        failures (path ++ "[" ++ toString index ++ "].") (validate x) ++
          itemFailures path (faultyItems validate (index + 1) rest) := by
      rw [faultyItems]
      cases validate x <;> simp [itemFailures, failures]
    rw [hsplit]
    exact hfirst.append hrest

/-- The checks of a whole record come after those of its fields, if none of these has failed. -/
theorem accounts_orElseWhole {failedChecks : List FailedCheck} {r : WholeRecord}
    (hfields : Accounts isUrl c scope (failures path faults))
    (hinside : faults = [] ↔ ∀ j, IsInside r j → ¬ j.IsViolated isUrl c)
    (hothers : ∀ k ∈ others, k.whole? = some r)
    (hwhole : (∀ j, IsInside r j → ¬ j.IsViolated isUrl c) →
      Accounts isUrl c others (failedChecks.map fun f => (path ++ wholeRecord, f))) :
    Accounts isUrl c (scope ++ others) (failures path (orElseWhole faults failedChecks)) := by
  by_cases hempty : faults = []
  · have hboth := hfields.append (hwhole (hinside.1 hempty))
    subst hempty
    cases failedChecks with
    | nil => exact hboth
    | cons f rest => simpa [orElseWhole, failures, fieldFailures] using hboth
  · have hkept : orElseWhole faults failedChecks = faults := by
      simp [orElseWhole, hempty]
    have hmasked : ∀ k ∈ others, ¬ k.IsReported isUrl c := fun k hk hreported =>
      hempty (hinside.2 ((isReported_iff_of_whole (hothers k hk)).1 hreported).2)
    rw [hkept, ← List.append_nil (failures path faults)]
    exact hfields.append (.of_not_isReported hmasked)

/-- A check of a whole record stands for the condition on the record. -/
theorem accounts_whole {holds : Bool} {r : WholeRecord} (hwhole : k.whole? = some r)
    (hpath : path = k.path) (hinside : ∀ j, IsInside r j → ¬ j.IsViolated isUrl c)
    (htells : k.Tells c ⟨code, some message⟩) (hholds : k.IsViolated isUrl c ↔ holds = false) :
    Accounts isUrl c [k] ((whole holds code message).map fun f => (path, f)) := by
  have hreported : k.IsReported isUrl c ↔ holds = false := by
    rw [isReported_iff_of_whole hwhole, hholds]
    exact and_iff_left hinside
  cases holds with
  | true => exact .of_not_isReported (by simpa using hreported)
  | false =>
    subst hpath
    exact .of_isReported (hreported.2 rfl) htells

/-! ### Records -/

theorem accounts_settings : Accounts isUrl c ofSettings
    (failures "model.settings." (settings isUrl c.model.settings)) := by
  have hmixed : Accounts isUrl c [mixedPort] (failures "model.settings."
      (positive "mixed_port" c.model.settings.mixedPort "Mixed port must be greater than 0")) :=
    accounts_check rfl rfl rfl (by simp [IsViolated])
  have hcontroller : Accounts isUrl c [controllerPort] (failures "model.settings."
      (positive "clash_api_port" c.model.settings.controllerPort
        "Clash API port must be greater than 0")) :=
    accounts_check rfl rfl rfl (by simp [IsViolated])
  have hbase : Accounts isUrl c [ruleSetBaseUrl] (failures "model.settings."
      (check "ruleset_base_url" (isUrl c.model.settings.ruleSetBaseUrl) "invalid_url"
        "Rule-set base URL is invalid")) :=
    accounts_check rfl rfl rfl Iff.rfl
  have hproxy : githubProxy.IsViolated isUrl c ↔
      c.model.settings.downloadPrefix?.all isUrl = false := by
    rw [← not_iff_not, Bool.not_eq_false, all_downloadPrefix?_iff]
    exact not_isViolated_githubProxy_iff
  refine accounts_orElseWhole (r := .settings) ?_ ?_ (by simp [whole?]) fun hinside =>
    accounts_whole rfl rfl hinside rfl hproxy
  · rw [failures_append, failures_append]
    exact (hmixed.append hcontroller).append hbase
  · simp [inside_settings_iff, Nat.one_le_iff_ne_zero]

theorem accounts_node {i : Nat} {n : Node} (hn : c.model.nodes[i]? = some n) :
    Accounts isUrl c (ofNode i) (failures (itemPath "nodes" i) (node n)) := by
  have htag : Accounts isUrl c [nodeTag i] (failures (itemPath "nodes" i)
      (notEmpty "tag" n.tag "Node tag must not be empty")) :=
    accounts_check rfl rfl rfl (by simp [IsViolated, hn])
  have hserver : Accounts isUrl c [nodeServer i] (failures (itemPath "nodes" i)
      (notEmpty "server" n.server "Node server must not be empty")) :=
    accounts_check rfl rfl rfl (by simp [IsViolated, hn])
  have hport : Accounts isUrl c [nodePort i] (failures (itemPath "nodes" i)
      (positive "server_port" n.serverPort "Node port must be greater than 0")) :=
    accounts_check rfl rfl rfl (by simp [IsViolated, hn])
  rw [node, failures_append, failures_append]
  exact (htag.append hserver).append hport

theorem accounts_filter {i : Nat} {f : Filter} (hf : c.model.filters[i]? = some f) :
    Accounts isUrl c (ofFilter i) (failures (itemPath "filters" i) (filter isUrl f)) := by
  have hname : Accounts isUrl c [filterName i] (failures (itemPath "filters" i)
      (notEmpty "name" f.name "Filter name must not be empty")) :=
    accounts_check rfl rfl rfl (by simp [IsViolated, hf])
  rw [filter, failures_append]
  refine hname.append ?_
  cases htest : f.urlTest with
  | none => exact .of_not_isReported (by simp [IsReported, IsViolated, hf, htest])
  | some t =>
    rw [failures_nested]
    have hpath :
        itemPath "filters" i ++ "url_test_config" ++ "." ++ "url" = (filterUrl i).path := by
      rw [String.append_assoc, String.append_assoc]
      rfl
    exact accounts_check rfl hpath rfl (by simp [IsViolated, hf, htest])

theorem accounts_rule {i : Nat} {r : Rule} (hr : c.model.rules[i]? = some r) :
    Accounts isUrl c [ruleOutbound i] (failures (itemPath "rules" i) (rule r)) :=
  accounts_check rfl rfl rfl (by simp [IsViolated, hr])

theorem accounts_ruleGroup {i : Nat} {g : RuleGroup} (hg : c.model.ruleGroups[i]? = some g) :
    Accounts isUrl c [ruleGroupName i] (failures (itemPath "rule_groups" i) (ruleGroup g)) :=
  accounts_check rfl rfl rfl (by simp [IsViolated, hg])

/-- A list of the model is accounted for when its items are. -/
theorem accounts_each {α : Type} {validate : α → Faults} {items : List α}
    {scopeAt : Nat → List Condition}
    (h : ∀ i x, items[i]? = some x →
      Accounts isUrl c (scopeAt i) (failures (itemPath name i) (validate x))) :
    Accounts isUrl c ((List.range items.length).flatMap scopeAt)
      (failures "model." (each name validate items)) := by
  rw [failures_each, List.range_eq_range']
  refine accounts_itemFailures fun i x hx => ?_
  rw [Nat.zero_add]
  exact h i x hx

theorem accounts_model :
    Accounts isUrl c (ofModel c.model) (failures "model." (model isUrl c.model)) := by
  refine accounts_orElseWhole (r := .model) ?_ ?_ (by simp [whole?]) fun hinside => ?_
  · rw [failures_append, failures_append, failures_append, failures_append, failures_nested]
    exact (((accounts_settings.append (accounts_each fun _ _ hn => accounts_node hn)).append
      (accounts_each fun _ _ hf => accounts_filter hf)).append
      (accounts_each fun _ _ hr => accounts_rule hr)).append
      (accounts_each fun _ _ hg => accounts_ruleGroup hg)
  · simp only [List.append_eq_nil_iff, nested_eq_nil_iff, settings_eq_nil_iff, each_eq_nil_iff,
      node_eq_nil_iff, filter_eq_nil_iff, rule, ruleGroup, notEmpty_eq_nil_iff, inside_model_iff,
      and_assoc]
  · have hreported : outboundNames.IsReported isUrl c ↔
        nameClash? (reservedNames c.model) [] (givenNames c.model) ≠ none := by
      rw [isReported_iff_of_whole rfl, and_iff_left hinside, Ne, nameClash?_givenNames_eq_none_iff]
      rfl
    cases hclash : nameClash? (reservedNames c.model) [] (givenNames c.model) with
    | none => exact .of_not_isReported (by simp [hreported, hclash])
    | some found =>
      have hfirst := nameClash?_eq_some (by simp) hclash
      exact .of_isReported (hreported.2 (by simp [hclash])) hfirst

theorem contains_eq_false_iff (interval : Interval) (value : Nat) :
    interval.contains value = false ↔ ¬ (interval.least ≤ value ∧ value ≤ interval.greatest) := by
  rw [← Bool.not_eq_true, Interval.contains_iff]

theorem all_contains_eq_false_iff (interval : Interval) (value : Option Nat) :
    value.all interval.contains = false ↔
      ∃ n, value = some n ∧ ¬ (interval.least ≤ n ∧ n ≤ interval.greatest) := by
  cases value <;> simp [contains_eq_false_iff]

theorem accounts_httpClient : Accounts isUrl c ofHttpClient
    (failures "download.http_client." (httpClient c.download.client)) := by
  have hconnect : Accounts isUrl c [connectTimeout] (failures "download.http_client."
      (within "connect_timeout" Download.connectTimeouts c.download.client.connectTimeout
        "Connect timeout must be between \x7b\x7d and \x7b\x7d seconds")) :=
    accounts_check rfl rfl rfl (contains_eq_false_iff Download.connectTimeouts _).symm
  have hrequest : Accounts isUrl c [requestTimeout] (failures "download.http_client."
      (within "request_timeout" Download.requestTimeouts c.download.client.requestTimeout
        "Request timeout must be between \x7b\x7d and \x7b\x7d seconds")) :=
    accounts_check rfl rfl rfl (contains_eq_false_iff Download.requestTimeouts _).symm
  refine accounts_orElseWhole (r := .httpClient) ?_ ?_ (by simp [whole?]) fun hinside => ?_
  · rw [failures_append]
    exact hconnect.append hrequest
  · simp only [List.append_eq_nil_iff, within_eq_nil_iff, inside_httpClient_iff]
    rfl
  · have hidle := all_contains_eq_false_iff Download.idleTimeouts c.download.client.idleTimeout
    have hkeepalive :=
      all_contains_eq_false_iff Download.keepaliveTimes c.download.client.keepalive
    have hfirst : Accounts isUrl c [idleTimeout] _ :=
      accounts_whole rfl rfl hinside rfl hidle.symm
    have hsecond : Accounts isUrl c [keepalive] _ :=
      accounts_whole rfl rfl hinside rfl hkeepalive.symm
    rw [List.map_append]
    exact hfirst.append hsecond

theorem accounts_retry {r : Retry} (hr : c.download.retry = some r) :
    Accounts isUrl c ofRetry (failures "download.retry." (retry r)) := by
  have hattempts : Accounts isUrl c [retryAttempts] (failures "download.retry."
      (within "attempts" Download.retryAttempts r.attempts
        "Retry attempts must be between \x7b\x7d and \x7b\x7d")) :=
    accounts_check rfl rfl rfl
      (by simp [IsViolated, hr, contains_eq_false_iff, Download.retryAttempts])
  have hdelay : Accounts isUrl c [retryDelay] (failures "download.retry."
      (within "delay" Download.retryDelays r.delay
        "Retry delay must be between \x7b\x7d and \x7b\x7d seconds")) :=
    accounts_check rfl rfl rfl
      (by simp [IsViolated, hr, contains_eq_false_iff, Download.retryDelays])
  rw [retry, failures_append]
  exact hattempts.append hdelay

theorem accounts_download : Accounts isUrl c (ofHttpClient ++ ofRetry ++ [maxSize])
    (failures "download." (download c.download)) := by
  have hsize : Accounts isUrl c [maxSize] (failures "download."
      (positive "max_size" c.download.maxSize "Max size must be greater than 0")) :=
    accounts_check rfl rfl rfl (by simp [IsViolated])
  rw [download, failures_append, failures_append, failures_nested]
  refine (accounts_httpClient.append ?_).append hsize
  cases hretry : c.download.retry with
  | none => exact .of_not_isReported (by simp [ofRetry, IsReported, IsViolated, hretry])
  | some r =>
    rw [failures_nested]
    exact accounts_retry hretry

/-- The failed checks of a configuration are those of its conditions that are reported. -/
theorem accounts_config : Accounts isUrl c (ofConfig c) (failures "" (config isUrl c)) := by
  rw [config, failures_append, failures_nested, failures_nested]
  exact accounts_model.append accounts_download

end Accounts

/-! ## What validation reports -/

namespace Condition

variable {isUrl : String → Bool} {c : Config}

/-- No violated condition is left out. -/
theorem mem_ofConfig_of_isViolated {k : Condition} (h : k.IsViolated isUrl c) : k ∈ ofConfig c := by
  have hlength {α : Type} {items : List α} {i : Nat} {x : α} (hx : items[i]? = some x) :
      i < items.length := (List.getElem?_eq_some_iff.1 hx).1
  simp only [ofConfig, ofModel, ofSettings, ofHttpClient, ofRetry, List.mem_append,
    List.mem_flatMap, List.mem_range, List.mem_cons]
  cases k with
  | nodeTag i | nodeServer i | nodePort i =>
    obtain ⟨n, hn, -⟩ := h
    simp [ofNode, ofFilter, hlength hn]
  | filterName i =>
    obtain ⟨f, hf, -⟩ := h
    simp [ofNode, ofFilter, hlength hf]
  | filterUrl i =>
    obtain ⟨f, t, hf, -⟩ := h
    simp [ofNode, ofFilter, hlength hf]
  | ruleOutbound i =>
    obtain ⟨r, hr, -⟩ := h
    simp [ofNode, ofFilter, hlength hr]
  | ruleGroupName i =>
    obtain ⟨g, hg, -⟩ := h
    simp [ofNode, ofFilter, hlength hg]
  | _ => simp

/-- Conditions of different items are different. -/
theorem nodup_flatMap_range {scopeAt : Nat → List Condition} {n : Nat}
    (hitem : ∀ i, (scopeAt i).Nodup)
    (hindex : ∀ i j k, k ∈ scopeAt i → k ∈ scopeAt j → i = j) :
    ((List.range n).flatMap scopeAt).Nodup := by
  rw [List.nodup_flatMap]
  refine ⟨fun i _ => hitem i, List.nodup_range.imp fun {i j} hne => ?_⟩
  exact fun k hi hj => hne (hindex i j k hi hj)

theorem nodup_ofConfig : (ofConfig c).Nodup := by
  have hnodes : ((List.range c.model.nodes.length).flatMap ofNode).Nodup :=
    nodup_flatMap_range (by simp [ofNode]) (by simp [ofNode])
  have hfilters : ((List.range c.model.filters.length).flatMap ofFilter).Nodup :=
    nodup_flatMap_range (by simp [ofFilter]) (by simp [ofFilter])
  have hrules : ((List.range c.model.rules.length).flatMap fun i => [ruleOutbound i]).Nodup :=
    nodup_flatMap_range (by simp) (by simp)
  have hgroups :
      ((List.range c.model.ruleGroups.length).flatMap fun i => [ruleGroupName i]).Nodup :=
    nodup_flatMap_range (by simp) (by simp)
  have hsettings : ofSettings.Nodup := by decide
  have hdownload : (ofHttpClient ++ ofRetry ++ [maxSize]).Nodup := by decide
  rw [ofConfig, ofModel]
  refine (((((hsettings.append hnodes ?_).append hfilters ?_).append hrules ?_).append
    hgroups ?_).append (List.nodup_singleton _) ?_).append hdownload ?_
  all_goals
    intro k hk hk'
    cases k <;> simp [ofSettings, ofNode, ofFilter, ofHttpClient, ofRetry] at hk hk'

/-! ### Masked conditions -/

/-- Of the conditions inside a record, only the one on the GitHub proxy can be masked itself. -/
theorem whole?_of_isInside {r : WholeRecord} {j : Condition} (h : IsInside r j) :
    j.whole? = none ∨ r = .model ∧ j = githubProxy := by
  cases r <;> cases j <;> first | exact .inl rfl | exact .inr ⟨rfl, rfl⟩ | cases h

/-- If a violated condition is masked, a condition that masks it, or masks that one, is reported. -/
theorem exists_isReported {k : Condition} (h : k.IsViolated isUrl c) :
    ∃ j : Condition, j.IsReported isUrl c := by
  by_contra hnone
  have hplain : ∀ j : Condition, j.whole? = none → ¬ j.IsViolated isUrl c :=
    fun j hj hviolated => hnone ⟨j, (isReported_iff_isViolated hj).2 hviolated⟩
  have hunmasked : ∀ (j : Condition) (r : WholeRecord), j.whole? = some r → r ≠ .model →
      ¬ j.IsViolated isUrl c := by
    intro j r hj hr hviolated
    refine hnone ⟨j, (isReported_iff_of_whole hj).2 ⟨hviolated, fun i hi => hplain i ?_⟩⟩
    exact (whole?_of_isInside hi).resolve_right fun h => hr h.1
  cases hwhole : k.whole? with
  | none => exact hplain k hwhole h
  | some r =>
    by_cases hr : r = .model
    · refine hnone ⟨k, (isReported_iff_of_whole hwhole).2 ⟨h, fun i hi => ?_⟩⟩
      rcases whole?_of_isInside hi with hi | ⟨-, rfl⟩
      · exact hplain i hi
      · exact hunmasked githubProxy .settings rfl (by decide)
    · exact hunmasked k r hwhole hr h

/-- A configuration is well formed when none of its conditions is violated. -/
theorem isWellFormed_iff_forall_not_isViolated :
    c.IsWellFormed isUrl ↔ ∀ k : Condition, ¬ k.IsViolated isUrl c := by
  constructor
  · intro h k hk
    have hreported : List.Forall₂ _ _ (Faults.failures "" (Validation.config isUrl c)) :=
      accounts_config
    rw [Validation.config_eq_nil_iff.2 h] at hreported
    have hnone := List.forall₂_nil_right_iff.1 hreported
    obtain ⟨j, hj⟩ := exists_isReported hk
    exact List.filter_eq_nil_iff.1 hnone j (mem_ofConfig_of_isViolated hj.1) (by simpa using hj)
  · intro h
    obtain ⟨hsettings, hnodes, hfilters, hrules, hgroups⟩ := inside_model_iff.1 fun j _ => h j
    have hnames : c.model.HasFreeNames := not_not.1 (h .outboundNames)
    obtain ⟨hconnect, hrequest⟩ := inside_httpClient_iff.1 fun j _ => h j
    have hidle : ∀ t, c.download.client.idleTimeout = some t → 5 ≤ t ∧ t ≤ 1800 :=
      fun t ht => not_not.1 fun hbad => h .idleTimeout ⟨t, ht, hbad⟩
    have hkeepalive : ∀ t, c.download.client.keepalive = some t → 5 ≤ t ∧ t ≤ 600 :=
      fun t ht => not_not.1 fun hbad => h .keepalive ⟨t, ht, hbad⟩
    have hretry : ∀ r, c.download.retry = some r → r.IsWellFormed := fun r hr =>
      ⟨not_not.1 fun hbad => h .retryAttempts ⟨r, hr, hbad⟩,
        not_not.1 fun hbad => h .retryDelay ⟨r, hr, hbad⟩⟩
    exact ⟨⟨hsettings, hnodes, hfilters, hrules, hgroups, hnames⟩,
      ⟨⟨hconnect, hrequest, hidle, hkeepalive⟩, hretry, Nat.one_le_iff_ne_zero.2 (h .maxSize)⟩⟩

end Condition

/-- Validation accepts the well-formed configurations.  Of the others it reports the violated
conditions that nothing masks, each once and at its place, and there is always one to report. -/
theorem validation_exact (c : Config) :
    (∀ isUrl : String → Bool,
      (Validation.config isUrl c = [] ↔ c.IsWellFormed isUrl) ∧
      (c.IsWellFormed isUrl ↔ ∀ k : Condition, ¬ k.IsViolated isUrl c) ∧
      ∃ reported : List Condition, reported.Nodup ∧ (∀ k, k ∈ reported ↔ k.IsReported isUrl c) ∧
        (reported = [] ↔ c.IsWellFormed isUrl) ∧
        List.Forall₂ (fun k f => f.1 = k.path ∧ k.Tells c f.2) reported
          (Faults.failures "" (Validation.config isUrl c))) ∧
      (c.IsWellFormed Url.isValid ∧ c.validated = .ok c ∨
        ¬ c.IsWellFormed Url.isValid ∧
          c.validated = .error (.invalid (Validation.config Url.isValid c))) := by
  classical
  constructor
  · intro isUrl
    have hmem : ∀ k, k ∈ (Condition.ofConfig c).filter (fun k => k.IsReported isUrl c) ↔
        k.IsReported isUrl c := by
      intro k
      rw [List.mem_filter, decide_eq_true_iff]
      exact and_iff_right_of_imp fun hk => Condition.mem_ofConfig_of_isViolated hk.1
    refine ⟨Validation.config_eq_nil_iff, Condition.isWellFormed_iff_forall_not_isViolated, _,
      Condition.nodup_ofConfig.filter _, hmem, ?_, accounts_config⟩
    rw [List.eq_nil_iff_forall_not_mem, Condition.isWellFormed_iff_forall_not_isViolated]
    constructor
    · intro hnone k hk
      obtain ⟨j, hj⟩ := Condition.exists_isReported hk
      exact hnone j ((hmem j).2 hj)
    · exact fun hall k hk => hall k ((hmem k).1 hk).1
  · unfold Config.validated
    rw [← Validation.config_eq_nil_iff]
    cases Validation.config Url.isValid c <;> simp

end ProxyConfig
