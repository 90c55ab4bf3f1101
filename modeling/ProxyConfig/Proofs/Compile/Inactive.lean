import ProxyConfig.Proofs.Compile.Plan
import ProxyConfig.Proofs.Outbound.Groups

/-!
# Entries that leave no trace

A node of an unknown type, an entry that is switched off, a rule without values and a filter that
accepts no node contribute nothing to a document.  The model without them is compiled to the same
result, whichever format is asked for.

Main results:

- `ofModel_active`: the plan of a model is the plan of its active part.
- `compile_active`: the active part is compiled to the same result, which is an error exactly when
  no node can be encoded.
-/

namespace ProxyConfig

/-! ## The active part of a model -/

/-- The filter is switched on and accepts one of the nodes. -/
def Filter.isActive (nodes : List Node) (f : Filter) : Bool :=
  f.enabled && nodes.any f.accepts

/-- The rule is switched on and has a value. -/
def Rule.isActive (rule : Rule) : Bool :=
  rule.enabled && !rule.values.isEmpty

/-- A model without the entries that contribute nothing. -/
def Model.active (model : Model) : Model where
  settings := model.settings
  nodes := model.encodable
  filters := model.filters.filter (Filter.isActive model.encodable)
  rules := model.rules.filter Rule.isActive
  ruleGroups := model.ruleGroups.filter RuleGroup.enabled

@[simp]
theorem encodable_active (model : Model) : model.active.encodable = model.encodable := by
  simp [Model.encodable, Model.active]

/-! ## Groups -/

/-- The groups of filters are those of the active ones. -/
theorem ofFilters_filter_isActive (filters : List Filter) (nodes : List Node) :
    Group.ofFilters (filters.filter (Filter.isActive nodes)) nodes =
      Group.ofFilters filters nodes := by
  unfold Group.ofFilters
  simp only [List.filter_map, List.filter_filter, Function.comp_def, Filter.isEmpty_members,
    Bool.not_not]
  congr 1
  apply List.filter_congr
  intro f hf
  cases henabled : f.enabled <;> cases haccepts : nodes.any f.accepts <;>
    simp [Filter.isActive, henabled, haccepts]

/-- The groups of a model are those of its active filters and rule groups. -/
theorem build_active (model : Model) (nodes : List Node) :
    Group.build nodes (model.filters.filter (Filter.isActive nodes))
        (model.ruleGroups.filter RuleGroup.enabled) model.settings =
      Group.build nodes model.filters model.ruleGroups model.settings := by
  have hgroups : (model.ruleGroups.filter RuleGroup.enabled).filter RuleGroup.enabled =
      model.ruleGroups.filter RuleGroup.enabled := by
    simp
  unfold Group.build
  rw [ofFilters_filter_isActive, hgroups]

/-! ## Records -/

/-- A rule that is switched on and not active has no records. -/
theorem records_eq_nil_of_not_isActive {rule : Rule} (henabled : rule.enabled = true)
    (hactive : rule.isActive = false) : rule.records = [] := by
  have hvalues : rule.values = [] := by
    simpa [Rule.isActive, henabled] using hactive
  simp [Rule.records, hvalues]

/-- The records of the enabled rules are those of the active ones. -/
theorem flatMap_records_filter_isActive (rules : List Rule) :
    ((rules.filter Rule.isActive).filter Rule.enabled).flatMap Rule.records =
      (rules.filter Rule.enabled).flatMap Rule.records := by
  induction rules with
  | nil => rfl
  | cons rule rest ih =>
    cases henabled : rule.enabled with
    | false =>
      have hactive : rule.isActive = false := by simp [Rule.isActive, henabled]
      simpa [hactive, henabled] using ih
    | true =>
      cases hactive : rule.isActive with
      | false =>
        have hrecords := records_eq_nil_of_not_isActive henabled hactive
        simpa [hactive, henabled, hrecords] using ih
      | true => simpa [hactive, henabled] using ih

/-- The records of a model are those of its active rules and rule groups. -/
theorem records_filter_isActive (rules : List Rule) (groups : List RuleGroup) :
    Routing.records (rules.filter Rule.isActive) (groups.filter RuleGroup.enabled) =
      Routing.records rules groups := by
  have hgroups : (groups.filter RuleGroup.enabled).filter RuleGroup.enabled =
      groups.filter RuleGroup.enabled := by
    simp
  unfold Routing.records
  rw [flatMap_records_filter_isActive, hgroups]

/-! ## Documents -/

/-- The plan of a model is the plan of its active part. -/
theorem ofModel_active (model : Model) (options : CompileOptions) :
    Plan.ofModel model.active options = Plan.ofModel model options := by
  unfold Plan.ofModel
  simp only [encodable_active]
  unfold Model.active
  simp only [build_active, records_filter_isActive]

/-- A plan is made from the active part of a model. -/
theorem prepare_active (model : Model) (options : CompileOptions) :
    Plan.prepare model.active options = Plan.prepare model options := by
  rw [prepare_eq, prepare_eq, encodable_active, ofModel_active]

/-- Inactive entries leave no trace.

In either format and with any options, the model without its nodes of unknown types, its filters
and rules that are switched off or contribute nothing, and its rule groups that are switched off is
compiled to the same result, document or error.  The result is an error exactly when no node can be
encoded, and the error says so. -/
theorem compile_active (format : Format) (model : Model) (options : CompileOptions) :
    compile format model.active options = compile format model options ∧
      ∀ e, compile format model options = .error e ↔
        e = .noNodes ∧ ∀ n ∈ model.nodes, n.isEncodable = false := by
  refine ⟨?_, ?_⟩
  · unfold compile
    rw [prepare_active]
  · intro e
    rw [compile_eq_error_iff, prepare_eq_error_iff]
    simp [Model.encodable]

end ProxyConfig
