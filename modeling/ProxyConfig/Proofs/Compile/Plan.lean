import ProxyConfig.Compile

/-!
# Compilations that succeed

There is a document exactly when some node can be encoded, and then it is the document of one plan,
which depends only on the model and the options.

Main results:

- `prepare_eq_ok_iff`: which plans there are.
- `compile_eq_ok_iff`, `compile_eq_ok_iff_render`: which documents there are.
-/

namespace ProxyConfig

/-- What a model and the options come to when some node can be encoded. -/
def Plan.ofModel (model : Model) (options : CompileOptions) : Plan where
  settings := model.settings
  nodes := model.encodable
  groups := Group.build model.encodable model.filters model.ruleGroups model.settings
  records := Routing.records model.rules model.ruleGroups
  mobile := options.mobile || model.settings.mobileMode
  localRuleSets := options.localRuleSets

variable {model : Model} {options : CompileOptions}

/-- The plan of a model, if there is one. -/
theorem prepare_eq (model : Model) (options : CompileOptions) :
    Plan.prepare model options =
      if model.encodable.isEmpty then .error .noNodes else .ok (Plan.ofModel model options) :=
  rfl

/-- There is a plan exactly when some node can be encoded. -/
theorem prepare_eq_ok_iff {plan : Plan} :
    Plan.prepare model options = .ok plan ↔
      model.encodable ≠ [] ∧ plan = Plan.ofModel model options := by
  unfold Plan.prepare
  cases h : model.encodable with
  | nil => simp
  | cons n rest => simp [Plan.ofModel, h, eq_comm]

/-- There is no plan exactly when no node can be encoded. -/
theorem prepare_eq_error_iff {e : CompileError} :
    Plan.prepare model options = .error e ↔ e = .noNodes ∧ model.encodable = [] := by
  rw [prepare_eq]
  cases model.encodable <;> simp [eq_comm]

/-- A document is the rendering of a plan. -/
theorem compile_eq_ok_iff {format : Format} {text : String} :
    compile format model options = .ok text ↔
      ∃ plan, Plan.prepare model options = .ok plan ∧ plan.render format = text := by
  unfold compile
  cases Plan.prepare model options <;> simp [Except.map]

/-- The documents of a model are renderings of its plan. -/
theorem compile_eq_ok_iff_render {format : Format} {text : String} :
    compile format model options = .ok text ↔
      model.encodable ≠ [] ∧ text = (Plan.ofModel model options).render format := by
  rw [compile_eq_ok_iff]
  constructor
  · rintro ⟨plan, hplan, rfl⟩
    obtain ⟨hnodes, rfl⟩ := prepare_eq_ok_iff.1 hplan
    exact ⟨hnodes, rfl⟩
  · rintro ⟨hnodes, rfl⟩
    exact ⟨_, prepare_eq_ok_iff.2 ⟨hnodes, rfl⟩, rfl⟩

theorem mem_encodable {n : Node} : n ∈ model.encodable ↔ n ∈ model.nodes ∧ n.isEncodable := by
  simp [Model.encodable]

end ProxyConfig
