import ProxyConfig.Clash.Document
import ProxyConfig.SingBox.Document
import ProxyConfig.Yaml.Write

/-!
# Compilation

A model becomes one complete document, or there is an error and no document at all.
-/

namespace ProxyConfig

/-- The document of a plan. -/
def Plan.render (plan : Plan) : Format → String
  | .singBox => (SingBox.Document.assemble plan).text
  | .clash => Yaml.document (Clash.Document.assemble plan).toJson

/-- The document of a model in a format. -/
def compile (format : Format) (model : Model) (options : CompileOptions) :
    Except CompileError String :=
  (Plan.prepare model options).map fun plan => plan.render format

theorem compile_eq_error_iff {format : Format} {model : Model} {options : CompileOptions}
    {e : CompileError} :
    compile format model options = .error e ↔ Plan.prepare model options = .error e := by
  unfold compile
  cases Plan.prepare model options <;> simp [Except.map]

end ProxyConfig
