import RagDrift.Python.Builtins

set_option autoImplicit false

/- `evaluator.optimization.models`. -/
namespace RagDrift.Optimization

variable {N : Type}

/-- A remediation proposed for one change. -/
structure OptimizationAction (N : Type) where
  actionType : String
  targetRunId : String
  changeId : String
  description : String
  metadata : Dict N

/-- What makes two actions identical to the guardrails' documentation. -/
def OptimizationAction.triple (action : OptimizationAction N) : String × String × String :=
  (action.actionType, action.targetRunId, action.changeId)

end RagDrift.Optimization
