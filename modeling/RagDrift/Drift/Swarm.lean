import RagDrift.Collections.Distinct
import RagDrift.Drift.Calculators
import RagDrift.Numeric.Arrays
import RagDrift.Telemetry.Frames
import Mathlib.Analysis.SpecialFunctions.Log.Basic

set_option autoImplicit false

/- `evaluator.drift.swarm_drift`, in exact real arithmetic. -/
namespace RagDrift.Drift

open Numeric (mean mean_perm)
open Telemetry (ExecutionMetadataPayload)

/-- `payload.agent_hops or []`. -/
def agentHops (payload : ExecutionMetadataPayload) : List String :=
  payload.agentHops.getD []

/-- `zip(hops, hops[1:])` over all payloads. -/
def hopPairs (payloads : List ExecutionMetadataPayload) : List (String × String) :=
  payloads.flatMap fun payload => (agentHops payload).zip (agentHops payload).tail

/-- The agents in the order they are first seen. -/
def seenAgents (payloads : List ExecutionMetadataPayload) : List String :=
  (payloads.flatMap agentHops).eraseDups

section Transitions

variable {R : Type} [AddMonoidWithOne R]

/-- `matrix[index[source], index[target]] += 1.0`; every hop is among the agents. -/
def countHop (agents : List String) (matrix : Matrix (Fin agents.length) (Fin agents.length) R)
    (pair : String × String) : Matrix (Fin agents.length) (Fin agents.length) R :=
  match agents.finIdxOf? pair.1, agents.finIdxOf? pair.2 with
  | some source, some target =>
      fun i j => if i = source ∧ j = target then matrix i j + 1 else matrix i j
  | _, _ => matrix

def transitionMatrix (payloads : List ExecutionMetadataPayload) (agents : List String) :
    Matrix (Fin agents.length) (Fin agents.length) R :=
  (hopPairs payloads).foldl (countHop agents) 0

theorem countHop_comm (agents : List String)
    (matrix : Matrix (Fin agents.length) (Fin agents.length) R) (first second : String × String) :
    countHop agents (countHop agents matrix first) second =
      countHop agents (countHop agents matrix second) first := by
  unfold countHop
  cases agents.finIdxOf? first.1 <;> cases agents.finIdxOf? first.2 <;>
    cases agents.finIdxOf? second.1 <;> cases agents.finIdxOf? second.2 <;> try rfl
  ext i j
  simp only
  split <;> split <;> rfl

/-- Hops are counted whatever the order of the traces. -/
theorem transitionMatrix_perm {first second : List ExecutionMetadataPayload}
    (reordered : first.Perm second) (agents : List String) :
    (transitionMatrix first agents : Matrix _ _ R) = transitionMatrix second agents := by
  have commutes : RightCommutative (countHop agents (R := R)) := ⟨countHop_comm agents⟩
  exact (reordered.flatMap_right _).foldl_eq _

end Transitions

noncomputable section

/-- `int(payload.reflection_iterations or 0)`. -/
def reflectionIterations (payload : ExecutionMetadataPayload) : ℝ := payload.reflectionIterations

/-- The rows of the matrix one after another. -/
def entries {n : Nat} (matrix : Matrix (Fin n) (Fin n) ℝ) : List ℝ :=
  (List.finRange n).flatMap fun i => (List.finRange n).map fun j => matrix i j

def matrixEntropy {n : Nat} (matrix : Matrix (Fin n) (Fin n) ℝ) : ℝ :=
  let normalized := Matrix.of fun i j => matrix i j / max (∑ k, matrix i k) 1e-12
  let probabilities := (entries normalized).filter fun p => 0 < p
  if probabilities = [] then 0 else -(probabilities.map fun p => p * Real.log p).sum

/-- The average over a window, 0 where it is empty. -/
def averageReflections (payloads : List ExecutionMetadataPayload) : ℝ :=
  if payloads = [] then 0 else mean (payloads.map reflectionIterations)

def SwarmDriftCalculator.computeSwarmDrift (calculator : SwarmDriftCalculator ℝ)
    (baselineMetadata currentMetadata : List ExecutionMetadataPayload) : SwarmDrift ℝ :=
  let agents := seenAgents (baselineMetadata ++ currentMetadata)
  let transitionEntropyDelta := matrixEntropy (transitionMatrix currentMetadata agents) -
    matrixEntropy (transitionMatrix baselineMetadata agents)
  let reflectionDelta := averageReflections currentMetadata - averageReflections baselineMetadata
  { transitionEntropyDelta
    avgReflectionIterationsDelta := reflectionDelta
    isSwarmDrifted := calculator.entropyThreshold < |transitionEntropyDelta| ∨
      calculator.reflectionThreshold < |reflectionDelta| }

section Reordered

variable {baseline current : List ExecutionMetadataPayload}

theorem averageReflections_perm (reordered : baseline.Perm current) :
    averageReflections baseline = averageReflections current := by
  have nothing : baseline = [] ↔ current = [] := by
    constructor
    · rintro rfl
      exact reordered.nil_eq.symm
    · rintro rfl
      exact reordered.eq_nil
  simp only [averageReflections, nothing, mean_perm (reordered.map _)]

/-- The same traces in another order are no drift. -/
theorem computeSwarmDrift_perm {calculator : SwarmDriftCalculator ℝ}
    (reordered : baseline.Perm current) (entropy : 0 ≤ calculator.entropyThreshold)
    (reflection : 0 ≤ calculator.reflectionThreshold) :
    calculator.computeSwarmDrift baseline current = .none := by
  unfold SwarmDriftCalculator.computeSwarmDrift
  simp only [transitionMatrix_perm reordered, averageReflections_perm reordered, sub_self,
    abs_zero, SwarmDrift.none, not_lt.mpr entropy, not_lt.mpr reflection, or_self, decide_false]

end Reordered

end

end RagDrift.Drift
