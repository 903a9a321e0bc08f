import RagDrift.Drift.Swarm
import RagDrift.Numeric.SuccessorEntropy
import Mathlib.Algebra.BigOperators.Fin

set_option autoImplicit false

/- The transition entropy of a window is the entropy of its hops, whatever agents the matrix has
rows for. -/
namespace RagDrift.Drift

open Collections (finIdxOf?_eq_some_iff_get)
open Numeric (mean)
open SuccessorEntropy (entropy leaving share)
open Telemetry (ExecutionMetadataPayload)

section Counts

variable {agents : List String}

theorem countHop_apply (distinct : agents.Nodup)
    (matrix : Matrix (Fin agents.length) (Fin agents.length) ℝ) (pair : String × String)
    (i j : Fin agents.length) :
    countHop agents matrix pair i j =
      if pair = (agents.get i, agents.get j) then matrix i j + 1 else matrix i j := by
  obtain ⟨left, right⟩ := pair
  cases foundSource : agents.finIdxOf? left with
  | none =>
      have absent : left ∉ agents := List.finIdxOf?_eq_none_iff.mp foundSource
      have untouched : countHop agents matrix (left, right) = matrix := by
        simp only [countHop, foundSource]
      rw [untouched, if_neg]
      rintro ⟨⟩
      exact absent (List.get_mem agents i)
  | some source =>
      cases foundTarget : agents.finIdxOf? right with
      | none =>
          have absent : right ∉ agents := List.finIdxOf?_eq_none_iff.mp foundTarget
          have untouched : countHop agents matrix (left, right) = matrix := by
            simp only [countHop, foundSource, foundTarget]
          rw [untouched, if_neg]
          rintro ⟨⟩
          exact absent (List.get_mem agents j)
      | some target =>
          have atSource := (finIdxOf?_eq_some_iff_get distinct).mp foundSource
          have atTarget := (finIdxOf?_eq_some_iff_get distinct).mp foundTarget
          have counted : countHop agents matrix (left, right) i j =
              if i = source ∧ j = target then matrix i j + 1 else matrix i j := by
            simp only [countHop, foundSource, foundTarget]
          rw [counted, ← atSource, ← atTarget]
          simp only [Prod.mk.injEq, distinct.get_inj_iff, eq_comm]

theorem transitionMatrix_apply (payloads : List ExecutionMetadataPayload)
    (distinct : agents.Nodup) (i j : Fin agents.length) :
    transitionMatrix payloads agents i j =
      ((hopPairs payloads).count (agents.get i, agents.get j) : ℝ) := by
  have loop : ∀ (pairs : List (String × String)) (start : Matrix _ _ ℝ),
      pairs.foldl (countHop agents) start i j =
        start i j + pairs.count (agents.get i, agents.get j) := by
    intro pairs
    induction pairs with
    | nil => simp
    | cons pair rest ih =>
        intro start
        rw [List.foldl_cons, ih, countHop_apply distinct, List.count_cons]
        by_cases same : pair = (agents.get i, agents.get j)
        · rw [if_pos same, if_pos (beq_iff_eq.mpr same), Nat.cast_add, Nat.cast_one]
          ring
        · rw [if_neg same, if_neg (by simpa using same), add_zero]
  rw [transitionMatrix, loop, Matrix.zero_apply, zero_add]

end Counts

section Entropies

theorem sum_positive {values : List ℝ} (nonneg : ∀ value ∈ values, 0 ≤ value) :
    -((values.filter fun p => 0 < p).map fun p => p * Real.log p).sum =
      (values.map Real.negMulLog).sum := by
  induction values with
  | nil => simp
  | cons first rest ih =>
      rw [List.forall_mem_cons] at nonneg
      have later := ih nonneg.2
      rcases nonneg.1.eq_or_lt with zero | positive
      · rw [List.filter_cons_of_neg (by simp [← zero]), later, List.map_cons, List.sum_cons,
          ← zero, Real.negMulLog_zero, zero_add]
      · rw [List.filter_cons_of_pos (by simpa using positive), List.map_cons, List.sum_cons,
          neg_add, later, List.map_cons, List.sum_cons, Real.negMulLog, neg_mul]

theorem sum_entries {n : Nat} (matrix : Matrix (Fin n) (Fin n) ℝ) (g : ℝ → ℝ) :
    ((entries matrix).map g).sum = ∑ i, ∑ j, g (matrix i j) := by
  rw [entries, List.map_flatMap, List.flatMap_def, List.sum_flatten, List.map_map,
    Fin.sum_univ_def]
  congr 1
  apply List.map_congr_left
  intro i _
  rw [Function.comp_apply, List.map_map, Fin.sum_univ_def]
  rfl

theorem matrixEntropy_eq {n : Nat} {matrix : Matrix (Fin n) (Fin n) ℝ}
    (nonneg : ∀ i j, 0 ≤ matrix i j) :
    matrixEntropy matrix =
      ∑ i, ∑ j, Real.negMulLog (matrix i j / max (∑ k, matrix i k) 1e-12) := by
  have floor : (0 : ℝ) < 1e-12 := by norm_num
  have shares : ∀ p ∈ entries (Matrix.of fun i j =>
      matrix i j / max (∑ k, matrix i k) 1e-12), 0 ≤ p := by
    intro p inside
    simp only [entries, List.mem_flatMap, List.mem_map, Matrix.of_apply] at inside
    obtain ⟨i, _, j, _, rfl⟩ := inside
    exact div_nonneg (nonneg i j) (floor.le.trans (le_max_right _ _))
  have whole := sum_positive shares
  rw [sum_entries] at whole
  rw [matrixEntropy]
  split
  · rename_i none
    rw [none, List.map_nil, List.sum_nil, neg_zero] at whole
    exact whole
  · exact whole

end Entropies

section Windows

variable {payloads : List ExecutionMetadataPayload} {agents : List String}

/-- Both ends of a hop are among the agents of its window. -/
theorem mem_of_hopPairs {pair : String × String} (inside : pair ∈ hopPairs payloads) :
    pair.1 ∈ payloads.flatMap agentHops ∧ pair.2 ∈ payloads.flatMap agentHops := by
  obtain ⟨payload, member, hop⟩ := List.mem_flatMap.mp inside
  obtain ⟨left, right⟩ := List.of_mem_zip (show (pair.1, pair.2) ∈ _ from hop)
  exact ⟨List.mem_flatMap.mpr ⟨payload, member, left⟩,
    List.mem_flatMap.mpr ⟨payload, member, List.mem_of_mem_tail right⟩⟩

theorem sum_get (distinct : agents.Nodup) {M : Type} [AddCommMonoid M] (g : String → M) :
    ∑ i : Fin agents.length, g (agents.get i) = ∑ agent ∈ agents.toFinset, g agent := by
  rw [List.sum_toFinset g distinct]
  exact Fin.sum_univ_fun_getElem agents g

/-- The entropy of a window, for whatever agents the matrix has rows. -/
theorem matrixEntropy_transitionMatrix (distinct : agents.Nodup)
    (among : ∀ agent ∈ payloads.flatMap agentHops, agent ∈ agents) :
    matrixEntropy (transitionMatrix payloads agents) = entropy (hopPairs payloads) := by
  have inside : ∀ pair ∈ hopPairs payloads,
      pair.1 ∈ agents.toFinset ∧ pair.2 ∈ agents.toFinset := by
    intro pair member
    obtain ⟨left, right⟩ := mem_of_hopPairs member
    exact ⟨List.mem_toFinset.mpr (among _ left), List.mem_toFinset.mpr (among _ right)⟩
  have row : ∀ i : Fin agents.length,
      ∑ k, (transitionMatrix payloads agents i k : ℝ) =
        (leaving (hopPairs payloads) (agents.get i)).length := by
    intro i
    simp only [transitionMatrix_apply payloads distinct]
    rw [sum_get distinct fun agent => ((hopPairs payloads).count (agents.get i, agent) : ℝ),
      ← Nat.cast_sum, SuccessorEntropy.sum_count_leaving fun pair member => (inside pair member).2]
  have entry : ∀ i j : Fin agents.length,
      transitionMatrix payloads agents i j / max (∑ k, transitionMatrix payloads agents i k) 1e-12 =
        share (hopPairs payloads) (agents.get i, agents.get j) := by
    intro i j
    have few := SuccessorEntropy.count_le_leaving (hopPairs payloads)
      (agents.get i, agents.get j)
    rw [row, transitionMatrix_apply payloads distinct, share]
    -- a row without hops has no count either
    rcases Nat.eq_zero_or_pos (leaving (hopPairs payloads) (agents.get i)).length with none | some
    · rw [Nat.le_zero.mp (few.trans none.le), Nat.cast_zero, zero_div, zero_div]
    · have one : (1 : ℝ) ≤ (leaving (hopPairs payloads) (agents.get i)).length := by
        exact_mod_cast some
      rw [max_eq_left (le_trans (by norm_num) one)]
  rw [matrixEntropy_eq]
  · simp only [entry]
    rw [sum_get distinct fun source => ∑ j : Fin agents.length,
      Real.negMulLog (share (hopPairs payloads) (source, agents.get j))]
    rw [← SuccessorEntropy.sum_negMulLog_share inside]
    apply Finset.sum_congr rfl
    intro source _
    exact sum_get distinct fun target =>
      Real.negMulLog (share (hopPairs payloads) (source, target))
  · intro i j
    rw [transitionMatrix_apply payloads distinct]
    exact Nat.cast_nonneg _

/-- The entropy of the hops is what each window adds to the delta, whatever the other one is. -/
theorem seenAgents_entropy (before after : List ExecutionMetadataPayload) :
    matrixEntropy (transitionMatrix payloads (seenAgents (before ++ payloads ++ after))) =
      entropy (hopPairs payloads) := by
  apply matrixEntropy_transitionMatrix (Collections.nodup_eraseDups _)
  intro agent inside
  apply List.mem_eraseDups.mpr
  simp only [List.flatMap_append, List.mem_append]
  exact .inl (.inr inside)

end Windows

section Results

variable (baseline current : List ExecutionMetadataPayload)

noncomputable def baselineEntropy : ℝ :=
  matrixEntropy (transitionMatrix baseline (seenAgents (baseline ++ current)))

noncomputable def currentEntropy : ℝ :=
  matrixEntropy (transitionMatrix current (seenAgents (baseline ++ current)))

theorem baselineEntropy_eq : baselineEntropy baseline current = entropy (hopPairs baseline) :=
  seenAgents_entropy [] current

theorem currentEntropy_eq : currentEntropy baseline current = entropy (hopPairs current) := by
  have whole : matrixEntropy (transitionMatrix current (seenAgents (baseline ++ current ++ []))) =
      entropy (hopPairs current) := seenAgents_entropy baseline []
  rwa [List.append_nil] at whole

theorem computeSwarmDrift_eq (calculator : SwarmDriftCalculator ℝ) :
    calculator.computeSwarmDrift baseline current =
      let entropyDelta := entropy (hopPairs current) - entropy (hopPairs baseline)
      let reflectionDelta := averageReflections current - averageReflections baseline
      { transitionEntropyDelta := entropyDelta
        avgReflectionIterationsDelta := reflectionDelta
        isSwarmDrifted := calculator.entropyThreshold < |entropyDelta| ∨
          calculator.reflectionThreshold < |reflectionDelta| } := by
  rw [← baselineEntropy_eq baseline current, ← currentEntropy_eq baseline current]
  rfl

variable {baseline current} (calculator : SwarmDriftCalculator ℝ)
  {baseline' current' : List ExecutionMetadataPayload}

/-- Windows with hops as scattered and as many reflections on average are given one result. -/
theorem computeSwarmDrift_congr
    (before : entropy (hopPairs baseline') = entropy (hopPairs baseline))
    (after : entropy (hopPairs current') = entropy (hopPairs current))
    (averageBefore : averageReflections baseline' = averageReflections baseline)
    (averageAfter : averageReflections current' = averageReflections current) :
    calculator.computeSwarmDrift baseline' current' =
      calculator.computeSwarmDrift baseline current := by
  rw [computeSwarmDrift_eq, computeSwarmDrift_eq, before, after, averageBefore, averageAfter]

theorem hopPairs_perm (reordered : baseline.Perm current) :
    (hopPairs baseline).Perm (hopPairs current) :=
  reordered.flatMap_right _

end Results

section Renamed

def renameAgents (f : String → String) (payload : ExecutionMetadataPayload) :
    ExecutionMetadataPayload :=
  { payload with agentHops := payload.agentHops.map (List.map f) }

variable (f : String → String) (window : List ExecutionMetadataPayload)

theorem agentHops_rename (payload : ExecutionMetadataPayload) :
    agentHops (renameAgents f payload) = (agentHops payload).map f := by
  rw [agentHops, agentHops, renameAgents]
  cases payload.agentHops <;> rfl

theorem hopPairs_rename :
    hopPairs (window.map (renameAgents f)) = (hopPairs window).map (Prod.map f f) := by
  rw [hopPairs, hopPairs, List.flatMap_map, List.map_flatMap]
  apply List.flatMap_congr
  intro payload _
  rw [agentHops_rename, ← List.map_tail, List.zip_map]

theorem averageReflections_rename :
    averageReflections (window.map (renameAgents f)) = averageReflections window := by
  rw [averageReflections, averageReflections, List.map_map]
  simp only [List.map_eq_nil_iff]
  rfl

variable {f window}

theorem entropy_rename (injective : Set.InjOn f {agent | agent ∈ window.flatMap agentHops}) :
    entropy (hopPairs (window.map (renameAgents f))) = entropy (hopPairs window) := by
  rw [hopPairs_rename]
  apply SuccessorEntropy.entropy_map
  apply injective.mono
  rintro agent ⟨pair, inside, which⟩
  obtain ⟨left, right⟩ := mem_of_hopPairs inside
  rcases which with rfl | rfl
  · exact left
  · exact right

end Renamed

section Copies

/-- The traces of a window, again and again. -/
def copies (count : Nat) (window : List ExecutionMetadataPayload) :
    List ExecutionMetadataPayload :=
  (List.replicate count window).flatten

variable {count : Nat} {window : List ExecutionMetadataPayload}

theorem hopPairs_copies :
    hopPairs (copies count window) = (List.replicate count (hopPairs window)).flatten := by
  induction count with
  | zero => rfl
  | succ count ih =>
      rw [List.replicate_succ, List.flatten_cons, ← ih]
      exact List.flatMap_append

theorem entropy_copies (some : count ≠ 0) :
    entropy (hopPairs (copies count window)) = entropy (hopPairs window) :=
  SuccessorEntropy.entropy_copies some (List.Perm.of_eq hopPairs_copies)

theorem averageReflections_copies (some : count ≠ 0) :
    averageReflections (copies count window) = averageReflections window := by
  by_cases nothing : window = []
  · rw [nothing, copies, List.flatten_replicate_nil]
  · have traces : copies count window ≠ [] := by
      simpa [copies, some] using nothing
    rw [averageReflections, averageReflections, if_neg traces, if_neg nothing, copies,
      List.map_flatten, List.map_replicate]
    exact Numeric.mean_flatten_replicate some _

/-- No drift between a window and copies of it. -/
theorem computeSwarmDrift_copies (calculator : SwarmDriftCalculator ℝ) (some : count ≠ 0) :
    (calculator.computeSwarmDrift window (copies count window)).transitionEntropyDelta = 0 ∧
      (calculator.computeSwarmDrift window
        (copies count window)).avgReflectionIterationsDelta = 0 := by
  rw [computeSwarmDrift_eq, entropy_copies some, averageReflections_copies some]
  exact ⟨sub_self _, sub_self _⟩

end Copies

/-- Every agent that has a successor has one only. -/
def SingleSuccessors (window : List ExecutionMetadataPayload) : Prop :=
  ∀ agent left right, (agent, left) ∈ hopPairs window → (agent, right) ∈ hopPairs window →
    left = right

/-- What the other order of the windows makes of a result. -/
structure SwarmDrift.Reversed (drift back : SwarmDrift ℝ) : Prop where
  transitionEntropyDelta : back.transitionEntropyDelta = -drift.transitionEntropyDelta
  avgReflectionIterationsDelta :
    back.avgReflectionIterationsDelta = -drift.avgReflectionIterationsDelta
  isSwarmDrifted : back.isSwarmDrifted = drift.isSwarmDrifted

theorem computeSwarmDrift_reversed (calculator : SwarmDriftCalculator ℝ)
    (baseline current : List ExecutionMetadataPayload) :
    SwarmDrift.Reversed (calculator.computeSwarmDrift baseline current)
      (calculator.computeSwarmDrift current baseline) := by
  rw [computeSwarmDrift_eq, computeSwarmDrift_eq]
  refine ⟨(neg_sub _ _).symm, (neg_sub _ _).symm, ?_⟩
  simp only [abs_sub_comm]

/-- The entropies of two windows are those of their own hops: not negative, zero where no hop is a
choice, and the same for reordered and renamed traces and for copies. -/
theorem computeSwarmDrift_laws (calculator : SwarmDriftCalculator ℝ)
    (baseline current : List ExecutionMetadataPayload) :
    ((calculator.computeSwarmDrift baseline current).transitionEntropyDelta =
        currentEntropy baseline current - baselineEntropy baseline current ∧
      0 ≤ baselineEntropy baseline current ∧ 0 ≤ currentEntropy baseline current ∧
      (baselineEntropy baseline current = 0 ↔ SingleSuccessors baseline) ∧
      (currentEntropy baseline current = 0 ↔ SingleSuccessors current)) ∧
    (∀ other, baselineEntropy baseline other = baselineEntropy baseline current ∧
      currentEntropy other current = currentEntropy baseline current) ∧
    (∀ baseline' current', baseline.Perm baseline' → current.Perm current' →
      calculator.computeSwarmDrift baseline' current' =
        calculator.computeSwarmDrift baseline current) ∧
    (∀ f, Set.InjOn f {agent | agent ∈ (baseline ++ current).flatMap agentHops} →
      calculator.computeSwarmDrift (baseline.map (renameAgents f))
        (current.map (renameAgents f)) = calculator.computeSwarmDrift baseline current) ∧
    (∀ count ≠ 0,
      (calculator.computeSwarmDrift baseline (copies count baseline)).transitionEntropyDelta = 0 ∧
      (calculator.computeSwarmDrift baseline
        (copies count baseline)).avgReflectionIterationsDelta = 0) ∧
    SwarmDrift.Reversed (calculator.computeSwarmDrift baseline current)
      (calculator.computeSwarmDrift current baseline) := by
  refine ⟨⟨rfl, ?_⟩, ?_, ?_, ?_, ?_, computeSwarmDrift_reversed calculator baseline current⟩
  · rw [baselineEntropy_eq, currentEntropy_eq]
    exact ⟨SuccessorEntropy.entropy_nonneg _, SuccessorEntropy.entropy_nonneg _,
      SuccessorEntropy.entropy_eq_zero_iff, SuccessorEntropy.entropy_eq_zero_iff⟩
  · intro other
    simp only [baselineEntropy_eq, currentEntropy_eq, and_self]
  · intro baseline' current' before after
    exact computeSwarmDrift_congr calculator
      (SuccessorEntropy.entropy_perm (hopPairs_perm before)).symm
      (SuccessorEntropy.entropy_perm (hopPairs_perm after)).symm
      (averageReflections_perm before).symm (averageReflections_perm after).symm
  · intro f injective
    rw [List.flatMap_append] at injective
    exact computeSwarmDrift_congr calculator
      (entropy_rename (injective.mono fun _ => List.mem_append_left _))
      (entropy_rename (injective.mono fun _ => List.mem_append_right _))
      (averageReflections_rename f baseline) (averageReflections_rename f current)
  · intro count some
    exact computeSwarmDrift_copies calculator some

end RagDrift.Drift
