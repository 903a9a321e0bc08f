import RagDrift.Drift.LaplacianBounds
import RagDrift.Drift.SwarmEntropy
import RagDrift.Monitor.Reordered
import RagDrift.Numeric.Spread
import RagDrift.Python.Exceptions

set_option autoImplicit false

/- The ranges of the scores that a drift monitor reports and stores. -/
namespace RagDrift.Monitor

open Exceptions (bind_ok_iff mapError_ok_iff)
open Numeric (mean)
open Telemetry (RAGEvaluationFrame)
open Transition (run run_history)

theorem mul_log_mix_le {a b : ℝ} (left : 0 ≤ a) (right : 0 ≤ b) :
    a * Real.log (a / ((a + b) / 2)) ≤ a * Real.log 2 := by
  rcases left.eq_or_lt with none | some
  · rw [← none, zero_mul, zero_mul]
  · apply mul_le_mul_of_nonneg_left _ left
    have middle : 0 < (a + b) / 2 := by positivity
    apply Real.log_le_log (div_pos some middle)
    rw [div_le_iff₀ middle]
    linarith

/-- Against a mixture of equal parts nothing counts for more than `log 2`. -/
theorem relativeEntropy_mix_le {p q : List ℝ} (left : ∀ a ∈ p, 0 ≤ a) (right : ∀ b ∈ q, 0 ≤ b) :
    relativeEntropy p (List.zipWith (fun a b => (a + b) / 2) p q) ≤ p.sum * Real.log 2 := by
  have log : 0 ≤ Real.log 2 := Real.log_nonneg one_le_two
  induction p generalizing q with
  | nil => simp [relativeEntropy]
  | cons a rest ih =>
      rw [List.forall_mem_cons] at left
      cases q with
      | nil =>
          rw [List.zipWith_nil_right, relativeEntropy, List.zipWith_nil_right, List.sum_nil]
          exact mul_nonneg (List.sum_nonneg (List.forall_mem_cons.mpr left)) log
      | cons b others =>
          rw [List.forall_mem_cons] at right
          have later := ih left.2 right.2
          have here := mul_log_mix_le left.1 right.1
          rw [relativeEntropy] at later ⊢
          rw [List.zipWith_cons_cons, List.zipWith_cons_cons, List.sum_cons, List.sum_cons,
            add_mul]
          exact add_le_add here later

theorem shares_nonneg {p : List ℝ} (nonneg : ∀ a ∈ p, 0 ≤ a) :
    ∀ a ∈ p.map fun mass => mass / p.sum, 0 ≤ a := by
  intro a inside
  obtain ⟨mass, there, same⟩ := List.mem_map.mp inside
  rw [← same]
  exact div_nonneg (nonneg mass there) (List.sum_nonneg nonneg)

theorem sum_shares_le (p : List ℝ) : (p.map fun mass => mass / p.sum).sum ≤ 1 := by
  simp only [div_eq_mul_inv]
  rw [List.sum_map_mul_right, List.map_id']
  exact mul_inv_le_one

theorem jensenshannon_le {p q : List ℝ} (left : ∀ a ∈ p, 0 ≤ a) (right : ∀ b ∈ q, 0 ≤ b) :
    jensenshannon p q ≤ Real.sqrt (Real.log 2) := by
  have log : 0 ≤ Real.log 2 := Real.log_nonneg one_le_two
  have first := relativeEntropy_mix_le (shares_nonneg left) (shares_nonneg right)
  have second := relativeEntropy_mix_le (shares_nonneg right) (shares_nonneg left)
  have mixed : List.zipWith (fun a b => (a + b) / 2) (q.map fun mass => mass / q.sum)
      (p.map fun mass => mass / p.sum) =
        List.zipWith (fun a b => (a + b) / 2) (p.map fun mass => mass / p.sum)
          (q.map fun mass => mass / q.sum) := by
    rw [List.zipWith_comm]
    simp only [add_comm]
  rw [mixed] at second
  have bounds := mul_le_mul_of_nonneg_right (sum_shares_le p) log
  have bounds' := mul_le_mul_of_nonneg_right (sum_shares_le q) log
  apply Real.sqrt_le_sqrt
  linarith

theorem masses_nonneg (hist : List ℝ) : ∀ mass ∈ masses hist, 0 ≤ mass := by
  have clipped : ∀ mass ∈ hist.map (max eps), 0 ≤ mass := by
    intro mass inside
    obtain ⟨height, _, same⟩ := List.mem_map.mp inside
    rw [← same]
    exact le_trans (by norm_num [eps]) (le_max_left _ _)
  exact shares_nonneg clipped

theorem computeJensenShannonDrift_le {monitor : DriftMonitor ℝ}
    {pca : List (List ℝ) → List ℝ → ℝ} {baseline current : List (List ℝ)} {score : ℝ × Bool}
    (ran : monitor.computeJensenShannonDrift pca baseline current = .ok score) :
    0 ≤ score.1 ∧ score.1 ≤ Real.sqrt (Real.log 2) := by
  obtain ⟨distributions, measured, returned⟩ := bind_ok_iff.mp ran
  cases returned
  refine ⟨Real.sqrt_nonneg _, ?_⟩
  unfold jensenShannonDistributions at measured
  dsimp only at measured
  split at measured
  · cases measured
  · split at measured
    · cases measured
      apply jensenshannon_le
      all_goals
        intro mass inside
        rw [List.eq_of_mem_replicate inside]
        positivity
    · cases measured
      exact jensenshannon_le (masses_nonneg _) (masses_nonneg _)

theorem medianGamma_nonneg (baseline current : List (List ℝ)) :
    0 ≤ medianGamma baseline current :=
  (medianGamma_pos baseline current).le

theorem rbfKernel_range {gamma : ℝ} (nonneg : 0 ≤ gamma) (X Y : List (List ℝ)) :
    ∀ value ∈ rbfKernel X Y gamma, 0 ≤ value ∧ value ≤ 1 := by
  intro value inside
  obtain ⟨distance, measured, same⟩ := List.mem_map.mp inside
  rw [← same]
  refine ⟨(Real.exp_pos _).le, ?_⟩
  obtain ⟨x, _, row⟩ := List.mem_flatMap.mp measured
  obtain ⟨y, _, squared⟩ := List.mem_map.mp row
  have distanceNonneg : 0 ≤ distance := by
    rw [← squared]
    apply List.sum_nonneg
    intro square there
    rw [List.mem_iff_getElem] at there
    obtain ⟨place, _, equal⟩ := there
    rw [← equal, List.getElem_zipWith]
    exact sq_nonneg _
  rw [Real.exp_le_one_iff, neg_mul]
  exact neg_nonpos.mpr (mul_nonneg nonneg distanceNonneg)

theorem mean_range {values : List ℝ} (range : ∀ value ∈ values, 0 ≤ value ∧ value ≤ 1) :
    0 ≤ mean values ∧ mean values ≤ 1 := by
  refine ⟨Numeric.mean_nonneg fun value inside => (range value inside).1, ?_⟩
  have sum := List.sum_le_card_nsmul values 1 fun value inside => (range value inside).2
  rw [nsmul_eq_mul, mul_one] at sum
  exact div_le_one_of_le₀ sum (Nat.cast_nonneg _)

theorem discrepancy_le {gamma : ℝ} (nonneg : 0 ≤ gamma) (X Y : List (List ℝ)) :
    discrepancy X Y gamma ≤ 2 := by
  have first := mean_range (rbfKernel_range nonneg X X)
  have second := mean_range (rbfKernel_range nonneg Y Y)
  have third := mean_range (rbfKernel_range nonneg X Y)
  apply max_le (by norm_num)
  linarith

theorem computeMmdDrift_range {S : Type} (monitor : DriftMonitor ℝ)
    (baseline current : List (List ℝ)) (draws : Draws S) :
    0 ≤ (monitor.computeMmdDrift baseline current draws).1 ∧
      (monitor.computeMmdDrift baseline current draws).1 ≤ Real.sqrt 2 :=
  ⟨Real.sqrt_nonneg _, Real.sqrt_le_sqrt (discrepancy_le (medianGamma_nonneg _ _) _ _)⟩

theorem evaluateVectorDrift_range {S : Type} {monitor : DriftMonitor ℝ}
    {pca : List (List ℝ) → List ℝ → ℝ} {F G : List (RAGEvaluationFrame ℝ)} {draws : Draws S}
    {result : VectorDrift ℝ} (ran : monitor.evaluateVectorDrift pca F G draws = .ok result) :
    (0 ≤ result.jsDivergence ∧ result.jsDivergence ≤ Real.sqrt (Real.log 2)) ∧
      0 ≤ result.mmdScore ∧ result.mmdScore ≤ Real.sqrt 2 := by
  obtain ⟨baselineVectors, _, ran⟩ := bind_ok_iff.mp ran
  obtain ⟨currentVectors, _, ran⟩ := bind_ok_iff.mp ran
  split at ran
  · split at ran
    · cases ran
      exact ⟨⟨le_refl 0, Real.sqrt_nonneg _⟩, le_refl 0, Real.sqrt_nonneg _⟩
    · obtain ⟨score, scored, ran⟩ := bind_ok_iff.mp ran
      have js := computeJensenShannonDrift_le scored
      dsimp only at ran
      split at ran
      · cases ran
        exact ⟨js, le_refl 0, Real.sqrt_nonneg _⟩
      · cases ran
        exact ⟨js, computeMmdDrift_range monitor _ _ draws⟩
  · cases ran
    exact ⟨⟨le_refl 0, Real.sqrt_nonneg _⟩, le_refl 0, Real.sqrt_nonneg _⟩

theorem evaluateGraphDrift_range (runtime : Runtime ℝ) {monitor : DriftMonitor ℝ}
    (positive : 1 ≤ monitor.graphCalculator.spectralK) (F G : List (RAGEvaluationFrame ℝ)) :
    0 ≤ (monitor.evaluateGraphDrift runtime F G).spectralDistance ∧
      (monitor.evaluateGraphDrift runtime F G).spectralDistance ≤
        2 * Real.sqrt monitor.graphCalculator.spectralK := by
  unfold DriftMonitor.evaluateGraphDrift
  dsimp only
  split
  · exact ⟨le_refl 0, by positivity⟩
  · refine ⟨?_, Drift.spectralDistance_le (Drift.adjacency_nonneg _) (Drift.adjacency_isSymm _)
      (Drift.adjacency_nonneg _) (Drift.adjacency_isSymm _) positive⟩
    show 0 ≤ Drift.spectralDistance _ _ _
    unfold Drift.spectralDistance
    split
    · exact le_refl 0
    · exact Real.sqrt_nonneg _

/-- The agents of both windows. -/
def windowAgents (F G : List (RAGEvaluationFrame ℝ)) : List String :=
  Drift.seenAgents (frameTraces F ++ frameTraces G)

theorem entropy_range (F G : List (RAGEvaluationFrame ℝ))
    (payloads : List Telemetry.ExecutionMetadataPayload)
    (among : ∀ agent ∈ payloads.flatMap Drift.agentHops, agent ∈ windowAgents F G) :
    0 ≤ SuccessorEntropy.entropy (Drift.hopPairs payloads) ∧
      SuccessorEntropy.entropy (Drift.hopPairs payloads) ≤
        (windowAgents F G).length * Real.log (windowAgents F G).length := by
  refine ⟨SuccessorEntropy.entropy_nonneg _, ?_⟩
  have ends : ∀ pair ∈ Drift.hopPairs payloads,
      pair.1 ∈ (windowAgents F G).toFinset ∧ pair.2 ∈ (windowAgents F G).toFinset := by
    intro pair inside
    have both := Drift.mem_of_hopPairs inside
    rw [List.mem_toFinset, List.mem_toFinset]
    exact ⟨among _ both.1, among _ both.2⟩
  have bound := SuccessorEntropy.entropy_le ends
  have distinct : (windowAgents F G).Nodup := Collections.nodup_eraseDups _
  rw [List.toFinset_card_of_nodup distinct] at bound
  exact bound

theorem evaluateSwarmDrift_range (monitor : DriftMonitor ℝ) (F G : List (RAGEvaluationFrame ℝ)) :
    |(monitor.evaluateSwarmDrift F G).transitionEntropyDelta| ≤
      (windowAgents F G).length * Real.log (windowAgents F G).length := by
  have before := entropy_range F G (frameTraces F) (by
    intro agent inside
    rw [windowAgents, Drift.seenAgents, List.mem_eraseDups, List.flatMap_append, List.mem_append]
    exact Or.inl inside)
  have after := entropy_range F G (frameTraces G) (by
    intro agent inside
    rw [windowAgents, Drift.seenAgents, List.mem_eraseDups, List.flatMap_append, List.mem_append]
    exact Or.inr inside)
  unfold DriftMonitor.evaluateSwarmDrift
  dsimp only
  split
  · show |(0 : ℝ)| ≤ _
    rw [abs_zero]
    exact before.1.trans before.2
  · rw [Drift.computeSwarmDrift_eq]
    dsimp only
    rw [abs_le]
    constructor <;> linarith

section Calls

variable {T N D E : Type}

/-- The last call of a task, and what has happened since. -/
def LastCall (past : List (Event T N D E)) (task : T)
    (given frames : Option (List (RAGEvaluationFrame N))) (since : List (Event T N D E)) : Prop :=
  ∃ front draws, past = front ++ .call task given frames draws :: since ∧
    ∀ event ∈ since, ¬ event.Calls task

/-- The windows that the last call of a task compares: the baseline it was given, or the one it
fetched, and the frames it was given. -/
def Compared (setup : Setup N D E) (past : List (Event T N D E)) (task : T)
    (baseline current : List (RAGEvaluationFrame N)) : Prop :=
  ∃ given frames since, LastCall past task given frames since ∧ current = frames.getD [] ∧
    if given.getD [] = [] ∧ setup.baselineService.isSome then
      ∃ answer draws, .fetched task (.ok answer) draws ∈ since ∧ baseline = answer.getD []
    else baseline = given.getD []

/-- The result a call holds comes from its windows, and the frames it has still to store are of
the current one. -/
def Pc.Holds (setup : Setup N D E) (allowed : List (RAGEvaluationFrame N) →
    List (RAGEvaluationFrame N) → Evaluation N → Prop) (past : List (Event T N D E)) (task : T) :
    Pc N E → Prop
  | .fetching current => ∃ given frames since, LastCall past task given frames since ∧
      current = frames.getD [] ∧ given.getD [] = [] ∧ setup.baselineService.isSome
  | .notifying current result => ∃ baseline, Compared setup past task baseline current ∧
      allowed baseline current result
  | .recording frame rest result => ∃ baseline current, Compared setup past task baseline current ∧
      allowed baseline current result ∧ frame ∈ current ∧ ∀ later ∈ rest, later ∈ current
  | .returned result => ∃ baseline current, Compared setup past task baseline current ∧
      allowed baseline current result
  | _ => True

structure Sound (setup : Setup N D E) (good : DriftMonitor N → Prop)
    (allowed : List (RAGEvaluationFrame N) → List (RAGEvaluationFrame N) → Evaluation N → Prop)
    (state : State T N E) (past : List (Event T N D E)) : Prop where
  monitor : good state.monitor
  calls : ∀ task, (state.pc task).Holds setup allowed past task

variable {setup : Setup N D E} {good : DriftMonitor N → Prop}
  {allowed : List (RAGEvaluationFrame N) → List (RAGEvaluationFrame N) → Evaluation N → Prop}
  {past : List (Event T N D E)} {event : Event T N D E} {task : T}

theorem LastCall.concat {given frames : Option (List (RAGEvaluationFrame N))}
    {since : List (Event T N D E)} (last : LastCall past task given frames since)
    (other : ¬ event.Calls task) :
    LastCall (past ++ [event]) task given frames (since ++ [event]) := by
  obtain ⟨front, draws, rfl, quiet⟩ := last
  refine ⟨front, draws, by rw [List.append_assoc, List.cons_append], ?_⟩
  intro later inside
  rcases List.mem_append.mp inside with before | here
  · exact quiet later before
  · exact List.mem_singleton.mp here ▸ other

theorem LastCall.call (past : List (Event T N D E)) (task : T)
    (given frames : Option (List (RAGEvaluationFrame N))) (draws : D) :
    LastCall (past ++ [.call task given frames draws]) task given frames [] :=
  ⟨past, draws, rfl, fun _ inside => absurd inside List.not_mem_nil⟩

theorem Compared.concat {baseline current : List (RAGEvaluationFrame N)}
    (compared : Compared setup past task baseline current) (other : ¬ event.Calls task) :
    Compared setup (past ++ [event]) task baseline current := by
  obtain ⟨given, frames, since, last, rfl, origin⟩ := compared
  refine ⟨given, frames, since ++ [event], last.concat other, rfl, ?_⟩
  split at origin
  · rename_i dynamic
    obtain ⟨answer, draws, inside, same⟩ := origin
    rw [if_pos dynamic]
    exact ⟨answer, draws, List.mem_append_left _ inside, same⟩
  · rename_i static
    rw [if_neg static]
    exact origin

/-- Another event than a call of the task leaves its call where it is. -/
theorem Pc.Holds.concat {pc : Pc N E} (holds : pc.Holds setup allowed past task)
    (other : ¬ event.Calls task) : pc.Holds setup allowed (past ++ [event]) task := by
  cases pc with
  | idle => trivial
  | raised reason => trivial
  | fetching current =>
      obtain ⟨given, frames, since, last, rest⟩ := holds
      exact ⟨given, frames, since ++ [event], last.concat other, rest⟩
  | notifying current result =>
      obtain ⟨baseline, compared, allows⟩ := holds
      exact ⟨baseline, compared.concat other, allows⟩
  | recording frame rest result =>
      obtain ⟨baseline, current, compared, allows⟩ := holds
      exact ⟨baseline, current, compared.concat other, allows⟩
  | returned result =>
      obtain ⟨baseline, current, compared, allows⟩ := holds
      exact ⟨baseline, current, compared.concat other, allows⟩

theorem holds_record {baseline current rest : List (RAGEvaluationFrame N)} {result : Evaluation N}
    (compared : Compared setup past task baseline current)
    (allows : allowed baseline current result) (inside : ∀ frame ∈ rest, frame ∈ current) :
    (Pc.record rest result : Pc N E).Holds setup allowed past task := by
  cases rest with
  | nil => exact ⟨baseline, current, compared, allows⟩
  | cons frame later =>
      rw [List.forall_mem_cons] at inside
      exact ⟨baseline, current, compared, allows, inside.1, inside.2⟩

theorem holds_proceed {baseline current : List (RAGEvaluationFrame N)}
    {answer : Except E (Evaluation N)} (compared : Compared setup past task baseline current)
    (allows : ∀ result, answer = .ok result → allowed baseline current result) :
    (setup.proceed current answer).Holds setup allowed past task := by
  cases answer with
  | error reason => trivial
  | ok result =>
      unfold Setup.proceed
      dsimp only
      split
      · exact ⟨baseline, compared, allows result rfl⟩
      · exact holds_record compared (allows result rfl) fun _ inside => inside

variable [DecidableEq T]

/-- The task of an event moves on, the calls of the others stay. -/
theorem Sound.moved {state : State T N E} (sound : Sound setup good allowed state past)
    (calls : ∀ other, event.Calls other → other = task) {pc : Pc N E} {monitor : DriftMonitor N}
    {store : List (RAGEvaluationFrame N × Metrics N)} (still : good monitor)
    (holds : pc.Holds setup allowed (past ++ [event]) task) :
    Sound setup good allowed
      { state.setPc task pc with monitor := monitor, store := store } (past ++ [event]) where
  monitor := still
  calls := by
    intro other
    show (Function.update state.pc task pc other).Holds setup allowed (past ++ [event]) other
    by_cases same : other = task
    · subst same
      rw [Function.update_self]
      exact holds
    · rw [Function.update_of_ne same]
      exact (sound.calls other).concat fun called => same (calls other called)

/-- What every evaluation of a good monitor is allowed, every result of every run is. -/
theorem Sound.step {state next : State T N E}
    (applied : ∀ monitor thresholds, good monitor →
      good (monitor.applyCalibratedThresholds thresholds))
    (restored : ∀ monitor, good monitor → good monitor.restoreThresholds)
    (evaluated : ∀ monitor baseline current draws result, good monitor →
      setup.evaluate monitor baseline current draws = .ok result →
        allowed baseline current result)
    (sound : Sound setup good allowed state past) (stepped : setup.step state event = some next) :
    Sound setup good allowed next (past ++ [event]) := by
  have own : ∀ other, event.Calls other → other = event.task := by
    intro other called
    cases event with
    | call task _ _ _ => exact Eq.symm called
    | fetched _ _ _ => cases called
    | notified _ _ => cases called
    | recorded _ _ => cases called
  cases step_cases stepped with
  | fetch task given frames draws _ dynamic attached =>
      exact sound.moved own sound.monitor
        ⟨given, frames, [], .call past task given frames draws, rfl, dynamic, attached⟩
  | explicit task given frames draws _ static =>
      refine sound.moved own sound.monitor (holds_proceed ?_ fun result =>
        evaluated _ _ _ _ result sound.monitor)
      exact ⟨given, frames, [], .call past task given frames draws, rfl, by rw [if_neg static]⟩
  | fetchFailed task reason draws current _ => exact sound.moved own sound.monitor trivial
  | fetched task answer draws current calibrate pc attached =>
      have holds := sound.calls task
      rw [pc] at holds
      obtain ⟨given, frames, since, last, rfl, dynamic⟩ := holds
      unfold Setup.dynamic
      split
      · exact sound.moved own sound.monitor trivial
      · rename_i thresholds _
        have calibrated := applied _ thresholds sound.monitor
        refine sound.moved own (restored _ calibrated) (holds_proceed ?_ fun result =>
          evaluated _ _ _ _ result calibrated)
        have other : ¬ (Event.fetched task (.ok answer) draws : Event T N D E).Calls task := nofun
        refine ⟨given, frames, _, last.concat other, rfl, ?_⟩
        rw [if_pos dynamic]
        exact ⟨answer, draws, List.mem_append_right _ List.mem_cons_self, rfl⟩
  | notifyFailed task reason current result _ => exact sound.moved own sound.monitor trivial
  | notified task current result pc =>
      have holds := sound.calls task
      rw [pc] at holds
      obtain ⟨baseline, compared, allows⟩ := holds
      exact sound.moved own sound.monitor
        (holds_record (compared.concat nofun) allows fun _ inside => inside)
  | recordFailed task reason frame rest result _ => exact sound.moved own sound.monitor trivial
  | recorded task frame rest result pc =>
      have holds := sound.calls task
      rw [pc] at holds
      obtain ⟨baseline, current, compared, allows, _, later⟩ := holds
      exact sound.moved own sound.monitor (holds_record (compared.concat nofun) allows later)

theorem run_sound {start final : State T N E} {events : List (Event T N D E)}
    (applied : ∀ monitor thresholds, good monitor →
      good (monitor.applyCalibratedThresholds thresholds))
    (restored : ∀ monitor, good monitor → good monitor.restoreThresholds)
    (evaluated : ∀ monitor baseline current draws result, good monitor →
      setup.evaluate monitor baseline current draws = .ok result →
        allowed baseline current result)
    (begun : good start.monitor) (idle : ∀ task, start.pc task = .idle)
    (ran : run setup.step start events = some final) :
    Sound setup good allowed final events := by
  have initially : Sound setup good allowed start [] := by
    refine ⟨begun, ?_⟩
    intro task
    rw [idle task]
    trivial
  exact run_history (fun _ _ _ _ sound stepped => sound.step applied restored evaluated stepped)
    initially ran

/-- A step stores nothing, or a frame of the window of its call with the result of that. -/
theorem Sound.stored {state next : State T N E} (sound : Sound setup good allowed state past)
    (stepped : setup.step state event = some next) :
    next.store = state.store ∨ ∃ baseline current result frame,
      Compared setup past event.task baseline current ∧ allowed baseline current result ∧
        frame ∈ current ∧ next.store = state.store ++ [(frame, result.metrics)] := by
  cases step_cases stepped with
  | recorded task frame rest result pc =>
      have holds := sound.calls task
      rw [pc] at holds
      obtain ⟨baseline, current, compared, allows, inside, _⟩ := holds
      exact .inr ⟨baseline, current, result, frame, compared, allows, inside, rfl⟩
  | _ => exact .inl rfl

end Calls

/-- The ranges of the scores of two windows with a number of agents. -/
structure InRange (spectralK : Int) (agents : Nat) (metrics : Metrics ℝ) : Prop where
  js : 0 ≤ metrics.jsDivergence ∧ metrics.jsDivergence ≤ Real.sqrt (Real.log 2)
  mmd : 0 ≤ metrics.mmdScore ∧ metrics.mmdScore ≤ Real.sqrt 2
  spectral : 0 ≤ metrics.spectralDistance ∧ metrics.spectralDistance ≤ 2 * Real.sqrt spectralK
  entropy : |metrics.transitionEntropyDelta| ≤ agents * Real.log agents

section Exact

variable {T E S : Type} {runtime : Runtime ℝ} {pca : List (List ℝ) → List ℝ → ℝ}
  {raise : VectorError → E} {notifier : Bool}
  {baselineService : Option (List (RAGEvaluationFrame ℝ) → Draws S → Except E (Thresholds ℝ))}

theorem evaluate_inRange {monitor : DriftMonitor ℝ}
    (positive : 1 ≤ monitor.graphCalculator.spectralK) {F G : List (RAGEvaluationFrame ℝ)}
    {draws : Draws S} {result : Evaluation ℝ}
    (ran : (exactSetup runtime pca raise baselineService notifier).evaluate monitor F G draws =
      .ok result) :
    InRange monitor.graphCalculator.spectralK (windowAgents F G).length result.metrics := by
  obtain ⟨vectorDrift, measured, ran⟩ := bind_ok_iff.mp ran
  obtain ⟨graphDrift, pooled, ran⟩ := bind_ok_iff.mp ran
  obtain ⟨swarmDrift, hopped, ran⟩ := bind_ok_iff.mp ran
  cases pooled
  cases hopped
  cases ran
  have vectors := evaluateVectorDrift_range (mapError_ok_iff.mp measured)
  exact ⟨vectors.1, vectors.2, evaluateGraphDrift_range runtime positive F G,
    evaluateSwarmDrift_range monitor F G⟩

theorem spectralK_apply (monitor : DriftMonitor ℝ) (thresholds : Thresholds ℝ) :
    (monitor.applyCalibratedThresholds thresholds).graphCalculator.spectralK =
      monitor.graphCalculator.spectralK := by
  unfold DriftMonitor.applyCalibratedThresholds
  split <;> rfl

theorem spectralK_restore (monitor : DriftMonitor ℝ) :
    monitor.restoreThresholds.graphCalculator.spectralK = monitor.graphCalculator.spectralK := by
  unfold DriftMonitor.restoreThresholds
  split <;> rfl

variable [DecidableEq T] {start final : State T ℝ E} {events : List (Event T ℝ (Draws S) E)}

theorem run_inRange (positive : 1 ≤ start.monitor.graphCalculator.spectralK)
    (idle : ∀ task, start.pc task = .idle)
    (ran : run (exactSetup runtime pca raise baselineService notifier).step start events =
      some final) :
    Sound (exactSetup runtime pca raise baselineService notifier)
      (fun monitor => monitor.graphCalculator.spectralK = start.monitor.graphCalculator.spectralK)
      (fun F G result => InRange start.monitor.graphCalculator.spectralK
        (windowAgents F G).length result.metrics) final events := by
  refine run_sound ?_ ?_ ?_ ?_ idle ran
  · intro monitor thresholds same
    exact (spectralK_apply monitor thresholds).trans same
  · intro monitor same
    exact (spectralK_restore monitor).trans same
  · intro monitor F G draws result same evaluated
    rw [← same]
    exact evaluate_inRange (same ▸ positive) evaluated
  · rfl

/-- However calls interleave and whatever is calibrated meanwhile, every row that a step stores and
every result that is returned has its scores in their ranges, those of the windows that the call
compares, and the row is of a frame of the current one. -/
theorem stored_scores_in_range (positive : 1 ≤ start.monitor.graphCalculator.spectralK)
    (idle : ∀ task, start.pc task = .idle)
    (ran : run (exactSetup runtime pca raise baselineService notifier).step start events =
      some final) :
    (∀ past event later state next, events = past ++ event :: later →
      run (exactSetup runtime pca raise baselineService notifier).step start past = some state →
      (exactSetup runtime pca raise baselineService notifier).step state event = some next →
        next.store = state.store ∨ ∃ baseline current frame metrics,
          Compared (exactSetup runtime pca raise baselineService notifier) past event.task
              baseline current ∧
            frame ∈ current ∧ next.store = state.store ++ [(frame, metrics)] ∧
            InRange start.monitor.graphCalculator.spectralK (windowAgents baseline current).length
              metrics) ∧
      ∀ task result, final.pc task = .returned result → ∃ baseline current,
        Compared (exactSetup runtime pca raise baselineService notifier) events task baseline
            current ∧
          InRange start.monitor.graphCalculator.spectralK (windowAgents baseline current).length
            result.metrics := by
  constructor
  · intro past event later state next _ reached stepped
    rcases (run_inRange positive idle reached).stored stepped with kept |
      ⟨baseline, current, result, frame, compared, ranges, inside, added⟩
    · exact .inl kept
    · exact .inr ⟨baseline, current, frame, result.metrics, compared, inside, added, ranges⟩
  · intro task result returned
    have holds := (run_inRange positive idle ran).calls task
    rw [returned] at holds
    exact holds

end Exact

theorem stored_scores_in_range_swapped : ∃ final, run plainSetup.step plainState
    (.call () (some forwards) (some backwards) unshuffled :: storedFrames) = some final ∧
      final.store.map Prod.fst = backwards ∧
      (∀ past event later state next,
        .call () (some forwards) (some backwards) unshuffled :: storedFrames =
          past ++ event :: later →
        run plainSetup.step plainState past = some state →
        plainSetup.step state event = some next →
          next.store = state.store ∨ ∃ baseline current frame metrics,
            Compared plainSetup past event.task baseline current ∧ frame ∈ current ∧
              next.store = state.store ++ [(frame, metrics)] ∧
              InRange 5 (windowAgents baseline current).length metrics) ∧
      ∀ task result, final.pc task = .returned result → ∃ baseline current,
        Compared plainSetup
            (.call () (some forwards) (some backwards) unshuffled :: storedFrames) task baseline
            current ∧
          InRange 5 (windowAgents baseline current).length result.metrics := by
  obtain ⟨final, ran, stored⟩ := run_swapped
  have positive : 1 ≤ plainState.monitor.graphCalculator.spectralK := by
    show (1 : Int) ≤ 5
    omega
  exact ⟨final, ran, stored, stored_scores_in_range positive (fun _ => rfl) ran⟩

end RagDrift.Monitor
