import RagDrift.Collections.Recent
import RagDrift.DriftStore.Windows
import RagDrift.Numeric.Repeated
import Mathlib.Data.List.ReduceOption

set_option autoImplicit false

/- `get_trend` and `detect_anomaly`, in exact real arithmetic: when the latest score stands out
among the last ones. -/
namespace RagDrift.DriftStore

open Collections (SortedBy length_rtake rtake_append rtake_of_length_le)
open Deviation (mean sampleStd count_lt_of_above above_two_values_iff
  mean_lt_of_above sampleStd_pos)
open Exceptions (exists_of_mem_results exists_result_of_mem mapM_ok_iff)
open Schemas (RAGEvaluationFrame)
open Transition (run run_cons run_invariant_of_meets meets_of_forall)

noncomputable section

/-- The last value of a rolling column: null if a value of its window is. -/
def rolling (statistic : List ℝ → ℝ) (window : Nat) (scores : List (Option ℝ)) : Option ℝ :=
  if (scores.rtake window).all Option.isSome then
    some (statistic (scores.rtake window).reduceOption)
  else none

/-- `detect_anomaly`, for the scores by time. -/
def detectAnomaly (window : Nat) (stdMultiplier : ℝ) (scores : List (Option ℝ)) : Bool :=
  if scores.length < window then false
  else
    match rolling mean window scores, rolling sampleStd window scores, scores.getLast?.join with
    | some rollingMean, some rollingStd, some latest =>
        if rollingStd = 0 then false
        else decide (rollingMean + stdMultiplier * rollingStd < latest)
    | _, _, _ => false

variable {P T : Type} [LinearOrder T]

/-- What `detect_anomaly` may answer for a table. -/
def DetectsAnomaly (window : Nat) (stdMultiplier : ℝ) (rows : List (Row P T ℝ))
    (answer : Bool) : Prop :=
  ∃ trend, SortedBy Row.timestamp rows trend ∧
    answer = detectAnomaly window stdMultiplier (trend.map Row.jsDivergence)

end

section Scores

variable {window : Nat} {stdMultiplier : ℝ} {scores : List (Option ℝ)}

/-- What an anomaly says of the last scores. -/
theorem detectAnomaly_true (detected : detectAnomaly window stdMultiplier scores = true) :
    window ≤ scores.length ∧ (∀ score ∈ scores.rtake window, score.isSome) ∧
      ∃ latest, scores.getLast? = some (some latest) ∧
        sampleStd (scores.rtake window).reduceOption ≠ 0 ∧
        mean (scores.rtake window).reduceOption +
          stdMultiplier * sampleStd (scores.rtake window).reduceOption < latest := by
  unfold detectAnomaly at detected
  split at detected
  · cases detected
  · rename_i long
    refine ⟨not_lt.mp long, ?_⟩
    split at detected
    · rename_i rollingMean rollingStd latest means deviates last
      unfold rolling at means deviates
      split at means
      · rename_i all
        rw [if_pos all, Option.some.injEq] at deviates
        rw [Option.some.injEq] at means
        split at detected
        · cases detected
        · rename_i spread
          refine ⟨List.all_eq_true.mp all, latest, Option.join_eq_some_iff.mp last, ?_, ?_⟩
          · rw [deviates]
            exact spread
          · rw [deviates, means]
            exact of_decide_eq_true detected
      · cases means
    · cases detected

/-- A missing score among the last ones hides all others. -/
theorem detectAnomaly_of_none (missing : none ∈ scores.rtake window) :
    detectAnomaly window stdMultiplier scores = false := by
  rw [Bool.eq_false_iff]
  intro detected
  have filled := (detectAnomaly_true detected).2.1 none missing
  cases filled

theorem map_reduceOption (all : ∀ score ∈ scores, score.isSome) :
    scores.reduceOption.map some = scores := by
  induction scores with
  | nil => rfl
  | cons score rest ih =>
      obtain ⟨value, rfl⟩ := Option.isSome_iff_exists.mp (all score List.mem_cons_self)
      rw [List.reduceOption_cons_of_some, List.map_cons,
        ih fun other inside => all other (List.mem_cons_of_mem _ inside)]

/-- So does a latest score that is there too often. -/
theorem detectAnomaly_repeated {score : Option ℝ} {times : Nat} (repeats : 0 < times)
    (nonneg : 0 ≤ stdMultiplier)
    (often : ((window : ℝ) - times) * (window - 1) ≤ stdMultiplier ^ 2 * window * times) :
    detectAnomaly window stdMultiplier (scores ++ List.replicate times score) = false := by
  rw [Bool.eq_false_iff]
  intro detected
  obtain ⟨long, all, latest, last, spread, above⟩ := detectAnomaly_true detected
  have same : score = some latest := by
    rw [List.getLast?_append, List.getLast?_replicate, if_neg repeats.ne'] at last
    exact Option.some.inj last
  subst same
  have read := map_reduceOption all
  have length : ((scores ++ List.replicate times (some latest)).rtake window).length = window := by
    rw [length_rtake, Nat.min_eq_left long]
  have count : min window times ≤
      ((scores ++ List.replicate times (some latest)).rtake window).count (some latest) := by
    rw [rtake_append, List.rtake_eq_reverse_take_reverse (List.replicate _ _),
      List.reverse_replicate, List.take_replicate, List.reverse_replicate, List.count_append,
      List.count_replicate_self]
    exact Nat.le_add_left _ _
  rw [← read, List.length_map] at length
  rw [← read, List.count_map_of_injective _ _ (Option.some_injective ℝ)] at count
  generalize (List.reduceOption _) = values at length count spread above
  have filled : 0 < window := by
    refine Nat.pos_of_ne_zero ?_
    rintro rfl
    rw [List.length_eq_zero_iff.mp length] at spread
    exact spread (by simp [sampleStd, Deviation.squares])
  have inside : latest ∈ values := by
    rw [← List.count_pos_iff]
    omega
  have seldom := count_lt_of_above nonneg inside above
  rw [length] at seldom
  have most : (values.count latest : ℝ) ≤ window := by
    rw [← length]
    exact_mod_cast List.count_le_length
  have one : (1 : ℝ) ≤ window := Nat.one_le_cast.mpr filled
  rcases Nat.le_total window times with all | few
  · rw [Nat.min_eq_left all] at count
    have every : (values.count latest : ℝ) = window := le_antisymm most (by exact_mod_cast count)
    rw [every, sub_self, zero_mul] at seldom
    exact absurd seldom (by positivity : (0 : ℝ) ≤ stdMultiplier ^ 2 * window * window).not_gt
  · rw [Nat.min_eq_right few] at count
    have enough : (times : ℝ) ≤ values.count latest := by exact_mod_cast count
    have left := mul_le_mul_of_nonneg_right (by linarith :
      (window : ℝ) - values.count latest ≤ window - times) (by linarith : (0 : ℝ) ≤ window - 1)
    have right := mul_le_mul_of_nonneg_left enough
      (by positivity : (0 : ℝ) ≤ stdMultiplier ^ 2 * window)
    linarith

theorem detectAnomaly_map_some {values : List ℝ} {latest : ℝ} (last : values.getLast? = some latest)
    (nonneg : 0 ≤ stdMultiplier)
    (above : mean values + stdMultiplier * sampleStd values < latest) :
    detectAnomaly values.length stdMultiplier (values.map some) = true := by
  have deviates := sampleStd_pos (List.mem_of_getLast? last) (mean_lt_of_above nonneg above)
  have whole : (values.map some).rtake values.length = values.map some :=
    rtake_of_length_le (List.length_map some).le
  have read : (values.map some).reduceOption = values :=
    List.map_injective_iff.mpr (Option.some_injective ℝ) (map_reduceOption (by simp))
  have all : (values.map some).all Option.isSome = true := by simp
  have latest : ((values.map some).getLast?).join = some latest := by
    rw [List.getLast?_map, last]
    rfl
  rw [detectAnomaly, List.length_map, if_neg (lt_irrefl _), rolling, rolling, whole, if_pos all,
    read, if_pos all, latest]
  simp only [deviates.ne', if_false, decide_eq_true_eq]
  exact above

/-- That bound is exact. -/
theorem anomaly_possible_iff {times : Nat} (repeats : 0 < times) (fits : times ≤ window)
    (nonneg : 0 ≤ stdMultiplier) :
    (∃ scores score, detectAnomaly window stdMultiplier (scores ++ List.replicate times score) =
        true) ↔
      stdMultiplier ^ 2 * window * times < ((window : ℝ) - times) * (window - 1) := by
  constructor
  · rintro ⟨scores, score, detected⟩
    by_contra often
    rw [detectAnomaly_repeated repeats nonneg (not_lt.mp often)] at detected
    cases detected
  · intro seldom
    obtain ⟨others, rfl⟩ := Nat.exists_eq_add_of_le' fits
    have above := (above_two_values_iff nonneg others times repeats).mpr (by
      push_cast at seldom
      linarith)
    have last : (List.replicate others (0 : ℝ) ++ List.replicate times 1).getLast? = some 1 := by
      rw [List.getLast?_append, List.getLast?_replicate, if_neg repeats.ne', Option.some_or]
    have detected := detectAnomaly_map_some last nonneg above
    rw [List.length_append, List.length_replicate, List.length_replicate, List.map_append,
      List.map_replicate, List.map_replicate] at detected
    exact ⟨List.replicate others (some 0), some 1, detected⟩

end Scores

section Rows

variable {P T : Type} {codec : Codec P T ℝ}

theorem floatColumn_empty (column : String) : floatColumn (Dict.empty : Dict ℝ) column = .ok none :=
  if_pos rfl

/-- The rows of one evaluation have one score. -/
theorem recorded_scores {frames : List (RAGEvaluationFrame T)} {metrics : Dict ℝ}
    {added : List (Row P T ℝ)}
    (stored : List.Forall₂ (fun frame row => codec.recordEvaluation frame metrics = .ok row)
      frames added) :
    ∃ score, ∀ row ∈ added, row.jsDivergence = score := by
  cases read : floatColumn metrics "js_divergence" with
  | error refusal =>
      cases stored with
      | nil => exact ⟨none, nofun⟩
      | cons made _ =>
          have score := (insert_ok made).2.2.2
          rw [read] at score
          cases score
  | ok score =>
      refine ⟨score, ?_⟩
      intro row inside
      obtain ⟨frame, _, made⟩ := exists_of_mem_results (mapM_ok_iff.mpr stored) inside
      have same := (insert_ok made).2.2.2
      rw [read] at same
      exact (Except.ok.inj same).symm

variable [LinearOrder T] {rows middle after : List (Row P T ℝ)}
  {window : Nat} {stdMultiplier : ℝ} {answer : Bool}

/-- A row without a score that is one of the last hides the others. -/
theorem unscored_row_hides {row : Row P T ℝ} (inside : row ∈ rows)
    (unscored : row.jsDivergence = none)
    (late : (rows.filter fun other => row.timestamp ≤ other.timestamp).length ≤ window)
    (detects : DetectsAnomaly window stdMultiplier rows answer) : answer = false := by
  obtain ⟨trend, sorted, rfl⟩ := detects
  refine detectAnomaly_of_none ?_
  have split := sorted.eq_append (fun other => other.timestamp < row.timestamp)
    fun _ _ less below => less.trans_lt below
  simp only [not_lt] at split
  have short : ((trend.filter fun other => row.timestamp ≤ other.timestamp).map
      Row.jsDivergence).length ≤ window := by
    rw [List.length_map, (sorted.perm.filter _).length_eq]
    exact late
  rw [split, List.map_append, rtake_append, rtake_of_length_le short, ← unscored]
  refine List.mem_append_right _ (List.mem_map_of_mem ?_)
  exact List.mem_filter.mpr ⟨sorted.perm.mem_iff.mpr inside, decide_eq_true le_rfl⟩

/-- A raw frame that was stored keeps the detector quiet until more than `window` rows are at
least as new. -/
theorem raw_frame_hides {frames : List (RAGEvaluationFrame T)} {statements : List (Statement T ℝ)}
    {frame : RAGEvaluationFrame T} (given : frame ∈ frames)
    (stored : codec.apply rows (.batchStoreFrames frames) = some middle)
    (kept : ∀ statement ∈ statements, statement ≠ .clearHistory)
    (ran : run codec.apply middle statements = some after)
    (late : (after.filter fun other => frame.timestamp ≤ other.timestamp).length ≤ window)
    (detects : DetectsAnomaly window stdMultiplier after answer) : answer = false := by
  obtain ⟨added, made, rfl⟩ := apply_appends (by intro same; cases same) stored
  obtain ⟨row, inside, inserted⟩ := exists_result_of_mem made given
  obtain ⟨time, _, _, score⟩ := insert_ok inserted
  rw [floatColumn_empty] at score
  have keeps : ∀ (state : List (Row P T ℝ)) (statement : Statement T ℝ) next, row ∈ state →
      statement ≠ .clearHistory → codec.apply state statement = some next → row ∈ next := by
    intro state statement next there keep applied
    obtain ⟨more, _, rfl⟩ := apply_appends keep applied
    exact List.mem_append_left _ there
  have still : row ∈ after := run_invariant_of_meets keeps (List.mem_append_right _ inside)
    (meets_of_forall kept) ran
  rw [← time] at late
  exact unscored_row_hides still (Except.ok.inj score).symm late detects

/-- The rows of one evaluation hide its own score: where they are the latest rows and make up
enough of the window, no score at all is an anomaly. -/
theorem latest_rows_hide {frames : List (RAGEvaluationFrame T)} {metrics : Dict ℝ}
    {bound : T} (older : ∀ row ∈ rows, row.timestamp ≤ bound)
    (newer : ∀ frame ∈ frames, bound < frame.timestamp) (filled : frames ≠ [])
    (recorded : run codec.apply rows (frames.map (.recordEvaluation · metrics)) = some after)
    (nonneg : 0 ≤ stdMultiplier)
    (many : ((window : ℝ) - frames.length) * (window - 1) ≤
      stdMultiplier ^ 2 * window * frames.length)
    (detects : DetectsAnomaly window stdMultiplier after answer) : answer = false := by
  obtain ⟨added, rfl, stored⟩ := run_recordEvaluation recorded
  obtain ⟨score, all⟩ := recorded_scores stored
  obtain ⟨trend, sorted, rfl⟩ := detects
  have split := sorted.eq_append (fun row => row.timestamp ≤ bound) fun _ _ => le_trans
  have latest : (trend.filter fun row => ¬ row.timestamp ≤ bound).Perm added := by
    refine (sorted.perm.filter _).trans ?_
    rw [List.filter_append]
    have none : rows.filter (fun row => ¬ row.timestamp ≤ bound) = [] := by
      rw [List.filter_eq_nil_iff]
      intro row inside
      simpa using older row inside
    have every : added.filter (fun row => ¬ row.timestamp ≤ bound) = added := by
      rw [List.filter_eq_self]
      intro row inside
      obtain ⟨frame, given, made⟩ := exists_of_mem_results (mapM_ok_iff.mpr stored) inside
      rw [(insert_ok made).1]
      simpa using newer frame given
    rw [none, every]
    rfl
  have scores : (trend.filter fun row => ¬ row.timestamp ≤ bound).map Row.jsDivergence =
      List.replicate frames.length score := by
    rw [List.eq_replicate_iff, List.length_map, latest.length_eq, stored.length_eq]
    refine ⟨rfl, ?_⟩
    intro other inside
    obtain ⟨row, there, rfl⟩ := List.mem_map.mp inside
    exact all row (latest.mem_iff.mp there)
  rw [split, List.map_append, scores]
  exact detectAnomaly_repeated (List.length_pos_iff.mpr filled) nonneg many

/-- The rows of an evaluation of `k` frames raise the mean and the deviation that its score is
compared with: that bound on `k` says when they hide every score. -/
theorem evaluation_hides_itself (codec : Codec P T ℝ) (window : Nat) {stdMultiplier : ℝ}
    (nonneg : 0 ≤ stdMultiplier) :
    (∀ (rows after : List (Row P T ℝ)) (frames : List (RAGEvaluationFrame T)) (metrics : Dict ℝ)
        (bound : T) (answer : Bool),
      (∀ row ∈ rows, row.timestamp ≤ bound) → (∀ frame ∈ frames, bound < frame.timestamp) →
      frames ≠ [] → run codec.apply rows (frames.map (.recordEvaluation · metrics)) = some after →
      ((window : ℝ) - frames.length) * (window - 1) ≤
        stdMultiplier ^ 2 * window * frames.length →
      DetectsAnomaly window stdMultiplier after answer → answer = false) ∧
    ∀ times : Nat, 0 < times → times ≤ window →
      stdMultiplier ^ 2 * window * times < ((window : ℝ) - times) * (window - 1) →
      ∃ scores score,
        detectAnomaly window stdMultiplier (scores ++ List.replicate times score) = true := by
  constructor
  · intro rows after frames metrics bound answer older newer filled recorded many detects
    exact latest_rows_hide older newer filled recorded nonneg many detects
  · intro times repeats fits seldom
    exact (anomaly_possible_iff repeats fits nonneg).mpr seldom

end Rows

def realCodec : Codec String String ℝ :=
  textCodec Ingestion.samplePydantic Ingestion.sampleDrawn fun _ => ""

/-- The row of the sample frame with a score. -/
def scoredAt (timestamp : String) (score : Option ℝ) : Row String String ℝ :=
  ⟨"trace", "naive", timestamp, score, none, none, false,
    (frameAt timestamp).modelDumpJson Ingestion.samplePydantic⟩

theorem recordEvaluation_frameAt (timestamp : String) {metrics : Dict ℝ} {score : Option ℝ}
    (js : floatColumn metrics "js_divergence" = .ok score)
    (mmd : floatColumn metrics "mmd_score" = .ok none)
    (wasserstein : floatColumn metrics "wasserstein_distance" = .ok none)
    (drifted : Optimization.Selectors.truthy (metrics.get "is_drifted") = false) :
    realCodec.recordEvaluation (frameAt timestamp) metrics = .ok (scoredAt timestamp score) := by
  have short : varchar 64 .traceId (frameAt timestamp).traceId = .ok () :=
    if_pos (show "trace".length ≤ 64 by decide)
  have kind : varchar 32 .ragType (frameAt timestamp).metadata.ragType.text = .ok () :=
    if_pos (show "naive".length ≤ 32 by decide)
  rw [Codec.recordEvaluation, Codec.insert, js, mmd, wasserstein, drifted, short, kind]
  rfl

theorem recordEvaluation_raw (timestamp : String) :
    realCodec.recordEvaluation (frameAt timestamp) .empty = .ok (scoredAt timestamp none) :=
  recordEvaluation_frameAt timestamp (floatColumn_empty _) (floatColumn_empty _)
    (floatColumn_empty _) rfl

/-- The metrics of an evaluation, of which the row reads the score. -/
def sampleMetrics : Dict ℝ := Dict.empty.set "js_divergence" (.num 1)

theorem sampleMetrics_get (key : String) :
    sampleMetrics.get key = if key = "js_divergence" then .num 1 else .none := by
  rw [sampleMetrics, Dict.get_set]
  rfl

theorem recordEvaluation_scored (timestamp : String) :
    realCodec.recordEvaluation (frameAt timestamp) sampleMetrics =
      .ok (scoredAt timestamp (some 1)) := by
  have there : PyVal.num (1 : ℝ) ≠ PyVal.none := by
    intro same
    cases congrArg PyVal.json same
  refine recordEvaluation_frameAt timestamp ?_ ?_ ?_ ?_
  · rw [floatColumn, sampleMetrics_get, if_pos rfl, if_neg there]
    rfl
  · exact if_pos ((sampleMetrics_get _).trans (if_neg (by decide)))
  · exact if_pos ((sampleMetrics_get _).trans (if_neg (by decide)))
  · rw [sampleMetrics_get, if_neg (by decide)]
    rfl

theorem detectsAnomaly_sorted {window : Nat} {stdMultiplier : ℝ} {rows : List (Row String String ℝ)}
    (sorted : (rows.map Row.timestamp).Pairwise (· ≤ ·)) :
    DetectsAnomaly window stdMultiplier rows
      (detectAnomaly window stdMultiplier (rows.map Row.jsDivergence)) :=
  ⟨rows, ⟨.refl _, List.pairwise_map.mp sorted⟩, rfl⟩

/-- Three evaluated rows. -/
def evaluatedDays : List (Row String String ℝ) :=
  [scoredAt "2026-01-01" (some 0), scoredAt "2026-01-02" (some 0), scoredAt "2026-01-03" (some 0)]

theorem apply_recordEvaluation (rows : List (Row String String ℝ)) (timestamp : String) :
    realCodec.apply rows (.recordEvaluation (frameAt timestamp) sampleMetrics) =
      some (rows ++ [scoredAt timestamp (some 1)]) := by
  rw [apply_of_ne_clear (by intro same; cases same), Codec.added, recordEvaluation_scored]
  rfl

/-- Of the five rows the window has the last three. The score of the last one would be an anomaly,
but the raw frame is before it. -/
theorem raw_frame_hides_first :
    detectAnomaly 3 1 [some 0, some 0, some 1] = true ∧
      detectAnomaly 3 1 ((evaluatedDays ++ [scoredAt "2026-01-04" none] ++
        [scoredAt "2026-01-05" (some 1)]).map Row.jsDivergence) = false := by
  constructor
  · have above := (above_two_values_iff zero_le_one 2 1 one_pos).mpr (by norm_num)
    exact detectAnomaly_map_some rfl zero_le_one above
  · have stored : realCodec.apply evaluatedDays (.batchStoreFrames [frameAt "2026-01-04"]) =
        some (evaluatedDays ++ [scoredAt "2026-01-04" none]) := by
      have batch : realCodec.batchStoreFrames [frameAt "2026-01-04"] =
          .ok [scoredAt "2026-01-04" none] :=
        mapM_ok_iff.mpr (.cons (recordEvaluation_raw _) .nil)
      rw [apply_of_ne_clear (by intro same; cases same), Codec.added, batch]
      rfl
    have kept : ∀ statement ∈
        [Statement.recordEvaluation (frameAt "2026-01-05") sampleMetrics],
        statement ≠ .clearHistory := by
      intro statement inside
      rw [List.mem_singleton.mp inside]
      intro same
      cases same
    have ran : run realCodec.apply (evaluatedDays ++ [scoredAt "2026-01-04" none])
        [.recordEvaluation (frameAt "2026-01-05") sampleMetrics] =
          some (evaluatedDays ++ [scoredAt "2026-01-04" none] ++
            [scoredAt "2026-01-05" (some 1)]) :=
      run_cons.mpr ⟨_, apply_recordEvaluation _ _, rfl⟩
    refine raw_frame_hides List.mem_cons_self stored kept ran ?_ (detectsAnomaly_sorted ?_)
    · decide
    · decide

theorem evaluation_hides_itself_first :
    detectAnomaly 3 1 ((evaluatedDays ++ [scoredAt "2026-01-04" (some 1)] ++
        [scoredAt "2026-01-05" (some 1)]).map Row.jsDivergence) = false ∧
      ∃ scores score, detectAnomaly 3 1 (scores ++ List.replicate 1 score) = true := by
  have both := evaluation_hides_itself realCodec 3 zero_le_one
  constructor
  · refine both.1 evaluatedDays _ [frameAt "2026-01-04", frameAt "2026-01-05"] sampleMetrics
      "2026-01-03" _ ?_ ?_ (by simp) ?_ (by norm_num) (detectsAnomaly_sorted ?_)
    · decide
    · intro frame inside
      rcases List.mem_pair.mp inside with rfl | rfl <;> decide
    · exact run_cons.mpr ⟨_, apply_recordEvaluation _ _,
        run_cons.mpr ⟨_, apply_recordEvaluation _ _, rfl⟩⟩
    · decide
  · exact both.2 1 one_pos (by decide) (by norm_num)

end RagDrift.DriftStore
