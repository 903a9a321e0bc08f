import RagDrift.LatentDrift.Engine
import RagDrift.LatentDrift.KernelDistance
import RagDrift.LatentDrift.SlicedDistance
import RagDrift.Python.Exceptions

set_option autoImplicit false

/- What a fitted engine has compared when a call returned: the rows of both sides, mapped one by
one. -/
namespace RagDrift.LatentDrift

open Exceptions (bind_ok_iff mapError_ok_iff)

variable {libraries : Libraries}

section Metrics

variable {n : Nat} (kde : Option (GaussianKde n)) (X Y : List (Fin n → ℝ))

theorem computeMetric_mmd :
    computeMetric libraries "mmd" kde X Y = .ok (kernelDistance X Y none) := by
  unfold computeMetric
  rw [if_pos rfl, computeMmd_eq]
  rfl

theorem computeMetric_swd :
    computeMetric libraries "swd" kde X Y =
      .ok (slicedDistance (swdProjections libraries n) X Y) := by
  unfold computeMetric
  rw [if_neg (by decide), if_pos rfl, computeSwd_eq]
  rfl

theorem computeMetric_jsd (kde : GaussianKde n) :
    computeMetric libraries "jsd" (some kde) X Y =
      .ok (computeJsd (gridDensities libraries kde X Y).1
        (gridDensities libraries kde X Y).2) := by
  unfold computeMetric
  rw [if_neg (by decide), if_neg (by decide), if_pos rfl]

variable {kde X Y}

/-- Only three metrics return a score, and `jsd` only with a fitted KDE. -/
theorem computeMetric_cases {metric : String} {score : ℝ}
    (ran : computeMetric libraries metric kde X Y = .ok score) :
    (metric = "mmd" ∧ score = kernelDistance X Y none) ∨
    (metric = "swd" ∧ score = slicedDistance (swdProjections libraries n) X Y) ∨
    (metric = "jsd" ∧ ∃ fitted, kde = some fitted ∧
      score = computeJsd (gridDensities libraries fitted X Y).1
        (gridDensities libraries fitted X Y).2) := by
  by_cases mmd : metric = "mmd"
  · subst mmd
    rw [computeMetric_mmd] at ran
    exact .inl ⟨rfl, (Except.ok.inj ran).symm⟩
  by_cases swd : metric = "swd"
  · subst swd
    rw [computeMetric_swd] at ran
    exact .inr (.inl ⟨rfl, (Except.ok.inj ran).symm⟩)
  by_cases jsd : metric = "jsd"
  · subst jsd
    cases kde with
    | none =>
        unfold computeMetric at ran
        rw [if_neg mmd, if_neg swd, if_pos rfl] at ran
        cases ran
    | some fitted =>
        rw [computeMetric_jsd] at ran
        exact .inr (.inr ⟨rfl, fitted, rfl, (Except.ok.inj ran).symm⟩)
  · unfold computeMetric at ran
    rw [if_neg mmd, if_neg swd, if_neg jsd] at ran
    cases ran

theorem computeMetric_returns {metric : String} (valid : metric ∈ LatentDriftEngine.validMetrics)
    (fitted : metric = "jsd" → ∃ found, kde = some found) :
    ∃ score, computeMetric libraries metric kde X Y = .ok score := by
  simp only [LatentDriftEngine.validMetrics, List.mem_cons, List.not_mem_nil, or_false] at valid
  rcases valid with rfl | rfl | rfl
  · exact ⟨_, computeMetric_mmd kde X Y⟩
  · exact ⟨_, computeMetric_swd kde X Y⟩
  · obtain ⟨found, rfl⟩ := fitted rfl
    exact ⟨_, computeMetric_jsd X Y found⟩

end Metrics

/-- The rows a fitted PCA takes. -/
def Pca.Accepts (pca : Pca) (vectors : List (List ℝ)) : Prop :=
  vectors ≠ [] ∧ 0 < pca.nFeatures ∧ ∀ row ∈ vectors, row.length = pca.nFeatures

theorem checkArray_ok_iff {vectors : List (List ℝ)} {nFeatures : Nat} {result : Unit} :
    checkArray vectors nFeatures = .ok result ↔
      vectors ≠ [] ∧ 0 < nFeatures ∧ ∀ row ∈ vectors, row.length = nFeatures := by
  rw [checkArray]
  split
  · rename_i fine
    exact ⟨fun _ => fine, fun _ => rfl⟩
  · rename_i refused
    exact ⟨nofun, fun fine => absurd fine refused⟩

theorem projectVectors_ok_iff {pca : Pca} {vectors : List (List ℝ)}
    {proj : List (Fin pca.nComponents → ℝ)} :
    projectVectors pca vectors = .ok proj ↔
      pca.Accepts vectors ∧ proj = vectors.map pca.transform := by
  rw [projectVectors, bind_ok_iff]
  constructor
  · rintro ⟨_, fine, returned⟩
    exact ⟨checkArray_ok_iff.mp fine, (Except.ok.inj returned).symm⟩
  · rintro ⟨fine, rfl⟩
    exact ⟨(), checkArray_ok_iff.mpr fine, rfl⟩

variable {engine next : LatentDriftEngine} {pcaComponents : Int}

namespace LatentDriftEngine

/-- A baseline that was fitted on some rows. -/
structure FittedOn (libraries : Libraries) (metric : String) (pcaComponents : Int)
    (rows : List (List ℝ)) (baseline : Baseline) : Prop where
  pca : fitPca libraries rows pcaComponents = .ok baseline.pca
  accepts : baseline.pca.Accepts rows
  proj : baseline.proj = rows.map baseline.pca.transform
  kde : metric = "jsd" → ∃ kde, fitKde libraries baseline.proj = .ok kde ∧ baseline.kde = some kde

theorem fitBaseline_ok {metric : String} {rows : List (List ℝ)} {baseline : Baseline}
    (ran : fitBaseline libraries metric pcaComponents rows = .ok baseline) :
    FittedOn libraries metric pcaComponents rows baseline := by
  obtain ⟨pca, fitted, ran⟩ := bind_ok_iff.mp ran
  obtain ⟨proj, projected, ran⟩ := bind_ok_iff.mp ran
  obtain ⟨accepts, same⟩ := projectVectors_ok_iff.mp projected
  split at ran
  · obtain ⟨kde, found, returned⟩ := bind_ok_iff.mp ran
    cases returned
    exact ⟨fitted, accepts, same, fun _ => ⟨kde, found, rfl⟩⟩
  · rename_i other
    cases ran
    exact ⟨fitted, accepts, same, fun jsd => absurd jsd other⟩

/-- What `fit_pca` returns for the rows it takes. -/
def fittedPca (libraries : Libraries) (rows : List (List ℝ)) (pcaComponents : Int) : Pca :=
  let nFeatures := (rows.headD []).length
  ⟨libraries.pca rows (min pcaComponents (min rows.length nFeatures : ℕ)), nFeatures⟩

theorem fitPca_eq {rows : List (List ℝ)}
    (accepts : (fittedPca libraries rows pcaComponents).Accepts rows) :
    fitPca libraries rows pcaComponents = .ok (fittedPca libraries rows pcaComponents) :=
  bind_ok_iff.mpr ⟨(), checkArray_ok_iff.mpr accepts, rfl⟩

theorem fitBaseline_plain {metric : String} {rows : List (List ℝ)} (other : metric ≠ "jsd")
    (accepts : (fittedPca libraries rows pcaComponents).Accepts rows) :
    fitBaseline libraries metric pcaComponents rows =
      .ok ⟨fittedPca libraries rows pcaComponents,
        rows.map (fittedPca libraries rows pcaComponents).transform, none⟩ := by
  refine bind_ok_iff.mpr ⟨_, fitPca_eq accepts, bind_ok_iff.mpr
    ⟨_, projectVectors_ok_iff.mpr ⟨accepts, rfl⟩, ?_⟩⟩
  rw [if_neg other]
  rfl

theorem fitBaseline_jsd {rows : List (List ℝ)}
    {kde : GaussianKde (fittedPca libraries rows pcaComponents).nComponents}
    (accepts : (fittedPca libraries rows pcaComponents).Accepts rows)
    (fits : fitKde libraries (rows.map (fittedPca libraries rows pcaComponents).transform) =
      .ok kde) :
    fitBaseline libraries "jsd" pcaComponents rows =
      .ok ⟨fittedPca libraries rows pcaComponents,
        rows.map (fittedPca libraries rows pcaComponents).transform, some kde⟩ := by
  refine bind_ok_iff.mpr ⟨_, fitPca_eq accepts, bind_ok_iff.mpr
    ⟨_, projectVectors_ok_iff.mpr ⟨accepts, rfl⟩, ?_⟩⟩
  rw [if_pos rfl]
  exact bind_ok_iff.mpr ⟨kde, fits, rfl⟩

/-- The score of `compute_drift` compares the projections of both sides. -/
theorem computeDrift_scored {fittedEngine : LatentDriftEngine} {baseline current : List (List ℝ)}
    {result : LatentDriftResult}
    (fitted : engine.fit libraries pcaComponents baseline = .ok fittedEngine)
    (ran : fittedEngine.computeDrift current = .ok (result, next)) :
    ∃ base, FittedOn libraries engine.metric pcaComponents baseline base ∧
      base.pca.Accepts current ∧
      computeMetric libraries engine.metric base.kde (baseline.map base.pca.transform)
        (current.map base.pca.transform) = .ok result.driftScore := by
  obtain ⟨base, fit, same⟩ := bind_ok_iff.mp fitted
  cases same
  obtain ⟨score, scored, returned⟩ := bind_ok_iff.mp ran
  cases returned
  obtain ⟨proj, projected, compared⟩ := bind_ok_iff.mp scored
  obtain ⟨accepts, rfl⟩ := projectVectors_ok_iff.mp projected
  have on := fitBaseline_ok fit
  rw [on.proj] at compared
  exact ⟨base, on, accepts, compared⟩

theorem computeDrift_returns {rows current : List (List ℝ)} {base : Baseline} {score : ℝ}
    (fitted : fitBaseline libraries engine.metric pcaComponents rows = .ok base)
    (accepts : base.pca.Accepts current)
    (compared : computeMetric libraries engine.metric base.kde (rows.map base.pca.transform)
      (current.map base.pca.transform) = .ok score) :
    ∃ fittedEngine result next, engine.fit libraries pcaComponents rows = .ok fittedEngine ∧
      fittedEngine.computeDrift current = .ok (result, next) ∧ result.driftScore = score := by
  rw [← (fitBaseline_ok fitted).proj] at compared
  have scored : (base.fitted libraries engine.metric).computeMetric current = .ok score :=
    bind_ok_iff.mpr ⟨_, projectVectors_ok_iff.mpr ⟨accepts, rfl⟩, compared⟩
  exact ⟨_, _, _, bind_ok_iff.mpr ⟨base, fitted, rfl⟩, bind_ok_iff.mpr ⟨score, scored, rfl⟩, rfl⟩

variable {baselineRetrieval currentRetrieval baselineGeneration currentGeneration :
  List (List ℝ)}

/-- A call on two tracks that returned. -/
structure DualRun (libraries : Libraries) (engine : LatentDriftEngine) (pcaComponents : Int)
    (baselineRetrieval currentRetrieval baselineGeneration currentGeneration : List (List ℝ))
    (baseline : Baseline) (retrieval generation unified : ℝ) : Prop where
  fitted : fitBaseline libraries engine.metric pcaComponents
    (baselineRetrieval ++ baselineGeneration) = .ok baseline
  acceptsRetrieval : baseline.pca.Accepts currentRetrieval
  acceptsGeneration : baseline.pca.Accepts currentGeneration
  retrieval : computeMetric libraries engine.metric baseline.kde
    (baselineRetrieval.map baseline.pca.transform)
    (currentRetrieval.map baseline.pca.transform) = .ok retrieval
  generation : computeMetric libraries engine.metric baseline.kde
    (baselineGeneration.map baseline.pca.transform)
    (currentGeneration.map baseline.pca.transform) = .ok generation
  unified : computeMetric libraries engine.metric baseline.kde
    ((baselineRetrieval ++ baselineGeneration).map baseline.pca.transform)
    ((currentRetrieval ++ currentGeneration).map baseline.pca.transform) = .ok unified

theorem vstack_of_ok {rows stacked : List (List ℝ)}
    (ran : StreamingDriftBuffer.vstack rows = .ok stacked) : stacked = rows := by
  rw [StreamingDriftBuffer.vstack] at ran
  split_ifs at ran
  cases ran
  rfl

theorem vstack_of_accepts {pca : Pca} {rows : List (List ℝ)} (accepts : pca.Accepts rows) :
    StreamingDriftBuffer.vstack rows = .ok rows := by
  obtain ⟨some, _, lengths⟩ := accepts
  rw [StreamingDriftBuffer.vstack, if_neg some, if_pos]
  intro row inside
  cases rows with
  | nil => cases inside
  | cons first rest => exact (lengths row inside).trans (lengths first List.mem_cons_self).symm

/-- The projections of the two baselines, cut out of the one they were fitted on. -/
theorem take_map_append (left right : List (List ℝ)) {n : Nat} (f : List ℝ → Fin n → ℝ) :
    ((left ++ right).map f).take left.length = left.map f ∧
      (((left ++ right).map f).drop left.length).take right.length = right.map f := by
  have length : (left.map f).length = left.length := List.length_map _
  rw [List.map_append]
  constructor
  · exact List.take_left' length
  · rw [List.drop_left' length]
    exact List.take_of_length_le (List.length_map _).le

theorem computeDualTrackDrift_ok {results : DualTrackResults}
    (ran : engine.computeDualTrackDrift libraries pcaComponents baselineRetrieval
      currentRetrieval baselineGeneration currentGeneration = .ok (results, next)) :
    ∃ baseline, DualRun libraries engine pcaComponents baselineRetrieval currentRetrieval
      baselineGeneration currentGeneration baseline results.retrieval.driftScore
      results.generation.driftScore results.unified.driftScore := by
  obtain ⟨vectors, stacked, ran⟩ := bind_ok_iff.mp ran
  obtain ⟨baseline, fitted, ran⟩ := bind_ok_iff.mp ran
  obtain ⟨curRet, projectedRet, ran⟩ := bind_ok_iff.mp ran
  obtain ⟨curGen, projectedGen, ran⟩ := bind_ok_iff.mp ran
  obtain ⟨retScore, retrieval, ran⟩ := bind_ok_iff.mp ran
  obtain ⟨genScore, generation, ran⟩ := bind_ok_iff.mp ran
  obtain ⟨unifiedScore, unified, returned⟩ := bind_ok_iff.mp ran
  cases returned
  obtain rfl := vstack_of_ok (mapError_ok_iff.mp stacked)
  obtain ⟨acceptsRet, rfl⟩ := projectVectors_ok_iff.mp projectedRet
  obtain ⟨acceptsGen, rfl⟩ := projectVectors_ok_iff.mp projectedGen
  have cut := take_map_append baselineRetrieval baselineGeneration baseline.pca.transform
  rw [(fitBaseline_ok fitted).proj, cut.1] at retrieval
  rw [(fitBaseline_ok fitted).proj, cut.2] at generation
  rw [(fitBaseline_ok fitted).proj, ← List.map_append] at unified
  exact ⟨baseline, fitted, acceptsRet, acceptsGen, retrieval, generation, unified⟩

/-- A call returns where nothing it does raises. -/
theorem DualRun.returns {baseline : Baseline} {retrieval generation unified : ℝ}
    (run : DualRun libraries engine pcaComponents baselineRetrieval currentRetrieval
      baselineGeneration currentGeneration baseline retrieval generation unified) :
    ∃ results next, engine.computeDualTrackDrift libraries pcaComponents baselineRetrieval
        currentRetrieval baselineGeneration currentGeneration = .ok (results, next) ∧
      results.retrieval.driftScore = retrieval ∧ results.generation.driftScore = generation ∧
      results.unified.driftScore = unified := by
  have on := fitBaseline_ok run.fitted
  have cut := take_map_append baselineRetrieval baselineGeneration baseline.pca.transform
  have retrievalRan := run.retrieval
  have generationRan := run.generation
  have unifiedRan := run.unified
  rw [← cut.1, ← on.proj] at retrievalRan
  rw [← cut.2, ← on.proj] at generationRan
  rw [← on.proj, List.map_append] at unifiedRan
  have stacked := vstack_of_accepts on.accepts
  have projectedRet := projectVectors_ok_iff.mpr ⟨run.acceptsRetrieval, rfl⟩
  have projectedGen := projectVectors_ok_iff.mpr ⟨run.acceptsGeneration, rfl⟩
  refine ⟨_, _, bind_ok_iff.mpr ⟨_, mapError_ok_iff.mpr stacked,
    bind_ok_iff.mpr ⟨_, run.fitted, bind_ok_iff.mpr ⟨_, projectedRet,
    bind_ok_iff.mpr ⟨_, projectedGen, bind_ok_iff.mpr ⟨_, retrievalRan,
    bind_ok_iff.mpr ⟨_, generationRan, bind_ok_iff.mpr ⟨_, unifiedRan, rfl⟩⟩⟩⟩⟩⟩⟩, ?_⟩
  exact ⟨rfl, rfl, rfl⟩

/-- Nothing raises after the fit where both tracks have the rows of the PCA. -/
theorem DualRun.of_fitted {baseline : Baseline} (valid : engine.metric ∈ validMetrics)
    (fitted : fitBaseline libraries engine.metric pcaComponents
      (baselineRetrieval ++ baselineGeneration) = .ok baseline)
    (retrieval : baseline.pca.Accepts currentRetrieval)
    (generation : baseline.pca.Accepts currentGeneration) :
    ∃ retrievalScore generationScore unifiedScore, DualRun libraries engine pcaComponents
      baselineRetrieval currentRetrieval baselineGeneration currentGeneration baseline
      retrievalScore generationScore unifiedScore := by
  have kde : engine.metric = "jsd" → ∃ found, baseline.kde = some found := by
    intro jsd
    obtain ⟨found, _, same⟩ := (fitBaseline_ok fitted).kde jsd
    exact ⟨found, same⟩
  obtain ⟨_, first⟩ := computeMetric_returns valid kde
  obtain ⟨_, second⟩ := computeMetric_returns valid kde
  obtain ⟨_, both⟩ := computeMetric_returns valid kde
  exact ⟨_, _, _, fitted, retrieval, generation, first, second, both⟩

end LatentDriftEngine

end RagDrift.LatentDrift
