import RagDrift.Monitor.Evaluation
import RagDrift.Numeric.Arrays
import Mathlib.Analysis.SpecialFunctions.Pow.Real
import Mathlib.Data.List.OfFn

set_option autoImplicit false

/- The vector statistics of `evaluator.drift_monitor`, in exact real arithmetic. -/
namespace RagDrift.Monitor

open Numeric (mean mean_perm mean_replicate amin amax median percentile histogram histogram_perm)
open Telemetry (RAGEvaluationFrame)

variable {N S : Type}

inductive VectorError where
  /-- `np.array` of rows of different lengths. -/
  | inhomogeneousShape
  /-- `"Cannot compute drift distributions from zero-width embeddings"` -/
  | zeroWidth
  deriving DecidableEq

/-- The first of the three places of a frame that holds an embedding. -/
def frameEmbedding? (frame : RAGEvaluationFrame N) : Option (List N) :=
  (frame.query.embedding.or frame.output.responseEmbedding).or
    (frame.context.denseEmbeddings.getD []).head?

def frameVectors (frames : List (RAGEvaluationFrame N)) : List (List N) :=
  (frames.filterMap frameEmbedding?).filter fun embedding => !embedding.isEmpty

/-- `matrix.shape[1]`. -/
def width (matrix : List (List N)) : Nat := (matrix.head?.getD []).length

/-- `_collect_vector_embeddings`. -/
def collectVectorEmbeddings (frames : List (RAGEvaluationFrame N)) :
    Except VectorError (Option (List (List N))) :=
  let vectors := frameVectors frames
  if vectors = [] then .ok none
  else if ∀ row ∈ vectors, row.length = width vectors then .ok (some vectors)
  else .error .inhomogeneousShape

/-- `combined[perm_idx]`. -/
def shuffled (rows : List (List N)) (permutation : Equiv.Perm (Fin rows.length)) :
    List (List N) :=
  List.ofFn fun place => rows.get (permutation place)

/-- The outcome of the random draws of a call: the 100 permutations, for whatever number of
rows, and what the calibration draws. -/
structure Draws (S : Type) where
  permutation : Fin 100 → (n : Nat) → Equiv.Perm (Fin n)
  shuffles : S

noncomputable section

def freedmanDiaconisBinCount (data : List ℝ) : Nat :=
  if data.length < 2 then 20
  else
    let iqr := percentile data 75 - percentile data 25
    let dataRange := amax data - amin data
    if 0 < iqr ∧ 0 < dataRange then
      let binWidth := 2 * iqr / (data.length : ℝ) ^ (1 / 3 : ℝ)
      if 0 < binWidth then max 10 (min ⌈dataRange / binWidth⌉₊ 100) else 20
    else 20

def eps : ℝ := 1e-12

/-- `np.clip(hist, eps, None)`, divided by its sum. -/
def masses (hist : List ℝ) : List ℝ :=
  let clipped := hist.map (max eps)
  clipped.map fun mass => mass / clipped.sum

/-- `_jensen_shannon_distributions`; `pca` is the map of rows that `PCA(n_components=1)` finds
for the rows it is fitted on. -/
def jensenShannonDistributions (pca : List (List ℝ) → List ℝ → ℝ)
    (baseline current : List (List ℝ)) :
    Except VectorError (List ℝ × List ℝ) :=
  let combined := baseline ++ current
  if width combined = 0 then .error .zeroWidth
  else
    let reduced := combined.map (pca combined)
    let redB := reduced.take baseline.length
    let redC := reduced.drop baseline.length
    let lo := amin reduced
    let hi := amax reduced
    let numBins := freedmanDiaconisBinCount reduced
    if hi - lo < eps then
      .ok (List.replicate numBins (1 / (numBins : ℝ)), List.replicate numBins (1 / (numBins : ℝ)))
    else
      .ok (masses (histogram numBins lo hi redB), masses (histogram numBins lo hi redC))

/-- `rel_entr(p, m).sum()`, for entries of `m` that are 0 only where those of `p` are. -/
def relativeEntropy (p m : List ℝ) : ℝ :=
  (List.zipWith (fun a b => a * Real.log (a / b)) p m).sum

/-- `scipy.spatial.distance.jensenshannon` of two arrays of masses. -/
def jensenshannon (p q : List ℝ) : ℝ :=
  let p' := p.map fun mass => mass / p.sum
  let q' := q.map fun mass => mass / q.sum
  let m := List.zipWith (fun a b => (a + b) / 2) p' q'
  Real.sqrt ((relativeEntropy p' m + relativeEntropy q' m) / 2)

/-- `compute_jensen_shannon_drift`. -/
def DriftMonitor.computeJensenShannonDrift (monitor : DriftMonitor ℝ)
    (pca : List (List ℝ) → List ℝ → ℝ) (baseline current : List (List ℝ)) :
    Except VectorError (ℝ × Bool) := do
  let (p, q) ← jensenShannonDistributions pca baseline current
  let jsDivergence := jensenshannon p q
  return (jsDivergence, monitor.isDrifted jsDivergence 0 0)

def sqeuclidean (left right : List ℝ) : ℝ :=
  (List.zipWith (fun a b => (a - b) ^ 2) left right).sum

/-- `cdist(X, Y, metric="sqeuclidean").ravel()`; of a sample with itself this is also
`squareform(pdist(X))`. -/
def cdist (X Y : List (List ℝ)) : List ℝ := X.flatMap fun x => Y.map (sqeuclidean x)

def rbfKernel (X Y : List (List ℝ)) (gamma : ℝ) : List ℝ :=
  (cdist X Y).map fun sqDist => Real.exp (-gamma * sqDist)

def discrepancy (X Y : List (List ℝ)) (gamma : ℝ) : ℝ :=
  max 0 (mean (rbfKernel X X gamma) + mean (rbfKernel Y Y gamma) - 2 * mean (rbfKernel X Y gamma))

def medianGamma (baseline current : List (List ℝ)) : ℝ :=
  let medianSqDist := median ((cdist baseline baseline).filter (0 < ·) ++
    (cdist current current).filter (0 < ·) ++ cdist baseline current)
  let bandwidth := medianSqDist / (2 * Real.log (max baseline.length current.length + 1 : ℝ))
  1 / (2 * if bandwidth ≤ 0 then 1 else bandwidth)

theorem medianGamma_pos (baseline current : List (List ℝ)) :
    0 < medianGamma baseline current := by
  unfold medianGamma
  dsimp only
  split
  · norm_num
  · rename_i positive
    have bandwidth := not_le.mp positive
    positivity

/-- `compute_mmd_drift`: the score, the p-value and the verdict. -/
def DriftMonitor.computeMmdDrift (monitor : DriftMonitor ℝ) (baseline current : List (List ℝ))
    (draws : Draws S) : ℝ × ℝ × Bool :=
  let gamma := medianGamma baseline current
  let mmdSq := discrepancy baseline current gamma
  let mmdScore := Real.sqrt mmdSq
  let combined := baseline ++ current
  let permScores := List.ofFn fun draw : Fin 100 =>
    let rows := shuffled combined (draws.permutation draw combined.length)
    discrepancy (rows.take baseline.length) (rows.drop baseline.length) gamma
  let pValue := mean (permScores.map fun score => if mmdSq ≤ score then 1 else 0)
  (mmdScore, pValue, pValue < 0.05 ∨ monitor.getThreshold "mmd_score" < mmdScore)

def VectorDrift.none : VectorDrift ℝ := ⟨0, 0, false⟩

/-- `_evaluate_vector_drift`. -/
def DriftMonitor.evaluateVectorDrift (monitor : DriftMonitor ℝ)
    (pca : List (List ℝ) → List ℝ → ℝ)
    (baselineFrames currentFrames : List (RAGEvaluationFrame ℝ)) (draws : Draws S) :
    Except VectorError (VectorDrift ℝ) := do
  let baselineVectors ← collectVectorEmbeddings baselineFrames
  let currentVectors ← collectVectorEmbeddings currentFrames
  match baselineVectors, currentVectors with
  | some baseline, some current =>
      if width baseline ≠ width current then
        return .none
      else
        let (jsScore, jsDrifted) ← monitor.computeJensenShannonDrift pca baseline current
        if baseline.length < 2 ∨ current.length < 2 then
          return ⟨jsScore, 0, jsDrifted⟩
        else
          let (mmdScore, _, mmdDrifted) := monitor.computeMmdDrift baseline current draws
          return ⟨jsScore, mmdScore, jsDrifted || mmdDrifted⟩
  | _, _ => return .none

theorem relativeEntropy_self (p : List ℝ) : relativeEntropy p p = 0 := by
  simp [relativeEntropy, List.zipWith_self]

theorem jensenshannon_self (p : List ℝ) : jensenshannon p p = 0 := by
  have middle : ∀ q : List ℝ, List.zipWith (fun a b : ℝ => (a + b) / 2) q q = q := by
    intro q
    simp [List.zipWith_self]
  simp only [jensenshannon, middle, relativeEntropy_self, add_zero, zero_div, Real.sqrt_zero]

section Reordered

variable {baseline current : List (List ℝ)}

/-- Both samples have one histogram, so both distributions are the same. -/
theorem jensenShannonDistributions_perm (pca : List (List ℝ) → List ℝ → ℝ)
    (reordered : baseline.Perm current) (wide : width (baseline ++ current) ≠ 0) :
    ∃ p, jensenShannonDistributions pca baseline current = .ok (p, p) := by
  unfold jensenShannonDistributions
  rw [if_neg wide]
  simp only [List.map_append]
  have front : ∀ project : List ℝ → ℝ,
      (baseline.map project ++ current.map project).take baseline.length =
        baseline.map project := by
    intro project
    exact List.take_left' (List.length_map _)
  have back : ∀ project : List ℝ → ℝ,
      (baseline.map project ++ current.map project).drop baseline.length =
        current.map project := by
    intro project
    exact List.drop_left' (List.length_map _)
  simp only [front, back, histogram_perm (reordered.map _)]
  split
  · exact ⟨_, rfl⟩
  · exact ⟨_, rfl⟩

theorem rbfKernel_perm {X X' Y Y' : List (List ℝ)} (left : X.Perm X') (right : Y.Perm Y')
    (gamma : ℝ) : (rbfKernel X Y gamma).Perm (rbfKernel X' Y' gamma) :=
  (left.flatMap fun _ _ => right.map _).map _

theorem discrepancy_perm (reordered : baseline.Perm current) (gamma : ℝ) :
    discrepancy baseline current gamma = 0 := by
  have first := mean_perm (rbfKernel_perm reordered.symm (List.Perm.refl current) gamma)
  have second := mean_perm (rbfKernel_perm reordered reordered gamma)
  have third := mean_perm (rbfKernel_perm reordered (List.Perm.refl current) gamma)
  have cancels : mean (rbfKernel baseline baseline gamma) + mean (rbfKernel current current gamma) -
      2 * mean (rbfKernel baseline current gamma) = 0 := by
    rw [second, third]
    ring
  rw [discrepancy, cancels, max_self]

theorem discrepancy_nonneg (X Y : List (List ℝ)) (gamma : ℝ) : 0 ≤ discrepancy X Y gamma :=
  le_max_left _ _

/-- No outcome of the permutations is below an observed 0, so the p-value is 1. -/
theorem computeMmdDrift_perm {monitor : DriftMonitor ℝ} (draws : Draws S)
    (reordered : baseline.Perm current) (allowed : 0 ≤ monitor.getThreshold "mmd_score") :
    monitor.computeMmdDrift baseline current draws = (0, 1, false) := by
  unfold DriftMonitor.computeMmdDrift
  simp only [discrepancy_perm reordered, discrepancy_nonneg, if_true, Real.sqrt_zero,
    List.map_ofFn, Function.comp_def, List.ofFn_const, mean_replicate (by decide : 100 ≠ 0)]
  simp only [not_lt.mpr allowed, or_false, Prod.mk.injEq, true_and, decide_eq_false_iff_not]
  norm_num

end Reordered

end

end RagDrift.Monitor
