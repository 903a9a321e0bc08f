import RagDrift.LatentDrift.Jsd
import RagDrift.Numeric.Divergence
import Mathlib.Algebra.Order.BigOperators.Group.List
import Mathlib.Data.List.Zip
import Mathlib.Tactic.NormNum

set_option autoImplicit false

/- What `compute_jsd` sees of two densities, and what the clip at `_EPSILON` makes of scales. -/
namespace RagDrift.LatentDrift

open Divergence (share share_self shares_pos shares_nonneg)

theorem epsilon_pos : 0 < epsilon := by
  norm_num [epsilon]

section Shapes

variable {density : List ℝ} {mass : ℝ}

def clipped (density : List ℝ) : List ℝ := density.map fun value => max value epsilon

theorem shape_eq (density : List ℝ) :
    shape density = (clipped density).map fun value => value / (clipped density).sum := rfl

@[simp] theorem length_shape (density : List ℝ) : (shape density).length = density.length := by
  rw [shape_eq, clipped, List.length_map, List.length_map]

theorem clipped_pos {value : ℝ} (inside : value ∈ clipped density) : 0 < value := by
  obtain ⟨before, _, rfl⟩ := List.mem_map.mp inside
  exact epsilon_pos.trans_le (le_max_right _ _)

theorem sum_clipped_pos (some : density ≠ []) : 0 < (clipped density).sum := by
  apply List.sum_pos
  · exact fun value inside => clipped_pos inside
  · simpa [clipped] using some

theorem shape_pos (inside : mass ∈ shape density) : 0 < mass := by
  obtain ⟨value, member, rfl⟩ := List.mem_map.mp inside
  have some : density ≠ [] := by
    rintro rfl
    cases member
  exact div_pos (clipped_pos member) (sum_clipped_pos some)

/-- Clipped values that are all the same are all one share of the whole. -/
theorem shape_of_const {level : ℝ} (const : ∀ value ∈ density, max value epsilon = level) :
    shape density = List.replicate density.length (1 / (density.length : ℝ)) := by
  cases density with
  | nil => rfl
  | cons first rest =>
      have flat : clipped (first :: rest) = List.replicate (first :: rest).length level := by
        rw [clipped, List.map_congr_left const, List.map_const']
      have positive : 0 < level := by
        rw [← const first List.mem_cons_self]
        exact epsilon_pos.trans_le (le_max_right _ _)
      rw [shape_eq, flat, List.map_replicate, List.sum_replicate, nsmul_eq_mul]
      congr 1
      have some : ((first :: rest).length : ℝ) ≠ 0 := Nat.cast_ne_zero.mpr (Nat.succ_ne_zero _)
      field_simp

theorem mem_shape {value : ℝ} (inside : value ∈ density) :
    max value epsilon / (clipped density).sum ∈ shape density := by
  rw [shape_eq]
  apply List.mem_map_of_mem (f := fun kept => kept / (clipped density).sum)
  exact List.mem_map_of_mem (f := fun kept => max kept epsilon) inside

/-- Two values that differ once they are clipped differ in the shape. -/
theorem shape_ne_replicate {low high : ℝ} (inLow : low ∈ density) (inHigh : high ∈ density)
    (less : max low epsilon < max high epsilon) (count : Nat) (level : ℝ) :
    shape density ≠ List.replicate count level := by
  intro flat
  have whole := sum_clipped_pos (List.ne_nil_of_mem inLow)
  have mass : ∀ value ∈ density, max value epsilon = level * (clipped density).sum := by
    intro value inside
    have place := mem_shape inside
    rw [flat] at place
    rw [← List.eq_of_mem_replicate place, div_mul_cancel₀ _ whole.ne']
  exact less.ne ((mass low inLow).trans (mass high inHigh).symm)

/-- A scale after which each clipped value is one multiple of what it was. -/
def KeepsShape (factor : ℝ) (density : List ℝ) : Prop :=
  ∃ ratio, ∀ value ∈ density, max (factor * value) epsilon = ratio * max value epsilon

theorem shape_scale {factor : ℝ} (keeps : KeepsShape factor density) :
    shape (density.map (factor * ·)) = shape density := by
  obtain ⟨ratio, scaled⟩ := keeps
  cases density with
  | nil => rfl
  | cons first rest =>
      have nonzero : ratio ≠ 0 := by
        rintro rfl
        have zero := scaled first List.mem_cons_self
        rw [zero_mul] at zero
        exact (epsilon_pos.trans_le (le_max_right _ _)).ne' zero
      have values : clipped ((first :: rest).map (factor * ·)) =
          (clipped (first :: rest)).map (ratio * ·) := by
        rw [clipped, clipped, List.map_map, List.map_map]
        exact List.map_congr_left scaled
      rw [shape_eq, shape_eq, values, List.map_map, List.sum_map_mul_left, List.map_id']
      apply List.map_congr_left
      intro value _
      exact mul_div_mul_left value _ nonzero

end Shapes

section Places

/-- What one place adds to the divergence. -/
noncomputable def placeShare (pair : ℝ × ℝ) : ℝ :=
  let middle := max ((pair.1 + pair.2) / (2 : ℚ)) epsilon
  share pair.1 middle / (2 : ℚ) + share pair.2 middle / (2 : ℚ)

theorem placeShare_eq (pair : ℝ × ℝ) : placeShare pair =
    share pair.1 (max ((pair.1 + pair.2) / 2) epsilon) / 2 +
      share pair.2 (max ((pair.1 + pair.2) / 2) epsilon) / 2 := by
  rw [placeShare, Rat.cast_ofNat]

theorem divergences_eq (p q : List ℝ) :
    divergence p (midpoint p q) / 2 + divergence q (midpoint p q) / 2 =
      ((p.zip q).map placeShare).sum := by
  induction p generalizing q with
  | nil => simp [divergence, midpoint]
  | cons a p ih =>
      cases q with
      | nil => simp [divergence, midpoint]
      | cons b q =>
          have rest := ih q
          rw [divergence, divergence, midpoint] at rest ⊢
          rw [List.zip_cons_cons, List.map_cons, List.sum_cons, ← rest, List.zipWith_cons_cons,
            List.map_cons, List.zipWith_cons_cons, List.zipWith_cons_cons, List.sum_cons,
            List.sum_cons, placeShare, share, share]
          ring

theorem computeJsd_eq (p q : List ℝ) :
    computeJsd p q = clip01 (((shape p).zip (shape q)).map placeShare).sum := by
  rw [← divergences_eq, computeJsd, Rat.cast_ofNat]

theorem placeShare_swap (pair : ℝ × ℝ) : placeShare pair.swap = placeShare pair := by
  rw [placeShare_eq, placeShare_eq, Prod.fst_swap, Prod.snd_swap, add_comm pair.2, add_comm]

theorem computeJsd_comm (p q : List ℝ) : computeJsd p q = computeJsd q p := by
  rw [computeJsd_eq, computeJsd_eq, ← List.zip_swap, List.map_map]
  congr 2
  apply List.map_congr_left
  intro pair _
  exact placeShare_swap pair

/-- Of two equal masses the floor of the midpoint only takes something away. -/
theorem placeShare_same_nonpos {mass : ℝ} (positive : 0 < mass) : placeShare (mass, mass) ≤ 0 := by
  have floor : 0 < max mass epsilon := lt_max_of_lt_left positive
  have below : Real.logb 2 (mass / max mass epsilon) ≤ 0 := by
    apply Real.logb_nonpos one_lt_two (div_pos positive floor).le
    exact (div_le_one floor).mpr (le_max_left _ _)
  have nonpos : share mass (max mass epsilon) ≤ 0 :=
    mul_nonpos_of_nonneg_of_nonpos positive.le below
  rw [placeShare_eq, add_self_div_two]
  linarith

theorem computeJsd_of_shape {p q : List ℝ} (same : shape p = shape q) : computeJsd p q = 0 := by
  have nonpos : (((shape p).zip (shape q)).map placeShare).sum ≤ 0 := by
    refine (List.sum_le_card_nsmul _ 0 ?_).trans_eq (nsmul_zero _)
    intro added inside
    obtain ⟨⟨a, b⟩, member, rfl⟩ := List.mem_map.mp inside
    rw [← same, List.zip_eq_zipWith, List.zipWith_self] at member
    obtain ⟨mass, kept, pair⟩ := List.mem_map.mp member
    cases pair
    exact placeShare_same_nonpos (shape_pos kept)
  rw [computeJsd_eq, clip01, max_eq_right nonpos, min_eq_left zero_le_one]

/-- Two shapes none of whose midpoints is below the floor are apart wherever they differ. -/
theorem computeJsd_pos {p q : List ℝ} (length : p.length = q.length) (apart : shape p ≠ shape q)
    (floor : ∀ pair ∈ (shape p).zip (shape q), epsilon ≤ (pair.1 + pair.2) / 2) :
    0 < computeJsd p q := by
  have positive : ∀ pair ∈ (shape p).zip (shape q), 0 < pair.1 ∧ 0 < pair.2 := by
    intro pair inside
    obtain ⟨left, right⟩ := List.of_mem_zip inside
    exact ⟨shape_pos left, shape_pos right⟩
  have plain : ∀ pair ∈ (shape p).zip (shape q), placeShare pair =
      share pair.1 ((pair.1 + pair.2) / 2) / 2 + share pair.2 ((pair.1 + pair.2) / 2) / 2 := by
    intro pair inside
    rw [placeShare_eq, max_eq_left (floor pair inside)]
  have nonneg : ∀ added ∈ ((shape p).zip (shape q)).map placeShare, 0 ≤ added := by
    intro added inside
    obtain ⟨pair, member, rfl⟩ := List.mem_map.mp inside
    rw [plain pair member]
    exact shares_nonneg (positive pair member).1 (positive pair member).2
  obtain ⟨pair, inside, differs⟩ : ∃ pair ∈ (shape p).zip (shape q), pair.1 ≠ pair.2 := by
    by_contra none
    push Not at none
    have lengths : (shape p).length = (shape q).length := by
      rw [length_shape, length_shape, length]
    apply apart
    rw [← List.map_fst_zip lengths.le, List.map_congr_left none, List.map_snd_zip lengths.ge]
  have here : 0 < placeShare pair := by
    rw [plain pair inside]
    exact shares_pos (positive pair inside).1 (positive pair inside).2 differs
  have whole := here.trans_le (List.single_le_sum nonneg _ (List.mem_map_of_mem inside))
  rw [computeJsd_eq, clip01]
  exact lt_min (lt_max_of_lt_left whole) one_pos

end Places

end RagDrift.LatentDrift
