import RagDrift.Numeric.Spread

set_option autoImplicit false

/- How many values of a sample lie above `mean + k * std` of that sample. -/
namespace RagDrift.Numeric

variable {values : List ℝ}

noncomputable section

/-- The number of values above a bound. -/
def countAbove (bound : ℝ) (values : List ℝ) : Nat :=
  (values.filter fun value => bound < value).length

theorem countAbove_map {α : Type} (bound : ℝ) (f : α → ℝ) (items : List α) :
    countAbove bound (items.map f) = (items.filter fun item => bound < f item).length := by
  rw [countAbove, List.filter_map, List.length_map]
  rfl

/-- What every value above a bound contributes to a sum of what no value takes from. -/
theorem countAbove_mul_le {bound share : ℝ} {weight : ℝ → ℝ} (nonneg : ∀ value, 0 ≤ weight value)
    (heavy : ∀ value, bound < value → share ≤ weight value) :
    countAbove bound values * share ≤ (values.map weight).sum := by
  induction values with
  | nil => simp [countAbove]
  | cons value rest ih =>
      rw [countAbove, List.map_cons, List.sum_cons]
      by_cases above : bound < value
      · rw [List.filter_cons_of_pos (by simpa using above), List.length_cons]
        push_cast
        have here := heavy value above
        rw [countAbove] at ih
        linarith
      · rw [List.filter_cons_of_neg (by simpa using above)]
        have here := nonneg value
        rw [countAbove] at ih
        linarith

/-- The squared distances to a point below the mean. -/
theorem sum_shifted (values : List ℝ) (shift : ℝ) :
    (values.map fun value => (value - mean values + shift) ^ 2).sum =
      values.length * (std values ^ 2 + shift ^ 2) := by
  by_cases nothing : values = []
  · subst nothing
    simp
  have length := length_ne_zero nothing
  have moved : (values.map fun value => (value - mean values + shift) ^ 2) =
      values.map fun value => (value - (mean values - shift)) ^ 2 := by
    apply List.map_congr_left
    intro value _
    ring
  rw [moved, sum_deviations, std_sq, mean_map, mean]
  field_simp
  ring

theorem countAbove_sigmaBound_zero {k : ℝ} (flat : std values = 0) :
    countAbove (sigmaBound k values) values = 0 := by
  have bound : sigmaBound k values = mean values := by rw [sigmaBound, flat, mul_zero, add_zero]
  have sum := sum_shifted values 0
  simp only [add_zero, flat, zero_pow two_ne_zero, mul_zero] at sum
  rw [bound, countAbove, List.length_eq_zero_iff, List.filter_eq_nil_iff]
  intro value inside above
  have squares : ∀ square ∈ values.map fun value => (value - mean values) ^ 2, 0 ≤ square := by
    intro square there
    obtain ⟨other, _, rfl⟩ := List.mem_map.mp there
    exact sq_nonneg _
  have least : (value - mean values) ^ 2 ≤ 0 := by
    rw [← sum]
    exact List.single_le_sum squares _ (List.mem_map_of_mem inside)
  have positive : 0 < (value - mean values) ^ 2 := by
    rw [decide_eq_true_eq] at above
    exact pow_pos (sub_pos.mpr above) 2
  linarith

/-- At most one value in `1 + k ^ 2` is more than `k` standard deviations above the mean. -/
theorem countAbove_sigmaBound {k : ℝ} (nonneg : 0 ≤ k) (values : List ℝ) :
    countAbove (sigmaBound k values) values * (1 + k ^ 2) ≤ values.length := by
  rcases (std_nonneg values).eq_or_lt with flat | spread
  · rw [countAbove_sigmaBound_zero flat.symm]
    simp
  rcases nonneg.eq_or_lt with flat | positive
  · subst flat
    have fewer : countAbove (sigmaBound 0 values) values ≤ values.length :=
      List.length_filter_le _ _
    simpa using fewer
  -- the shift that makes the bound below sharpest
  have sharpest : 0 < std values / k := div_pos spread positive
  have counted : countAbove (sigmaBound k values) values * (k * std values + std values / k) ^ 2 ≤
      values.length * (std values ^ 2 + (std values / k) ^ 2) := by
    rw [← sum_shifted]
    apply countAbove_mul_le
    · intro value
      exact sq_nonneg _
    · intro value above
      rw [sigmaBound] at above
      have reach : 0 ≤ k * std values + std values / k := by positivity
      apply pow_le_pow_left₀ reach
      linarith
  have factor : 0 < std values ^ 2 * (1 + k ^ 2) / k ^ 2 := by positivity
  have left : (k * std values + std values / k) ^ 2 =
      (1 + k ^ 2) * (std values ^ 2 * (1 + k ^ 2) / k ^ 2) := by
    field_simp
    ring
  have right : std values ^ 2 + (std values / k) ^ 2 =
      std values ^ 2 * (1 + k ^ 2) / k ^ 2 := by
    field_simp
    ring
  rw [left, right, ← mul_assoc] at counted
  exact le_of_mul_le_mul_right counted factor

end

end RagDrift.Numeric
