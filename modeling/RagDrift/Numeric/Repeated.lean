import RagDrift.Numeric.Deviation

set_option autoImplicit false

/- A value that a list holds several times: how many deviations above the mean it can lie. -/
namespace RagDrift.Deviation

section Squares

variable {values : List ℝ}

theorem length_mul_mean (some : values ≠ []) : values.length * mean values = values.sum := by
  rw [mean, mul_div_cancel₀ _ (length_ne_zero some)]

/-- The squared distances to the mean are the least ones. -/
theorem squares_mean_add (some : values ≠ []) (centre : ℝ) :
    squares values (mean values) + values.length * (centre - mean values) ^ 2 =
      squares values centre := by
  have total := length_mul_mean some
  rw [squares_eq, squares_eq, ← total]
  ring

/-- The square of a sum is at most the sum of the squares, once for each term. -/
theorem sq_sum_le (values : List ℝ) :
    values.sum ^ 2 ≤ values.length * (values.map fun value => value ^ 2).sum := by
  by_cases none : values = []
  · simp [none]
  · have total := length_mul_mean none
    have least := squares_nonneg values (mean values)
    rw [squares_eq, ← total] at least
    have size : (0 : ℝ) ≤ values.length := Nat.cast_nonneg values.length
    have scaled := mul_nonneg size least
    rw [← total]
    linarith

/-- The terms that are not there do not count. -/
theorem sum_distances (values : List ℝ) (x : ℝ) (power : ℕ) (positive : power ≠ 0) :
    ((values.filter (· ≠ x)).map fun value => (x - value) ^ power).sum =
      (values.map fun value => (x - value) ^ power).sum := by
  induction values with
  | nil => rfl
  | cons value rest ih =>
      by_cases same : value = x
      · rw [List.filter_cons_of_neg (by simpa using same), ih, List.map_cons, List.sum_cons, same,
          sub_self, zero_pow positive, zero_add]
      · rw [List.filter_cons_of_pos (by simpa using same), List.map_cons, List.sum_cons, ih,
          List.map_cons, List.sum_cons]

theorem length_filter_ne (values : List ℝ) (x : ℝ) :
    ((values.filter (· ≠ x)).length : ℝ) = values.length - values.count x := by
  have split := values.length_eq_length_filter_add (· = x)
  have others : values.filter (fun value => !decide (value = x)) = values.filter (· ≠ x) :=
    List.filter_congr fun value _ => (decide_not).symm
  have equal : values.count x = (values.filter (· = x)).length := by
    rw [List.count_eq_length_filter]
    exact congrArg List.length (List.filter_congr fun value _ => rfl)
  rw [others, ← equal] at split
  rw [split]
  push_cast
  ring

/-- The more often a value occurs, the wider the others have to be spread for it to lie off the
mean. -/
theorem count_mul_sq_le (some : values ≠ []) (x : ℝ) :
    values.length * values.count x * (x - mean values) ^ 2 ≤
      (values.length - values.count x) * squares values (mean values) := by
  have spread := squares_mean_add some x
  have distance : (values.map fun value => x - value).sum = values.length * (x - mean values) := by
    have total := length_mul_mean some
    rw [mul_sub, total]
    clear total spread some
    induction values with
    | nil => simp
    | cons value rest ih =>
        rw [List.map_cons, List.sum_cons, ih, List.sum_cons, List.length_cons]
        push_cast
        ring
  have squared : squares values x = (values.map fun value => (x - value) ^ 2).sum :=
    congrArg List.sum (List.map_congr_left fun value _ => by ring)
  have bound := sq_sum_le ((values.filter (· ≠ x)).map fun value => x - value)
  have first := sum_distances values x 1 one_ne_zero
  have second := sum_distances values x 2 two_ne_zero
  simp only [pow_one] at first
  rw [List.map_map, List.length_map, length_filter_ne] at bound
  change _ ≤ _ * ((values.filter (· ≠ x)).map fun value => (x - value) ^ 2).sum at bound
  rw [first, second, distance, ← squared, ← spread] at bound
  linarith

end Squares

variable {values : List ℝ} {z : ℝ}

theorem sampleStd_sq (some : values ≠ []) :
    sampleStd values ^ 2 = squares values (mean values) / (values.length - 1) := by
  have length : (1 : ℝ) ≤ values.length := by
    rw [Nat.one_le_cast]
    exact List.length_pos_iff.mpr some
  exact Real.sq_sqrt (div_nonneg (squares_nonneg _ _) (by linarith))

/-- A value above the mean is not the only one. -/
theorem spread_pos {x : ℝ} (inside : x ∈ values) (up : mean values < x) :
    (0 : ℝ) < values.length - values.count x ∧ 0 < squares values (mean values) := by
  have often : 0 < values.count x := List.count_pos_iff.mpr inside
  have length : 0 < values.length := List.length_pos_of_mem inside
  have apart : 0 < x - mean values := by linarith
  have product : 0 < (values.length - values.count x) * squares values (mean values) :=
    lt_of_lt_of_le (by positivity) (count_mul_sq_le (List.ne_nil_of_mem inside) x)
  have left := pos_of_mul_pos_left product (squares_nonneg _ _)
  exact ⟨left, pos_of_mul_pos_right product left.le⟩

theorem one_lt_length {x : ℝ} (inside : x ∈ values) (up : mean values < x) :
    (1 : ℝ) < values.length := by
  have often : (1 : ℝ) ≤ values.count x := Nat.one_le_cast.mpr (List.count_pos_iff.mpr inside)
  have left := (spread_pos inside up).1
  linarith

theorem sampleStd_pos {x : ℝ} (inside : x ∈ values) (up : mean values < x) :
    0 < sampleStd values := by
  have more := one_lt_length inside up
  exact Real.sqrt_pos.mpr (div_pos (spread_pos inside up).2 (by linarith))

theorem mean_lt_of_above (nonneg : 0 ≤ z) {x : ℝ}
    (above : mean values + z * sampleStd values < x) : mean values < x := by
  have asked : 0 ≤ z * sampleStd values := mul_nonneg nonneg (Real.sqrt_nonneg _)
  linarith

/-- A value of a list lies above its bar only if it occurs there seldom enough. -/
theorem count_lt_of_above (nonneg : 0 ≤ z) {x : ℝ} (inside : x ∈ values)
    (above : mean values + z * sampleStd values < x) :
    z ^ 2 * values.length * values.count x <
      (values.length - values.count x) * (values.length - 1) := by
  have some : values ≠ [] := List.ne_nil_of_mem inside
  have up := mean_lt_of_above nonneg above
  have left := (spread_pos inside up).1
  have more : (0 : ℝ) < values.length - 1 := by linarith [one_lt_length inside up]
  have squared : z ^ 2 * squares values (mean values) <
      (values.length - 1) * (x - mean values) ^ 2 := by
    have less := pow_lt_pow_left₀ (by linarith : z * sampleStd values < x - mean values)
      (mul_nonneg nonneg (sampleStd_pos inside up).le) two_ne_zero
    rw [mul_pow, sampleStd_sq some, ← mul_div_assoc, div_lt_iff₀ more] at less
    linarith
  have scaled := mul_lt_mul_of_pos_left squared left
  have bounded := mul_le_mul_of_nonneg_left (count_mul_sq_le some x) (sq_nonneg z)
  refine lt_of_mul_lt_mul_right ?_ (sq_nonneg (x - mean values))
  linarith

/-- One value of a list whose others are all the same and lower is as far up as it can be. -/
theorem above_two_values_iff (nonneg : 0 ≤ z) (others times : ℕ) (some : 0 < times) :
    mean (List.replicate others 0 ++ List.replicate times 1) +
        z * sampleStd (List.replicate others 0 ++ List.replicate times 1) < (1 : ℝ) ↔
      z ^ 2 * (others + times) * times < (others : ℝ) * (others + times - 1) := by
  generalize listed : List.replicate others (0 : ℝ) ++ List.replicate times 1 = values
  have filled : values ≠ [] := by
    rw [← listed]
    simp [some.ne']
  have length : (values.length : ℝ) = others + times := by
    rw [← listed]
    simp
  have sum : values.sum = (times : ℝ) := by
    rw [← listed]
    simp
  have powers : (values.map fun value => value ^ 2).sum = (times : ℝ) := by
    rw [← listed]
    simp
  have often : (1 : ℝ) ≤ times := Nat.one_le_cast.mpr some
  have few : (0 : ℝ) ≤ others := Nat.cast_nonneg others
  have positive : (0 : ℝ) < others + times := by linarith
  have distance : 1 - mean values = others / (others + times) := by
    rw [mean, sum, length]
    field_simp
    ring
  have spread : squares values (mean values) = times * others / (others + times) := by
    rw [squares_eq, sum, powers, length, mean, sum, length]
    field_simp
    ring
  have apart : mean values + z * sampleStd values < 1 ↔
      z * sampleStd values < others / (others + times) := by
    rw [← distance]
    constructor <;> intro less <;> linarith
  have asked : 0 ≤ z * sampleStd values := mul_nonneg nonneg (Real.sqrt_nonneg _)
  rw [apart]
  rcases Nat.eq_zero_or_pos others with rfl | more
  · have least : (0 : ℝ) ≤ z ^ 2 * ((0 : ℕ) + times) * times := by positivity
    simp only [Nat.cast_zero, zero_div, zero_mul] at least ⊢
    exact iff_of_false asked.not_gt least.not_gt
  · have each : (1 : ℝ) ≤ others := Nat.one_le_cast.mpr more
    have all : (0 : ℝ) < others + times - 1 := by linarith
    have below : (0 : ℝ) ≤ others / (others + times) := by positivity
    rw [← pow_lt_pow_iff_left₀ asked below two_ne_zero, mul_pow, sampleStd_sq filled, spread,
      length, div_pow, ← mul_div_assoc, div_lt_div_iff₀ all (by positivity)]
    have left : z ^ 2 * (times * others / (others + times)) * (others + times) ^ 2 =
        others * (z ^ 2 * (others + times) * times) := by
      field_simp
    have right : (others : ℝ) ^ 2 * (others + times - 1) =
        others * (others * (others + times - 1)) := by ring
    rw [left, right]
    exact mul_lt_mul_iff_right₀ (by linarith)

end RagDrift.Deviation
