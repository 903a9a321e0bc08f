import RagDrift.Numeric.Arrays
import Mathlib.Algebra.BigOperators.Ring.List
import Mathlib.Algebra.Order.BigOperators.Group.List
import Mathlib.Analysis.SpecialFunctions.Sqrt
import Mathlib.Tactic.FieldSimp
import Mathlib.Tactic.LinearCombination
import Mathlib.Tactic.Linarith

set_option autoImplicit false

/- Bounds of the form `mean + k * std`. -/
namespace RagDrift.Numeric

variable {α : Type}

noncomputable section

/-- `np.std`: the square root of the mean squared deviation. -/
def std (values : List ℝ) : ℝ :=
  Real.sqrt (mean (values.map fun value => (value - mean values) ^ 2))

/-- `k` standard deviations above the mean. -/
def sigmaBound (k : ℝ) (values : List ℝ) : ℝ := mean values + k * std values

theorem length_ne_zero {items : List α} (some : items ≠ []) : (items.length : ℝ) ≠ 0 := by
  simpa using some

theorem mean_map (items : List α) (f : α → ℝ) :
    mean (items.map f) = (items.map f).sum / items.length := by
  rw [mean, List.length_map]

theorem mean_nonneg {values : List ℝ} (all : ∀ value ∈ values, 0 ≤ value) : 0 ≤ mean values :=
  div_nonneg (List.sum_nonneg all) (Nat.cast_nonneg _)

/-- Of two samples, one below the other, the means are equal only if the samples are. -/
theorem mean_map_eq_iff {items : List α} {f g : α → ℝ}
    (below : ∀ item ∈ items, f item ≤ g item) :
    mean (items.map f) = mean (items.map g) ↔ ∀ item ∈ items, f item = g item := by
  constructor
  · intro same item inside
    by_contra differs
    have strict : f item < g item := lt_of_le_of_ne (below item inside) differs
    have sums : (items.map f).sum < (items.map g).sum :=
      List.sum_lt_sum f g below ⟨item, inside, strict⟩
    have length := length_ne_zero (List.ne_nil_of_mem inside)
    rw [mean_map, mean_map, div_left_inj' length] at same
    exact sums.ne same
  · intro same
    rw [List.map_congr_left same]

theorem le_amax {values : List ℝ} {value : ℝ} (inside : value ∈ values) : value ≤ amax values := by
  obtain ⟨largest, found⟩ := Option.isSome_iff_exists.mp (List.isSome_max?_of_mem inside)
  rw [amax, found]
  exact (List.max?_eq_some_iff.mp found).2 value inside

theorem amax_mem {values : List ℝ} (some : values ≠ []) : amax values ∈ values := by
  obtain ⟨largest, found⟩ := Option.isSome_iff_exists.mp (List.isSome_max?_of_ne_nil some)
  rw [amax, found]
  exact List.max?_mem found

theorem mean_map_le {items : List α} {f g : α → ℝ} (below : ∀ item ∈ items, f item ≤ g item) :
    mean (items.map f) ≤ mean (items.map g) := by
  rw [mean_map, mean_map]
  exact div_le_div_of_nonneg_right (List.sum_le_sum below) (Nat.cast_nonneg _)

theorem mean_map_add (items : List α) (f g : α → ℝ) :
    mean (items.map fun item => f item + g item) = mean (items.map f) + mean (items.map g) := by
  rw [mean_map, mean_map, mean_map, List.sum_map_add, add_div]

theorem mean_map_const {items : List α} (some : items ≠ []) (bound : ℝ) :
    mean (items.map fun _ => bound) = bound := by
  rw [List.map_const']
  exact mean_replicate (mt List.length_eq_zero_iff.mp some) bound

theorem mean_le_amax (values : List ℝ) : mean values ≤ amax values := by
  by_cases nothing : values = []
  · subst nothing
    simp [mean, amax]
  · calc mean values = mean (values.map id) := by rw [List.map_id]
      _ ≤ mean (values.map fun _ => amax values) := mean_map_le fun _ inside => le_amax inside
      _ = amax values := mean_map_const nothing _

/-- The mean is the maximum only of values that are all the same. -/
theorem mean_eq_amax_iff {values : List ℝ} :
    mean values = amax values ↔ ∀ first ∈ values, ∀ second ∈ values, first = second := by
  by_cases nothing : values = []
  · subst nothing
    simp [mean, amax]
  have largest : mean values = amax values ↔ ∀ value ∈ values, value = amax values := by
    have below : ∀ value ∈ values, id value ≤ amax values := fun _ inside => le_amax inside
    have constant := mean_map_eq_iff below
    rwa [List.map_id, mean_map_const nothing] at constant
  rw [largest]
  constructor
  · intro all first inFirst second inSecond
    rw [all first inFirst, all second inSecond]
  · intro all value inside
    exact all value inside _ (amax_mem nothing)

theorem std_nonneg (values : List ℝ) : 0 ≤ std values := Real.sqrt_nonneg _

/-- The bounds of two samples meet for one `k` at most, unless the means are the same. -/
theorem mean_eq_of_sigmaBound_eq {first second : List ℝ} {k k' : ℝ} (differ : k ≠ k')
    (same : sigmaBound k first = sigmaBound k second)
    (same' : sigmaBound k' first = sigmaBound k' second) : mean first = mean second := by
  simp only [sigmaBound] at same same'
  have scaled : (k - k') * (std first - std second) = 0 := by linear_combination same - same'
  have spread : std first - std second = 0 :=
    (mul_eq_zero.mp scaled).resolve_left (sub_ne_zero.mpr differ)
  linear_combination same - k * spread

theorem sigmaBound_nonneg {k : ℝ} (positive : 0 ≤ k) {values : List ℝ}
    (all : ∀ value ∈ values, 0 ≤ value) : 0 ≤ sigmaBound k values :=
  add_nonneg (mean_nonneg all) (mul_nonneg positive (std_nonneg values))

theorem sigmaBound_pos {k : ℝ} (positive : 0 ≤ k) {values : List ℝ}
    (all : ∀ value ∈ values, 0 ≤ value) {value : ℝ} (inside : value ∈ values)
    (some : 0 < value) : 0 < sigmaBound k values := by
  have sum : 0 < values.sum := some.trans_le (List.single_le_sum all value inside)
  have count : (0 : ℝ) < values.length := Nat.cast_pos.mpr (List.length_pos_of_mem inside)
  exact add_pos_of_pos_of_nonneg (div_pos sum count) (mul_nonneg positive (std_nonneg values))

theorem std_replicate (count : Nat) (value : ℝ) : std (List.replicate count value) = 0 := by
  by_cases nothing : count = 0
  · subst nothing
    simp [std, mean]
  · simp only [std, mean_replicate nothing, List.map_replicate, sub_self]
    simp

theorem sigmaBound_replicate {count : Nat} (some : count ≠ 0) (k value : ℝ) :
    sigmaBound k (List.replicate count value) = value := by
  rw [sigmaBound, std_replicate, mul_zero, add_zero, mean_replicate some]

/-- The squared deviations from any centre. -/
theorem sum_deviations (values : List ℝ) (centre : ℝ) :
    (values.map fun value => (value - centre) ^ 2).sum =
      (values.map fun value => value ^ 2).sum - 2 * centre * values.sum +
        values.length * centre ^ 2 := by
  induction values with
  | nil => simp
  | cons value rest ih =>
      simp only [List.map_cons, List.sum_cons, List.length_cons, Nat.cast_add, Nat.cast_one, ih]
      ring

/-- The mean squared deviation is what the mean square exceeds the squared mean by. -/
theorem mean_deviations (values : List ℝ) :
    mean (values.map fun value => (value - mean values) ^ 2) =
      mean (values.map fun value => value ^ 2) - mean values ^ 2 := by
  by_cases nothing : values = []
  · subst nothing
    simp [mean]
  · have length := length_ne_zero nothing
    have sum : values.sum = values.length * mean values := by
      rw [mean, mul_div_cancel₀ _ length]
    rw [mean_map, mean_map, sum_deviations, sum]
    field_simp
    ring

theorem std_sq (values : List ℝ) :
    std values ^ 2 = mean (values.map fun value => value ^ 2) - mean values ^ 2 := by
  have deviation : 0 ≤ mean (values.map fun value => (value - mean values) ^ 2) := by
    apply mean_nonneg
    intro square inside
    obtain ⟨value, _, rfl⟩ := List.mem_map.mp inside
    exact sq_nonneg _
  rw [std, Real.sq_sqrt deviation, mean_deviations]

/-- The bound is not negative when the sum is not, or when it is small against the spread. -/
def Covered (k : ℝ) (values : List ℝ) : Prop :=
  0 ≤ values.sum ∨
    (1 + k ^ 2) * values.sum ^ 2 ≤
      k ^ 2 * values.length * (values.map fun value => value ^ 2).sum

theorem sigmaBound_nonneg_iff {k : ℝ} (positive : 0 ≤ k) (values : List ℝ) :
    0 ≤ sigmaBound k values ↔ Covered k values := by
  by_cases nothing : values = []
  · subst nothing
    simp [sigmaBound, Covered, mean, std]
  have length : (0 : ℝ) < values.length := by
    exact_mod_cast List.length_pos_iff.mpr nothing
  have spread := mul_nonneg positive (std_nonneg values)
  have sign : 0 ≤ mean values ↔ 0 ≤ values.sum := by
    rw [mean, le_div_iff₀ length, zero_mul]
  have squares : mean values ^ 2 ≤ (k * std values) ^ 2 ↔
      (1 + k ^ 2) * values.sum ^ 2 ≤
        k ^ 2 * values.length * (values.map fun value => value ^ 2).sum := by
    have scaled : (values.length : ℝ) ^ 2 * ((k * std values) ^ 2 - mean values ^ 2) =
        k ^ 2 * values.length * (values.map fun value => value ^ 2).sum -
          (1 + k ^ 2) * values.sum ^ 2 := by
      rw [mul_pow, std_sq, mean_map, mean]
      field_simp
      ring
    rw [← sub_nonneg, ← mul_nonneg_iff_of_pos_left (pow_pos length 2), scaled, sub_nonneg]
  rw [Covered, ← sign, ← squares]
  constructor
  · intro bound
    by_cases above : 0 ≤ mean values
    · left
      exact above
    · right
      have below : 0 ≤ -mean values := by linarith
      have outweighed : -mean values ≤ k * std values := by
        rw [sigmaBound] at bound
        linarith
      calc mean values ^ 2 = (-mean values) ^ 2 := by ring
        _ ≤ (k * std values) ^ 2 := pow_le_pow_left₀ below outweighed 2
  · rintro (above | outweighed)
    · exact add_nonneg above spread
    · have bounds := abs_le_of_sq_le_sq' outweighed spread
      rw [sigmaBound]
      linarith [bounds.1]

end

end RagDrift.Numeric
