import RagDrift.Temporal.Shifts
import Mathlib.Algebra.Ring.Parity
import Mathlib.Tactic.Linarith
import Mathlib.Tactic.Positivity

set_option autoImplicit false

/- A step in a series that need not stand at the border of two windows: the windows it is split
over, and how high it has to be to be seen. -/
namespace RagDrift.Temporal

/-- A series at level `a`, then at level `b`. -/
structure Levels (a b : ℚ) (front back : List Point) : Prop where
  low : ∀ point ∈ front, point.value = a
  high : ∀ point ∈ back, point.value = b

variable {a b : ℚ} {front back : List Point} {size : Nat}

/-- How many points of the window still lie before the step. -/
def lowCount (step start size : Nat) : Nat := min size (step - start)

theorem values_append (levels : Levels a b front back) :
    (front ++ back).map Point.value =
      List.replicate front.length a ++ List.replicate back.length b := by
  have low : front.map Point.value = List.replicate front.length a := by
    rw [List.eq_replicate_iff]
    refine ⟨List.length_map _, ?_⟩
    intro value inside
    obtain ⟨point, member, rfl⟩ := List.mem_map.mp inside
    exact levels.low point member
  have high : back.map Point.value = List.replicate back.length b := by
    rw [List.eq_replicate_iff]
    refine ⟨List.length_map _, ?_⟩
    intro value inside
    obtain ⟨point, member, rfl⟩ := List.mem_map.mp inside
    exact levels.high point member
  rw [List.map_append, low, high]

theorem window_values (levels : Levels a b front back) {start : Nat}
    (full : start + size ≤ front.length + back.length) :
    (window (front ++ back) start size).map Point.value =
      List.replicate (lowCount front.length start size) a ++
        List.replicate (size - lowCount front.length start size) b := by
  have low : lowCount front.length start size = min size (front.length - start) := rfl
  rw [window, List.map_take, List.map_drop, values_append levels, List.drop_append,
    List.drop_replicate, List.drop_replicate, List.length_replicate, List.take_append,
    List.take_replicate, List.take_replicate, List.length_replicate, low]
  congr 2
  omega

theorem window_mean (levels : Levels a b front back) {start : Nat} (positive : 1 ≤ size)
    (full : start + size ≤ front.length + back.length) :
    mean ((window (front ++ back) start size).map Point.value) =
      b - lowCount front.length start size / size * (b - a) := by
  have nonzero : (size : ℚ) ≠ 0 := Nat.cast_ne_zero.mpr (by omega)
  have some : lowCount front.length start size ≤ size := min_le_left _ _
  rw [window_values levels full, mean, List.sum_append, List.sum_replicate, List.sum_replicate,
    List.length_append, List.length_replicate, List.length_replicate, Nat.add_sub_cancel' some,
    nsmul_eq_mul, nsmul_eq_mul, Nat.cast_sub some]
  field_simp
  ring

/-- Between two windows the mean moves by the share of the points that changed sides. -/
theorem window_shift (levels : Levels a b front back) {start : Nat} (positive : 1 ≤ size)
    (before : size ≤ start) (full : start + size ≤ front.length + back.length) :
    shift (front ++ back) size start =
      ((lowCount front.length (start - size) size - lowCount front.length start size : ℕ) : ℚ) /
        size * |b - a| := by
  have fewer : lowCount front.length start size ≤ lowCount front.length (start - size) size := by
    show min size (front.length - start) ≤ min size (front.length - (start - size))
    omega
  have moved : (0 : ℚ) ≤
      ((lowCount front.length (start - size) size - lowCount front.length start size : ℕ) : ℚ) /
        size := by
    positivity
  rw [shift, window_mean levels positive full, window_mean levels positive (by omega),
    ← abs_of_nonneg moved, ← abs_mul, Nat.cast_sub fewer]
  congr 1
  ring

/-- The step lies in window `q = p / size`. What that window and the one behind it change
sides together is a whole window, so one of the two moves by at least half the step. -/
theorem detect_levels (uuid4 : Nat → String) (metricName : String) {threshold : ℚ}
    (levels : Levels a b front back) (positive : 1 ≤ size) (frontFull : size ≤ front.length)
    (backFull : 2 * size ≤ back.length) (high : 2 * threshold < |b - a|) :
    ∃ events, detectDriftEvents uuid4 (front ++ back) size threshold metricName = .ok events ∧
      events ≠ [] := by
  have sizePositive : (0 : ℚ) < size := Nat.cast_pos.mpr positive
  have split : front.length / size * size + front.length % size = front.length := by
    rw [Nat.mul_comm]
    exact Nat.div_add_mod front.length size
  have phase : front.length % size < size := Nat.mod_lt _ positive
  have windows : 1 ≤ front.length / size := (Nat.one_le_div_iff positive).mpr frontFull
  have first : size ≤ front.length / size * size := Nat.le_mul_of_pos_left size windows
  have total : (front ++ back).length = front.length + back.length := List.length_append
  -- a move of at least half the window
  have half : ∀ moved : Nat, size ≤ 2 * moved → threshold < (moved : ℚ) / size * |b - a| := by
    intro moved enough
    have share : (1 : ℚ) / 2 ≤ moved / size := by
      rw [div_le_div_iff₀ two_pos sizePositive]
      have cast : (size : ℚ) ≤ ((2 * moved : ℕ) : ℚ) := Nat.cast_le.mpr enough
      push_cast at cast
      linarith
    have scaled := mul_le_mul_of_nonneg_right share (abs_nonneg (b - a))
    linarith
  rcases Nat.lt_or_ge size (2 * (front.length % size)) with late | early
  · have next : (front.length / size + 1) * size = front.length / size * size + size :=
      Nat.succ_mul _ _
    apply detect_of_shift uuid4 metricName positive
      (border_mem_pyRange positive (Nat.le_add_left 1 (front.length / size)) (by omega))
    rw [window_shift levels positive (by omega) (by omega)]
    apply half
    simp only [lowCount]
    omega
  · apply detect_of_shift uuid4 metricName positive
      (border_mem_pyRange positive windows (by omega))
    rw [window_shift levels positive first (by omega)]
    apply half
    simp only [lowCount]
    omega

/-- Points at one level, one time unit apart. -/
def levelPoints (start count : Nat) (level : ℚ) : List Point :=
  (List.range count).map fun index : Nat => ⟨(start + index : ℕ), level, ""⟩

theorem length_levelPoints (start count : Nat) (level : ℚ) :
    (levelPoints start count level).length = count := by
  rw [levelPoints, List.length_map, List.length_range]

theorem levels_levelPoints (a b : ℚ) (start count start' count' : Nat) :
    Levels a b (levelPoints start count a) (levelPoints start' count' b) where
  low point inside := by
    obtain ⟨index, _, rfl⟩ := List.mem_map.mp inside
    rfl
  high point inside := by
    obtain ⟨index, _, rfl⟩ := List.mem_map.mp inside
    rfl

/-- A step in the middle of the second window moves each of the two comparisons by half. -/
theorem detect_half_step (uuid4 : Nat → String) (metricName : String) {threshold : ℚ} {h : Nat}
    (positive : 1 ≤ h) (nonneg : 0 ≤ threshold) (levels : Levels a b front back)
    (frontLength : front.length = 3 * h) (backLength : back.length = 4 * h)
    (height : |b - a| = 2 * threshold) :
    detectDriftEvents uuid4 (front ++ back) (2 * h : ℕ) threshold metricName = .ok [] := by
  have total : (front ++ back).length = front.length + back.length := List.length_append
  apply detect_nil uuid4 metricName (by omega) (by omega)
  intro start inside
  have fits := mem_starts (by omega) inside
  obtain ⟨index, _, rfl⟩ := mem_pyRange.mp inside
  rw [window_shift levels (by omega) fits.1 (by omega), height]
  have moved : lowCount front.length (2 * h + index * (2 * h) - 2 * h) (2 * h) -
      lowCount front.length (2 * h + index * (2 * h)) (2 * h) ≤ h := by
    simp only [lowCount, frontLength]
    match index with
    | 0 => omega
    | 1 => omega
    | more + 2 =>
        have far : 4 * h ≤ (more + 2) * (2 * h) := by nlinarith
        omega
  have share : ((lowCount front.length (2 * h + index * (2 * h) - 2 * h) (2 * h) -
      lowCount front.length (2 * h + index * (2 * h)) (2 * h) : ℕ) : ℚ) / (2 * h : ℕ) ≤ 1 / 2 := by
    rw [div_le_div_iff₀ (Nat.cast_pos.mpr (by omega)) two_pos]
    have cast := Nat.cast_le (α := ℚ).mpr moved
    push_cast
    linarith
  have scaled := mul_le_mul_of_nonneg_right share (by linarith : (0 : ℚ) ≤ 2 * threshold)
  linarith

/-- A step of more than twice the threshold is detected at every phase, and one of exactly
twice the threshold may be missed. -/
theorem step_detected (uuid4 : Nat → String) (metricName : String) (size : Nat)
    (positive : 1 ≤ size) (threshold : ℚ) :
    (∀ (a b : ℚ) (front back : List Point), Levels a b front back → size ≤ front.length →
      2 * size ≤ back.length → 2 * threshold < |b - a| →
      ∃ events, detectDriftEvents uuid4 (front ++ back) size threshold metricName = .ok events ∧
        events ≠ []) ∧
    (Even size → 0 < threshold → ∃ (a b : ℚ) (front back : List Point),
      Levels a b front back ∧ size ≤ front.length ∧ 2 * size ≤ back.length ∧
      |b - a| = 2 * threshold ∧
      detectDriftEvents uuid4 (front ++ back) size threshold metricName = .ok []) := by
  constructor
  · intro a b front back levels frontFull backFull high
    exact detect_levels uuid4 metricName levels positive frontFull backFull high
  · rintro ⟨h, even⟩ above
    obtain rfl : size = 2 * h := by omega
    have height : |2 * threshold - 0| = 2 * threshold := by
      rw [sub_zero, abs_of_nonneg (by linarith)]
    refine ⟨0, 2 * threshold, levelPoints 0 (3 * h) 0,
      levelPoints (3 * h) (4 * h) (2 * threshold), levels_levelPoints _ _ _ _ _ _, ?_, ?_, height,
      ?_⟩
    · rw [length_levelPoints]
      omega
    · rw [length_levelPoints]
      omega
    · exact detect_half_step uuid4 metricName (by omega) above.le
        (levels_levelPoints _ _ _ _ _ _) (length_levelPoints _ _ _) (length_levelPoints _ _ _)
        height

theorem step_detected_pairs :
    (∃ events, detectDriftEvents (fun _ => "") (levelPoints 0 3 0 ++ levelPoints 3 4 1) (2 : ℕ)
      (1 / 4) "js_divergence" = .ok events ∧ events ≠ []) ∧
    ∃ (a b : ℚ) (front back : List Point), Levels a b front back ∧ 2 ≤ front.length ∧
      2 * 2 ≤ back.length ∧ |b - a| = 2 * (1 / 4) ∧
      detectDriftEvents (fun _ => "") (front ++ back) (2 : ℕ) (1 / 4) "js_divergence" =
        .ok [] := by
  have both := step_detected (fun _ => "") "js_divergence" 2 (by omega) (1 / 4)
  constructor
  · exact both.1 0 1 _ _ (levels_levelPoints _ _ _ _ _ _) (by decide) (by decide)
      (by norm_num)
  · exact both.2 (by decide) (by norm_num)

end RagDrift.Temporal
