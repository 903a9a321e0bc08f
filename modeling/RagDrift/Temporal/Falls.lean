import RagDrift.Numeric.Averages
import RagDrift.Temporal.Shifts

set_option autoImplicit false

/- A series that falls to a level and stays there, and a series that never leaves its level. -/
namespace RagDrift.Temporal

variable {series front back : List Point} {size : Nat}

theorem window_length {start : Nat} (full : start + size ≤ series.length) :
    (window series start size).length = size := by
  rw [window, List.length_take, List.length_drop]
  omega

theorem window_values_ne_nil {start : Nat} (positive : 1 ≤ size)
    (full : start + size ≤ series.length) :
    (window series start size).map Point.value ≠ [] := by
  intro empty
  have lengths := congrArg List.length empty
  rw [List.length_map, window_length full, List.length_nil] at lengths
  omega

theorem window_mean_of_const {level : ℚ} {start : Nat} (positive : 1 ≤ size)
    (full : start + size ≤ series.length)
    (const : ∀ point ∈ window series start size, point.value = level) :
    mean ((window series start size).map Point.value) = level := by
  apply mean_const _ (window_values_ne_nil positive full)
  intro value inside
  obtain ⟨point, member, rfl⟩ := List.mem_map.mp inside
  exact const point member

/-- A window that starts behind the front part. -/
theorem mem_window_back {start : Nat} (behind : front.length ≤ start) {point : Point}
    (inside : point ∈ window (front ++ back) start size) : point ∈ back := by
  rw [window, List.drop_append, List.drop_of_length_le behind, List.nil_append] at inside
  exact List.mem_of_mem_drop (List.mem_of_mem_take inside)

/-- A window in the last part of the front. -/
theorem mem_window_front {start last : Nat} (inner : start + size ≤ front.length)
    (late : last ≤ start) {point : Point}
    (inside : point ∈ window (front ++ back) start size) : point ∈ front.drop last := by
  rw [window_front inner] at inside
  have split : front.drop start = (front.drop last).drop (start - last) := by
    rw [List.drop_drop, Nat.add_sub_cancel' late]
  rw [split] at inside
  exact List.mem_of_mem_drop (List.mem_of_mem_take inside)

/-- The last full window before the fall and the first one behind it have at most one window
between them, so one of two neighbours moves by half the height. -/
theorem detect_fall (uuid4 : Nat → String) (metricName : String) {threshold level height : ℚ}
    (positive : 1 ≤ size) (frontFull : size ≤ front.length) (backFull : 2 * size ≤ back.length)
    (before : ∀ point ∈ front.drop (front.length - 2 * size), level + height ≤ point.value)
    (after : ∀ point ∈ back, point.value = level) (high : 2 * threshold < height) :
    ∃ events, detectDriftEvents uuid4 (front ++ back) size threshold metricName = .ok events ∧
      events ≠ [] := by
  have split : front.length / size * size + front.length % size = front.length := by
    rw [Nat.mul_comm]
    exact Nat.div_add_mod front.length size
  have phase : front.length % size < size := Nat.mod_lt _ positive
  have windows : 1 ≤ front.length / size := (Nat.one_le_div_iff positive).mpr frontFull
  have first : size ≤ front.length / size * size := Nat.le_mul_of_pos_left size windows
  have next : (front.length / size + 1) * size = front.length / size * size + size :=
    Nat.succ_mul _ _
  have total : (front ++ back).length = front.length + back.length := List.length_append
  have healthy : level + height ≤
      mean ((window (front ++ back) (front.length / size * size - size) size).map
        Point.value) := by
    apply Averages.le_mean (window_values_ne_nil positive (by omega))
    intro value inside
    obtain ⟨point, member, rfl⟩ := List.mem_map.mp inside
    exact before point (mem_window_front (by omega) (by omega) member)
  have fallen : mean ((window (front ++ back) ((front.length / size + 1) * size) size).map
      Point.value) = level := by
    apply window_mean_of_const positive (by omega)
    intro point inside
    exact after point (mem_window_back (by omega) inside)
  have back_one : (front.length / size + 1) * size - size = front.length / size * size := by
    omega
  by_cases early : threshold < shift (front ++ back) size (front.length / size * size)
  · exact detect_of_shift uuid4 metricName positive
      (border_mem_pyRange positive windows (by omega)) early
  · apply detect_of_shift uuid4 metricName positive
      (border_mem_pyRange positive (Nat.le_add_left 1 (front.length / size)) (by omega))
    rw [shift, not_lt] at early
    rw [shift, fallen, back_one]
    have down := neg_le_of_abs_le early
    have up := neg_le_abs (level - mean ((window (front ++ back)
      (front.length / size * size) size).map Point.value))
    linarith

/-- No events in a series at one level. -/
theorem detect_level {uuid4 : Nat → String} {windowSize : Int} {threshold level : ℚ}
    {metricName : String} {events : List DriftEvent}
    (const : ∀ point ∈ series, point.value = level) (nonneg : 0 ≤ threshold)
    (detected : detectDriftEvents uuid4 series windowSize threshold metricName = .ok events) :
    events = [] := by
  by_contra found
  obtain ⟨positive, long, same⟩ := detect_ne_nil detected found
  have flat : ∀ {start : Nat}, start + windowSize.toNat ≤ series.length →
      mean ((window series start windowSize.toNat).map Point.value) = level := by
    intro start full
    apply window_mean_of_const positive full
    intro point inside
    exact const point (List.mem_of_mem_drop (List.mem_of_mem_take inside))
  have none : detectDriftEvents uuid4 series windowSize.toNat threshold metricName = .ok [] := by
    apply detect_nil uuid4 metricName positive long
    intro start inside
    have fits := mem_starts positive inside
    rw [shift, flat fits.2, flat (by omega), sub_self, abs_zero]
    exact nonneg
  rw [same, none] at detected
  exact found (Except.ok.inj detected).symm

end RagDrift.Temporal
