import RagDrift.Temporal.DriftDetection
import RagDrift.Causal.Changes
import Mathlib.Algebra.Order.Ring.Rat
import Mathlib.Algebra.BigOperators.Group.List.Basic
import Mathlib.Tactic.FieldSimp
import Mathlib.Tactic.Ring

set_option autoImplicit false

/- A series that sits at one level and then at another, with the step at the border of two
windows: the drift event reported there. -/
namespace RagDrift.Temporal

theorem sum_const {values : List ℚ} {level : ℚ} (const : ∀ value ∈ values, value = level) :
    values.sum = values.length * level := by
  rw [List.eq_replicate_of_mem const, List.sum_replicate, List.length_replicate, nsmul_eq_mul]

theorem mean_const {values : List ℚ} {level : ℚ} (const : ∀ value ∈ values, value = level)
    (nonempty : values ≠ []) : mean values = level := by
  have length : (values.length : ℚ) ≠ 0 := by
    rw [Nat.cast_ne_zero]
    exact fun zero => nonempty (List.length_eq_zero_iff.mp zero)
  rw [mean, sum_const const, mul_div_cancel_left₀ _ length]

/-- `(series.drop start).take size` lies in the front part while it ends there. -/
theorem window_front {front back : List Point} {start size : Nat}
    (inside : start + size ≤ front.length) :
    window (front ++ back) start size = (front.drop start).take size := by
  rw [window, List.drop_append_of_le_length (by omega), List.take_append_of_le_length]
  rw [List.length_drop]
  omega

theorem window_back (front back : List Point) (size : Nat) :
    window (front ++ back) front.length size = back.take size := by
  rw [window, List.drop_left]

/-- A series at level `a`, then at level `b`, with increasing times. -/
structure StepSeries (a b : ℚ) (front back : List Point) : Prop where
  low : ∀ point ∈ front, point.value = a
  high : ∀ point ∈ back, point.value = b
  increasing : (front ++ back).Pairwise fun left right => left.timestamp < right.timestamp

theorem mem_pyRange {start stop step value : Nat} :
    value ∈ pyRange start stop step ↔
      ∃ index < (stop - start + step - 1) / step, start + index * step = value := by
  rw [pyRange, List.mem_map]
  simp only [List.mem_range]

variable {a b : ℚ} {front back : List Point} {size : Nat}

theorem step_prev_mean (series : StepSeries a b front back) (positive : 1 ≤ size)
    (full : size ≤ front.length) :
    mean ((window (front ++ back) (front.length - size) size).map Point.value) = a := by
  rw [window_front (by omega)]
  apply mean_const
  · intro value inside
    obtain ⟨point, member, rfl⟩ := List.mem_map.mp inside
    exact series.low point (List.mem_of_mem_drop (List.mem_of_mem_take member))
  · intro empty
    have lengths := congrArg List.length empty
    simp only [List.length_map, List.length_take, List.length_drop, List.length_nil] at lengths
    omega

theorem step_curr_mean (series : StepSeries a b front back) (positive : 1 ≤ size)
    (full : size ≤ back.length) :
    mean ((window (front ++ back) front.length size).map Point.value) = b := by
  rw [window_back]
  apply mean_const
  · intro value inside
    obtain ⟨point, member, rfl⟩ := List.mem_map.mp inside
    exact series.high point (List.mem_of_mem_take member)
  · intro empty
    have lengths := congrArg List.length empty
    simp only [List.length_map, List.length_take, List.length_nil] at lengths
    omega

/-- What an event says about the two windows it compares. -/
theorem compareWindows_some {uuid4 : Nat → String} {series : List Point} {threshold : ℚ}
    {metricName : String} {start : Nat} {event : DriftEvent}
    (found : compareWindows uuid4 series size threshold metricName start = some event) :
    (∃ point, (window series start size).head? = some point ∧
      event.startTimestamp = point.timestamp) ∧
    event.metricName = metricName ∧
    event.magnitude = |mean ((window series start size).map Point.value) -
      mean ((window series (start - size) size).map Point.value)| := by
  unfold compareWindows at found
  dsimp only at found
  split at found
  · cases found
  · split at found
    · split at found
      · rename_i first last head _
        cases found
        exact ⟨⟨first, head, rfl⟩, rfl, rfl⟩
      · cases found
    · cases found

theorem compareWindows_isSome (uuid4 : Nat → String) {series : List Point} {threshold : ℚ}
    (metricName : String) {start : Nat} (positive : 1 ≤ size)
    (full : size ≤ (window series start size).length)
    (large : threshold < |mean ((window series start size).map Point.value) -
      mean ((window series (start - size) size).map Point.value)|) :
    ∃ event, compareWindows uuid4 series size threshold metricName start = some event := by
  cases points : window series start size with
  | nil =>
      rw [points, List.length_nil] at full
      omega
  | cons first rest =>
      rw [points] at full large
      have last := List.getLast?_eq_some_getLast (List.cons_ne_nil first rest)
      unfold compareWindows
      simp only [points, not_lt.mpr full, ↓reduceIte, gt_iff_lt, large, List.head?_cons, last]
      exact ⟨_, rfl⟩

theorem detectDriftEvents_ok {uuid4 : Nat → String} {series : List Point} {threshold : ℚ}
    {metricName : String} (positive : 1 ≤ size) (long : 2 * size ≤ series.length) :
    detectDriftEvents uuid4 series size threshold metricName =
      .ok ((pyRange size (series.length - size + 1) size).filterMap
        (compareWindows uuid4 series size threshold metricName)) := by
  obtain ⟨predecessor, rfl⟩ : ∃ predecessor, size = predecessor + 1 := ⟨size - 1, by omega⟩
  unfold detectDriftEvents
  rw [if_neg (by push_cast; omega)]

/-- The border between `k` full windows and more full windows is one the loop visits. -/
theorem border_mem_pyRange {k length : Nat} (positive : 1 ≤ size) (windows : 1 ≤ k)
    (long : k * size + size ≤ length) :
    k * size ∈ pyRange size (length - size + 1) size := by
  obtain ⟨earlier, rfl⟩ : ∃ earlier, k = earlier + 1 := ⟨k - 1, by omega⟩
  rw [Nat.succ_mul] at long ⊢
  rw [mem_pyRange]
  refine ⟨earlier, ?_, Nat.add_comm _ _⟩
  rw [Nat.lt_div_iff_mul_lt positive]
  omega

/-- The times are distinct, so only one window starts at the time of the step. -/
theorem start_of_step (series : StepSeries a b front back) (positive : 1 ≤ size) {step : ℚ}
    (at_step : back.head?.map Point.timestamp = some step) {start : Nat} {point : Point}
    (head : (window (front ++ back) start size).head? = some point)
    (same : point.timestamp = step) : start = front.length := by
  rw [window, List.head?_take, if_neg (by omega), List.head?_drop] at head
  rw [List.head?_eq_getElem?] at at_step
  have first : (front ++ back)[front.length]? = back[0]? := by
    rw [List.getElem?_append_right (le_refl _), Nat.sub_self]
  have times : ((front ++ back).map Point.timestamp)[start]? =
      ((front ++ back).map Point.timestamp)[front.length]? := by
    rw [List.getElem?_map, List.getElem?_map, head, first, at_step, Option.map_some, same]
  have distinct : ((front ++ back).map Point.timestamp).Nodup := by
    rw [List.Nodup, List.pairwise_map]
    exact series.increasing.imp ne_of_lt
  have bound : start < ((front ++ back).map Point.timestamp).length := by
    rw [List.length_map]
    exact (List.getElem?_eq_some_iff.mp head).1
  exact (List.getElem?_inj bound distinct).mp times

/-- At the step an event is reported, and its magnitude is the height of the step. -/
theorem detect_step (uuid4 : Nat → String) (series : StepSeries a b front back)
    {threshold : ℚ} (above : threshold < |b - a|) {k m : Nat} (positive : 1 ≤ size)
    (frontLength : front.length = k * size) (backLength : back.length = m * size)
    (lowWindows : 1 ≤ k) (highWindows : 1 ≤ m) {step : ℚ}
    (at_step : back.head?.map Point.timestamp = some step) (metricName : String) :
    ∃ events, detectDriftEvents uuid4 (front ++ back) size threshold metricName = .ok events ∧
      (∃ event ∈ events, event.startTimestamp = step) ∧
      ∀ event ∈ events, event.startTimestamp = step →
        event.metricName = metricName ∧ event.magnitude = |b - a| := by
  have frontFull : size ≤ front.length := by
    rw [frontLength]
    exact Nat.le_mul_of_pos_left size lowWindows
  have backFull : size ≤ back.length := by
    rw [backLength]
    exact Nat.le_mul_of_pos_left size highWindows
  have total : (front ++ back).length = front.length + back.length := List.length_append
  refine ⟨_, detectDriftEvents_ok positive (by omega), ?_, ?_⟩
  · have currFull : size ≤ (window (front ++ back) front.length size).length := by
      rw [window_back, List.length_take]
      omega
    have large : threshold < |mean ((window (front ++ back) front.length size).map Point.value) -
        mean ((window (front ++ back) (front.length - size) size).map Point.value)| := by
      rw [step_curr_mean series positive backFull, step_prev_mean series positive frontFull]
      exact above
    obtain ⟨event, found⟩ := compareWindows_isSome uuid4 metricName positive currFull
      large
    refine ⟨event, List.mem_filterMap.mpr ⟨front.length, ?_, found⟩, ?_⟩
    · have long : k * size + size ≤ (front ++ back).length := by omega
      rw [frontLength]
      exact border_mem_pyRange positive lowWindows long
    · obtain ⟨⟨point, head, start⟩, _⟩ := compareWindows_some found
      rw [window_back, List.head?_take, if_neg (by omega)] at head
      rw [head, Option.map_some, Option.some.injEq] at at_step
      rw [start, at_step]
  · intro event inside same
    obtain ⟨index, _, found⟩ := List.mem_filterMap.mp inside
    obtain ⟨⟨point, head, start⟩, metric, magnitude⟩ := compareWindows_some found
    obtain rfl := start_of_step series positive at_step head (start.symm.trans same)
    rw [step_curr_mean series positive backFull, step_prev_mean series positive frontFull]
      at magnitude
    exact ⟨metric, magnitude⟩

end RagDrift.Temporal
