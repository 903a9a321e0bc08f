import RagDrift.Temporal.StepSeries

set_option autoImplicit false

/- The shifts between adjacent windows of a series, and the drift events as those of them that
pass the threshold. -/
namespace RagDrift.Temporal

open Storage (PyErr)

/-- How far the mean moves into the window at `start`. -/
def shift (series : List Point) (size start : Nat) : ℚ :=
  |mean ((window series start size).map Point.value) -
    mean ((window series (start - size) size).map Point.value)|

/-- Where the compared windows start. -/
def starts (series : List Point) (size : Nat) : List Nat :=
  pyRange size (series.length - size + 1) size

variable {series : List Point} {size : Nat}

theorem mem_starts (positive : 1 ≤ size) {start : Nat} (inside : start ∈ starts series size) :
    size ≤ start ∧ start + size ≤ series.length := by
  obtain ⟨index, bound, rfl⟩ := mem_pyRange.mp inside
  rw [Nat.lt_div_iff_mul_lt positive] at bound
  omega

theorem compareWindows_none (uuid4 : Nat → String) {threshold : ℚ} (metricName : String)
    {start : Nat} (small : shift series size start ≤ threshold) :
    compareWindows uuid4 series size threshold metricName start = none := by
  rw [shift] at small
  unfold compareWindows
  simp only [gt_iff_lt, not_lt.mpr small, ↓reduceIte, ite_self]

theorem compareWindows_magnitude (uuid4 : Nat → String) (threshold : ℚ) (metricName : String)
    (positive : 1 ≤ size) {start : Nat} (inside : start ∈ starts series size) :
    (compareWindows uuid4 series size threshold metricName start).map DriftEvent.magnitude =
      if threshold < shift series size start then some (shift series size start) else none := by
  have fits := (mem_starts positive inside).2
  have full : size ≤ (window series start size).length := by
    rw [window, List.length_take, List.length_drop]
    omega
  by_cases above : threshold < shift series size start
  · obtain ⟨event, found⟩ := compareWindows_isSome uuid4 metricName positive full above
    obtain ⟨_, _, magnitude⟩ := compareWindows_some found
    rw [if_pos above, found, Option.map_some, magnitude]
    rfl
  · rw [if_neg above, compareWindows_none uuid4 metricName (not_lt.mp above), Option.map_none]

/-- The magnitudes of the events, in the order in which the windows stand. -/
theorem detect_magnitudes (uuid4 : Nat → String) (threshold : ℚ) (metricName : String)
    (positive : 1 ≤ size) (long : 2 * size ≤ series.length) :
    ∃ events, detectDriftEvents uuid4 series size threshold metricName = .ok events ∧
      events.map DriftEvent.magnitude =
        ((starts series size).filter fun start => threshold < shift series size start).map
          (shift series size) := by
  refine ⟨_, detectDriftEvents_ok positive long, ?_⟩
  rw [List.map_filterMap, ← List.filterMap_eq_filter, List.map_filterMap]
  apply List.filterMap_congr
  intro start inside
  rw [compareWindows_magnitude uuid4 threshold metricName positive inside, Option.guard]
  by_cases above : threshold < shift series size start
  · simp only [above, decide_true, ↓reduceIte, Option.map_some]
  · simp only [above, decide_false, ↓reduceIte, Option.map_none, Bool.false_eq_true]

theorem detect_of_shift (uuid4 : Nat → String) {threshold : ℚ} (metricName : String)
    (positive : 1 ≤ size) {start : Nat} (inside : start ∈ starts series size)
    (above : threshold < shift series size start) :
    ∃ events, detectDriftEvents uuid4 series size threshold metricName = .ok events ∧
      events ≠ [] := by
  have fits := mem_starts positive inside
  have long : 2 * size ≤ series.length := by omega
  obtain ⟨events, detected, magnitudes⟩ :=
    detect_magnitudes uuid4 threshold metricName positive long
  refine ⟨events, detected, ?_⟩
  rintro rfl
  have passes : start ∈
      (starts series size).filter fun start => threshold < shift series size start :=
    List.mem_filter.mpr ⟨inside, decide_eq_true above⟩
  rw [List.map_nil, eq_comm, List.map_eq_nil_iff] at magnitudes
  rw [magnitudes] at passes
  cases passes

theorem detect_nil (uuid4 : Nat → String) {threshold : ℚ} (metricName : String)
    (positive : 1 ≤ size) (long : 2 * size ≤ series.length)
    (small : ∀ start ∈ starts series size, shift series size start ≤ threshold) :
    detectDriftEvents uuid4 series size threshold metricName = .ok [] := by
  rw [detectDriftEvents_ok positive long, Except.ok.injEq, List.filterMap_eq_nil_iff]
  intro start inside
  exact compareWindows_none uuid4 metricName (small start inside)

/-- Events are found only with windows of a positive size, two of which fit. -/
theorem detect_ne_nil {uuid4 : Nat → String} {windowSize : Int} {threshold : ℚ}
    {metricName : String} {events : List DriftEvent}
    (detected : detectDriftEvents uuid4 series windowSize threshold metricName = .ok events)
    (found : events ≠ []) :
    1 ≤ windowSize.toNat ∧ 2 * windowSize.toNat ≤ series.length ∧
      windowSize = windowSize.toNat := by
  unfold detectDriftEvents at detected
  split at detected
  · cases detected
    exact absurd rfl found
  · rename_i long
    split at detected
    · cases detected
    · cases detected
      exact absurd rfl found
    · rename_i size
      rw [Int.ofNat_eq_natCast] at long ⊢
      rw [Int.toNat_natCast]
      omega

/-- Of the windows whose shift passes the threshold, none shifts further than the first. -/
def FirstShiftLargest (series : List Point) (size : Nat) (threshold : ℚ) : Prop :=
  ∀ first, (starts series size).find? (fun start => threshold < shift series size start) =
      some first →
    ∀ start ∈ starts series size, shift series size start ≤ shift series size first

theorem first_largest_iff {uuid4 : Nat → String} {windowSize : Int} {threshold : ℚ}
    {metricName : String} {events : List DriftEvent} {chosen : DriftEvent}
    (detected : detectDriftEvents uuid4 series windowSize threshold metricName = .ok events)
    (head : events.head? = some chosen) :
    (∀ event ∈ events, event.magnitude ≤ chosen.magnitude) ↔
      FirstShiftLargest series windowSize.toNat threshold := by
  have found : events ≠ [] := by
    rintro rfl
    cases head
  obtain ⟨positive, long, size⟩ := detect_ne_nil detected found
  obtain ⟨same, detected', magnitudes⟩ :=
    detect_magnitudes uuid4 threshold metricName positive long
  rw [← size, detected, Except.ok.injEq] at detected'
  subst detected'
  have top : ((starts series windowSize.toNat).find? fun start =>
      threshold < shift series windowSize.toNat start).map (shift series windowSize.toNat) =
        some chosen.magnitude := by
    rw [← List.head?_filter, ← List.head?_map, ← magnitudes, List.head?_map, head,
      Option.map_some]
  obtain ⟨first, start, height⟩ := Option.map_eq_some_iff.mp top
  have above : threshold < shift series windowSize.toNat first := by
    simpa using List.find?_some start
  have all : (∀ event ∈ events, event.magnitude ≤ chosen.magnitude) ↔
      ∀ magnitude ∈ events.map DriftEvent.magnitude, magnitude ≤ chosen.magnitude := by
    rw [List.forall_mem_map]
  rw [all, magnitudes, List.forall_mem_map, FirstShiftLargest, start, ← height]
  constructor
  · intro largest other same window inside
    cases same
    rcases lt_or_ge threshold (shift series windowSize.toNat window) with passes | small
    · exact largest window (List.mem_filter.mpr ⟨inside, decide_eq_true passes⟩)
    · exact small.trans above.le
  · intro largest window inside
    exact largest first rfl window (List.mem_of_mem_filter inside)

end RagDrift.Temporal
