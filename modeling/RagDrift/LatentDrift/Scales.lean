import RagDrift.LatentDrift.Shapes

set_option autoImplicit false

/- `compute_jsd` of scaled densities: the clip comes before the densities are normalized, so small
densities lose their shapes. -/
namespace RagDrift.LatentDrift

section Levels

variable {density : List ℝ}

/-- All values are the same. -/
def Level (density : List ℝ) : Prop := ∃ level, ∀ value ∈ density, value = level

theorem Level.keepsShape (flat : Level density) (factor : ℝ) : KeepsShape factor density := by
  obtain ⟨level, same⟩ := flat
  refine ⟨max (factor * level) epsilon / max level epsilon, ?_⟩
  intro value inside
  have floor : max level epsilon ≠ 0 := (lt_max_of_lt_right epsilon_pos).ne'
  rw [same value inside, div_mul_cancel₀ _ floor]

theorem exists_lt_of_not_level (uneven : ¬ Level density) :
    ∃ low ∈ density, ∃ high ∈ density, low < high := by
  cases density with
  | nil => exact absurd ⟨0, nofun⟩ uneven
  | cons first rest =>
      by_contra none
      push Not at none
      apply uneven
      refine ⟨first, ?_⟩
      intro value inside
      exact le_antisymm (none first List.mem_cons_self value inside)
        (none value inside first List.mem_cons_self)

/-- On a small enough scale every value is clipped. -/
theorem exists_flattening (nonneg : ∀ value ∈ density, 0 ≤ value) :
    ∃ factor, 0 < factor ∧ shape (density.map (factor * ·)) =
      List.replicate density.length (1 / (density.length : ℝ)) := by
  have total : 0 ≤ density.sum := List.sum_nonneg nonneg
  have positive : 0 < epsilon / (density.sum + 1) := div_pos epsilon_pos (by linarith)
  refine ⟨epsilon / (density.sum + 1), positive, ?_⟩
  have flat : ∀ value ∈ density.map (epsilon / (density.sum + 1) * ·),
      max value epsilon = epsilon := by
    intro scaled inside
    obtain ⟨value, member, rfl⟩ := List.mem_map.mp inside
    apply max_eq_right
    have part := List.single_le_sum nonneg value member
    rw [div_mul_eq_mul_div, div_le_iff₀ (by linarith)]
    exact mul_le_mul_of_nonneg_left (by linarith) epsilon_pos.le
  rw [shape_of_const flat, List.length_map]

/-- Where two values differ there is a scale on which one of them is above the floor and the
shape is not flat. -/
theorem exists_uneven_scale (nonneg : ∀ value ∈ density, 0 ≤ value) (uneven : ¬ Level density)
    (level : ℝ) :
    ∃ factor, 0 < factor ∧
      shape (density.map (factor * ·)) ≠ List.replicate density.length level := by
  obtain ⟨low, inLow, high, inHigh, less⟩ := exists_lt_of_not_level uneven
  have positive : 0 < high := (nonneg low inLow).trans_lt less
  refine ⟨2 * epsilon / high, div_pos (mul_pos two_pos epsilon_pos) positive, ?_⟩
  apply shape_ne_replicate (List.mem_map_of_mem inLow) (List.mem_map_of_mem inHigh)
  rw [div_mul_cancel₀ _ positive.ne', max_eq_left (a := 2 * epsilon) (by linarith [epsilon_pos])]
  apply max_lt
  · rw [div_mul_eq_mul_div, div_lt_iff₀ positive]
    exact mul_lt_mul_of_pos_left less (mul_pos two_pos epsilon_pos)
  · linarith [epsilon_pos]

/-- All scales keep a shape that is flat, and no other. -/
theorem keepsShape_iff_level (nonneg : ∀ value ∈ density, 0 ≤ value) :
    (∀ factor, 0 < factor → KeepsShape factor density) ↔ Level density := by
  constructor
  · intro keeps
    by_contra uneven
    obtain ⟨small, positiveSmall, flat⟩ := exists_flattening nonneg
    obtain ⟨factor, positive, apart⟩ := exists_uneven_scale nonneg uneven
      (1 / (density.length : ℝ))
    apply apart
    rw [shape_scale (keeps factor positive), ← shape_scale (keeps small positiveSmall), flat]
  · intro flat factor _
    exact flat.keepsShape factor

end Levels

variable {p q : List ℝ}

/-- In arrays of ordinary length no midpoint with a flat shape is clipped. -/
theorem computeJsd_flat_pos (length : p.length = q.length) (ordinary : 2 * p.length ≤ 10 ^ 12)
    (flat : shape p = List.replicate p.length (1 / (p.length : ℝ))) (apart : shape p ≠ shape q) :
    0 < computeJsd p q := by
  apply computeJsd_pos length apart
  rintro ⟨a, b⟩ inside
  obtain ⟨left, right⟩ := List.of_mem_zip inside
  rw [flat] at left
  obtain ⟨some, rfl⟩ := List.mem_replicate.mp left
  have mass : 0 < b := shape_pos right
  have count : (0 : ℝ) < p.length := Nat.cast_pos.mpr (Nat.pos_of_ne_zero some)
  have bound : 2 * (p.length : ℝ) ≤ 10 ^ 12 := by exact_mod_cast ordinary
  have half : epsilon ≤ 1 / (p.length : ℝ) / 2 := by
    rw [div_div, le_div_iff₀ (by linarith)]
    have floor : epsilon = 1 / 10 ^ 12 := by norm_num [epsilon]
    rw [floor, div_mul_eq_mul_div, div_le_one (by norm_num)]
    linarith
  show epsilon ≤ (1 / (p.length : ℝ) + b) / 2
  linarith

/-- The law at all scales makes the second array level: with the first one flattened the score is
0 on every scale of the second. -/
theorem level_of_scaleFree (length : p.length = q.length) (ordinary : 2 * p.length ≤ 10 ^ 12)
    (nonnegP : ∀ value ∈ p, 0 ≤ value) (nonnegQ : ∀ value ∈ q, 0 ≤ value)
    (free : ∀ c d : ℝ, 0 < c → 0 < d →
      computeJsd (p.map (c * ·)) (q.map (d * ·)) = computeJsd p q) : Level q := by
  by_contra uneven
  obtain ⟨c, positiveC, flatP⟩ := exists_flattening nonnegP
  obtain ⟨d, positiveD, flatQ⟩ := exists_flattening nonnegQ
  obtain ⟨e, positiveE, apart⟩ := exists_uneven_scale nonnegQ uneven (1 / (p.length : ℝ))
  have none : computeJsd (p.map (c * ·)) (q.map (d * ·)) = 0 := by
    apply computeJsd_of_shape
    rw [flatP, flatQ, length]
  have some : 0 < computeJsd (p.map (c * ·)) (q.map (e * ·)) := by
    apply computeJsd_flat_pos
    · rw [List.length_map, List.length_map, length]
    · rw [List.length_map]
      exact ordinary
    · rw [flatP, List.length_map]
    · rw [flatP, length]
      rw [length] at apart
      exact apart.symm
  rw [free c e positiveC positiveE, ← free c d positiveC positiveD, none] at some
  exact lt_irrefl 0 some

/-- The scales that keep the shapes keep the divergence. For arrays of ordinary length it is the
same on all scales only if all of them keep both shapes. -/
theorem computeJsd_scale_iff (p q : List ℝ) :
    (∀ c d : ℝ, KeepsShape c p → KeepsShape d q →
      computeJsd (p.map (c * ·)) (q.map (d * ·)) = computeJsd p q) ∧
    (p.length = q.length → 2 * p.length ≤ 10 ^ 12 → (∀ value ∈ p, 0 ≤ value) →
      (∀ value ∈ q, 0 ≤ value) →
      ((∀ c d : ℝ, 0 < c → 0 < d →
        computeJsd (p.map (c * ·)) (q.map (d * ·)) = computeJsd p q) ↔
      (∀ c : ℝ, 0 < c → KeepsShape c p) ∧ ∀ d : ℝ, 0 < d → KeepsShape d q)) := by
  have enough : ∀ c d : ℝ, KeepsShape c p → KeepsShape d q →
      computeJsd (p.map (c * ·)) (q.map (d * ·)) = computeJsd p q := by
    intro c d keepsP keepsQ
    rw [computeJsd_eq, computeJsd_eq, shape_scale keepsP, shape_scale keepsQ]
  refine ⟨enough, ?_⟩
  intro length ordinary nonnegP nonnegQ
  constructor
  · intro free
    have swapped : ∀ c d : ℝ, 0 < c → 0 < d →
        computeJsd (q.map (c * ·)) (p.map (d * ·)) = computeJsd q p := by
      intro c d positiveC positiveD
      rw [computeJsd_comm, computeJsd_comm q]
      exact free d c positiveD positiveC
    rw [keepsShape_iff_level nonnegP, keepsShape_iff_level nonnegQ]
    constructor
    · exact level_of_scaleFree length.symm (length ▸ ordinary) nonnegQ nonnegP swapped
    · exact level_of_scaleFree length ordinary nonnegP nonnegQ free
  · rintro ⟨keepsP, keepsQ⟩ c d positiveC positiveD
    exact enough c d (keepsP c positiveC) (keepsQ d positiveD)

theorem computeJsd_scale_iff_doubled :
    computeJsd ([3, 1].map ((2 : ℝ) * ·)) ([1, 3].map ((5 : ℝ) * ·)) =
      computeJsd [3, 1] [1, 3] := by
  apply (computeJsd_scale_iff [3, 1] [1, 3]).1
  · refine ⟨2, ?_⟩
    norm_num [epsilon]
  · refine ⟨5, ?_⟩
    norm_num [epsilon]

/-- Two opposite densities, and the same two of which nothing is left above the floor. -/
theorem small_densities_agree : ¬ ∀ (p q : List ℝ) (c d : ℝ), p.length = q.length →
    (∀ value ∈ p, 0 ≤ value) → (∀ value ∈ q, 0 ≤ value) → (∃ value ∈ p, value ≠ 0) →
    (∃ value ∈ q, value ≠ 0) → 0 < c → 0 < d →
    computeJsd (p.map (c * ·)) (q.map (d * ·)) = computeJsd p q := by
  intro all
  have same := all [3, 1] [1, 3] (1 / 10 ^ 13) (1 / 10 ^ 13) rfl (by simp) (by simp)
    ⟨3, by simp⟩ ⟨1, by simp⟩ (by norm_num) (by norm_num)
  have small : computeJsd ([3, 1].map ((1 / 10 ^ 13 : ℝ) * ·))
      ([1, 3].map ((1 / 10 ^ 13 : ℝ) * ·)) = 0 := by
    apply computeJsd_of_shape
    rw [@shape_of_const _ epsilon, @shape_of_const _ epsilon]
    · rfl
    · norm_num [epsilon]
    · norm_num [epsilon]
  have first : shape [3, 1] = [3 / 4, 1 / 4] := by
    norm_num [shape, epsilon]
  have second : shape [1, 3] = [1 / 4, 3 / 4] := by
    norm_num [shape, epsilon]
  have apart : 0 < computeJsd [3, 1] [1, 3] := by
    have length : ([3, 1] : List ℝ).length = ([1, 3] : List ℝ).length := rfl
    apply computeJsd_pos length
    · rw [first, second]
      norm_num
    · rw [first, second]
      norm_num [epsilon]
  rw [small] at same
  exact apart.ne same

end RagDrift.LatentDrift
