import Mathlib.Algebra.BigOperators.Field
import Mathlib.Algebra.Order.BigOperators.Group.Finset
import Mathlib.Analysis.SpecialFunctions.Log.NegMulLog
import Mathlib.Data.List.Perm.Basic

set_option autoImplicit false

/- How scattered the successors in a list of pairs are: the entropies of all first parts, added
up. -/
namespace RagDrift.SuccessorEntropy

variable {A B : Type} [DecidableEq A] [DecidableEq B]

/-- The pairs from one value, as often as they come. -/
def leaving (pairs : List (A × A)) (source : A) : List (A × A) :=
  pairs.filter fun pair => pair.1 = source

noncomputable section

/-- How many of the pairs from its source a pair is. -/
def share (pairs : List (A × A)) (pair : A × A) : ℝ :=
  pairs.count pair / (leaving pairs pair.1).length

def entropy (pairs : List (A × A)) : ℝ :=
  ∑ pair ∈ pairs.toFinset, Real.negMulLog (share pairs pair)

end

section Shares

variable {pairs : List (A × A)} {pair : A × A}

theorem count_leaving (pairs : List (A × A)) (pair : A × A) :
    (leaving pairs pair.1).count pair = pairs.count pair := by
  rw [leaving, List.count_filter (by simp)]

theorem count_le_leaving (pairs : List (A × A)) (pair : A × A) :
    pairs.count pair ≤ (leaving pairs pair.1).length := by
  rw [← count_leaving]
  exact List.count_le_length

theorem leaving_pos (inside : pair ∈ pairs) : 0 < (leaving pairs pair.1).length :=
  (List.count_pos_iff.mpr inside).trans_le (count_le_leaving pairs pair)

theorem share_nonneg (pairs : List (A × A)) (pair : A × A) : 0 ≤ share pairs pair :=
  div_nonneg (Nat.cast_nonneg _) (Nat.cast_nonneg _)

theorem share_le_one (pairs : List (A × A)) (pair : A × A) : share pairs pair ≤ 1 :=
  div_le_one_of_le₀ (Nat.cast_le.mpr (count_le_leaving pairs pair)) (Nat.cast_nonneg _)

theorem share_pos (inside : pair ∈ pairs) : 0 < share pairs pair :=
  div_pos (Nat.cast_pos.mpr (List.count_pos_iff.mpr inside)) (Nat.cast_pos.mpr (leaving_pos inside))

theorem share_of_notMem (outside : pair ∉ pairs) : share pairs pair = 0 := by
  rw [share, List.count_eq_zero_of_not_mem outside, Nat.cast_zero, zero_div]

/-- A pair is all of them where its source has no other successor. -/
theorem share_eq_one_iff (inside : pair ∈ pairs) :
    share pairs pair = 1 ↔ ∀ other ∈ pairs, other.1 = pair.1 → other = pair := by
  have some : ((leaving pairs pair.1).length : ℝ) ≠ 0 :=
    (Nat.cast_pos.mpr (leaving_pos inside)).ne'
  rw [share, div_eq_one_iff_eq some, Nat.cast_inj, ← count_leaving, List.count_eq_length]
  constructor
  · intro all other member same
    exact (all other (List.mem_filter.mpr ⟨member, decide_eq_true same⟩)).symm
  · intro all other member
    obtain ⟨member, same⟩ := List.mem_filter.mp member
    exact (all other member (of_decide_eq_true same)).symm

end Shares

section Entropy

variable {pairs first second : List (A × A)}

theorem negMulLog_share_nonneg (pairs : List (A × A)) (pair : A × A) :
    0 ≤ Real.negMulLog (share pairs pair) :=
  Real.negMulLog_nonneg (share_nonneg pairs pair) (share_le_one pairs pair)

theorem entropy_nonneg (pairs : List (A × A)) : 0 ≤ entropy pairs :=
  Finset.sum_nonneg fun pair _ => negMulLog_share_nonneg pairs pair

theorem negMulLog_eq_zero_iff {share : ℝ} (positive : 0 < share) (atMost : share ≤ 1) :
    Real.negMulLog share = 0 ↔ share = 1 := by
  constructor
  · intro none
    by_contra apart
    have below := Real.mul_log_neg positive (lt_of_le_of_ne atMost apart)
    rw [Real.negMulLog, neg_mul] at none
    linarith
  · rintro rfl
    exact Real.negMulLog_one

/-- Nothing is scattered where each value has at most one successor. -/
theorem entropy_eq_zero_iff : entropy pairs = 0 ↔
    ∀ source left right, (source, left) ∈ pairs → (source, right) ∈ pairs → left = right := by
  rw [entropy, Finset.sum_eq_zero_iff_of_nonneg fun pair _ => negMulLog_share_nonneg pairs pair]
  have term : ∀ pair ∈ pairs, Real.negMulLog (share pairs pair) = 0 ↔
      ∀ other ∈ pairs, other.1 = pair.1 → other = pair := by
    intro pair inside
    rw [negMulLog_eq_zero_iff (share_pos inside) (share_le_one pairs pair),
      share_eq_one_iff inside]
  constructor
  · intro all source left right insideLeft insideRight
    have none := all (source, right) (List.mem_toFinset.mpr insideRight)
    exact (Prod.mk.inj ((term _ insideRight).mp none _ insideLeft rfl)).2
  · intro single pair inside
    rw [List.mem_toFinset] at inside
    rw [term pair inside]
    rintro ⟨source, target⟩ member rfl
    exact Prod.ext rfl (single _ _ _ member inside)

/-- The successors counted one value after another. -/
theorem sum_count_leaving {values : Finset A} (inside : ∀ pair ∈ pairs, pair.2 ∈ values)
    (source : A) : ∑ target ∈ values, pairs.count (source, target) =
      (leaving pairs source).length := by
  induction pairs with
  | nil => simp [leaving]
  | cons pair rest ih =>
      obtain ⟨here, later⟩ := List.forall_mem_cons.mp inside
      have single : ∑ target ∈ values, (if pair == (source, target) then 1 else 0) =
          if pair.1 = source then 1 else 0 := by
        simp only [beq_iff_eq, Prod.ext_iff]
        by_cases same : pair.1 = source
        · simp only [same, true_and, if_true, Finset.sum_ite_eq, here]
        · simp only [same, false_and, if_false, Finset.sum_const_zero]
      simp only [List.count_cons, Finset.sum_add_distrib, ih later, single]
      by_cases same : pair.1 = source
      · rw [if_pos same, leaving, leaving, List.filter_cons_of_pos (by simpa using same),
          List.length_cons]
      · rw [if_neg same, leaving, leaving, List.filter_cons_of_neg (by simpa using same), add_zero]

/-- The entropy over any values among which those of the pairs are. -/
theorem sum_negMulLog_share {values : Finset A}
    (inside : ∀ pair ∈ pairs, pair.1 ∈ values ∧ pair.2 ∈ values) :
    ∑ source ∈ values, ∑ target ∈ values, Real.negMulLog (share pairs (source, target)) =
      entropy pairs := by
  rw [← Finset.sum_product', entropy]
  symm
  apply Finset.sum_subset
  · intro pair member
    exact Finset.mem_product.mpr (inside pair (List.mem_toFinset.mp member))
  · intro pair _ outside
    rw [List.mem_toFinset] at outside
    rw [share_of_notMem outside, Real.negMulLog_zero]

/-- A share counts for no more than it would as one of equal shares. -/
theorem negMulLog_le {share count : ℝ} (nonneg : 0 ≤ share) (positive : 0 < count) :
    Real.negMulLog share ≤ share * Real.log count + (1 / count - share) := by
  rcases nonneg.eq_or_lt with none | some
  · rw [← none, Real.negMulLog_zero, zero_mul, zero_add, sub_zero]
    positivity
  · have ratio : 0 < 1 / (share * count) := by positivity
    have logs := Real.log_le_sub_one_of_pos ratio
    rw [one_div, Real.log_inv, Real.log_mul some.ne' positive.ne', ← one_div] at logs
    have scaled := mul_le_mul_of_nonneg_left logs some.le
    have cancelled : share * (1 / (share * count)) = 1 / count := by field_simp
    rw [Real.negMulLog]
    linarith

/-- The shares of one source among some values. -/
theorem sum_share {values : Finset A} (inside : ∀ pair ∈ pairs, pair.2 ∈ values) (source : A) :
    ∑ target ∈ values, share pairs (source, target) =
      if leaving pairs source = [] then 0 else 1 := by
  have counted := sum_count_leaving inside source
  simp only [share]
  rw [← Finset.sum_div, ← Nat.cast_sum, counted]
  split
  · rename_i none
    rw [none, List.length_nil, Nat.cast_zero, zero_div]
  · rename_i some
    exact div_self (Nat.cast_ne_zero.mpr (mt List.length_eq_zero_iff.mp some))

/-- Among some values the successors are scattered at most as if every one of them came equally
often behind every one. -/
theorem entropy_le {values : Finset A}
    (inside : ∀ pair ∈ pairs, pair.1 ∈ values ∧ pair.2 ∈ values) :
    entropy pairs ≤ values.card * Real.log values.card := by
  rw [← sum_negMulLog_share inside]
  have row : ∀ source ∈ values, ∑ target ∈ values, Real.negMulLog (share pairs (source, target)) ≤
      Real.log values.card := by
    intro source member
    have filled : 0 < values.card := Finset.card_pos.mpr ⟨source, member⟩
    have positive : (0 : ℝ) < values.card := Nat.cast_pos.mpr filled
    have whole := sum_share (fun pair there => (inside pair there).2) source
    by_cases none : leaving pairs source = []
    · rw [if_pos none] at whole
      have shares := (Finset.sum_eq_zero_iff_of_nonneg fun target _ =>
        share_nonneg pairs (source, target)).mp whole
      rw [Finset.sum_eq_zero fun target there => by
        rw [shares target there, Real.negMulLog_zero]]
      exact Real.log_nonneg (by exact_mod_cast filled)
    · rw [if_neg none] at whole
      calc ∑ target ∈ values, Real.negMulLog (share pairs (source, target))
          ≤ ∑ target ∈ values, (share pairs (source, target) * Real.log values.card +
              (1 / values.card - share pairs (source, target))) :=
            Finset.sum_le_sum fun target _ => negMulLog_le (share_nonneg pairs _) positive
        _ = Real.log values.card := by
            rw [Finset.sum_add_distrib, Finset.sum_sub_distrib, ← Finset.sum_mul, whole,
              Finset.sum_const, nsmul_eq_mul, one_mul, mul_one_div_cancel positive.ne', sub_self,
              add_zero]
  calc ∑ source ∈ values, ∑ target ∈ values, Real.negMulLog (share pairs (source, target))
      ≤ ∑ _source ∈ values, Real.log values.card := Finset.sum_le_sum row
    _ = values.card * Real.log values.card := by rw [Finset.sum_const, nsmul_eq_mul]

/-- Pairs that come the same number of times more often keep the entropy. -/
theorem entropy_copies {copies : Nat} (some : copies ≠ 0)
    (reordered : second.Perm (List.replicate copies first).flatten) :
    entropy second = entropy first := by
  have members : second.toFinset = first.toFinset := by
    ext pair
    simp only [List.mem_toFinset, reordered.mem_iff, List.mem_flatten, List.mem_replicate]
    constructor
    · rintro ⟨_, ⟨_, rfl⟩, inside⟩
      exact inside
    · intro inside
      exact ⟨first, ⟨some, rfl⟩, inside⟩
  have shares : ∀ pair, share second pair = share first pair := by
    intro pair
    have count : second.count pair = copies * first.count pair := by
      rw [reordered.count_eq, List.count_flatten, List.map_replicate, List.sum_replicate,
        smul_eq_mul]
    have length : (leaving second pair.1).length = copies * (leaving first pair.1).length := by
      rw [leaving, (reordered.filter _).length_eq, List.filter_flatten, List.map_replicate,
        List.length_flatten, List.map_replicate, List.sum_replicate, smul_eq_mul]
      rfl
    rw [share, share, count, length, Nat.cast_mul, Nat.cast_mul]
    exact mul_div_mul_left _ _ (Nat.cast_ne_zero.mpr some)
  rw [entropy, entropy, members]
  simp only [shares]

theorem entropy_perm (reordered : first.Perm second) : entropy first = entropy second := by
  apply entropy_copies one_ne_zero
  simpa using reordered

/-- Values that are kept apart can be renamed. -/
theorem entropy_map {f : A → B}
    (injective : Set.InjOn f {value | ∃ pair ∈ pairs, value = pair.1 ∨ value = pair.2}) :
    entropy (pairs.map (Prod.map f f)) = entropy pairs := by
  have same : ∀ pair ∈ pairs, ∀ other ∈ pairs, f pair.1 = f other.1 → pair.1 = other.1 := by
    intro pair inside other member equal
    exact injective ⟨pair, inside, .inl rfl⟩ ⟨other, member, .inl rfl⟩ equal
  have apart : Set.InjOn (Prod.map f f) pairs.toFinset := by
    intro pair inside other member equal
    simp only [List.coe_toFinset, Set.mem_ofPred_eq] at inside member
    obtain ⟨left, right⟩ := Prod.mk.inj equal
    exact Prod.ext (same pair inside other member left)
      (injective ⟨pair, inside, .inr rfl⟩ ⟨other, member, .inr rfl⟩ right)
  have shares : ∀ pair ∈ pairs, share (pairs.map (Prod.map f f)) (Prod.map f f pair) =
      share pairs pair := by
    intro pair inside
    have count : (pairs.map (Prod.map f f)).count (Prod.map f f pair) = pairs.count pair := by
      rw [List.count, List.countP_map, List.count]
      apply List.countP_congr
      intro other member
      rw [Function.comp_apply, beq_iff_eq, beq_iff_eq]
      exact ⟨fun equal => apart (List.mem_toFinset.mpr member) (List.mem_toFinset.mpr inside) equal,
        congrArg _⟩
    have length : (leaving (pairs.map (Prod.map f f)) (f pair.1)).length =
        (leaving pairs pair.1).length := by
      rw [leaving, leaving, ← List.countP_eq_length_filter, List.countP_map,
        ← List.countP_eq_length_filter]
      apply List.countP_congr
      intro other member
      rw [Function.comp_apply, decide_eq_true_iff, decide_eq_true_iff]
      exact ⟨same other member pair inside, congrArg f⟩
    rw [share, share, count, Prod.map_fst, length]
  have image : (pairs.map (Prod.map f f)).toFinset = pairs.toFinset.image (Prod.map f f) := by
    ext pair
    simp
  rw [entropy, image, Finset.sum_image apart]
  exact Finset.sum_congr rfl fun pair inside =>
    congrArg _ (shares pair (List.mem_toFinset.mp inside))

end Entropy

end RagDrift.SuccessorEntropy
