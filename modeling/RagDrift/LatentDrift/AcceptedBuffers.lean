import RagDrift.LatentDrift.Readiness

set_option autoImplicit false

/- Which of the buffers that the constructor accepts can hold a vector. -/
namespace RagDrift.LatentDrift

open StreamingDriftBuffer
open Transition (run run_cons run_total)

variable {V : Type} {random : RandomState}

/-- Every call returns, the tracks stay within the capacity, and a vector is in its track once
it is ingested. -/
def Works (random : RandomState) (start : StreamingDriftBuffer V random.Rng)
    (calls : List (Call V)) : Prop :=
  ∀ front call back, calls = front ++ call :: back →
    ∃ buffer next, run (step random) start front = some buffer ∧
      step random buffer call = some next ∧
      (∀ name, (next.track name).length ≤ start.capacity) ∧
      ∀ vector track, call = .ingest vector track → vector ∈ next.track track

variable {start buffer next : StreamingDriftBuffer V random.Rng}

/-- A buffer whose tracks may hold nothing takes no vector. -/
theorem ingest_raises {vector : List V} {track : String} (none : buffer.perTrackCapacity = 0)
    (bounded : Bounded buffer) : step random buffer (.ingest vector track) ≠ some next := by
  intro stepped
  have empty : buffer.track track = [] := by
    apply List.length_eq_zero_iff.mp
    have share := bounded track
    omega
  obtain ⟨rng, accepted⟩ := ingest_track (Exceptions.toOption_some_iff.mp stepped)
  rw [none, empty] at accepted
  exact accept_raises random buffer.sampleStrategy buffer.rng vector _ accepted

/-- The state after every call of a run in which each call returns. -/
theorem works_of_returns (bounded : Bounded start) {calls : List (Call V)}
    (returns : ∀ buffer : StreamingDriftBuffer V random.Rng, ∀ call ∈ calls,
      buffer.capacity = start.capacity → ∃ next, step random buffer call = some next) :
    Works random start calls := by
  rintro front call back rfl
  have moves : ∀ buffer : StreamingDriftBuffer V random.Rng, ∀ other ∈ front,
      buffer.capacity = start.capacity ∧ Bounded buffer →
      ∃ next, step random buffer other = some next ∧
        next.capacity = start.capacity ∧ Bounded next := by
    rintro buffer other inside ⟨capacity, bounded⟩
    obtain ⟨next, stepped⟩ :=
      returns buffer other (List.mem_append_left _ inside) capacity
    exact ⟨next, stepped, (step_params stepped).1.trans capacity, step_bounded bounded stepped⟩
  obtain ⟨buffer, reached, capacity, bounded⟩ := run_total moves ⟨rfl, bounded⟩
  obtain ⟨next, stepped⟩ :=
    returns buffer call (List.mem_append_right _ List.mem_cons_self) capacity
  refine ⟨buffer, next, reached, stepped, ?_, ?_⟩
  · intro name
    have share := step_bounded bounded stepped name
    rw [perTrackCapacity, (step_params stepped).1, capacity] at share
    omega
  · rintro vector track rfl
    exact (ingest_held (Exceptions.toOption_some_iff.mp stepped)).1

/-- An accepted buffer works where its capacity leaves a place to each track, or where nothing
is ever ingested. -/
theorem accepted_works_iff (random : RandomState) {capacity : Int} (sampleStrategy : String)
    {start : StreamingDriftBuffer V random.Rng}
    (made : StreamingDriftBuffer.new random capacity sampleStrategy = .ok start)
    (calls : List (Call V)) :
    Works random start calls ↔
      2 ≤ capacity ∨ ∀ vector track, .ingest vector track ∉ calls := by
  obtain ⟨accepted, size, _⟩ := new_cases made
  constructor
  · intro works
    by_contra fails
    simp only [not_or, not_forall, not_not] at fails
    obtain ⟨small, vector, track, inside⟩ := fails
    obtain ⟨front, back, split⟩ := List.append_of_mem inside
    obtain ⟨buffer, next, reached, stepped, _⟩ := works front _ back split
    have one : start.capacity = 1 := by omega
    have kept : buffer.capacity = start.capacity ∧ Bounded buffer := by
      apply Transition.run_invariant _ ⟨rfl, new_bounded made⟩ reached
      rintro state call following ⟨same, bounded⟩ taken
      exact ⟨(step_params taken).1.trans same, step_bounded bounded taken⟩
    have none : buffer.perTrackCapacity = 0 := by
      rw [perTrackCapacity, kept.1, one]
    exact ingest_raises none kept.2 stepped
  · intro fine
    apply works_of_returns (new_bounded made)
    intro buffer call inside same
    rcases fine with enough | never
    · apply step_returns
      rw [perTrackCapacity, same, size]
      omega
    · cases call with
      | ingest vector track => exact absurd inside (never vector track)
      | clear => exact ⟨_, rfl⟩
      | clearTrack track => exact ⟨_, rfl⟩

theorem accepted_works_iff_cycling : ∃ start : StreamingDriftBuffer Int cycling.Rng,
    StreamingDriftBuffer.new cycling 3 "reservoir" = .ok start ∧
    (Works cycling start overflowing ↔
      2 ≤ (3 : Int) ∨ ∀ vector track, .ingest vector track ∉ overflowing) := by
  obtain ⟨start, made⟩ : ∃ start : StreamingDriftBuffer Int cycling.Rng,
      StreamingDriftBuffer.new cycling 3 "reservoir" = .ok start := ⟨_, rfl⟩
  exact ⟨start, made, accepted_works_iff cycling "reservoir" made overflowing⟩

/-- A buffer of one is accepted and takes no vector. -/
theorem capacity_one_raises : ¬ ∀ (random : RandomState) (capacity : Int)
    (sampleStrategy : String) (start : StreamingDriftBuffer Int random.Rng)
    (calls : List (Call Int)),
    StreamingDriftBuffer.new random capacity sampleStrategy = .ok start →
    (∀ vector track, .ingest vector track ∈ calls →
      track = "retrieval" ∨ track = "generation") →
    Works random start calls := by
  intro all
  obtain ⟨start, made⟩ : ∃ start : StreamingDriftBuffer Int cycling.Rng,
      StreamingDriftBuffer.new cycling 1 "fifo" = .ok start := ⟨_, rfl⟩
  have works := all cycling 1 "fifo" start [.ingest [1] "retrieval"] made (by simp)
  obtain ⟨buffer, next, reached, stepped, _⟩ := works [] _ [] rfl
  cases reached
  have none : start.perTrackCapacity = 0 := by
    rw [perTrackCapacity, (new_cases made).2.1]
    rfl
  exact ingest_raises none (new_bounded made) stepped

end RagDrift.LatentDrift
