import RagDrift.Collections.Recent
import RagDrift.LatentDrift.Tracks
import RagDrift.Transition.Runs

set_option autoImplicit false

/- What a buffer with the strategy `fifo` holds after any calls. -/
namespace RagDrift.LatentDrift

open StreamingDriftBuffer
open Transition (run run_cons)

variable {V : Type}

/-- The calls, and the two that only export what the buffer holds. -/
inductive Operation (V : Type) where
  | call (call : Call V)
  | flushBatch
  | flushTrack (track : String)

/-- A flush raises or returns a batch, and leaves the buffer to the next operation as it is. -/
def operate (random : RandomState) (buffer : StreamingDriftBuffer V random.Rng) :
    Operation V → Option (StreamingDriftBuffer V random.Rng)
  | .call call => step random buffer call
  | .flushBatch =>
      match buffer.flushBatch with
      | .ok _ => some buffer
      | .error _ => some buffer
  | .flushTrack track =>
      match buffer.flushTrack track with
      | .ok _ => some buffer
      | .error _ => some buffer

/-- The operation may change what a track holds. -/
def Operation.Touches (operation : Operation V) (name : String) : Prop :=
  match operation with
  | .call (.ingest _ track) => name = track
  | .call .clear => True
  | .call (.clearTrack track) => name = track
  | .flushBatch => False
  | .flushTrack _ => False

def Operation.IsFlush : Operation V → Prop
  | .call _ => False
  | .flushBatch => True
  | .flushTrack _ => True

/-- One operation on the list of all vectors ingested into a track since it was last cleared. -/
def remember (name : String) (history : List (List V)) : Operation V → List (List V)
  | .call (.ingest vector track) => if name = track then history ++ [vector] else history
  | .call .clear => []
  | .call (.clearTrack track) => if name = track then [] else history
  | .flushBatch => history
  | .flushTrack _ => history

/-- The vectors ingested into a track since it was last cleared. -/
def sinceCleared (name : String) (operations : List (Operation V)) : List (List V) :=
  operations.foldl (remember name) []

variable {random : RandomState} {buffer next : StreamingDriftBuffer V random.Rng}

theorem operate_flush (operation : Operation V) (flush : operation.IsFlush) :
    operate random buffer operation = some buffer := by
  cases operation with
  | call call => cases flush
  | flushBatch =>
      rw [operate]
      cases buffer.flushBatch <;> rfl
  | flushTrack track =>
      rw [operate]
      cases buffer.flushTrack track <;> rfl

/-- What one operation leaves in a track depends on nothing that other tracks hold. -/
theorem operate_frame {operation : Operation V} {name : String}
    (untouched : ¬ operation.Touches name) (ran : operate random buffer operation = some next) :
    next.track name = buffer.track name := by
  cases operation with
  | call call =>
      cases call with
      | ingest vector track =>
          exact ingest_other (Exceptions.toOption_some_iff.mp ran) untouched
      | clear => exact absurd trivial untouched
      | clearTrack track =>
          cases ran
          rw [track_clearTrack]
          exact if_neg untouched
  | flushBatch =>
      rw [operate_flush .flushBatch trivial] at ran
      cases ran
      rfl
  | flushTrack track =>
      rw [operate_flush (.flushTrack track) trivial] at ran
      cases ran
      rfl

/-- A full list loses its first vector to the new one. -/
theorem accept_fifo {perTrackCapacity : Nat} {rng rng' : random.Rng} {buf held : List (List V)}
    {vector : List V} (bounded : buf.length ≤ perTrackCapacity)
    (accepted : accept random .fifo perTrackCapacity rng buf vector = .ok (held, rng')) :
    held = (buf ++ [vector]).rtake perTrackCapacity := by
  unfold accept at accepted
  by_cases room : buf.length < perTrackCapacity
  · rw [if_pos room] at accepted
    cases accepted
    rw [Collections.rtake_of_length_le]
    rw [List.length_append, List.length_singleton]
    omega
  · rw [if_neg room] at accepted
    cases buf with
    | nil => cases accepted
    | cons first rest =>
        cases accepted
        exact Collections.tail_concat_eq_rtake (by omega) vector

/-- The strategy and the share of a track, and what each track holds of its history. -/
structure Recent (size : Nat) (history : String → List (List V))
    (buffer : StreamingDriftBuffer V random.Rng) : Prop where
  fifo : buffer.sampleStrategy = .fifo
  share : buffer.perTrackCapacity = size
  content : ∀ name, buffer.track name = (history name).rtake size

variable {size : Nat} {history : String → List (List V)}

theorem operate_recent (recent : Recent size history buffer) {operation : Operation V}
    (ran : operate random buffer operation = some next) :
    Recent size (fun name => remember name (history name) operation) next := by
  cases operation with
  | flushBatch =>
      rw [operate_flush .flushBatch trivial] at ran
      cases ran
      exact recent
  | flushTrack track =>
      rw [operate_flush (.flushTrack track) trivial] at ran
      cases ran
      exact recent
  | call call =>
      obtain ⟨capacity, strategy⟩ := step_params ran
      refine ⟨strategy.trans recent.fifo, ?_, ?_⟩
      · rw [perTrackCapacity, capacity]
        exact recent.share
      · intro name
        cases call with
        | ingest vector track =>
            have ingested := Exceptions.toOption_some_iff.mp ran
            by_cases here : name = track
            · obtain ⟨rng, accepted⟩ := ingest_track ingested
              have bounded : (buffer.track track).length ≤ size := by
                rw [recent.content, Collections.length_rtake]
                exact Nat.min_le_left _ _
              rw [recent.fifo, recent.share] at accepted
              rw [remember, if_pos here, here, accept_fifo bounded accepted,
                recent.content, Collections.rtake_concat]
            · rw [remember, if_neg here, ingest_other ingested here, recent.content]
        | clear =>
            cases ran
            rw [remember, track_clear, List.rtake_nil]
        | clearTrack track =>
            cases ran
            rw [remember, track_clearTrack]
            split
            · rw [List.rtake_nil]
            · exact recent.content name

theorem run_recent (positive : 1 ≤ size) (operations : List (Operation V))
    (recent : Recent size history buffer) :
    ∃ final, run (operate random) buffer operations = some final ∧
      Recent size (fun name => operations.foldl (remember name) (history name)) final := by
  induction operations generalizing buffer history with
  | nil => exact ⟨buffer, rfl, recent⟩
  | cons operation rest ih =>
      obtain ⟨next, ran⟩ : ∃ next, operate random buffer operation = some next := by
        cases operation with
        | call call =>
            apply step_returns
            rw [recent.share]
            exact positive
        | flushBatch => exact ⟨buffer, operate_flush .flushBatch trivial⟩
        | flushTrack track => exact ⟨buffer, operate_flush (.flushTrack track) trivial⟩
      obtain ⟨final, later, held⟩ := ih (operate_recent recent ran)
      exact ⟨final, run_cons.mpr ⟨next, ran, later⟩, held⟩

/-- Every track holds the last vectors ingested into it since it was cleared, as many as its
half of the capacity has room for. -/
theorem fifo_content (random : RandomState) {capacity : Int} (enough : 2 ≤ capacity)
    {start : StreamingDriftBuffer V random.Rng}
    (made : StreamingDriftBuffer.new random capacity "fifo" = .ok start)
    (operations : List (Operation V)) :
    (∃ final, run (operate random) start operations = some final ∧
      ∀ name, final.track name =
        (sinceCleared name operations).drop ((sinceCleared name operations).length -
          min (sinceCleared name operations).length (capacity.toNat / 2))) ∧
    ∀ (buffer : StreamingDriftBuffer V random.Rng) (operation : Operation V) next,
      operate random buffer operation = some next →
      (∀ name, ¬ operation.Touches name → next.track name = buffer.track name) ∧
      (operation.IsFlush → next = buffer) := by
  constructor
  · obtain ⟨_, size, strategy, empty⟩ := new_cases made
    have initially : Recent (capacity.toNat / 2) (fun _ => []) start := by
      refine ⟨(Option.some.inj strategy).symm, ?_, ?_⟩
      · rw [perTrackCapacity, size]
      · intro name
        rw [empty name, List.rtake_nil]
    obtain ⟨final, ran, held⟩ := run_recent (by omega) operations initially
    refine ⟨final, ran, ?_⟩
    intro name
    rw [held.content name, List.rtake, sinceCleared]
    congr 1
    omega
  · intro buffer operation next ran
    refine ⟨fun name untouched => operate_frame untouched ran, ?_⟩
    intro flush
    rw [operate_flush operation flush, Option.some.injEq] at ran
    exact ran.symm

def seeded : RandomState where
  Rng := Unit
  seeded _ := ()
  randint _ _ := (0, ())
  randint_lt _ _ positive := positive

def threeIngested : List (Operation Int) :=
  [.call (.ingest [1] "retrieval"), .call (.ingest [2] "generation"), .flushTrack "retrieval",
    .call (.ingest [3] "retrieval"), .call (.clearTrack "generation"),
    .call (.ingest [4] "retrieval")]

theorem fifo_content_threeIngested : ∃ start : StreamingDriftBuffer Int seeded.Rng,
    StreamingDriftBuffer.new seeded 4 "fifo" = .ok start ∧
    ∃ final, run (operate seeded) start threeIngested = some final ∧
      final.track "retrieval" = [[3], [4]] ∧ final.track "generation" = [] := by
  obtain ⟨start, made⟩ : ∃ start : StreamingDriftBuffer Int seeded.Rng,
      StreamingDriftBuffer.new seeded 4 "fifo" = .ok start := ⟨_, rfl⟩
  obtain ⟨final, ran, content⟩ := (fifo_content seeded (by decide) made threeIngested).1
  exact ⟨start, made, final, ran, content "retrieval", content "generation"⟩

end RagDrift.LatentDrift
