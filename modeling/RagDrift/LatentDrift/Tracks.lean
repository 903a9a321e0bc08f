import RagDrift.LatentDrift.Streaming

set_option autoImplicit false

/- What each call does to the tracks of a buffer. -/
namespace RagDrift.LatentDrift

open Collections (bucket)
open StreamingDriftBuffer

variable {V Rng : Type}

theorem track_setTrack (buffer : StreamingDriftBuffer V Rng) (track : String)
    (buf : List (List V)) (name : String) :
    (buffer.setTrack track buf).track name = if name = track then buf else buffer.track name :=
  Collections.bucket_setMember buffer.tracks track buf name

theorem track_clear (buffer : StreamingDriftBuffer V Rng) (name : String) :
    buffer.clear.track name = [] := by
  show bucket (buffer.tracks.map fun entry => (entry.1, [])) name = []
  induction buffer.tracks with
  | nil => rfl
  | cons entry rest ih =>
      rw [List.map_cons, bucket, Json.lookup_cons]
      split
      · rfl
      · exact ih

theorem track_clearTrack (buffer : StreamingDriftBuffer V Rng) (track name : String) :
    (buffer.clearTrack track).track name = if name = track then [] else buffer.track name := by
  rw [clearTrack]
  by_cases known : track ∈ buffer.tracks.map Prod.fst
  · rw [if_pos known, track_setTrack]
  · rw [if_neg known]
    split
    · rename_i same
      have absent : buffer.tracks.lookup track = none := by
        rw [← Option.not_isSome_iff_eq_none, Json.lookup_isSome_iff_mem]
        exact known
      rw [same, StreamingDriftBuffer.track, bucket, absent]
      rfl
    · rfl

/-- A buffer that the constructor accepts starts with no vectors. -/
theorem new_cases {random : RandomState} {capacity : Int} {sampleStrategy : String}
    {start : StreamingDriftBuffer V random.Rng}
    (made : StreamingDriftBuffer.new random capacity sampleStrategy = .ok start) :
    1 ≤ capacity ∧ start.capacity = capacity.toNat ∧
      sampleStrategy? sampleStrategy = some start.sampleStrategy ∧
      ∀ name, start.track name = [] := by
  rw [StreamingDriftBuffer.new] at made
  split_ifs at made with none
  split at made
  · cases made
  · rename_i strategy known
    cases made
    refine ⟨by omega, rfl, known, ?_⟩
    intro name
    show bucket [("retrieval", []), ("generation", [])] name = []
    rw [bucket, Json.lookup_cons, Json.lookup_cons]
    split_ifs <;> rfl

/-- Where a track may hold something, a vector is always accepted. -/
theorem accept_returns (random : RandomState) (strategy : SampleStrategy) {perTrackCapacity : Nat}
    (positive : 1 ≤ perTrackCapacity) (rng : random.Rng) (buf : List (List V))
    (vector : List V) :
    ∃ accepted, accept random strategy perTrackCapacity rng buf vector = .ok accepted := by
  unfold accept
  by_cases room : buf.length < perTrackCapacity
  · rw [if_pos room]
    exact ⟨_, rfl⟩
  · rw [if_neg room]
    cases buf with
    | nil => exact absurd positive room
    | cons first rest => cases strategy <;> exact ⟨_, rfl⟩

/-- Where it may hold nothing, the draw and the pop both fail. -/
theorem accept_raises (random : RandomState) (strategy : SampleStrategy) (rng : random.Rng)
    (vector : List V) (accepted : List (List V) × random.Rng) :
    accept random strategy 0 rng [] vector ≠ .ok accepted := by
  cases strategy <;> exact nofun

section Ingested

variable {random : RandomState} {buffer next : StreamingDriftBuffer V random.Rng}
  {vector : List V} {track : String}

theorem ingest_other (ran : buffer.ingest random vector track = .ok next) {name : String}
    (other : name ≠ track) : next.track name = buffer.track name := by
  obtain ⟨accepted, _, rfl⟩ := Exceptions.map_ok_iff.mp ran
  exact (track_setTrack buffer track accepted.1 name).trans (if_neg other)

theorem ingest_track (ran : buffer.ingest random vector track = .ok next) :
    ∃ rng, accept random buffer.sampleStrategy buffer.perTrackCapacity buffer.rng
      (buffer.track track) vector = .ok (next.track track, rng) := by
  obtain ⟨accepted, joined, rfl⟩ := Exceptions.map_ok_iff.mp ran
  have same := (track_setTrack buffer track accepted.1 track).trans (if_pos rfl)
  refine ⟨accepted.2, ?_⟩
  show _ = Except.ok ((buffer.setTrack track accepted.1).track track, accepted.2)
  rw [joined, same]

end Ingested

variable {random : RandomState} {buffer next : StreamingDriftBuffer V random.Rng}

theorem step_params {call : Call V} (stepped : step random buffer call = some next) :
    next.capacity = buffer.capacity ∧ next.sampleStrategy = buffer.sampleStrategy := by
  cases call with
  | ingest vector track =>
      obtain ⟨accepted, _, rfl⟩ :=
        Exceptions.map_ok_iff.mp (Exceptions.toOption_some_iff.mp stepped)
      exact ⟨rfl, rfl⟩
  | clear =>
      cases stepped
      exact ⟨rfl, rfl⟩
  | clearTrack track =>
      cases stepped
      rw [clearTrack]
      split <;> exact ⟨rfl, rfl⟩

theorem step_returns (positive : 1 ≤ buffer.perTrackCapacity) (call : Call V) :
    ∃ next, step random buffer call = some next := by
  cases call with
  | ingest vector track =>
      obtain ⟨accepted, joined⟩ := accept_returns random buffer.sampleStrategy positive buffer.rng
        (buffer.track track) vector
      refine ⟨{ buffer.setTrack track accepted.1 with rng := accepted.2 }, ?_⟩
      rw [step, ingest, joined]
      rfl
  | clear => exact ⟨_, rfl⟩
  | clearTrack track => exact ⟨_, rfl⟩

end RagDrift.LatentDrift
