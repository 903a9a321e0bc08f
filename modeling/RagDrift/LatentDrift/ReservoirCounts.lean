import RagDrift.Collections.Overwrites
import RagDrift.LatentDrift.Tracks
import RagDrift.Transition.Runs
import Mathlib.Data.List.OfFn

set_option autoImplicit false

/- In how many of the sequences of draws the reservoir keeps a position of the stream. -/
namespace RagDrift.LatentDrift

open Collections (overwritten leftCount Fresh)
open StreamingDriftBuffer
open Transition (run run_cons run_append)

variable {V : Type}

/-- Draws from a list, one after another. -/
def replaying (draws : List Nat) : RandomState where
  Rng := List Nat
  seeded _ := draws
  randint rng high := (rng.headD 0 % high, rng.tail)
  randint_lt _ _ positive := Nat.mod_lt _ positive

/-- The first vectors of a stream, ingested into one track. -/
def ingestAll (track : String) (stream : Nat → List V) (count : Nat) : List (Call V) :=
  (List.range count).map fun index => .ingest (stream index) track

/-- The positions of a stream that a new buffer holds in the end: the vectors it is given are
their own positions. -/
def keptPositions (capacity : Int) (track : String) (count : Nat) (draws : List Nat) : List Nat :=
  match (new (replaying draws) capacity "reservoir").toOption.bind fun start =>
      run (step (replaying draws)) start (ingestAll track (fun index => [index]) count) with
  | some final => (final.track track).flatten
  | none => []

variable {script : List Nat}

/-- What a track holds, and the draws that are left. -/
structure Holds (size : Nat) (track : String) (held : List (List V)) (draws : List Nat)
    (buffer : StreamingDriftBuffer V (List Nat)) : Prop where
  reservoir : buffer.sampleStrategy = .reservoir
  share : buffer.perTrackCapacity = size
  content : buffer.track track = held
  draws : buffer.rng = draws

variable {size : Nat} {track : String} {held : List (List V)} {draws : List Nat}
  {buffer : StreamingDriftBuffer V (List Nat)}

theorem ingest_holds (holds : Holds size track held draws buffer) {vector : List V}
    {joined : List (List V)} {left : List Nat}
    (accepted : accept (replaying script) .reservoir size draws held vector = .ok (joined, left)) :
    ∃ next, step (replaying script) buffer (.ingest vector track) = some next ∧
      Holds size track joined left next := by
  rw [← holds.reservoir, ← holds.share, ← holds.draws, ← holds.content] at accepted
  refine ⟨{ buffer.setTrack track joined with rng := left }, ?_, ?_⟩
  · show ((accept (replaying script) buffer.sampleStrategy buffer.perTrackCapacity buffer.rng
      (buffer.track track) vector).map _).toOption = _
    rw [accepted]
    rfl
  · exact ⟨holds.reservoir, holds.share, (track_setTrack buffer track joined track).trans
      (if_pos rfl), rfl⟩

theorem ingest_room (holds : Holds size track held draws buffer) (room : held.length < size)
    (vector : List V) :
    ∃ next, step (replaying script) buffer (.ingest vector track) = some next ∧
      Holds size track (held ++ [vector]) draws next := by
  apply ingest_holds holds
  unfold accept
  exact if_pos room

/-- A full track has the place drawn overwritten. -/
theorem ingest_full {place : Nat} (holds : Holds size track held (place :: draws) buffer)
    (full : held.length = size) (inside : place < size) (vector : List V) :
    ∃ next, step (replaying script) buffer (.ingest vector track) = some next ∧
      Holds size track (held.set place vector) draws next := by
  apply ingest_holds holds
  unfold accept
  rw [if_neg (by omega)]
  cases held with
  | nil =>
      rw [List.length_nil] at full
      omega
  | cons first rest =>
      show Except.ok ((first :: rest).set (place % (first :: rest).length) vector, draws) = _
      rw [full, Nat.mod_eq_of_lt inside]
      rfl

theorem ingestAll_succ (track : String) (stream : Nat → List V) (count : Nat) :
    ingestAll track stream (count + 1) =
      ingestAll track stream count ++ [.ingest (stream count) track] := by
  rw [ingestAll, List.range_succ, List.map_append]
  rfl

/-- Until the track is full nothing is drawn. -/
theorem run_filling (stream : Nat → List V) (holds : Holds size track [] draws buffer)
    {count : Nat} (fits : count ≤ size) :
    ∃ final, run (step (replaying script)) buffer (ingestAll track stream count) = some final ∧
      Holds size track ((List.range count).map stream) draws final := by
  induction count with
  | zero => exact ⟨buffer, rfl, holds⟩
  | succ count ih =>
      obtain ⟨middle, reached, held⟩ := ih (by omega)
      have room : ((List.range count).map stream).length < size := by
        rw [List.length_map, List.length_range]
        omega
      obtain ⟨final, stepped, joined⟩ := ingest_room held room (stream count)
      refine ⟨final, ?_, ?_⟩
      · rw [ingestAll_succ]
        exact run_append reached (run_cons.mpr ⟨final, stepped, rfl⟩)
      · rw [List.range_succ, List.map_append]
        exact joined

/-- The positions that are left after some draws. -/
def leftPositions (size : Nat) {count : Nat} (draws : Fin count → Fin size) : List Nat :=
  overwritten (List.range size) (fun index => size + index) count draws

/-- The places drawn, as numbers. -/
def drawn {count : Nat} (draws : Fin count → Fin size) : List Nat :=
  List.ofFn fun index => (draws index : Nat)

theorem drawn_succ {count : Nat} (draws : Fin (count + 1) → Fin size) :
    drawn draws = drawn (Fin.init draws) ++ [(draws (Fin.last count) : Nat)] := by
  rw [drawn, List.ofFn_succ', List.concat_eq_append]
  rfl

theorem run_overwriting (stream : Nat → List V) {count : Nat} (draws : Fin count → Fin size)
    (later : List Nat) (holds : Holds size track [] (drawn draws ++ later) buffer) :
    ∃ final,
      run (step (replaying script)) buffer (ingestAll track stream (size + count)) = some final ∧
      Holds size track ((leftPositions size draws).map stream) later final := by
  induction count generalizing later with
  | zero => exact run_filling stream holds (le_refl size)
  | succ count ih =>
      rw [drawn_succ, List.append_assoc] at holds
      obtain ⟨middle, reached, held⟩ := ih (Fin.init draws) _ holds
      have full : ((leftPositions size (Fin.init draws)).map stream).length = size := by
        rw [List.length_map, leftPositions, Collections.length_overwritten, List.length_range]
      obtain ⟨final, stepped, joined⟩ :=
        ingest_full held full (draws (Fin.last count)).isLt (stream (size + count))
      refine ⟨final, ?_, ?_⟩
      · rw [← Nat.add_assoc, ingestAll_succ]
        exact run_append reached (run_cons.mpr ⟨final, stepped, rfl⟩)
      · rw [leftPositions, overwritten, List.map_set]
        exact joined

theorem new_holds {capacity : Int} (accepted : 1 ≤ capacity) (script : List Nat)
    (track : String) :
    ∃ start : StreamingDriftBuffer V (List Nat),
      new (replaying script) capacity "reservoir" = .ok start ∧
        Holds (capacity.toNat / 2) track [] script start := by
  have made : ∃ start : StreamingDriftBuffer V (List Nat),
      new (replaying script) capacity "reservoir" = .ok start ∧ start.rng = script := by
    rw [new, if_neg (by omega)]
    exact ⟨_, rfl, rfl⟩
  obtain ⟨start, ran, rng⟩ := made
  obtain ⟨_, size, strategy, empty⟩ := new_cases ran
  refine ⟨start, ran, (Option.some.inj strategy).symm, ?_, empty track, rng⟩
  rw [perTrackCapacity, size]

section Stream

variable {capacity : Int} {k n : Nat}

/-- Every stream is left with its vectors at the same positions. -/
theorem run_stream (positive : 1 ≤ k) (share : capacity.toNat / 2 = k) (track : String)
    (full : k ≤ n) (stream : Nat → List V) (draws : Fin (n - k) → Fin k) :
    ∃ start final : StreamingDriftBuffer V (replaying (drawn draws)).Rng,
      new (replaying (drawn draws)) capacity "reservoir" = .ok start ∧
      run (step (replaying (drawn draws))) start (ingestAll track stream n) = some final ∧
      final.track track = (leftPositions k draws).map stream := by
  obtain ⟨start, made, holds⟩ := new_holds (by omega : 1 ≤ capacity) (drawn draws) track
  rw [share, ← List.append_nil (drawn draws)] at holds
  obtain ⟨final, ran, held⟩ := run_overwriting stream draws [] holds
  rw [Nat.add_sub_cancel' full] at ran
  exact ⟨start, final, made, ran, held.content⟩

theorem keptPositions_of_run {track : String} {count : Nat} {draws : List Nat}
    {start final : StreamingDriftBuffer Nat (replaying draws).Rng}
    (made : new (replaying draws) capacity "reservoir" = .ok start)
    (ran : run (step (replaying draws)) start (ingestAll track (fun index => [index]) count) =
      some final) :
    keptPositions capacity track count draws = (final.track track).flatten := by
  have returned : (Except.ok start : Except BufferError _).toOption = some start := rfl
  rw [keptPositions, made, returned, Option.bind_some, ran]

theorem keptPositions_eq (positive : 1 ≤ k) (share : capacity.toNat / 2 = k) (track : String)
    (full : k ≤ n) (draws : Fin (n - k) → Fin k) :
    keptPositions capacity track n (drawn draws) = leftPositions k draws := by
  obtain ⟨start, final, made, ran, held⟩ :=
    run_stream positive share track full (fun index => [index]) draws
  rw [keptPositions_of_run made ran, held, ← List.flatMap_def, List.flatMap_singleton']

/-- The number of sequences of draws after which a position of the stream is kept. -/
def keptCount (capacity : Int) (track : String) (k n position : Nat) : Nat :=
  (Finset.univ.filter fun draws : Fin (n - k) → Fin k =>
    position ∈ keptPositions capacity track n (drawn draws)).card

theorem positions_fresh (k : Nat) : Fresh (List.range k) fun index => k + index where
  nodup := List.nodup_range
  injective first second same := Nat.add_left_cancel same
  new index inside := by
    rw [List.mem_range] at inside
    omega

/-- The later a vector comes, the more of the sequences keep it. -/
theorem keptCount_eq (positive : 1 ≤ k) (share : capacity.toNat / 2 = k) (track : String)
    (full : k ≤ n) {position : Nat} (inside : position < n) :
    keptCount capacity track k n position =
      if position < k then (k - 1) ^ (n - k)
      else k ^ (position - k + 1) * (k - 1) ^ (n - 1 - position) := by
  have counted : keptCount capacity track k n position =
      leftCount k (List.range k) (fun index => k + index) (n - k) position := by
    simp only [keptCount, keptPositions_eq positive share track full]
    rfl
  rw [counted]
  by_cases early : position < k
  · rw [if_pos early]
    exact Collections.leftCount_first (positions_fresh k) List.length_range
      (List.mem_range.mpr early) _
  · obtain ⟨index, rfl⟩ : ∃ index, position = k + index := ⟨position - k, by omega⟩
    have count : n - k = index + 1 + (n - 1 - (k + index)) := by omega
    rw [if_neg early, count, Nat.add_sub_cancel_left]
    exact Collections.leftCount_item (positions_fresh k) List.length_range index _

/-- All positions of a stream are kept equally often only where nothing had to be replaced. -/
theorem reservoir_uniform_iff (positive : 1 ≤ k) (share : capacity.toNat / 2 = k)
    (track : String) (full : k ≤ n) :
    (∀ (V : Type) (stream : Nat → List V) (draws : Fin (n - k) → Fin k),
      ∃ start final : StreamingDriftBuffer V (replaying (drawn draws)).Rng,
        new (replaying (drawn draws)) capacity "reservoir" = .ok start ∧
        run (step (replaying (drawn draws))) start (ingestAll track stream n) = some final ∧
        final.track track = (keptPositions capacity track n (drawn draws)).map stream) ∧
    ((∀ first < n, ∀ second < n,
        keptCount capacity track k n first = keptCount capacity track k n second) ↔ n = k) := by
  constructor
  · intro V stream draws
    rw [keptPositions_eq positive share track full]
    exact run_stream positive share track full stream draws
  · constructor
    · intro uniform
      by_contra longer
      have same := uniform 0 (by omega) (n - 1) (by omega)
      rw [keptCount_eq positive share track full (by omega), if_pos (by omega),
        keptCount_eq positive share track full (by omega), if_neg (by omega), Nat.sub_self,
        pow_zero, mul_one] at same
      have fewer : (k - 1) ^ (n - k) < k ^ (n - k) := Nat.pow_lt_pow_left (by omega) (by omega)
      have last : n - 1 - k + 1 = n - k := by omega
      rw [last] at same
      omega
    · rintro rfl first inFirst second inSecond
      rw [keptCount_eq positive share track full inFirst, if_pos inFirst,
        keptCount_eq positive share track full inSecond, if_pos inSecond]

end Stream

theorem reservoir_uniform_iff_three :
    (∀ first < 3, ∀ second < 3, keptCount 4 "retrieval" 2 3 first =
      keptCount 4 "retrieval" 2 3 second) ↔ 3 = 2 :=
  (reservoir_uniform_iff (by decide) (by decide) "retrieval" (by decide)).2

/-- Two places and three vectors: the last one is always kept, the first by one draw of two. -/
theorem reservoir_favours_last : ¬ ∀ (k n : Nat) (capacity : Int) (track : String), 1 ≤ k →
    capacity.toNat / 2 = k → k ≤ n → ∀ first < n, ∀ second < n,
      keptCount capacity track k n first = keptCount capacity track k n second := by
  intro all
  have same := all 2 3 4 "retrieval" (by decide) (by decide) (by decide) 0 (by decide) 2
    (by decide)
  exact absurd same (by decide +kernel)

end RagDrift.LatentDrift
