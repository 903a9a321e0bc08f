import RagDrift.Collections.Buckets
import RagDrift.Python.Exceptions

set_option autoImplicit false

/- `evaluator.latent_drift.streaming`: a buffer of embedding vectors, one list for each track. -/
namespace RagDrift.LatentDrift

open Collections (Buckets bucket contents)
open Json (setMember)

variable {V : Type}

inductive BufferError where
  | valueError
  | indexError
  deriving DecidableEq

/-- `np.random.RandomState`: seeded with a number, it draws `randint(0, high)` below `high`. -/
structure RandomState where
  Rng : Type
  seeded : Nat → Rng
  randint : Rng → Nat → Nat × Rng
  randint_lt : ∀ rng high, 0 < high → (randint rng high).1 < high

inductive SampleStrategy where
  | reservoir
  | fifo
  deriving DecidableEq

/-- The buffer's state. `tracks` is `_buffers`, a dictionary in the order of insertion. -/
structure StreamingDriftBuffer (V Rng : Type) where
  capacity : Nat
  sampleStrategy : SampleStrategy
  tracks : Buckets (List V)
  rng : Rng
  distinct : (tracks.map Prod.fst).Nodup

/-- The rows of the array in an `EmbeddingBatch`. -/
structure EmbeddingBatch (V : Type) where
  vectors : List (List V)

namespace StreamingDriftBuffer

def sampleStrategy? (text : String) : Option SampleStrategy :=
  if text = "reservoir" then some .reservoir
  else if text = "fifo" then some .fifo
  else none

/-- `__init__`. -/
def new (random : RandomState) (capacity : Int) (sampleStrategy : String) :
    Except BufferError (StreamingDriftBuffer V random.Rng) :=
  if capacity ≤ 0 then .error .valueError
  else match sampleStrategy? sampleStrategy with
    | none => .error .valueError
    | some sampleStrategy => .ok {
        capacity := capacity.toNat
        sampleStrategy := sampleStrategy
        tracks := [("retrieval", []), ("generation", [])]
        rng := random.seeded 42
        distinct := by simp }

variable {Rng : Type}

def perTrackCapacity (buffer : StreamingDriftBuffer V Rng) : Nat := buffer.capacity / 2

/-- `self._buffers[track] = buf`. -/
def setTrack (buffer : StreamingDriftBuffer V Rng) (track : String) (buf : List (List V)) :
    StreamingDriftBuffer V Rng :=
  { buffer with
    tracks := setMember track buf buffer.tracks
    distinct := Collections.nodup_setMember buffer.distinct track buf }

/-- `self._buffers.get(track, [])`. -/
def track (buffer : StreamingDriftBuffer V Rng) (name : String) : List (List V) :=
  bucket buffer.tracks name

/-- What `ingest` makes of a track's list. A full one loses the vector drawn, or the oldest;
an empty one has none to lose. -/
def accept (random : RandomState) (strategy : SampleStrategy) (perTrackCapacity : Nat)
    (rng : random.Rng) (buf : List (List V)) (vector : List V) :
    Except BufferError (List (List V) × random.Rng) :=
  if buf.length < perTrackCapacity then .ok (buf ++ [vector], rng)
  else match strategy, buf with
    | .reservoir, [] => .error .valueError
    | .reservoir, first :: rest =>
        let drawn := random.randint rng (first :: rest).length
        .ok ((first :: rest).set drawn.1 vector, drawn.2)
    | .fifo, [] => .error .indexError
    | .fifo, _ :: rest => .ok (rest ++ [vector], rng)

def ingest (random : RandomState) (buffer : StreamingDriftBuffer V random.Rng)
    (vector : List V) (track : String) :
    Except BufferError (StreamingDriftBuffer V random.Rng) :=
  (accept random buffer.sampleStrategy buffer.perTrackCapacity buffer.rng (buffer.track track)
    vector).map fun accepted => { buffer.setTrack track accepted.1 with rng := accepted.2 }

/-- `np.vstack`: at least one row, and all of one length. -/
def vstack (rows : List (List V)) : Except BufferError (List (List V)) :=
  if rows = [] then .error .valueError
  else if ∀ row ∈ rows, row.length = (rows.headD []).length then .ok rows
  else .error .valueError

def flushBatch (buffer : StreamingDriftBuffer V Rng) : Except BufferError (EmbeddingBatch V) :=
  let allVectors := ["retrieval", "generation"].flatMap buffer.track
  if allVectors = [] then .ok ⟨[]⟩ else (vstack allVectors).map EmbeddingBatch.mk

def flushTrack (buffer : StreamingDriftBuffer V Rng) (track : String) :
    Except BufferError (EmbeddingBatch V) :=
  let buf := buffer.track track
  if buf = [] then .ok ⟨[]⟩ else (vstack buf).map EmbeddingBatch.mk

def totalSize (buffer : StreamingDriftBuffer V Rng) : Nat :=
  buffer.tracks.foldl (fun total entry => total + entry.2.length) 0

def isReady (buffer : StreamingDriftBuffer V Rng) (minSamples : Int) : Prop :=
  minSamples ≤ buffer.totalSize

def clear (buffer : StreamingDriftBuffer V Rng) : StreamingDriftBuffer V Rng :=
  { buffer with
    tracks := buffer.tracks.map fun entry => (entry.1, [])
    distinct := by
      rw [List.map_map]
      exact buffer.distinct }

def clearTrack (buffer : StreamingDriftBuffer V Rng) (track : String) :
    StreamingDriftBuffer V Rng :=
  if track ∈ buffer.tracks.map Prod.fst then buffer.setTrack track [] else buffer

end StreamingDriftBuffer

inductive Call (V : Type) where
  | ingest (vector : List V) (track : String)
  | clear
  | clearTrack (track : String)

/-- A call that raises leads nowhere. -/
def step (random : RandomState) (buffer : StreamingDriftBuffer V random.Rng) :
    Call V → Option (StreamingDriftBuffer V random.Rng)
  | .ingest vector track => (buffer.ingest random vector track).toOption
  | .clear => some buffer.clear
  | .clearTrack track => some (buffer.clearTrack track)

end RagDrift.LatentDrift
