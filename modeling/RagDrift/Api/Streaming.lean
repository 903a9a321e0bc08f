import RagDrift.LatentDrift.Readiness
import RagDrift.LatentDrift.ScoreRange

set_option autoImplicit false

/- The streaming requests of `evaluator.api.app`, which share one buffer that no request clears. -/
namespace RagDrift.Api

open Exceptions (bind_ok_iff)
open LatentDrift LatentDrift.LatentDriftEngine
open LatentDrift.StreamingDriftBuffer (accept)

noncomputable section

/-- `POST /v1/stream/ingest` and `POST /v1/stream/flush`. -/
inductive StreamRequest where
  | ingest (vector : List ℝ) (track : String)
  | flush

structure StreamIngestResponse where
  ingested : Bool
  track : String
  bufferSize : Nat
  ready : Bool

structure StreamFlushResponse where
  driftScore : ℝ
  driftDetected : Bool
  metricUsed : String
  track : String
  nSamplesBaseline : Nat
  nSamplesCurrent : Nat
  threshold : ℝ

/-- `StreamFlushResponse()`. -/
def StreamFlushResponse.empty (track : String) : StreamFlushResponse :=
  ⟨0, false, "mmd", track, 0, 0, (15 / 100 : ℚ)⟩

inductive StreamReply where
  | ingested (response : StreamIngestResponse)
  | flushed (response : StreamFlushResponse)
  /-- 422, for a track that the pattern of the request refuses. -/
  | unprocessable
  /-- 500, for an exception. -/
  | serverError

/-- `^(retrieval|generation)$`. -/
def streamTracks : List String := ["retrieval", "generation"]

variable (libraries : Libraries) (random : RandomState)

def streamIngest (buffer : StreamingDriftBuffer ℝ random.Rng) (vector : List ℝ) (track : String) :
    StreamingDriftBuffer ℝ random.Rng × StreamReply :=
  if track ∈ streamTracks then
    match buffer.ingest random vector track with
    | .error _ => (buffer, .serverError)
    | .ok next =>
        let bufferSize := (next.track track).length
        (next, .ingested ⟨true, track, bufferSize, 50 ≤ bufferSize⟩)
  else (buffer, .unprocessable)

/-- `np.random.RandomState(42).normal(0, 1, size=(100, dim))`. -/
def demoBaseline (dim : Nat) : List (List ℝ) :=
  List.ofFn fun row => List.ofFn (libraries.normal 42 100 dim row)

/-- The longer of the two tracks. -/
def flushedTrack {Rng : Type} (buffer : StreamingDriftBuffer ℝ Rng) : String :=
  if (buffer.track "retrieval").length < (buffer.track "generation").length then "generation"
  else "retrieval"

def streamFlush {Rng : Type} (buffer : StreamingDriftBuffer ℝ Rng) : StreamReply :=
  match buffer.flushBatch with
  | .error _ => .serverError
  | .ok currentBatch =>
      if currentBatch.vectors.length = 0 then .flushed (.empty "retrieval")
      else
        let track := flushedTrack buffer
        match buffer.flushTrack track with
        | .error _ => .serverError
        | .ok trackBatch =>
            if trackBatch.vectors.length = 0 then .flushed (.empty track)
            else
              let dim := (trackBatch.vectors.headD []).length
              match computeLatentDrift libraries (demoBaseline libraries dim) trackBatch.vectors
                track (15 / 100 : ℚ) "mmd" (min 5 dim : ℕ) with
              | .error _ => .serverError
              | .ok result => .flushed ⟨result.driftScore, result.driftDetected,
                  result.metricUsed, result.track, result.nSamplesBaseline,
                  result.nSamplesCurrent, result.threshold⟩

/-- A handler awaits nothing, so that requests are served one after another. -/
def serve (buffer : StreamingDriftBuffer ℝ random.Rng) :
    StreamRequest → StreamingDriftBuffer ℝ random.Rng × StreamReply
  | .ingest vector track => streamIngest random buffer vector track
  | .flush => (buffer, streamFlush libraries buffer)

/-- The buffer after some requests. -/
def served (start : StreamingDriftBuffer ℝ random.Rng) (requests : List StreamRequest) :
    StreamingDriftBuffer ℝ random.Rng :=
  requests.foldl (fun buffer request => (serve libraries random buffer request).1) start

end

section Sampled

variable {V : Type} {size : Nat} {given held joined : List (List V)} {vector : List V}

/-- A track of some size that was given these vectors. -/
structure Sampled (size : Nat) (given held : List (List V)) : Prop where
  length : held.length = min size given.length
  known : ∀ vector ∈ held, vector ∈ given
  whole : given.length ≤ size → held = given

theorem accept_sampled {random : RandomState} {strategy : SampleStrategy} {rng left : random.Rng}
    (sampled : Sampled size given held)
    (accepted : accept random strategy size rng held vector = .ok (joined, left)) :
    Sampled size (given ++ [vector]) joined := by
  have length := sampled.length
  unfold accept at accepted
  split_ifs at accepted with room
  · obtain ⟨rfl, -⟩ := Prod.mk.inj (Except.ok.inj accepted)
    have fits : given.length < size := by omega
    rw [sampled.whole fits.le]
    exact ⟨by rw [List.length_append, List.length_singleton]; omega, fun _ => id, fun _ => rfl⟩
  · have full : size ≤ given.length := by omega
    have beyond : ¬ (given ++ [vector]).length ≤ size := by
      rw [List.length_append, List.length_singleton]
      omega
    cases held with
    | nil => cases strategy <;> cases accepted
    | cons first rest =>
        have old : ∀ other ∈ first :: rest, other ∈ given ++ [vector] :=
          fun other inside => List.mem_append_left _ (sampled.known other inside)
        have new : vector ∈ given ++ [vector] := List.mem_append_right _ List.mem_cons_self
        rw [List.length_cons] at length
        cases strategy with
        | reservoir =>
            obtain ⟨rfl, -⟩ := Prod.mk.inj (Except.ok.inj accepted)
            refine ⟨?_, ?_, fun short => absurd short beyond⟩
            · rw [List.length_set, List.length_append, List.length_singleton, List.length_cons]
              omega
            · intro other inside
              rcases List.mem_or_eq_of_mem_set inside with there | rfl
              · exact old other there
              · exact new
        | fifo =>
            obtain ⟨rfl, -⟩ := Prod.mk.inj (Except.ok.inj accepted)
            refine ⟨?_, ?_, fun short => absurd short beyond⟩
            · rw [List.length_append, List.length_append, List.length_singleton]
              omega
            · intro other inside
              rcases List.mem_append.mp inside with there | here
              · exact old other (List.mem_cons_of_mem first there)
              · rw [List.mem_singleton.mp here]
                exact new

end Sampled

/-- What the requests gave a track. -/
def ingestedInto (track : String) (requests : List StreamRequest) : List (List ℝ) :=
  requests.filterMap fun
    | .ingest vector name => if name = track then some vector else none
    | .flush => none

variable {libraries : Libraries} {random : RandomState}
  {start buffer : StreamingDriftBuffer ℝ random.Rng} {requests : List StreamRequest}

/-- The buffer has taken these requests. -/
structure Follows (requests : List StreamRequest) (buffer : StreamingDriftBuffer ℝ random.Rng) :
    Prop where
  capacity : buffer.capacity = 1000
  sampled : ∀ track ∈ streamTracks,
    Sampled 500 (ingestedInto track requests) (buffer.track track)

theorem ingestedInto_concat (track : String) (requests : List StreamRequest)
    (request : StreamRequest) :
    ingestedInto track (requests ++ [request]) =
      ingestedInto track requests ++ ingestedInto track [request] :=
  List.filterMap_append

theorem Follows.share (follows : Follows requests buffer) : buffer.perTrackCapacity = 500 := by
  rw [StreamingDriftBuffer.perTrackCapacity, follows.capacity]

theorem new_follows (made : StreamingDriftBuffer.new random 1000 "reservoir" = .ok start) :
    Follows [] start := by
  obtain ⟨_, capacity, _, empty⟩ := new_cases made
  refine ⟨capacity, fun track _ => ?_⟩
  rw [empty track]
  exact ⟨rfl, fun _ => id, fun _ => rfl⟩

/-- A request that names another track leaves a track as it was. -/
theorem ingestedInto_other {track name : String} (other : name ≠ track) (vector : List ℝ) :
    ingestedInto name (requests ++ [.ingest vector track]) = ingestedInto name requests := by
  rw [ingestedInto_concat]
  simp [ingestedInto, Ne.symm other]

/-- An accepted vector joins its track. -/
theorem streamIngest_follows (follows : Follows requests buffer) (vector : List ℝ) {track : String}
    (valid : track ∈ streamTracks) :
    ∃ next, streamIngest random buffer vector track = (next, .ingested
        ⟨true, track, min 500 ((ingestedInto track requests).length + 1),
          50 ≤ (ingestedInto track requests).length + 1⟩) ∧
      Follows (requests ++ [.ingest vector track]) next := by
  have positive : 1 ≤ buffer.perTrackCapacity := by rw [follows.share]; omega
  obtain ⟨next, stepped⟩ := step_returns positive (.ingest vector track)
  have ran := Exceptions.toOption_some_iff.mp stepped
  obtain ⟨rng, accepted⟩ := ingest_track ran
  rw [follows.share] at accepted
  have given : ingestedInto track (requests ++ [.ingest vector track]) =
      ingestedInto track requests ++ [vector] := by
    rw [ingestedInto_concat]
    simp [ingestedInto]
  have joined : Sampled 500 (ingestedInto track (requests ++ [.ingest vector track]))
      (next.track track) := by
    rw [given]
    exact accept_sampled (follows.sampled track valid) accepted
  refine ⟨next, ?_, (step_params stepped).1.trans follows.capacity, ?_⟩
  · have size := joined.length
    rw [given, List.length_append, List.length_singleton] at size
    have ready : 50 ≤ min 500 ((ingestedInto track requests).length + 1) ↔
        50 ≤ (ingestedInto track requests).length + 1 := by omega
    rw [streamIngest, if_pos valid, ran]
    simp only [size, ready]
  · intro name known
    by_cases here : name = track
    · subst here
      exact joined
    · rw [ingestedInto_other here, ingest_other ran here]
      exact follows.sampled name known

theorem serve_follows (follows : Follows requests buffer) (request : StreamRequest) :
    Follows (requests ++ [request]) (serve libraries random buffer request).1 := by
  cases request with
  | flush =>
      refine ⟨follows.capacity, fun track valid => ?_⟩
      have none : ingestedInto track [.flush] = [] := rfl
      rw [ingestedInto_concat, none, List.append_nil]
      exact follows.sampled track valid
  | ingest vector track =>
      by_cases valid : track ∈ streamTracks
      · obtain ⟨next, ran, later⟩ := streamIngest_follows follows vector valid
        rw [serve, ran]
        exact later
      · have refused : streamIngest random buffer vector track = (buffer, .unprocessable) :=
          if_neg valid
        rw [serve, refused]
        refine ⟨follows.capacity, fun name known => ?_⟩
        have other : name ≠ track := by
          rintro rfl
          exact valid known
        rw [ingestedInto_other other]
        exact follows.sampled name known

theorem served_follows (made : StreamingDriftBuffer.new random 1000 "reservoir" = .ok start)
    (requests : List StreamRequest) :
    Follows requests (served libraries random start requests) := by
  induction requests using List.reverseRecOn with
  | nil => exact new_follows made
  | append_singleton before request ih =>
      rw [served, List.foldl_append]
      exact serve_follows ih request

/-- All vectors have the same number of entries, and at least one. -/
def Uniform (dim : Nat) (vectors : List (List ℝ)) : Prop :=
  0 < dim ∧ ∀ vector ∈ vectors, vector.length = dim

/-- The response for a score of a track. -/
noncomputable def StreamFlushResponse.scored (score : ℝ) (track : String) (nSamplesCurrent : Nat) :
    StreamFlushResponse :=
  ⟨score, score > (15 / 100 : ℚ), "mmd", track, 100, nSamplesCurrent, (15 / 100 : ℚ)⟩

theorem demoBaseline_length (libraries : Libraries) (dim : Nat) :
    (demoBaseline libraries dim).length = 100 :=
  List.length_ofFn

theorem demoBaseline_uniform (libraries : Libraries) (dim : Nat) :
    demoBaseline libraries dim ≠ [] ∧ ∀ row ∈ demoBaseline libraries dim, row.length = dim := by
  constructor
  · exact List.ne_nil_of_length_pos (by rw [demoBaseline_length]; omega)
  · intro row inside
    obtain ⟨index, rfl⟩ := List.mem_ofFn.mp inside
    exact List.length_ofFn

/-- Rows of one length are scored, with a score between 0 and 1. -/
theorem computeLatentDrift_mmd (libraries : Libraries) {rows current : List (List ℝ)}
    {dim : Nat} (filled : rows ≠ []) (uniform : Uniform dim rows) (some : current ≠ [])
    (fits : ∀ vector ∈ current, vector.length = dim) (track : String) (threshold : ℝ)
    (pcaComponents : Int) :
    ∃ score, InRange score ∧ ∃ metadata, computeLatentDrift libraries rows current track threshold
      "mmd" pcaComponents = .ok ⟨score, score > threshold, threshold, rows.length, current.length,
        "mmd", track, [], metadata⟩ := by
  have head : (rows.headD []).length = dim := by
    obtain ⟨first, rest, rfl⟩ := List.exists_cons_of_ne_nil filled
    exact uniform.2 first List.mem_cons_self
  have accepts : ∀ vectors : List (List ℝ), vectors ≠ [] →
      (∀ vector ∈ vectors, vector.length = dim) →
      (fittedPca libraries rows pcaComponents).Accepts vectors := by
    intro vectors nonempty lengths
    refine ⟨nonempty, ?_, ?_⟩
    · change 0 < (rows.headD []).length
      rw [head]
      exact uniform.1
    · intro vector inside
      exact (lengths vector inside).trans head.symm
  let pca := fittedPca libraries rows pcaComponents
  let base : Baseline := ⟨pca, rows.map pca.transform, none⟩
  have made : LatentDriftEngine.new threshold "mmd" 1000 none =
      .ok ⟨threshold, "mmd", 1000, none, none⟩ := if_pos (by decide)
  have fitted : fitBaseline libraries "mmd" pcaComponents rows = .ok base :=
    fitBaseline_plain (by decide) (accepts rows filled uniform.2)
  have scored : (base.fitted libraries "mmd").computeMetric current =
      .ok (kernelDistance (rows.map pca.transform) (current.map pca.transform) none) :=
    bind_ok_iff.mpr ⟨_, projectVectors_ok_iff.mpr ⟨accepts current some fits, rfl⟩,
      computeMetric_mmd none (rows.map pca.transform) (current.map pca.transform)⟩
  have range : InRange (kernelDistance (rows.map pca.transform) (current.map pca.transform) none) :=
    clip01_inRange _
  have length : base.proj.length = rows.length := List.length_map _
  have engine : LatentDriftEngine.fit libraries ⟨threshold, "mmd", 1000, none, none⟩ pcaComponents
      rows = .ok ⟨threshold, "mmd", 1000, none, base.fitted libraries "mmd"⟩ :=
    bind_ok_iff.mpr ⟨base, fitted, rfl⟩
  rw [← length]
  exact ⟨_, range, _, bind_ok_iff.mpr ⟨_, made, bind_ok_iff.mpr ⟨_, engine,
    bind_ok_iff.mpr ⟨_, bind_ok_iff.mpr ⟨_, scored, rfl⟩, rfl⟩⟩⟩⟩

/-- Rows without entries are refused. -/
theorem computeLatentDrift_empty (libraries : Libraries) {rows : List (List ℝ)}
    (bare : (rows.headD []).length = 0) (current : List (List ℝ)) (track : String) (threshold : ℝ)
    (pcaComponents : Int) : computeLatentDrift libraries rows current track threshold "mmd"
      pcaComponents = .error .valueError := by
  have refused : checkArray rows (rows.headD []).length = .error .valueError := by
    refine if_neg fun fine => ?_
    rw [bare] at fine
    exact Nat.lt_irrefl 0 fine.2.1
  have pca : fitPca libraries rows pcaComponents = .error .valueError := by
    rw [fitPca]
    simp only [refused]
    rfl
  have made : LatentDriftEngine.new threshold "mmd" 1000 none =
      .ok ⟨threshold, "mmd", 1000, none, none⟩ := if_pos (by decide)
  rw [computeLatentDrift, made]
  simp only [bind, Except.bind, LatentDriftEngine.fit, fitBaseline, pca]

section Flushes

variable {Rng : Type} {buffer : StreamingDriftBuffer ℝ Rng}

theorem flushed_eq (buffer : StreamingDriftBuffer ℝ Rng) :
    flushed buffer = buffer.track "retrieval" ++ buffer.track "generation" := by
  simp [flushed]

theorem flushedTrack_mem (buffer : StreamingDriftBuffer ℝ Rng) :
    flushedTrack buffer ∈ streamTracks := by
  rw [flushedTrack]
  split <;> simp [streamTracks]

/-- The track that is scored is empty only where both are. -/
theorem flushedTrack_ne_nil (some : flushed buffer ≠ []) :
    buffer.track (flushedTrack buffer) ≠ [] := by
  intro none
  apply some
  rw [flushed_eq]
  rw [flushedTrack] at none
  split at none
  case isTrue longer =>
    rw [none] at longer
    cases longer
  case isFalse shorter =>
    rw [none, List.length_nil, Nat.not_lt, Nat.le_zero, List.length_eq_zero_iff] at shorter
    rw [none, shorter, List.append_nil]

theorem mem_flushed {track : String} (known : track ∈ streamTracks) {vector : List ℝ}
    (inside : vector ∈ buffer.track track) : vector ∈ flushed buffer :=
  List.mem_flatMap.mpr ⟨track, known, inside⟩

theorem streamFlush_empty (none : flushed buffer = []) :
    streamFlush libraries buffer = .flushed (.empty "retrieval") := by
  have batch : buffer.flushBatch = .ok ⟨[]⟩ :=
    flushBatch_ok_iff.mpr ⟨by rw [none]; exact fun _ inside => absurd inside List.not_mem_nil,
      by rw [none]⟩
  rw [streamFlush, batch]
  rfl

/-- The arrays of a flush, for vectors of one length. -/
theorem flush_batches (some : flushed buffer ≠ []) (same : SameLength (flushed buffer)) :
    buffer.flushBatch = .ok ⟨flushed buffer⟩ ∧
      buffer.flushTrack (flushedTrack buffer) = .ok ⟨buffer.track (flushedTrack buffer)⟩ := by
  refine ⟨flushBatch_ok_iff.mpr ⟨same, rfl⟩, ?_⟩
  have filled := flushedTrack_ne_nil some
  have inside : SameLength (buffer.track (flushedTrack buffer)) :=
    fun first left second right => same first (mem_flushed (flushedTrack_mem buffer) left) second
      (mem_flushed (flushedTrack_mem buffer) right)
  rw [StreamingDriftBuffer.flushTrack, if_neg filled, (vstack_ok_iff filled).mpr ⟨inside, rfl⟩]
  rfl

/-- Vectors of one length are scored, those of the longer track alone. -/
theorem streamFlush_uniform (libraries : Libraries) {dim : Nat} (some : flushed buffer ≠ [])
    (uniform : Uniform dim (flushed buffer)) :
    ∃ score, InRange score ∧ streamFlush libraries buffer = .flushed (.scored score
      (flushedTrack buffer) (buffer.track (flushedTrack buffer)).length) := by
  have same : SameLength (flushed buffer) := fun first left second right =>
    (uniform.2 first left).trans (uniform.2 second right).symm
  obtain ⟨batch, trackBatch⟩ := flush_batches some same
  have filled := flushedTrack_ne_nil some
  have lengths : ∀ vector ∈ buffer.track (flushedTrack buffer), vector.length = dim :=
    fun vector inside => uniform.2 vector (mem_flushed (flushedTrack_mem buffer) inside)
  have head : ((buffer.track (flushedTrack buffer)).headD []).length = dim := by
    obtain ⟨first, rest, split⟩ := List.exists_cons_of_ne_nil filled
    rw [split] at lengths ⊢
    exact lengths first List.mem_cons_self
  obtain ⟨full, rows⟩ := demoBaseline_uniform libraries dim
  obtain ⟨score, range, metadata, result⟩ := computeLatentDrift_mmd libraries full
    ⟨uniform.1, rows⟩ filled lengths (flushedTrack buffer) (15 / 100 : ℚ) (min 5 dim : ℕ)
  refine ⟨score, range, ?_⟩
  rw [streamFlush, batch]
  simp only [trackBatch, head, result, List.length_eq_zero_iff, some, filled, if_false]
  rw [StreamFlushResponse.scored, demoBaseline_length]

/-- Vectors of different lengths, or without entries, make a flush raise. -/
theorem streamFlush_mixed (mixed : ∀ dim, ¬ Uniform dim (flushed buffer)) :
    streamFlush libraries buffer = .serverError := by
  have some : flushed buffer ≠ [] := by
    intro none
    refine mixed 1 ⟨Nat.one_pos, fun vector inside => ?_⟩
    rw [none] at inside
    cases inside
  rw [streamFlush]
  by_cases same : SameLength (flushed buffer)
  · obtain ⟨batch, trackBatch⟩ := flush_batches some same
    have filled := flushedTrack_ne_nil some
    obtain ⟨first, rest, split⟩ := List.exists_cons_of_ne_nil filled
    have there : first ∈ flushed buffer :=
      mem_flushed (flushedTrack_mem buffer) (split ▸ List.mem_cons_self)
    have none : first.length = 0 := by
      by_contra positive
      exact mixed first.length
        ⟨Nat.pos_of_ne_zero positive, fun vector inside => same vector inside first there⟩
    have head : ((buffer.track (flushedTrack buffer)).headD []).length = 0 := by
      rw [split]
      exact none
    have width : ((demoBaseline libraries 0).headD []).length = 0 := by
      obtain ⟨full, rows⟩ := demoBaseline_uniform libraries 0
      obtain ⟨row, others, made⟩ := List.exists_cons_of_ne_nil full
      rw [made] at rows ⊢
      exact rows row List.mem_cons_self
    rw [batch]
    simp only [trackBatch, head, computeLatentDrift_empty libraries width,
      List.length_eq_zero_iff, some, filled, if_false]
  · cases batch : buffer.flushBatch with
    | error reason => rfl
    | ok found => exact absurd (flushBatch_ok_iff.mp batch).1 same

end Flushes

/-- What a request is answered after others. -/
noncomputable def reply (libraries : Libraries) (random : RandomState)
    (start : StreamingDriftBuffer ℝ random.Rng) (before : List StreamRequest)
    (request : StreamRequest) : StreamReply :=
  (serve libraries random (served libraries random start before) request).2

/-- The track with more vectors, of which the buffer holds at most 500. -/
def longerTrack (requests : List StreamRequest) : String :=
  if min 500 (ingestedInto "retrieval" requests).length <
    min 500 (ingestedInto "generation" requests).length then "generation" else "retrieval"

theorem Follows.flushedTrack (follows : Follows requests buffer) :
    flushedTrack buffer = longerTrack requests := by
  have retrieval := (follows.sampled "retrieval" (by simp [streamTracks])).length
  have generation := (follows.sampled "generation" (by simp [streamTracks])).length
  rw [Api.flushedTrack, longerTrack, retrieval, generation]

theorem Follows.mem_flushed (follows : Follows requests buffer) {vector : List ℝ}
    (inside : vector ∈ flushed buffer) :
    ∃ track ∈ streamTracks, vector ∈ ingestedInto track requests := by
  obtain ⟨track, known, here⟩ := List.mem_flatMap.mp inside
  exact ⟨track, known, (follows.sampled track known).known vector here⟩

theorem Follows.flushed_eq_nil_iff (follows : Follows requests buffer) :
    flushed buffer = [] ↔ ∀ track ∈ streamTracks, ingestedInto track requests = [] := by
  rw [flushed, List.flatMap_eq_nil_iff]
  refine forall₂_congr fun track known => ?_
  have length := (follows.sampled track known).length
  rw [← List.length_eq_zero_iff, ← List.length_eq_zero_iff, length]
  omega

/-- However many requests were served before, nothing is ever taken out of the buffer: an accepted
vector is counted for its track, a flush scores the longer track, and as long as no vector was
overwritten, one vector of another length makes every later flush fail. -/
theorem stream_replies (made : StreamingDriftBuffer.new random 1000 "reservoir" = .ok start)
    (before : List StreamRequest) :
    (∀ vector, ∀ track ∈ streamTracks, reply libraries random start before
        (.ingest vector track) = .ingested ⟨true, track,
          min 500 ((ingestedInto track before).length + 1),
          50 ≤ (ingestedInto track before).length + 1⟩) ∧
      ((∀ track ∈ streamTracks, ingestedInto track before = []) →
        reply libraries random start before .flush = .flushed (.empty "retrieval")) ∧
      (∀ dim, (∀ track ∈ streamTracks, Uniform dim (ingestedInto track before)) →
        (∃ track ∈ streamTracks, ingestedInto track before ≠ []) →
          ∃ score, InRange score ∧ reply libraries random start before .flush =
            .flushed (.scored score (longerTrack before)
              (min 500 (ingestedInto (longerTrack before) before).length))) ∧
      ((∀ track ∈ streamTracks, (ingestedInto track before).length ≤ 500) →
        (∀ dim, ∃ track ∈ streamTracks, ¬ Uniform dim (ingestedInto track before)) →
          reply libraries random start before .flush = .serverError) := by
  have follows : Follows before (served libraries random start before) :=
    served_follows made before
  refine ⟨?_, ?_, ?_, ?_⟩
  · intro vector track valid
    obtain ⟨next, ran, _⟩ := streamIngest_follows follows vector valid
    rw [reply, serve, ran]
  · intro empty
    exact streamFlush_empty (follows.flushed_eq_nil_iff.mpr empty)
  · rintro dim uniform ⟨track, known, given⟩
    have some : flushed (served libraries random start before) ≠ [] := fun none =>
      given (follows.flushed_eq_nil_iff.mp none track known)
    have all : Uniform dim (flushed (served libraries random start before)) := by
      refine ⟨(uniform track known).1, fun vector inside => ?_⟩
      obtain ⟨other, there, source⟩ := follows.mem_flushed inside
      exact (uniform other there).2 vector source
    obtain ⟨score, range, flush⟩ := streamFlush_uniform libraries some all
    have scored := flushedTrack_mem (served libraries random start before)
    rw [(follows.sampled _ scored).length, follows.flushedTrack] at flush
    exact ⟨score, range, flush⟩
  · intro few mixed
    apply streamFlush_mixed
    intro dim uniform
    obtain ⟨track, known, broken⟩ := mixed dim
    apply broken
    refine ⟨uniform.1, fun vector inside => uniform.2 vector ?_⟩
    rw [← (follows.sampled track known).whole (few track known)] at inside
    exact mem_flushed known inside

/-- Two vectors of different lengths. -/
theorem stream_replies_mixed : ∃ start : StreamingDriftBuffer ℝ cycling.Rng,
    StreamingDriftBuffer.new cycling 1000 "reservoir" = .ok start ∧
      reply oneFeature cycling start [.ingest [0] "retrieval", .ingest [0, 1] "generation"]
        .flush = .serverError := by
  obtain ⟨start, made⟩ : ∃ start : StreamingDriftBuffer ℝ cycling.Rng,
      StreamingDriftBuffer.new cycling 1000 "reservoir" = .ok start := ⟨_, rfl⟩
  refine ⟨start, made, (stream_replies made _).2.2.2 ?_ ?_⟩
  · simp [streamTracks, ingestedInto]
  · intro dim
    by_cases one : dim = 1
    · refine ⟨"generation", by simp [streamTracks], fun uniform => ?_⟩
      have length := uniform.2 [0, 1] (by simp [ingestedInto])
      rw [one] at length
      cases length
    · refine ⟨"retrieval", by simp [streamTracks], fun uniform => ?_⟩
      exact one (uniform.2 [0] (by simp [ingestedInto])).symm

end RagDrift.Api
