import RagDrift.LatentDrift.Tracks
import RagDrift.Transition.Runs

set_option autoImplicit false

/- When a buffer that counts as ready can be flushed: while vectors of one length are ingested
into the two tracks a flush reads. -/
namespace RagDrift.LatentDrift

open Collections (Buckets bucket contents contents_perm mem_contents)
open Json (setMember eraseMember)
open StreamingDriftBuffer
open Transition (run Meets run_cons)

variable {V Rng : Type}

/-- The vectors of all tracks, which the counters count. -/
def held (buffer : StreamingDriftBuffer V Rng) : List (List V) := contents buffer.tracks

/-- The vectors a flush reads. -/
def flushed (buffer : StreamingDriftBuffer V Rng) : List (List V) :=
  ["retrieval", "generation"].flatMap buffer.track

/-- The vectors no flush reads. -/
def unread (buffer : StreamingDriftBuffer V Rng) : List (List V) :=
  contents (eraseMember "generation" (eraseMember "retrieval" buffer.tracks))

def SameLength (rows : List (List V)) : Prop :=
  ∀ first ∈ rows, ∀ second ∈ rows, first.length = second.length

theorem foldl_sizes (tracks : Buckets (List V)) (start : Nat) :
    tracks.foldl (fun total entry => total + entry.2.length) start =
      start + (contents tracks).length := by
  induction tracks generalizing start with
  | nil => rfl
  | cons entry rest ih =>
      have parts : (contents (entry :: rest)).length =
          entry.2.length + (contents rest).length := List.length_append
      rw [List.foldl_cons, ih, parts, Nat.add_assoc]

theorem totalSize_eq (buffer : StreamingDriftBuffer V Rng) :
    buffer.totalSize = (held buffer).length := by
  rw [totalSize, foldl_sizes, Nat.zero_add, held]

theorem held_perm (buffer : StreamingDriftBuffer V Rng) :
    (held buffer).Perm (flushed buffer ++ unread buffer) := by
  have first := contents_perm buffer.distinct "retrieval"
  have second := contents_perm (Collections.nodup_eraseMember buffer.distinct "retrieval")
    "generation"
  rw [Collections.bucket_eraseMember, if_neg (by decide)] at second
  have both := first.trans (second.append_left _)
  rw [← List.append_assoc] at both
  simpa [held, flushed, unread, track] using both

theorem mem_held {buffer : StreamingDriftBuffer V Rng} {vector : List V} :
    vector ∈ held buffer ↔ ∃ name, vector ∈ buffer.track name :=
  mem_contents buffer.distinct

theorem mem_unread {buffer : StreamingDriftBuffer V Rng} {vector : List V} :
    vector ∈ unread buffer ↔
      ∃ name, name ≠ "retrieval" ∧ name ≠ "generation" ∧ vector ∈ buffer.track name := by
  rw [unread, mem_contents (Collections.nodup_eraseMember
    (Collections.nodup_eraseMember buffer.distinct "retrieval") "generation")]
  simp only [Collections.bucket_eraseMember]
  constructor
  · rintro ⟨name, inside⟩
    split_ifs at inside with generation retrieval
    · cases inside
    · cases inside
    · exact ⟨name, retrieval, generation, inside⟩
  · rintro ⟨name, retrieval, generation, inside⟩
    refine ⟨name, ?_⟩
    rw [if_neg generation, if_neg retrieval]
    exact inside

theorem unread_eq_nil_iff {buffer : StreamingDriftBuffer V Rng} :
    unread buffer = [] ↔
      ∀ name, name ≠ "retrieval" → name ≠ "generation" → buffer.track name = [] := by
  simp only [List.eq_nil_iff_forall_not_mem, mem_unread]
  constructor
  · intro none name retrieval generation vector here
    exact none vector ⟨name, retrieval, generation, here⟩
  · rintro none vector ⟨name, retrieval, generation, here⟩
    exact none name retrieval generation vector here

theorem vstack_ok_iff {rows : List (List V)} (some : rows ≠ []) {stacked : List (List V)} :
    vstack rows = .ok stacked ↔ SameLength rows ∧ stacked = rows := by
  cases rows with
  | nil => exact absurd rfl some
  | cons first rest =>
      rw [vstack, if_neg some]
      constructor
      · intro ran
        split_ifs at ran with uniform
        cases ran
        refine ⟨?_, rfl⟩
        intro left inLeft right inRight
        exact (uniform left inLeft).trans (uniform right inRight).symm
      · rintro ⟨same, rfl⟩
        rw [if_pos]
        intro row inside
        exact same row inside first List.mem_cons_self

/-- A flush returns where the vectors it reads have one length. -/
theorem flushBatch_ok_iff {buffer : StreamingDriftBuffer V Rng} {batch : EmbeddingBatch V} :
    buffer.flushBatch = .ok batch ↔ SameLength (flushed buffer) ∧ batch = ⟨flushed buffer⟩ := by
  show (if flushed buffer = [] then _ else _) = _ ↔ _
  by_cases none : flushed buffer = []
  · rw [if_pos none, none]
    constructor
    · intro ran
      cases ran
      exact ⟨fun _ inside => absurd inside List.not_mem_nil, rfl⟩
    · rintro ⟨_, rfl⟩
      rfl
  · rw [if_neg none, Exceptions.map_ok_iff]
    constructor
    · rintro ⟨rows, ran, rfl⟩
      obtain ⟨same, rfl⟩ := (vstack_ok_iff none).mp ran
      exact ⟨same, rfl⟩
    · rintro ⟨same, rfl⟩
      exact ⟨_, (vstack_ok_iff none).mpr ⟨same, rfl⟩, rfl⟩

/-- The buffer is within its capacity, and a flush returns all it holds once it is ready. -/
def FlushesWhenReady (buffer : StreamingDriftBuffer V Rng) : Prop :=
  buffer.totalSize ≤ buffer.capacity ∧
    ∀ minSamples : Int, 1 ≤ minSamples → buffer.isReady minSamples →
      ∃ batch, buffer.flushBatch = .ok batch ∧ batch.vectors.length = buffer.totalSize

theorem flushesWhenReady_iff (buffer : StreamingDriftBuffer V Rng) :
    FlushesWhenReady buffer ↔ (held buffer).length ≤ buffer.capacity ∧
      (held buffer ≠ [] → unread buffer = [] ∧ SameLength (flushed buffer)) := by
  have counted := (held_perm buffer).length_eq
  rw [List.length_append] at counted
  rw [FlushesWhenReady, totalSize_eq]
  apply and_congr_right
  intro _
  constructor
  · intro flushes some
    have ready : buffer.isReady 1 := by
      rw [isReady, totalSize_eq]
      have := List.length_pos_iff.mpr some
      omega
    obtain ⟨batch, ran, rows⟩ := flushes 1 (le_refl 1) ready
    obtain ⟨same, rfl⟩ := flushBatch_ok_iff.mp ran
    refine ⟨List.length_eq_zero_iff.mp ?_, same⟩
    have : (flushed buffer).length = (held buffer).length := rows
    omega
  · intro fine minSamples positive ready
    have some : held buffer ≠ [] := by
      rw [isReady, totalSize_eq] at ready
      apply List.length_pos_iff.mp
      omega
    obtain ⟨none, same⟩ := fine some
    refine ⟨⟨flushed buffer⟩, flushBatch_ok_iff.mpr ⟨same, rfl⟩, ?_⟩
    rw [none, List.length_nil] at counted
    show (flushed buffer).length = (held buffer).length
    omega

/-- What stays of a track's list when the next vector is accepted. -/
def staying (random : RandomState) (strategy : SampleStrategy) (perTrackCapacity : Nat)
    (rng : random.Rng) (buf : List (List V)) : List (List V) :=
  if buf.length < perTrackCapacity then buf
  else match strategy with
    | .reservoir => buf.eraseIdx (random.randint rng buf.length).1
    | .fifo => buf.tail

/-- What stays in the buffer when the next vector is ingested into a track. -/
def kept (random : RandomState) (buffer : StreamingDriftBuffer V random.Rng) (track : String) :
    List (List V) :=
  staying random buffer.sampleStrategy buffer.perTrackCapacity buffer.rng (buffer.track track) ++
    contents (eraseMember track buffer.tracks)

/-- The vector joins those that stay; a list only grows where there is room. -/
theorem accept_cases {random : RandomState} {strategy : SampleStrategy} {perTrackCapacity : Nat}
    {rng : random.Rng} {buf : List (List V)} {vector : List V}
    {accepted : List (List V) × random.Rng}
    (ran : accept random strategy perTrackCapacity rng buf vector = .ok accepted) :
    accepted.1.Perm (vector :: staying random strategy perTrackCapacity rng buf) ∧
      accepted.1.length ≤ max perTrackCapacity buf.length := by
  unfold accept at ran
  unfold staying
  split_ifs at ran ⊢ with room
  · cases ran
    refine ⟨List.perm_append_singleton _ _, ?_⟩
    rw [List.length_append, List.length_singleton]
    omega
  · cases strategy with
    | reservoir =>
        cases buf with
        | nil => cases ran
        | cons first rest =>
            cases ran
            have drawn := random.randint_lt rng (first :: rest).length (Nat.succ_pos _)
            refine ⟨List.set_perm_cons_eraseIdx drawn vector, ?_⟩
            rw [List.length_set]
            exact Nat.le_max_right _ _
    | fifo =>
        cases buf with
        | nil => cases ran
        | cons first rest =>
            cases ran
            refine ⟨List.perm_append_singleton _ _, ?_⟩
            rw [List.length_append, List.length_singleton, List.length_cons]
            exact Nat.le_max_right _ _

section Ingested

variable {random : RandomState} {buffer next : StreamingDriftBuffer V random.Rng}
  {vector : List V} {track : String}

theorem ingest_length (ran : buffer.ingest random vector track = .ok next) :
    (next.track track).length ≤ max buffer.perTrackCapacity (buffer.track track).length := by
  obtain ⟨accepted, joined, rfl⟩ := Exceptions.map_ok_iff.mp ran
  have same := (track_setTrack buffer track accepted.1 track).trans (if_pos rfl)
  calc ((buffer.setTrack track accepted.1).track track).length = accepted.1.length := by rw [same]
    _ ≤ max buffer.perTrackCapacity (buffer.track track).length := (accept_cases joined).2

/-- The track holds the vector, and all tracks together the vector and what stays. -/
theorem ingest_held (ran : buffer.ingest random vector track = .ok next) :
    vector ∈ next.track track ∧ (held next).Perm (vector :: kept random buffer track) := by
  obtain ⟨accepted, joined, rfl⟩ := Exceptions.map_ok_iff.mp ran
  have added := (accept_cases joined).1
  have same := (track_setTrack buffer track accepted.1 track).trans (if_pos rfl)
  constructor
  · show vector ∈ (buffer.setTrack track accepted.1).track track
    rw [same]
    exact added.mem_iff.mpr List.mem_cons_self
  · exact (Collections.contents_setMember buffer.distinct track accepted.1).trans
      (added.append_right _)

end Ingested

/-- No track holds more than its share. -/
def Bounded (buffer : StreamingDriftBuffer V Rng) : Prop :=
  ∀ name, (buffer.track name).length ≤ buffer.perTrackCapacity

theorem new_bounded {random : RandomState} {capacity : Int} {sampleStrategy : String}
    {start : StreamingDriftBuffer V random.Rng}
    (made : StreamingDriftBuffer.new random capacity sampleStrategy = .ok start) :
    Bounded start := by
  intro name
  rw [(new_cases made).2.2.2 name]
  exact Nat.zero_le _

theorem step_bounded {random : RandomState} {buffer next : StreamingDriftBuffer V random.Rng}
    {call : Call V} (bounded : Bounded buffer) (stepped : step random buffer call = some next) :
    Bounded next := by
  intro name
  rw [perTrackCapacity, (step_params stepped).1]
  cases call with
  | ingest vector track =>
      have ran := Exceptions.toOption_some_iff.mp stepped
      by_cases here : name = track
      · rw [here]
        exact (ingest_length ran).trans (max_le (le_refl _) (bounded track))
      · rw [ingest_other ran here]
        exact bounded name
  | clear =>
      cases stepped
      rw [track_clear]
      exact Nat.zero_le _
  | clearTrack track =>
      cases stepped
      rw [track_clearTrack]
      split
      · exact Nat.zero_le _
      · exact bounded name

/-- A vector is ingested into a track that is flushed, at the length of all that stay. -/
def Fits (random : RandomState) (buffer : StreamingDriftBuffer V random.Rng) : Call V → Prop
  | .ingest vector track => (track = "retrieval" ∨ track = "generation") ∧
      ∀ other ∈ kept random buffer track, other.length = vector.length
  | .clear => True
  | .clearTrack _ => True

/-- What calls that fit keep. -/
structure Flushable (buffer : StreamingDriftBuffer V Rng) : Prop where
  bounded : ∀ name, (buffer.track name).length ≤ buffer.perTrackCapacity
  unread : unread buffer = []
  sameLength : SameLength (held buffer)

theorem Flushable.flushes {buffer : StreamingDriftBuffer V Rng} (fine : Flushable buffer) :
    FlushesWhenReady buffer := by
  have all := held_perm buffer
  rw [fine.unread, List.append_nil] at all
  rw [flushesWhenReady_iff]
  constructor
  · have retrieval := fine.bounded "retrieval"
    have generation := fine.bounded "generation"
    have counted : (flushed buffer).length =
        (buffer.track "retrieval").length + (buffer.track "generation").length := by
      simp [flushed]
    rw [all.length_eq, counted]
    rw [perTrackCapacity] at retrieval generation
    omega
  · intro _
    refine ⟨fine.unread, ?_⟩
    intro first inFirst second inSecond
    exact fine.sameLength first (all.mem_iff.mpr inFirst) second (all.mem_iff.mpr inSecond)

/-- Taking vectors away keeps a buffer flushable. -/
theorem Flushable.of_subset {buffer next : StreamingDriftBuffer V Rng} (fine : Flushable buffer)
    (bounded : Bounded next)
    (fewer : ∀ name, next.track name = buffer.track name ∨ next.track name = []) :
    Flushable next where
  bounded := bounded
  unread := by
    apply unread_eq_nil_iff.mpr
    intro name retrieval generation
    rcases fewer name with same | empty
    · rw [same]
      exact unread_eq_nil_iff.mp fine.unread name retrieval generation
    · exact empty
  sameLength := by
    have subset : ∀ vector ∈ held next, vector ∈ held buffer := by
      intro vector inside
      obtain ⟨name, here⟩ := mem_held.mp inside
      rcases fewer name with same | empty
      · exact mem_held.mpr ⟨name, same ▸ here⟩
      · rw [empty] at here
        cases here
    intro first inFirst second inSecond
    exact fine.sameLength first (subset first inFirst) second (subset second inSecond)

theorem ingest_flushable {random : RandomState} {buffer next : StreamingDriftBuffer V random.Rng}
    {vector : List V} {track : String} (fine : Flushable buffer)
    (fits : Fits random buffer (.ingest vector track))
    (ran : buffer.ingest random vector track = .ok next) (bounded : Bounded next) :
    Flushable next where
  bounded := bounded
  unread := by
    apply unread_eq_nil_iff.mpr
    intro name retrieval generation
    have elsewhere : name ≠ track := by
      rintro rfl
      exact fits.1.elim retrieval generation
    rw [ingest_other ran elsewhere]
    exact unread_eq_nil_iff.mp fine.unread name retrieval generation
  sameLength := by
    have each : ∀ other ∈ held next, other.length = vector.length := by
      intro other inside
      rcases List.mem_cons.mp ((ingest_held ran).2.mem_iff.mp inside) with rfl | stays
      · rfl
      · exact fits.2 other stays
    intro first inFirst second inSecond
    rw [each first inFirst, each second inSecond]

/-- A call that fits keeps the buffer flushable. -/
theorem step_flushable {random : RandomState} (buffer : StreamingDriftBuffer V random.Rng)
    (call : Call V) (next : StreamingDriftBuffer V random.Rng) (fine : Flushable buffer)
    (fits : Fits random buffer call) (stepped : step random buffer call = some next) :
    Flushable next := by
  have bounded := step_bounded fine.bounded stepped
  cases call with
  | ingest vector track =>
      exact ingest_flushable fine fits (Exceptions.toOption_some_iff.mp stepped) bounded
  | clear =>
      cases stepped
      exact fine.of_subset bounded fun name => .inr (track_clear buffer name)
  | clearTrack track =>
      cases stepped
      apply fine.of_subset bounded
      intro name
      rw [track_clearTrack]
      split
      · exact .inr rfl
      · exact .inl rfl

/-- Where the buffer is still flushed as it says after a call, the call fitted. -/
theorem fits_of_flushes {random : RandomState} {buffer next : StreamingDriftBuffer V random.Rng}
    {call : Call V} (stepped : step random buffer call = some next)
    (flushes : FlushesWhenReady next) : Fits random buffer call := by
  cases call with
  | clear => trivial
  | clearTrack track => trivial
  | ingest vector track =>
      obtain ⟨here, all⟩ := ingest_held (Exceptions.toOption_some_iff.mp stepped)
      have counted : vector ∈ held next := mem_held.mpr ⟨track, here⟩
      obtain ⟨none, same⟩ := ((flushesWhenReady_iff next).mp flushes).2 (List.ne_nil_of_mem counted)
      have read : ∀ other ∈ held next, other ∈ flushed next := by
        intro other inside
        have split := (held_perm next).mem_iff.mp inside
        rwa [none, List.append_nil] at split
      constructor
      · by_contra elsewhere
        rw [not_or] at elsewhere
        rw [unread_eq_nil_iff.mp none track elsewhere.1 elsewhere.2] at here
        cases here
      · intro other stays
        have inside : other ∈ held next := all.mem_iff.mpr (List.mem_cons_of_mem _ stays)
        exact same other (read other inside) vector (read vector counted)

theorem new_flushable {random : RandomState} {capacity : Int} {sampleStrategy : String}
    {start : StreamingDriftBuffer V random.Rng}
    (made : StreamingDriftBuffer.new random capacity sampleStrategy = .ok start) :
    Flushable start := by
  have empty := (new_cases made).2.2.2
  constructor
  · exact new_bounded made
  · apply unread_eq_nil_iff.mpr
    intro name _ _
    exact empty name
  · intro first inside
    obtain ⟨name, here⟩ := mem_held.mp inside
    rw [empty name] at here
    cases here

/-- A buffer is flushed as its counters say in every state of a run exactly when each vector
was ingested into one of the two tracks and had the length of those it joined. -/
theorem ready_flushes_iff (random : RandomState) {capacity : Int} (sampleStrategy : String)
    {start : StreamingDriftBuffer V random.Rng}
    (made : StreamingDriftBuffer.new random capacity sampleStrategy = .ok start)
    {calls : List (Call V)} {final : StreamingDriftBuffer V random.Rng}
    (ran : run (step random) start calls = some final) :
    (∀ front back buffer, calls = front ++ back → run (step random) start front = some buffer →
      FlushesWhenReady buffer) ↔ Meets (step random) (Fits random) start calls := by
  constructor
  · intro all
    apply Transition.meets_of_steps ran
    intro front call back buffer next split reached stepped
    have after : run (step random) start (front ++ [call]) = some next :=
      Transition.run_append reached (run_cons.mpr ⟨next, stepped, rfl⟩)
    apply fits_of_flushes stepped
    exact all (front ++ [call]) back next (by rw [split, List.append_assoc]; rfl) after
  · rintro meets front back buffer rfl reached
    exact (Transition.run_invariant_of_meets step_flushable (new_flushable made) meets.front
      reached).flushes

/-- Draws that go round. -/
def cycling : RandomState where
  Rng := Nat
  seeded := id
  randint rng high := (rng % high, rng + 1)
  randint_lt _ _ positive := Nat.mod_lt _ positive

def overflowing : List (Call Int) :=
  [.ingest [1, 0] "retrieval", .ingest [0, 1] "retrieval", .ingest [1, 1] "generation"]

theorem ready_flushes_iff_overflowing : ∃ start final,
    StreamingDriftBuffer.new cycling 2 "fifo" = .ok start ∧
    run (step cycling) start overflowing = some final ∧
    ((∀ front back buffer, overflowing = front ++ back →
        run (step cycling) start front = some buffer → FlushesWhenReady buffer) ↔
      Meets (step cycling) (Fits cycling) start overflowing) := by
  obtain ⟨start, final, made, ran⟩ : ∃ start final,
      StreamingDriftBuffer.new cycling 2 "fifo" = .ok start ∧
      run (step cycling) start overflowing = some final := ⟨_, _, rfl, rfl⟩
  exact ⟨start, final, made, ran, ready_flushes_iff cycling "fifo" made ran⟩

/-- A vector on a third track is counted and never flushed. -/
theorem ready_not_flushed : ¬ ∀ (random : RandomState) (capacity : Int) (sampleStrategy : String)
    (start : StreamingDriftBuffer Int random.Rng) (calls : List (Call Int))
    (final : StreamingDriftBuffer Int random.Rng), 2 ≤ capacity →
    StreamingDriftBuffer.new random capacity sampleStrategy = .ok start →
    run (step random) start calls = some final → FlushesWhenReady final := by
  intro all
  obtain ⟨start, next, made, stepped⟩ : ∃ start next : StreamingDriftBuffer Int cycling.Rng,
      StreamingDriftBuffer.new cycling 10 "reservoir" = .ok start ∧
      step cycling start (.ingest [1, 0] "unified") = some next := ⟨_, _, rfl, rfl⟩
  have flushes := all cycling 10 "reservoir" start [.ingest [1, 0] "unified"] next (by decide)
    made (run_cons.mpr ⟨next, stepped, rfl⟩)
  exact absurd (fits_of_flushes stepped flushes).1 (by decide)

end RagDrift.LatentDrift
