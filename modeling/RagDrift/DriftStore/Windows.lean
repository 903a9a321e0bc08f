import RagDrift.DriftStore.Table
import RagDrift.Ingestion.FrameCodec

set_option autoImplicit false

/- What windows of the drift store hold as the table grows: a full baseline does not move, and an
evaluation of stored frames that is run again and again narrows its own window. -/
namespace RagDrift.DriftStore

open Collections (SortedBy Fetched fetched_filter_iff copies copies_one copies_map copies_copies
  take_copies_take mem_of_mem_take_copies)
open Schemas (RAGEvaluationFrame)
open Transition (run run_cons run_invariant_of_meets meets_of_forall)

variable {P T N : Type} {codec : Codec P T N} {rows after : List (Row P T N)}

section Baseline

variable [LinearOrder T]

/-- All that the statement stores lies after a time, and it does not empty the table. -/
def Statement.Newer (bound : T) (statement : Statement T N) : Prop :=
  statement ≠ .clearHistory ∧ ∀ time ∈ statement.times, bound < time

/-- The rows up to a time. -/
def upTo (bound : T) (rows : List (Row P T N)) : List (Row P T N) :=
  rows.filter fun row => row.timestamp ≤ bound

theorem upTo_since (bound cutoff : T) (rows : List (Row P T N)) :
    upTo bound (since cutoff rows) = since cutoff (upTo bound rows) :=
  List.filter_comm _ _ _

variable [DecidableEq N] [Zero N] [One N]

theorem upTo_apply {bound : T} {statement : Statement T N} (newer : statement.Newer bound)
    (applied : codec.apply rows statement = some after) : upTo bound after = upTo bound rows := by
  obtain ⟨added, made, rfl⟩ := apply_appends newer.1 applied
  have none : upTo bound added = [] := by
    rw [upTo, List.filter_eq_nil_iff]
    intro row inside
    simpa using newer.2 _ (added_times made row inside)
  rw [upTo, List.filter_append]
  exact (congrArg (upTo bound rows ++ ·) none).trans (List.append_nil _)

theorem upTo_run {bound : T} {statements : List (Statement T N)}
    (newer : ∀ statement ∈ statements, statement.Newer bound)
    (ran : run codec.apply rows statements = some after) : upTo bound after = upTo bound rows := by
  have keeps : ∀ (state : List (Row P T N)) (statement : Statement T N) next,
      upTo bound state = upTo bound rows → statement.Newer bound →
      codec.apply state statement = some next → upTo bound next = upTo bound rows :=
    fun _ _ _ same newer applied => (upTo_apply newer applied).trans same
  exact run_invariant_of_meets keeps rfl (meets_of_forall newer) ran

/-- While a window holds `limit` rows up to some time, whatever is stored after that time never
gets into the sliding baseline: it holds the oldest rows of the window, not the latest. -/
theorem full_baseline_stays {cutoff bound : T} {limit : Nat}
    {statements : List (Statement T N)}
    (full : limit ≤ (upTo bound (since cutoff rows)).length)
    (newer : ∀ statement ∈ statements, statement.Newer bound)
    (ran : run codec.apply rows statements = some after) (frames : List (RAGEvaluationFrame T)) :
    codec.FramesByTimeWindow cutoff limit after frames ↔
      codec.FramesByTimeWindow cutoff limit rows frames := by
  have same : upTo bound (since cutoff after) = upTo bound (since cutoff rows) := by
    rw [upTo_since, upTo_since, upTo_run newer ran]
  have enough : limit ≤ (upTo bound (since cutoff after)).length := by rw [same]; exact full
  have fetched : ∀ taken, Fetched Row.timestamp limit (since cutoff after) taken ↔
      Fetched Row.timestamp limit (since cutoff rows) taken := by
    intro taken
    calc Fetched Row.timestamp limit (since cutoff after) taken
        ↔ Fetched Row.timestamp limit (upTo bound (since cutoff after)) taken :=
          (fetched_filter_iff enough).symm
      _ ↔ Fetched Row.timestamp limit (upTo bound (since cutoff rows)) taken := by rw [same]
      _ ↔ Fetched Row.timestamp limit (since cutoff rows) taken := fetched_filter_iff full
  simp only [Codec.FramesByTimeWindow, fetched]

end Baseline

/-- The frame is read again once it is stored. -/
def Codec.Reloads (codec : Codec P T N) (frame : RAGEvaluationFrame T) : Prop :=
  ∀ kept, codec.jsonb (codec.modelDumpJson frame) = some kept →
    codec.modelValidate kept = some frame

/-- Every row of a type holds a frame of that time and type, and a time has one frame. -/
structure Legible (codec : Codec P T N) (ragType : String) (rows : List (Row P T N)) : Prop where
  read : ∀ row ∈ ofType (some ragType) rows, ∃ frame,
    codec.modelValidate row.telemetryFrame = some frame ∧ frame.timestamp = row.timestamp ∧
      frame.metadata.ragType.text = ragType ∧ codec.Reloads frame
  one : ∀ first ∈ ofType (some ragType) rows, ∀ second ∈ ofType (some ragType) rows,
    first.timestamp = second.timestamp →
      codec.modelValidate first.telemetryFrame = codec.modelValidate second.telemetryFrame

/-- What a row is for a reader. -/
def Codec.seen (codec : Codec P T N) (row : Row P T N) : T × Option (RAGEvaluationFrame T) :=
  (row.timestamp, codec.modelValidate row.telemetryFrame)

theorem seen_of_legible {ragType : String} (legible : Legible codec ragType rows)
    {taken : List (Row P T N)} (inside : ∀ row ∈ taken, row ∈ ofType (some ragType) rows) :
    taken.map codec.seen = (codec.frames taken).map fun frame => (frame.timestamp, some frame) := by
  induction taken with
  | nil => rfl
  | cons row rest ih =>
      obtain ⟨frame, read, time, _⟩ := legible.read row (inside row List.mem_cons_self)
      have later := ih fun other there => inside other (List.mem_cons_of_mem _ there)
      have first : codec.frames (row :: rest) = frame :: codec.frames rest :=
        List.filterMap_cons_some read
      rw [List.map_cons, later, first, List.map_cons, Codec.seen, read, ← time]

/-- Rows that are read as rows of a legible table are read as them. -/
theorem Legible.of_seen {ragType : String} (legible : Legible codec ragType rows)
    (known : ∀ row ∈ ofType (some ragType) after,
      ∃ original ∈ ofType (some ragType) rows, codec.seen row = codec.seen original) :
    Legible codec ragType after where
  read row inside := by
    obtain ⟨original, there, same⟩ := known row inside
    obtain ⟨frame, read, time, kind⟩ := legible.read original there
    obtain ⟨times, reads⟩ := Prod.mk.inj same
    exact ⟨frame, reads.trans read, time.trans times.symm, kind⟩
  one first left second right same := by
    obtain ⟨one, oneThere, oneSeen⟩ := known first left
    obtain ⟨two, twoThere, twoSeen⟩ := known second right
    obtain ⟨oneTime, oneRead⟩ := Prod.mk.inj oneSeen
    obtain ⟨twoTime, twoRead⟩ := Prod.mk.inj twoSeen
    rw [oneRead, twoRead]
    exact legible.one one oneThere two twoThere (oneTime.symm.trans (same.trans twoTime))

theorem Legible.one_seen {ragType : String} (legible : Legible codec ragType rows) :
    ∀ first ∈ (ofType (some ragType) rows).map codec.seen,
      ∀ second ∈ (ofType (some ragType) rows).map codec.seen,
        OrderDual.toDual first.1 = OrderDual.toDual second.1 → first = second := by
  intro first left second right same
  obtain ⟨one, oneThere, rfl⟩ := List.mem_map.mp left
  obtain ⟨two, twoThere, rfl⟩ := List.mem_map.mp right
  exact Prod.ext same (legible.one one oneThere two twoThere same)

theorem fetched_mem [LinearOrder T] {ragType : String} {limit : Nat} {taken : List (Row P T N)}
    (fetched : Fetched newestFirst limit (ofType (some ragType) rows) taken) :
    ∀ row ∈ taken, row ∈ ofType (some ragType) rows := by
  obtain ⟨answer, sorted, rfl⟩ := fetched
  intro row inside
  exact sorted.perm.mem_iff.mp (List.mem_of_mem_take inside)

/-- A query sees the rows as a reader does. -/
theorem Codec.fetched_seen (codec : Codec P T N) [LinearOrder T] {ragType : String} {limit : Nat}
    {taken : List (Row P T N)}
    (fetched : Fetched newestFirst limit (ofType (some ragType) rows) taken) :
    Fetched (fun pair : T × Option (RAGEvaluationFrame T) => OrderDual.toDual pair.1) limit
      ((ofType (some ragType) rows).map codec.seen) (taken.map codec.seen) := by
  obtain ⟨answer, sorted, rfl⟩ := fetched
  exact ⟨answer.map codec.seen, sorted.map fun _ _ => rfl, List.map_take⟩

section Recording

variable [DecidableEq N] [Zero N] [One N]

/-- What is recorded of frames that were read is what was read. -/
theorem seen_recorded {ragType : String} {metrics : Dict N}
    {frames : List (RAGEvaluationFrame T)} {added : List (Row P T N)}
    (stored : List.Forall₂ (fun frame row => codec.recordEvaluation frame metrics = .ok row)
      frames added)
    (fine : ∀ frame ∈ frames, frame.metadata.ragType.text = ragType ∧ codec.Reloads frame) :
    added.map codec.seen = frames.map (fun frame => (frame.timestamp, some frame)) ∧
      ∀ row ∈ added, row.ragType = ragType := by
  induction stored with
  | nil => exact ⟨rfl, nofun⟩
  | @cons frame row frames added made _ ih =>
      obtain ⟨same, types⟩ := ih fun other inside => fine other (List.mem_cons_of_mem _ inside)
      obtain ⟨kind, reloads⟩ := fine frame List.mem_cons_self
      obtain ⟨time, type, kept, _⟩ := insert_ok made
      constructor
      · rw [List.map_cons, List.map_cons, same, Codec.seen, reloads _ kept, time]
      · intro other inside
        rcases List.mem_cons.mp inside with rfl | later
        · exact type.trans kind
        · exact types other later

variable [LinearOrder T]

/-- `drift-cli evaluate`, so many times in a row with one type and limit: it reads the newest
frames of the type and records each of them with the metrics of the evaluation. -/
inductive Evaluated (codec : Codec P T N) (ragType : String) (limit : Nat) :
    Nat → List (Row P T N) → List (Row P T N) → Prop where
  | none (rows : List (Row P T N)) : Evaluated codec ragType limit 0 rows rows
  | again {times : Nat} {rows middle after : List (Row P T N)}
      (before : Evaluated codec ragType limit times rows middle)
      {frames : List (RAGEvaluationFrame T)} (metrics : Dict N)
      (current : codec.RecentFrames (some ragType) limit middle frames)
      (recorded : run codec.apply middle (frames.map (.recordEvaluation · metrics)) = some after) :
      Evaluated codec ragType limit (times + 1) rows after

variable {ragType : String} {limit : Nat} {taken : List (Row P T N)}

/-- One evaluation puts what it read in once more. -/
theorem evaluated_once {metrics : Dict N} (legible : Legible codec ragType rows)
    (fetched : Fetched newestFirst limit (ofType (some ragType) rows) taken)
    (recorded : run codec.apply rows
      ((codec.frames taken).map (.recordEvaluation · metrics)) = some after) :
    (ofType (some ragType) after).map codec.seen =
      (ofType (some ragType) rows).map codec.seen ++ taken.map codec.seen := by
  obtain ⟨added, rfl, stored⟩ := run_recordEvaluation recorded
  have fine : ∀ frame ∈ codec.frames taken,
      frame.metadata.ragType.text = ragType ∧ codec.Reloads frame := by
    intro frame inside
    obtain ⟨row, there, read⟩ := List.mem_filterMap.mp inside
    obtain ⟨other, same, _, kind⟩ := legible.read row (fetched_mem fetched row there)
    cases same.symm.trans read
    exact kind
  obtain ⟨same, types⟩ := seen_recorded stored fine
  have all : ofType (some ragType) added = added := by
    rw [ofType, List.filter_eq_self]
    intro row inside
    simpa using types row inside
  rw [seen_of_legible legible (fetched_mem fetched), ← same, ← List.map_append]
  conv_rhs => rw [← all]
  rw [ofType, ofType, ofType, List.filter_append]

theorem Legible.evaluated {metrics : Dict N} (legible : Legible codec ragType rows)
    (fetched : Fetched newestFirst limit (ofType (some ragType) rows) taken)
    (recorded : run codec.apply rows
      ((codec.frames taken).map (.recordEvaluation · metrics)) = some after) :
    Legible codec ragType after := by
  refine legible.of_seen ?_
  intro row inside
  have there : codec.seen row ∈ (ofType (some ragType) after).map codec.seen :=
    List.mem_map_of_mem inside
  rw [evaluated_once legible fetched recorded] at there
  rcases List.mem_append.mp there with old | again
  · obtain ⟨original, stored, same⟩ := List.mem_map.mp old
    exact ⟨original, stored, same.symm⟩
  · obtain ⟨original, stored, same⟩ := List.mem_map.mp again
    exact ⟨original, fetched_mem fetched original stored, same.symm⟩

/-- After so many evaluations, a window is the first one with each row doubled as often. -/
theorem evaluated_seen {times : Nat} {first next : List (Row P T N)}
    (legible : Legible codec ragType rows)
    (fetched : Fetched newestFirst limit (ofType (some ragType) rows) first)
    (evaluated : Evaluated codec ragType limit times rows after)
    (last : Fetched newestFirst limit (ofType (some ragType) after) next) :
    Legible codec ragType after ∧
      next.map codec.seen = (copies (2 ^ times) (first.map codec.seen)).take limit := by
  induction evaluated generalizing next with
  | none rows =>
      refine ⟨legible, ?_⟩
      have there := codec.fetched_seen fetched
      rw [pow_zero, copies_one, there.take_eq]
      exact (codec.fetched_seen last).unique legible.one_seen there
  | @again times rows middle after before frames metrics current recorded ih =>
      obtain ⟨taken, there, rfl⟩ := current
      obtain ⟨still, same⟩ := ih legible fetched there
      refine ⟨still.evaluated there recorded, ?_⟩
      have again := codec.fetched_seen last
      rw [evaluated_once still there recorded] at again
      rw [(codec.fetched_seen there).again still.one_seen again, same, take_copies_take,
        copies_copies, Nat.pow_succ, Nat.mul_comm]

/-- Nothing new being stored, each evaluation of the newest frames doubles the rows of those it
read, so that the next one reads half as many different frames, and in the end the newest frame
only. -/
theorem evaluations_narrow {times : Nat} {first next : List (RAGEvaluationFrame T)}
    (legible : Legible codec ragType rows)
    (read : codec.RecentFrames (some ragType) limit rows first)
    (evaluated : Evaluated codec ragType limit times rows after)
    (last : codec.RecentFrames (some ragType) limit after next) :
    next = (copies (2 ^ times) first).take limit ∧
      ∀ frame ∈ next, frame ∈ first.take ((limit + 2 ^ times - 1) / 2 ^ times) := by
  obtain ⟨taken, fetched, rfl⟩ := read
  obtain ⟨latest, refetched, rfl⟩ := last
  obtain ⟨still, same⟩ := evaluated_seen legible fetched evaluated refetched
  rw [seen_of_legible still (fetched_mem refetched), seen_of_legible legible (fetched_mem fetched),
    copies_map, ← List.map_take] at same
  have injective : Function.Injective fun frame : RAGEvaluationFrame T =>
      (frame.timestamp, some frame) := by
    intro one other equal
    exact Option.some.inj (Prod.mk.inj equal).2
  have frames := List.map_injective_iff.mpr injective same
  refine ⟨frames, ?_⟩
  intro frame inside
  rw [frames] at inside
  exact mem_of_mem_take_copies (Nat.two_pow_pos times) inside

end Recording

/-- A column that keeps the texts as they are written. -/
def textCodec (pydantic : Schemas.Pydantic T) (drawn : Schemas.Drawn T) (dumps : Dict N → String) :
    Codec String T N :=
  ⟨RAGEvaluationFrame.modelDumpJson pydantic, dumps, some,
    RAGEvaluationFrame.modelValidateJson pydantic drawn⟩

/-- A frame without NaN and infinities, in the form in which it is read, is read again. -/
theorem reloads_of_finite {pydantic : Schemas.Pydantic T} (sound : pydantic.Sound)
    (drawn : Schemas.Drawn T) (dumps : Dict N → String) {frame : RAGEvaluationFrame T}
    (finite : frame.Finite) (plain : frame.nulled pydantic = frame) :
    (textCodec pydantic drawn dumps).Reloads frame := by
  intro kept stored
  cases stored
  refine (Ingestion.modelValidateJson_modelDumpJson sound drawn frame).trans ?_
  exact (RAGEvaluationFrame.survives sound drawn frame frame).mpr ⟨finite, plain⟩

def sampleCodec : Codec String String Int :=
  textCodec Ingestion.samplePydantic Ingestion.sampleDrawn fun _ => "\x7b\x7d"

/-- The sample frame at a time. -/
def frameAt (timestamp : String) : RAGEvaluationFrame String :=
  { Ingestion.sampleFrame [1] with timestamp }

def storedAt (timestamp : String) : Row String String Int :=
  ⟨"trace", "naive", timestamp, none, none, none, false,
    (frameAt timestamp).modelDumpJson Ingestion.samplePydantic⟩

theorem frameAt_reloads (timestamp : String) : sampleCodec.Reloads (frameAt timestamp) := by
  refine reloads_of_finite Ingestion.samplePydantic_sound _ _ ⟨?_, ?_, ?_⟩ rfl
  · intro embedding same number inside
    cases same
    rw [List.mem_singleton.mp inside]
    rfl
  · intro rows same
    cases same
  · intro embedding same
    cases same

theorem storedAt_reads (timestamp : String) :
    sampleCodec.modelValidate (storedAt timestamp).telemetryFrame = some (frameAt timestamp) :=
  frameAt_reloads timestamp _ rfl

def sampleRows : List (Row String String Int) := [storedAt "2026-01-01", storedAt "2026-01-02"]

theorem mem_sampleRows {row : Row String String Int}
    (inside : row ∈ ofType (some "naive") sampleRows) : ∃ timestamp, row = storedAt timestamp := by
  rcases List.mem_pair.mp (List.mem_of_mem_filter inside) with rfl | rfl
  · exact ⟨_, rfl⟩
  · exact ⟨_, rfl⟩

theorem sampleRows_legible : Legible sampleCodec "naive" sampleRows where
  read row inside := by
    obtain ⟨timestamp, rfl⟩ := mem_sampleRows inside
    exact ⟨_, storedAt_reads timestamp, rfl, rfl, frameAt_reloads timestamp⟩
  one first left second right same := by
    obtain ⟨one, rfl⟩ := mem_sampleRows left
    obtain ⟨two, rfl⟩ := mem_sampleRows right
    rw [show one = two from same]

theorem sampleRows_recent : sampleCodec.RecentFrames (some "naive") 2 sampleRows
    [frameAt "2026-01-02", frameAt "2026-01-01"] := by
  refine ⟨[storedAt "2026-01-02", storedAt "2026-01-01"], ⟨_, ⟨List.Perm.swap _ _ _, ?_⟩, rfl⟩, ?_⟩
  · simp [newestFirst, storedAt]
  · simp [Codec.frames, storedAt_reads]

/-- The table after an evaluation of both frames. -/
def evaluatedRows : List (Row String String Int) :=
  sampleRows ++ [storedAt "2026-01-02", storedAt "2026-01-01"]

theorem evaluatedRows_evaluated : Evaluated sampleCodec "naive" 2 1 sampleRows evaluatedRows :=
  .again (.none _) .empty sampleRows_recent rfl

theorem evaluatedRows_recent : sampleCodec.RecentFrames (some "naive") 2 evaluatedRows
    [frameAt "2026-01-02", frameAt "2026-01-02"] := by
  refine ⟨[storedAt "2026-01-02", storedAt "2026-01-02"], ⟨[storedAt "2026-01-02",
    storedAt "2026-01-02", storedAt "2026-01-01", storedAt "2026-01-01"], ⟨?_, ?_⟩, rfl⟩, ?_⟩
  · exact List.Perm.trans (.cons _ (.swap _ _ _)) (.swap _ _ _)
  · simp [newestFirst, storedAt]
  · simp [Codec.frames, storedAt_reads]

theorem evaluations_narrow_once :
    [frameAt "2026-01-02", frameAt "2026-01-02"] =
        (copies (2 ^ 1) [frameAt "2026-01-02", frameAt "2026-01-01"]).take 2 ∧
      ∀ frame ∈ [frameAt "2026-01-02", frameAt "2026-01-02"],
        frame ∈ [frameAt "2026-01-02", frameAt "2026-01-01"].take ((2 + 2 ^ 1 - 1) / 2 ^ 1) :=
  evaluations_narrow sampleRows_legible sampleRows_recent evaluatedRows_evaluated
    evaluatedRows_recent

theorem sampleRows_window : sampleCodec.FramesByTimeWindow "2026-01-01" 1 sampleRows
    [frameAt "2026-01-01"] := by
  refine ⟨[storedAt "2026-01-01"], ⟨sampleRows, ⟨.refl _, ?_⟩, rfl⟩, ?_⟩
  · simp [sampleRows, storedAt]
  · simp [Codec.frames, storedAt_reads]

theorem full_baseline_stays_one :
    sampleCodec.FramesByTimeWindow "2026-01-01" 1 (sampleRows ++ [storedAt "2026-01-03"])
      [frameAt "2026-01-01"] := by
  have newer : ∀ statement ∈ [Statement.batchStoreFrames (N := Int) [frameAt "2026-01-03"]],
      statement.Newer "2026-01-02" := by
    intro statement inside
    rw [List.mem_singleton.mp inside]
    constructor
    · intro same
      cases same
    · intro time stored
      rw [List.mem_singleton.mp stored]
      decide
  exact (full_baseline_stays (by decide) newer rfl _).mpr sampleRows_window

end RagDrift.DriftStore
