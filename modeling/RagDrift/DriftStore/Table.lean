import RagDrift.Collections.Queries
import RagDrift.Optimization.Selectors
import RagDrift.Python.Builtins
import RagDrift.Python.Exceptions
import RagDrift.Schemas.Telemetry
import RagDrift.Transition.Runs

set_option autoImplicit false

/- `evaluator.drift_store`: the table `telemetry_evaluations`, the statements that change it, and
the frames that are read from it. -/
namespace RagDrift.DriftStore

open Collections (Fetched)
open Exceptions (bind_ok_iff exists_of_mem_results map_ok_iff)
open Optimization.Selectors (truthy)
open Schemas (RAGEvaluationFrame)
open Transition (run run_cons run_invariant_of_meets meets_of_forall)

variable {P T N : Type}

structure Row (P T N : Type) where
  traceId : String
  ragType : String
  timestamp : T
  jsDivergence : Option N
  mmdScore : Option N
  wassersteinDistance : Option N
  isDrifted : Bool
  telemetryFrame : P
  deriving DecidableEq

/-- The texts that are written to `telemetry_frame`, what the server keeps of a text if it takes
it, and the frame that is read from what it kept. -/
structure Codec (P T N : Type) where
  modelDumpJson : RAGEvaluationFrame T → String
  dumps : Dict N → String
  jsonb : String → Option P
  modelValidate : P → Option (RAGEvaluationFrame T)

/-- What changes the table; each is one statement of the server. -/
inductive Statement (T N : Type) where
  | recordEvaluation (frame : RAGEvaluationFrame T) (metrics : Dict N)
  | batchStoreFrames (frames : List (RAGEvaluationFrame T))
  | recordDrift (traceId : String) (now : T) (driftResult : Dict N)
  | clearHistory

section Writing

/-- Why a row is not inserted. -/
inductive Refusal where
  | score (column : String)
  | telemetryFrame
  | traceId
  | ragType
  deriving DecidableEq

def orRaise {A : Type} (refusal : Refusal) : Option A → Except Refusal A
  | some value => .ok value
  | none => .error refusal

def varchar (limit : Nat) (refusal : Refusal) (text : String) : Except Refusal Unit :=
  if text.length ≤ limit then .ok () else .error refusal

variable [DecidableEq N] [Zero N] [One N]

/-- What a `FLOAT` column takes of a dictionary. -/
def floatColumn (scores : Dict N) (column : String) : Except Refusal (Option N) :=
  if scores.get column = PyVal.none then .ok none
  else orRaise (.score column) ((scores.get column).asNumber?.map some)

/-- `INSERT_EVALUATION_SQL` -/
def Codec.insert (codec : Codec P T N) (traceId ragType : String) (timestamp : T)
    (scores : Dict N) (text : String) : Except Refusal (Row P T N) := do
  let jsDivergence ← floatColumn scores "js_divergence"
  let mmdScore ← floatColumn scores "mmd_score"
  let wassersteinDistance ← floatColumn scores "wasserstein_distance"
  let telemetryFrame ← orRaise .telemetryFrame (codec.jsonb text)
  varchar 64 .traceId traceId
  varchar 32 .ragType ragType
  return { traceId, ragType, timestamp, jsDivergence, mmdScore, wassersteinDistance,
           isDrifted := truthy (scores.get "is_drifted"), telemetryFrame }

def Codec.recordEvaluation (codec : Codec P T N) (frame : RAGEvaluationFrame T)
    (metrics : Dict N) : Except Refusal (Row P T N) :=
  codec.insert frame.traceId frame.metadata.ragType.text frame.timestamp metrics
    (codec.modelDumpJson frame)

/-- All rows of a batch, or none. -/
def Codec.batchStoreFrames (codec : Codec P T N) (frames : List (RAGEvaluationFrame T)) :
    Except Refusal (List (Row P T N)) :=
  frames.mapM fun frame => codec.recordEvaluation frame .empty

def Codec.recordDrift (codec : Codec P T N) (traceId : String) (now : T) (driftResult : Dict N) :
    Except Refusal (Row P T N) :=
  codec.insert traceId "custom" now driftResult (codec.dumps driftResult)

/-- The rows that a statement adds. -/
def Codec.added (codec : Codec P T N) : Statement T N → Except Refusal (List (Row P T N))
  | .recordEvaluation frame metrics => (codec.recordEvaluation frame metrics).map fun row => [row]
  | .batchStoreFrames frames => codec.batchStoreFrames frames
  | .recordDrift traceId now driftResult =>
      (codec.recordDrift traceId now driftResult).map fun row => [row]
  | .clearHistory => .ok []

/-- The table after a statement; `none` where it raises. -/
def Codec.apply (codec : Codec P T N) (rows : List (Row P T N)) (statement : Statement T N) :
    Option (List (Row P T N)) :=
  match statement with
  | .clearHistory => some []
  | _ => (codec.added statement).toOption.map fun added => rows ++ added

end Writing

section Reading

variable (codec : Codec P T N)

/-- The frames of rows; a row that holds something else is skipped. -/
def Codec.frames (rows : List (Row P T N)) : List (RAGEvaluationFrame T) :=
  rows.filterMap fun row => codec.modelValidate row.telemetryFrame

/-- The rows that `get_recent_frames` selects from, with their order. -/
def newestFirst (row : Row P T N) : Tᵒᵈ := .toDual row.timestamp

def ofType (ragType : Option String) (rows : List (Row P T N)) : List (Row P T N) :=
  rows.filter fun row => ragType.all fun asked => row.ragType = asked

variable [LinearOrder T]

def since (cutoff : T) (rows : List (Row P T N)) : List (Row P T N) :=
  rows.filter fun row => cutoff ≤ row.timestamp

/-- What `get_recent_frames` may return. -/
def Codec.RecentFrames (ragType : Option String) (limit : Nat) (rows : List (Row P T N))
    (frames : List (RAGEvaluationFrame T)) : Prop :=
  ∃ taken, Fetched newestFirst limit (ofType ragType rows) taken ∧ frames = codec.frames taken

/-- What `get_frames_by_time_window` may return, and with it `fetch_sliding_baseline_frames`. -/
def Codec.FramesByTimeWindow (cutoff : T) (limit : Nat) (rows : List (Row P T N))
    (frames : List (RAGEvaluationFrame T)) : Prop :=
  ∃ taken, Fetched Row.timestamp limit (since cutoff rows) taken ∧ frames = codec.frames taken

end Reading

section Statements

theorem orRaise_ok_iff {A : Type} {refusal : Refusal} {found : Option A} {value : A} :
    orRaise refusal found = .ok value ↔ found = some value := by
  cases found with
  | none => simp [orRaise]
  | some other => simp [orRaise]

variable [DecidableEq N] [Zero N] [One N] {codec : Codec P T N} {rows after : List (Row P T N)}
  {statement : Statement T N}

/-- The row that an insert makes. -/
theorem insert_ok {traceId ragType text : String} {timestamp : T} {scores : Dict N}
    {row : Row P T N} (made : codec.insert traceId ragType timestamp scores text = .ok row) :
    row.timestamp = timestamp ∧ row.ragType = ragType ∧
      codec.jsonb text = some row.telemetryFrame ∧
      floatColumn scores "js_divergence" = .ok row.jsDivergence := by
  obtain ⟨js, readJs, made⟩ := bind_ok_iff.mp made
  obtain ⟨mmd, _, made⟩ := bind_ok_iff.mp made
  obtain ⟨wasserstein, _, made⟩ := bind_ok_iff.mp made
  obtain ⟨kept, taken, made⟩ := bind_ok_iff.mp made
  obtain ⟨_, _, made⟩ := bind_ok_iff.mp made
  obtain ⟨_, _, made⟩ := bind_ok_iff.mp made
  cases made
  exact ⟨rfl, rfl, orRaise_ok_iff.mp taken, readJs⟩

/-- The times that a statement may store. -/
def Statement.times : Statement T N → List T
  | .recordEvaluation frame _ => [frame.timestamp]
  | .batchStoreFrames frames => frames.map RAGEvaluationFrame.timestamp
  | .recordDrift _ now _ => [now]
  | .clearHistory => []

theorem added_times {added : List (Row P T N)} (made : codec.added statement = .ok added) :
    ∀ row ∈ added, row.timestamp ∈ statement.times := by
  intro row inside
  cases statement with
  | recordEvaluation frame metrics =>
      obtain ⟨other, stored, rfl⟩ := map_ok_iff.mp made
      rw [List.mem_singleton.mp inside, (insert_ok stored).1]
      exact List.mem_singleton_self _
  | batchStoreFrames frames =>
      obtain ⟨frame, given, stored⟩ := exists_of_mem_results made inside
      rw [(insert_ok stored).1]
      exact List.mem_map_of_mem given
  | recordDrift traceId now driftResult =>
      obtain ⟨other, stored, rfl⟩ := map_ok_iff.mp made
      rw [List.mem_singleton.mp inside, (insert_ok stored).1]
      exact List.mem_singleton_self _
  | clearHistory =>
      cases made
      cases inside

theorem apply_of_ne_clear (keeps : statement ≠ .clearHistory) :
    codec.apply rows statement =
      (codec.added statement).toOption.map fun added => rows ++ added := by
  cases statement with
  | clearHistory => exact absurd rfl keeps
  | _ => rfl

/-- A statement that does not empty the table adds rows to it. -/
theorem apply_appends (keeps : statement ≠ .clearHistory)
    (applied : codec.apply rows statement = some after) :
    ∃ added, codec.added statement = .ok added ∧ after = rows ++ added := by
  rw [apply_of_ne_clear keeps, Option.map_eq_some_iff] at applied
  obtain ⟨added, made, rfl⟩ := applied
  exact ⟨added, Exceptions.toOption_some_iff.mp made, rfl⟩

/-- The rows that the recording of frames adds. -/
theorem run_recordEvaluation {frames : List (RAGEvaluationFrame T)} {metrics : Dict N}
    (ran : run codec.apply rows (frames.map (.recordEvaluation · metrics)) = some after) :
    ∃ added, after = rows ++ added ∧
      List.Forall₂ (fun frame row => codec.recordEvaluation frame metrics = .ok row)
        frames added := by
  induction frames generalizing rows with
  | nil =>
      cases ran
      exact ⟨[], (List.append_nil _).symm, .nil⟩
  | cons frame rest ih =>
      obtain ⟨middle, applied, later⟩ := run_cons.mp ran
      obtain ⟨first, made, rfl⟩ := apply_appends (by intro same; cases same) applied
      obtain ⟨row, stored, rfl⟩ := Exceptions.map_ok_iff.mp made
      obtain ⟨others, rfl, all⟩ := ih later
      exact ⟨row :: others, List.append_assoc _ _ _, .cons stored all⟩

end Statements

end RagDrift.DriftStore
