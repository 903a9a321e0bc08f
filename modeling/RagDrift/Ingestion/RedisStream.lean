import Mathlib.Data.List.Basic
import Mathlib.Logic.Function.Basic

set_option autoImplicit false

/- `ingestion.redis_queue` over a Redis stream with one consumer group. A step is what happens
between two awaits of one task, or in Redis. Stream ids are the positions of the entries. -/
namespace RagDrift.Ingestion

/-- A field value as the client hands it out. -/
inductive Raw where
  | text (value : String)
  | bytes (value : List UInt8)
  deriving DecidableEq

/-- Python's truth of a string or of bytes. -/
def Raw.truthy : Raw → Bool
  | .text value => value ≠ ""
  | .bytes value => value ≠ []

/-- What an entry holds under the keys `"frame"` and `b"frame"`. -/
structure Fields where
  textKey : Option Raw
  bytesKey : Option Raw
  deriving DecidableEq

/-- `fields.get("frame") or fields.get(b"frame")`. -/
def Fields.raw (fields : Fields) : Option Raw :=
  match fields.textKey with
  | some value => if value.truthy then some value else fields.bytesKey
  | none => fields.bytesKey

/-- The frame codec, and the batch size each buffer was built with. -/
structure Setup (B F : Type) where
  modelDumpJson : F → String
  modelValidateJson : String → Option F
  batchSize : B → Int

variable {B F : Type}

/-- `self._batch_size`. -/
def Setup.count (setup : Setup B F) (b : B) : Nat := (max 1 (setup.batchSize b)).toNat

/-- What the worker makes of an entry. -/
inductive Decoded (F : Type) where
  | missing
  | undecodable
  | invalid
  | frame (value : F)

def Setup.validated (setup : Setup B F) (text : String) : Decoded F :=
  match setup.modelValidateJson text with
  | some frame => .frame frame
  | none => .invalid

def Setup.decode (setup : Setup B F) (fields : Fields) : Decoded F :=
  match fields.raw with
  | none => .missing
  | some (.text text) => setup.validated text
  | some (.bytes bytes) =>
      match String.fromUTF8? ⟨bytes.toArray⟩ with
      | none => .undecodable
      | some text => setup.validated text

/-- The entry `enqueue` adds for a frame, as a client that does not decode responses reads it. -/
def Setup.written (setup : Setup B F) (frame : F) : Fields :=
  ⟨none, some (.bytes (setup.modelDumpJson frame).toUTF8.data.toList)⟩

/-- The two lists a batch is collected in, frame by frame and id by id. -/
structure Batch (F : Type) where
  frames : List F
  msgIds : List Nat
  deriving DecidableEq

def Batch.empty : Batch F := ⟨[], []⟩

/-- Where the background task of a buffer stands. -/
inductive Pc (F : Type) where
  | idle
  | creating
  | ready
  | reading
  | sleeping
  | handling (messages : List (Nat × Fields)) (batch : Batch F)
  | ackingBad (msgId : Nat) (messages : List (Nat × Fields)) (batch : Batch F)
  | storing (batch : Batch F)
  | ackingBatch (batch : Batch F)
  | finished
  | failed
  deriving DecidableEq

/-- `is_running`: there is a task and it is not done. -/
def Pc.running : Pc F → Bool
  | .idle | .creating | .finished | .failed => false
  | _ => true

/-- One `RedisStreamBuffer`. `inFlight` holds the sizes of the `enqueue` calls whose pipeline
was executed and that have not counted their frames yet. -/
structure Buffer (F : Type) where
  pc : Pc F
  stopped : Bool
  pending : Nat
  inFlight : List Nat

def Buffer.new : Buffer F := ⟨.idle, false, 0, []⟩

/-- Redis, the repository and all buffers. `group` is how many entries the consumer group was
given; `handed` and `stored` are the batches that were passed to `batch_store_frames` and those
for which the call returned. -/
structure State (B F : Type) where
  entries : List Fields
  group : Option Nat
  pel : List Nat
  acked : List Nat
  handed : List (Batch F)
  stored : List (Batch F)
  buffer : B → Buffer F

variable [DecidableEq B]

def State.setBuffer (state : State B F) (b : B) (buffer : Buffer F) : State B F :=
  { state with buffer := Function.update state.buffer b buffer }

def State.setPc (state : State B F) (b : B) (pc : Pc F) : State B F :=
  state.setBuffer b { state.buffer b with pc := pc }

/-- How a Redis command ends: it returns, it takes effect and its answer is lost, or it fails. -/
inductive Outcome where
  | ok
  | lost
  | refused
  deriving DecidableEq

inductive Event (B F : Type) where
  | foreign (fields : Fields)
  | publish (b : B) (frames : List F)
  | counted (b : B) (frames : Nat)
  | start (b : B)
  | createGroup (b : B) (outcome : Outcome)
  | resume (b : B)
  | read (b : B) (outcome : Outcome)
  | handle (b : B)
  | xack (b : B) (outcome : Outcome)
  | store (b : B) (succeeds : Bool)
  | stop (b : B)
  | cancel (b : B)
  | crash (b : B)

/-- The head of the loop: `while not self._stopped`. -/
def Buffer.loop (buffer : Buffer F) : Pc F := if buffer.stopped then .finished else .reading

/-- The entries `XREADGROUP` with `>` would return, with their ids. -/
def State.undelivered (state : State B F) (next count : Nat) : List (Nat × Fields) :=
  (((state.entries.drop next).take count).zipIdx next).map Prod.swap

/-- Redis gives the entries to the group and keeps them as pending. -/
def State.deliver (state : State B F) (next : Nat) (messages : List (Nat × Fields)) : State B F :=
  { state with
    group := some (next + messages.length)
    pel := state.pel ++ messages.map Prod.fst }

def State.ack (state : State B F) (msgIds : List Nat) : State B F :=
  { state with
    pel := state.pel.filter fun msgId => msgId ∉ msgIds
    acked := state.acked ++ msgIds }

/-- `_ensure_consumer_group` at the end of the stream; `BUSYGROUP` leaves the group as it is. -/
def State.created (state : State B F) : State B F :=
  { state with group := some (state.group.getD state.entries.length) }

/-- The end of a response: flush what was collected, or read again. -/
def State.collected (state : State B F) (b : B) (batch : Batch F) : State B F :=
  if batch.frames = [] then state.setPc b (state.buffer b).loop
  else ({ state with handed := state.handed ++ [batch] } : State B F).setPc b (.storing batch)

/-- What the worker does with the next message of a response; an answer without messages is one
it has already reached the end of. -/
def Setup.handle (setup : Setup B F) (state : State B F) (b : B) (messages : List (Nat × Fields))
    (batch : Batch F) : State B F :=
  match messages with
  | [] => state.collected b batch
  | (msgId, fields) :: rest =>
      match setup.decode fields with
      | .frame frame =>
          state.setPc b (.handling rest ⟨batch.frames ++ [frame], batch.msgIds ++ [msgId]⟩)
      | .undecodable => state.setPc b .failed
      | .missing | .invalid => state.setPc b (.ackingBad msgId rest batch)

/-- One step of `XACK`: of a single bad entry, or of a stored batch. An exception leaves the
worker's loop in both places. -/
def State.xack (state : State B F) (b : B) (outcome : Outcome) : Option (State B F) :=
  match (state.buffer b).pc with
  | .ackingBad msgId rest batch =>
      match outcome with
      | .ok => some ((state.ack [msgId]).setPc b (.handling rest batch))
      | .lost => some ((state.ack [msgId]).setPc b .failed)
      | .refused => some (state.setPc b .failed)
  | .ackingBatch batch =>
      match outcome with
      | .ok => some ((state.ack batch.msgIds).setBuffer b
          { state.buffer b with
            pc := (state.buffer b).loop
            pending := (state.buffer b).pending - batch.frames.length })
      | .lost => some ((state.ack batch.msgIds).setPc b .failed)
      | .refused => some (state.setPc b .failed)
  | _ => none

def Setup.read (setup : Setup B F) (state : State B F) (b : B) (outcome : Outcome) : State B F :=
  match outcome, state.group with
  | .ok, some next =>
      let messages := state.undelivered next (setup.count b)
      (state.deliver next messages).setPc b (.handling messages .empty)
  | .lost, some next =>
      (state.deliver next (state.undelivered next (setup.count b))).setPc b .sleeping
  | _, _ => state.setPc b .sleeping

def Setup.step (setup : Setup B F) (state : State B F) : Event B F → Option (State B F)
  | .foreign fields => some { state with entries := state.entries ++ [fields] }
  | .publish b frames =>
      if frames = [] then none
      else some (({ state with entries := state.entries ++ frames.map setup.written } :
        State B F).setBuffer b
          { state.buffer b with inFlight := (state.buffer b).inFlight ++ [frames.length] })
  | .counted b frames =>
      if frames ∈ (state.buffer b).inFlight then
        some (state.setBuffer b { state.buffer b with
          inFlight := (state.buffer b).inFlight.erase frames
          pending := (state.buffer b).pending + frames })
      else none
  | .start b =>
      match (state.buffer b).pc with
      | .idle | .finished | .failed =>
          some (state.setBuffer b { state.buffer b with pc := .creating, stopped := false })
      | _ => none
  | .createGroup b outcome =>
      match (state.buffer b).pc, outcome with
      | .creating, .ok => some (state.created.setPc b .ready)
      | .creating, .lost => some (state.created.setPc b .idle)
      | .creating, .refused => some (state.setPc b .idle)
      | _, _ => none
  | .resume b =>
      match (state.buffer b).pc with
      | .ready | .sleeping => some (state.setPc b (state.buffer b).loop)
      | _ => none
  | .read b outcome =>
      match (state.buffer b).pc with
      | .reading => some (setup.read state b outcome)
      | _ => none
  | .handle b =>
      match (state.buffer b).pc with
      | .handling messages batch => some (setup.handle state b messages batch)
      | _ => none
  | .xack b outcome => state.xack b outcome
  | .store b succeeds =>
      match (state.buffer b).pc with
      | .storing batch =>
          if succeeds then
            some (({ state with stored := state.stored ++ [batch] } : State B F).setPc b
              (.ackingBatch batch))
          else some (state.setPc b (state.buffer b).loop)
      | _ => none
  | .stop b =>
      if (state.buffer b).pc.running then
        some (state.setBuffer b { state.buffer b with stopped := true })
      else none
  | .cancel b =>
      match (state.buffer b).pc with
      | .reading => some (state.setPc b .finished)
      | pc => if pc.running then some (state.setPc b .failed) else none
  | .crash b => some (state.setBuffer b .new)

/-- Before the first frame, with the consumer group in place or not. -/
def State.init (group : Option Nat) : State B F := ⟨[], group, [], [], [], [], fun _ => .new⟩

/-- The steps one by one, each with where the worker has to stand. -/
inductive Step (setup : Setup B F) (state : State B F) : Event B F → State B F → Prop where
  | foreign (fields : Fields) : Step setup state (.foreign fields)
      { state with entries := state.entries ++ [fields] }
  | publish (b : B) (frames : List F) (some : frames ≠ []) :
      Step setup state (.publish b frames)
        (({ state with entries := state.entries ++ frames.map setup.written } :
          State B F).setBuffer b
            { state.buffer b with inFlight := (state.buffer b).inFlight ++ [frames.length] })
  | counted (b : B) (frames : Nat) (flying : frames ∈ (state.buffer b).inFlight) :
      Step setup state (.counted b frames) (state.setBuffer b { state.buffer b with
        inFlight := (state.buffer b).inFlight.erase frames
        pending := (state.buffer b).pending + frames })
  | start (b : B) (pc : (state.buffer b).pc = .idle ∨ (state.buffer b).pc = .finished ∨
        (state.buffer b).pc = .failed) :
      Step setup state (.start b)
        (state.setBuffer b { state.buffer b with pc := .creating, stopped := false })
  | created (b : B) (pc : (state.buffer b).pc = .creating) :
      Step setup state (.createGroup b .ok) (state.created.setPc b .ready)
  | createdLost (b : B) (pc : (state.buffer b).pc = .creating) :
      Step setup state (.createGroup b .lost) (state.created.setPc b .idle)
  | createRefused (b : B) (pc : (state.buffer b).pc = .creating) :
      Step setup state (.createGroup b .refused) (state.setPc b .idle)
  | resume (b : B) (pc : (state.buffer b).pc = .ready ∨ (state.buffer b).pc = .sleeping) :
      Step setup state (.resume b) (state.setPc b (state.buffer b).loop)
  | read (b : B) (outcome : Outcome) (pc : (state.buffer b).pc = .reading) :
      Step setup state (.read b outcome) (setup.read state b outcome)
  | handle (b : B) (messages : List (Nat × Fields)) (batch : Batch F)
      (pc : (state.buffer b).pc = .handling messages batch) :
      Step setup state (.handle b) (setup.handle state b messages batch)
  | ackedBad (b : B) (msgId : Nat) (messages : List (Nat × Fields)) (batch : Batch F)
      (pc : (state.buffer b).pc = .ackingBad msgId messages batch) :
      Step setup state (.xack b .ok) ((state.ack [msgId]).setPc b (.handling messages batch))
  | ackedBatch (b : B) (batch : Batch F) (pc : (state.buffer b).pc = .ackingBatch batch) :
      Step setup state (.xack b .ok) ((state.ack batch.msgIds).setBuffer b
        { state.buffer b with
          pc := (state.buffer b).loop
          pending := (state.buffer b).pending - batch.frames.length })
  | ackLost (b : B) (msgIds : List Nat)
      (pc : (∃ msgId messages batch, (state.buffer b).pc = .ackingBad msgId messages batch ∧
          msgIds = [msgId]) ∨
        ∃ batch, (state.buffer b).pc = .ackingBatch batch ∧ msgIds = batch.msgIds) :
      Step setup state (.xack b .lost) ((state.ack msgIds).setPc b .failed)
  | ackRefused (b : B)
      (pc : (∃ msgId messages batch, (state.buffer b).pc = .ackingBad msgId messages batch) ∨
        ∃ batch, (state.buffer b).pc = .ackingBatch batch) :
      Step setup state (.xack b .refused) (state.setPc b .failed)
  | stored (b : B) (batch : Batch F) (pc : (state.buffer b).pc = .storing batch) :
      Step setup state (.store b true)
        (({ state with stored := state.stored ++ [batch] } : State B F).setPc b
          (.ackingBatch batch))
  | storeFailed (b : B) (batch : Batch F) (pc : (state.buffer b).pc = .storing batch) :
      Step setup state (.store b false) (state.setPc b (state.buffer b).loop)
  | stop (b : B) (running : (state.buffer b).pc.running = true) :
      Step setup state (.stop b) (state.setBuffer b { state.buffer b with stopped := true })
  | cancelReading (b : B) (pc : (state.buffer b).pc = .reading) :
      Step setup state (.cancel b) (state.setPc b .finished)
  | cancel (b : B) (pc : (state.buffer b).pc ≠ .reading)
      (running : (state.buffer b).pc.running = true) :
      Step setup state (.cancel b) (state.setPc b .failed)
  | crash (b : B) : Step setup state (.crash b) (state.setBuffer b .new)

variable {setup : Setup B F} {state after : State B F}

theorem xack_cases {b : B} {outcome : Outcome} (stepped : state.xack b outcome = some after) :
    Step setup state (.xack b outcome) after := by
  unfold State.xack at stepped
  split at stepped
  · rename_i msgId rest batch pc
    cases outcome with
    | ok =>
        cases stepped
        exact .ackedBad b msgId rest batch pc
    | lost =>
        cases stepped
        exact .ackLost b [msgId] (Or.inl ⟨msgId, rest, batch, pc, rfl⟩)
    | refused =>
        cases stepped
        exact .ackRefused b (Or.inl ⟨msgId, rest, batch, pc⟩)
  · rename_i batch pc
    cases outcome with
    | ok =>
        cases stepped
        exact .ackedBatch b batch pc
    | lost =>
        cases stepped
        exact .ackLost b batch.msgIds (Or.inr ⟨batch, pc, rfl⟩)
    | refused =>
        cases stepped
        exact .ackRefused b (Or.inr ⟨batch, pc⟩)
  · cases stepped

/-- Every step of the step function is one of these. -/
theorem step_cases {event : Event B F} (stepped : setup.step state event = some after) :
    Step setup state event after := by
  unfold Setup.step at stepped
  cases event with
  | foreign fields =>
      cases stepped
      exact .foreign fields
  | publish b frames =>
      dsimp only at stepped
      split at stepped
      · cases stepped
      · rename_i some
        cases stepped
        exact .publish b frames some
  | counted b frames =>
      dsimp only at stepped
      split at stepped
      · rename_i flying
        cases stepped
        exact .counted b frames flying
      · cases stepped
  | start b =>
      dsimp only at stepped
      split at stepped
      · rename_i pc
        cases stepped
        exact .start b (Or.inl pc)
      · rename_i pc
        cases stepped
        exact .start b (Or.inr (Or.inl pc))
      · rename_i pc
        cases stepped
        exact .start b (Or.inr (Or.inr pc))
      · cases stepped
  | createGroup b outcome =>
      dsimp only at stepped
      split at stepped
      · rename_i pc
        cases stepped
        exact .created b pc
      · rename_i pc
        cases stepped
        exact .createdLost b pc
      · rename_i pc
        cases stepped
        exact .createRefused b pc
      · cases stepped
  | resume b =>
      dsimp only at stepped
      split at stepped
      · rename_i pc
        cases stepped
        exact .resume b (Or.inl pc)
      · rename_i pc
        cases stepped
        exact .resume b (Or.inr pc)
      · cases stepped
  | read b outcome =>
      dsimp only at stepped
      split at stepped
      · rename_i pc
        cases stepped
        exact .read b outcome pc
      · cases stepped
  | handle b =>
      dsimp only at stepped
      split at stepped
      · rename_i messages batch pc
        cases stepped
        exact .handle b messages batch pc
      · cases stepped
  | xack b outcome => exact xack_cases stepped
  | store b succeeds =>
      dsimp only at stepped
      split at stepped
      · rename_i batch pc
        cases succeeds with
        | true =>
            cases stepped
            exact .stored b batch pc
        | false =>
            cases stepped
            exact .storeFailed b batch pc
      · cases stepped
  | stop b =>
      dsimp only at stepped
      split at stepped
      · rename_i running
        cases stepped
        exact .stop b running
      · cases stepped
  | cancel b =>
      dsimp only at stepped
      split at stepped
      · rename_i pc
        cases stepped
        exact .cancelReading b pc
      · rename_i differs
        split at stepped
        · rename_i running
          cases stepped
          exact .cancel b differs running
        · cases stepped
  | crash b =>
      cases stepped
      exact .crash b

end RagDrift.Ingestion
