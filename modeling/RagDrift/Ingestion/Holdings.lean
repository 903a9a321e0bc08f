import RagDrift.Ingestion.RedisStream
import Mathlib.Data.List.Forall2

set_option autoImplicit false

/- Which entries a worker has in hand, and what each step does to that: the six effects every
step has one of. -/
namespace RagDrift.Ingestion

variable {B F : Type}

def Decoded.frame? : Decoded F → Option F
  | .frame value => some value
  | _ => none

/-- The frame in the entry with an id, when there is one and it is well formed. -/
def Setup.frameAt (setup : Setup B F) (entries : List Fields) (msgId : Nat) : Option F :=
  (entries[msgId]?).bind fun fields => (setup.decode fields).frame?

theorem frameAt_of_fields {setup : Setup B F} {entries : List Fields} {msgId : Nat}
    {fields : Fields} (here : entries[msgId]? = some fields) :
    setup.frameAt entries msgId = (setup.decode fields).frame? := by
  rw [Setup.frameAt, here, Option.bind_some]

theorem fields_append {entries extra : List Fields} {msgId : Nat} {fields : Fields}
    (here : entries[msgId]? = some fields) : (entries ++ extra)[msgId]? = some fields := by
  rw [List.getElem?_append_left (List.getElem?_eq_some_iff.mp here).1]
  exact here

theorem frameAt_append {setup : Setup B F} {entries extra : List Fields} {msgId : Nat} {frame : F}
    (here : setup.frameAt entries msgId = some frame) :
    setup.frameAt (entries ++ extra) msgId = some frame := by
  obtain ⟨fields, found, decoded⟩ := Option.bind_eq_some_iff.mp here
  rw [frameAt_of_fields (fields_append found), decoded]

theorem frameAt_lt {setup : Setup B F} {entries : List Fields} {msgId : Nat} {frame : F}
    (here : setup.frameAt entries msgId = some frame) : msgId < entries.length := by
  obtain ⟨fields, found, _⟩ := Option.bind_eq_some_iff.mp here
  exact (List.getElem?_eq_some_iff.mp found).1

/-- Each frame of the batch was read from the entry whose id stands beside it. -/
def Batch.Reads (setup : Setup B F) (entries : List Fields) (batch : Batch F) : Prop :=
  List.Forall₂ (fun msgId frame => setup.frameAt entries msgId = some frame) batch.msgIds
    batch.frames

section Reads

variable {setup : Setup B F} {entries extra : List Fields} {batch : Batch F} {msgId : Nat}
  {frame : F}

theorem Batch.Reads.append (reads : batch.Reads setup entries) :
    batch.Reads setup (entries ++ extra) :=
  List.Forall₂.imp (fun _ _ => frameAt_append) reads

theorem Batch.Reads.snoc (reads : batch.Reads setup entries)
    (here : setup.frameAt entries msgId = some frame) :
    Batch.Reads setup entries ⟨batch.frames ++ [frame], batch.msgIds ++ [msgId]⟩ :=
  List.rel_append reads (.cons here .nil)

/-- An entry of a batch has a frame, which stands beside it. -/
theorem Batch.Reads.exists_frame (reads : batch.Reads setup entries)
    (inside : msgId ∈ batch.msgIds) :
    ∃ frame, setup.frameAt entries msgId = some frame ∧
      (msgId, frame) ∈ batch.msgIds.zip batch.frames := by
  unfold Batch.Reads at reads
  generalize batch.msgIds = msgIds, batch.frames = frames at reads inside
  induction reads with
  | nil => cases inside
  | cons first _ ih =>
      rw [List.zip_cons_cons]
      rcases List.mem_cons.mp inside with rfl | later
      · exact ⟨_, first, List.mem_cons_self⟩
      · obtain ⟨frame, read, member⟩ := ih later
        exact ⟨frame, read, List.mem_cons_of_mem _ member⟩

theorem Batch.Reads.mem_zip (reads : batch.Reads setup entries) (inside : msgId ∈ batch.msgIds)
    (here : setup.frameAt entries msgId = some frame) :
    (msgId, frame) ∈ batch.msgIds.zip batch.frames := by
  obtain ⟨other, read, member⟩ := reads.exists_frame inside
  rw [here, Option.some.injEq] at read
  rw [read]
  exact member

theorem Batch.Reads.ids_nil (reads : batch.Reads setup entries) (empty : batch.frames = []) :
    batch.msgIds = [] := by
  have length := reads.length_eq
  rw [empty, List.length_nil] at length
  exact List.length_eq_zero_iff.mp length

end Reads

/-- The entries a worker was given and has neither had stored nor put aside. -/
def Pc.held : Pc F → List Nat
  | .handling messages batch => batch.msgIds ++ messages.map Prod.fst
  | .ackingBad msgId messages batch => batch.msgIds ++ msgId :: messages.map Prod.fst
  | .storing batch => batch.msgIds
  | _ => []

def State.held (state : State B F) (b : B) : List Nat := (state.buffer b).pc.held

/-- What a worker knows of its entries is what stands in the stream. -/
def Pc.Consistent (setup : Setup B F) (entries : List Fields) : Pc F → Prop
  | .handling messages batch => batch.Reads setup entries ∧
      ∀ message ∈ messages, entries[message.1]? = some message.2
  | .ackingBad msgId messages batch => batch.Reads setup entries ∧
      (∀ message ∈ messages, entries[message.1]? = some message.2) ∧
      ∃ fields, entries[msgId]? = some fields ∧ (setup.decode fields).frame? = none
  | .storing batch => batch.Reads setup entries ∧ batch.frames ≠ []
  | .ackingBatch batch => batch.Reads setup entries
  | _ => True

theorem Pc.Consistent.append {setup : Setup B F} {entries extra : List Fields} {pc : Pc F}
    (consistent : pc.Consistent setup entries) : pc.Consistent setup (entries ++ extra) := by
  cases pc with
  | handling messages batch =>
      exact ⟨consistent.1.append, fun message inside => fields_append (consistent.2 message inside)⟩
  | ackingBad msgId messages batch =>
      obtain ⟨reads, present, fields, found, bad⟩ := consistent
      exact ⟨reads.append, fun message inside => fields_append (present message inside), fields,
        fields_append found, bad⟩
  | storing batch => exact ⟨consistent.1.append, consistent.2⟩
  | ackingBatch batch => exact Batch.Reads.append consistent
  | _ => trivial

/-- The consistency of a whole state in which the consumer group exists. -/
structure State.Consistent (setup : Setup B F) (state : State B F) : Prop where
  workers : ∀ b, (state.buffer b).pc.Consistent setup state.entries
  stored : ∀ batch ∈ state.stored, batch.Reads setup state.entries
  group : ∃ next ≤ state.entries.length, state.group = some next

theorem loop_held (buffer : Buffer F) : buffer.loop.held = [] := by
  unfold Buffer.loop
  split <;> rfl

theorem loop_consistent (setup : Setup B F) (entries : List Fields) (buffer : Buffer F) :
    buffer.loop.Consistent setup entries := by
  unfold Buffer.loop
  split <;> trivial

theorem held_of_pc {state : State B F} {b : B} {pc : Pc F} (here : (state.buffer b).pc = pc) :
    state.held b = pc.held := by
  rw [State.held, here]

/-- `_ensure_consumer_group` changes nothing where the group exists. -/
theorem created_group {setup : Setup B F} {state : State B F}
    (consistent : state.Consistent setup) : state.created.group = state.group := by
  obtain ⟨next, _, group⟩ := consistent.group
  rw [State.created, group]
  rfl

theorem undelivered_ids (state : State B F) (next count : Nat) :
    (state.undelivered next count).map Prod.fst =
      List.range' next (state.undelivered next count).length := by
  have firsts : (Prod.fst ∘ Prod.swap : Fields × Nat → Nat) = Prod.snd := rfl
  rw [State.undelivered, List.map_map, firsts, List.zipIdx_map_snd, List.length_map,
    List.length_zipIdx]

theorem mem_undelivered {state : State B F} {next count : Nat} {message : Nat × Fields}
    (inside : message ∈ state.undelivered next count) :
    state.entries[message.1]? = some message.2 := by
  obtain ⟨⟨fields, msgId⟩, member, rfl⟩ := List.mem_map.mp inside
  obtain ⟨above, found⟩ := List.mem_zipIdx_iff_le_and_getElem?_sub.mp member
  dsimp only at above found
  have place : next + (msgId - next) = msgId := by omega
  rw [List.getElem?_take] at found
  split at found
  · rw [List.getElem?_drop, place] at found
    exact found
  · cases found

theorem undelivered_length_le (state : State B F) (next count : Nat)
    (bound : next ≤ state.entries.length) :
    next + (state.undelivered next count).length ≤ state.entries.length := by
  rw [State.undelivered, List.length_map, List.length_zipIdx, List.length_take, List.length_drop]
  omega

section Effects

variable [DecidableEq B]

theorem buffer_setBuffer (state : State B F) (b : B) (buffer : Buffer F) (c : B) :
    (state.setBuffer b buffer).buffer c = if c = b then buffer else state.buffer c :=
  Function.update_apply _ _ _ _

theorem buffer_setBuffer_self (state : State B F) (b : B) (buffer : Buffer F) :
    (state.setBuffer b buffer).buffer b = buffer := by
  rw [buffer_setBuffer, if_pos rfl]

theorem buffer_setBuffer_of_ne (state : State B F) {b c : B} (differs : c ≠ b)
    (buffer : Buffer F) : (state.setBuffer b buffer).buffer c = state.buffer c := by
  rw [buffer_setBuffer, if_neg differs]

/-- A buffer keeps what it has, unless the step is about it and gives it that. -/
theorem buffer_of_setBuffer {state : State B F} (property : Buffer F → Prop) {b : B}
    (here : property (state.buffer b)) {mid : State B F} (c : B) (buffer : Buffer F)
    (others : mid.buffer = state.buffer) (mine : c = b → property buffer) :
    property ((mid.setBuffer c buffer).buffer b) := by
  by_cases same : b = c
  · subst same
    rw [buffer_setBuffer_self]
    exact mine rfl
  · rw [buffer_setBuffer_of_ne mid same, others]
    exact here

theorem held_setBuffer (state : State B F) (b : B) (buffer : Buffer F) (c : B) :
    (state.setBuffer b buffer).held c = if c = b then buffer.pc.held else state.held c := by
  change (Function.update state.buffer b buffer c).pc.held = _
  rw [Function.update_apply]
  split <;> rfl

theorem held_setPc (state : State B F) (b : B) (pc : Pc F) (c : B) :
    (state.setPc b pc).held c = if c = b then pc.held else state.held c :=
  held_setBuffer state b _ c

theorem held_same {state : State B F} {b : B} {buffer : Buffer F}
    (same : buffer.pc.held = state.held b) (c : B) :
    (state.setBuffer b buffer).held c = state.held c := by
  rw [held_setBuffer, same]
  split
  · rename_i here
    rw [here]
  · rfl

/-- The entries an event takes out of the hands of a worker, or out of the stream, without
anyone having them afterwards. -/
def Setup.atStake (setup : Setup B F) (state : State B F) : Event B F → List Nat
  | .store b false | .cancel b | .crash b | .xack b .lost | .xack b .refused => state.held b
  | .handle b =>
      match (state.buffer b).pc with
      | .handling ((_, fields) :: _) _ =>
          match setup.decode fields with
          | .undecodable => state.held b
          | _ => []
      | _ => []
  | .read b .lost =>
      match state.group with
      | some next => (state.undelivered next (setup.count b)).map Prod.fst
      | none => []
  | _ => []

/-- What a step can do to the entries in hand and to those that are stored. -/
inductive Effect (setup : Setup B F) (state : State B F) (event : Event B F)
    (after : State B F) : Prop where
  | keep (extra : List Fields) (entries : after.entries = state.entries ++ extra)
      (group : after.group = state.group) (stored : after.stored = state.stored)
      (held : ∀ c, after.held c = state.held c) (calm : setup.atStake state event = [])
  | take (b : B) (next count : Nat) (entries : after.entries = state.entries)
      (before : state.group = some next) (group : after.group = some (next + count))
      (bound : next + count ≤ state.entries.length) (stored : after.stored = state.stored)
      (held : ∀ c, after.held c = if c = b then List.range' next count else state.held c)
      (free : state.held b = []) (calm : setup.atStake state event = [])
  | miss (next count : Nat) (entries : after.entries = state.entries)
      (before : state.group = some next) (group : after.group = some (next + count))
      (bound : next + count ≤ state.entries.length) (stored : after.stored = state.stored)
      (held : ∀ c, after.held c = state.held c)
      (stake : setup.atStake state event = List.range' next count)
  | discard (b : B) (msgId : Nat) (front back : List Nat)
      (entries : after.entries = state.entries) (group : after.group = state.group)
      (stored : after.stored = state.stored)
      (held : ∀ c, after.held c = if c = b then front ++ back else state.held c)
      (before : state.held b = front ++ msgId :: back)
      (bad : setup.frameAt state.entries msgId = none) (calm : setup.atStake state event = [])
  | save (b : B) (batch : Batch F) (entries : after.entries = state.entries)
      (group : after.group = state.group) (stored : after.stored = state.stored ++ [batch])
      (held : ∀ c, after.held c = if c = b then [] else state.held c)
      (before : state.held b = batch.msgIds) (calm : setup.atStake state event = [])
  | drop (b : B) (entries : after.entries = state.entries) (group : after.group = state.group)
      (stored : after.stored = state.stored)
      (held : ∀ c, after.held c = if c = b then [] else state.held c)
      (stake : setup.atStake state event = state.held b)

variable {setup : Setup B F} {state after : State B F}

/-- A step that only moves a worker from one place to another with the same entries in hand. -/
theorem Effect.move {event : Event B F} (b : B) (buffer : Buffer F)
    (same : buffer.pc.held = state.held b) (calm : setup.atStake state event = []) :
    Effect setup state event (state.setBuffer b buffer) :=
  .keep [] (List.append_nil _).symm rfl rfl (held_same same) calm

theorem read_effect (consistent : state.Consistent setup) (b : B) (outcome : Outcome)
    (waiting : (state.buffer b).pc = .reading) :
    Effect setup state (.read b outcome) (setup.read state b outcome) := by
  have free : state.held b = [] := by rw [State.held, waiting]; rfl
  obtain ⟨next, bound, group⟩ := consistent.group
  have limit := undelivered_length_le state next (setup.count b) bound
  have ids := undelivered_ids state next (setup.count b)
  cases outcome with
  | ok =>
      unfold Setup.read
      simp only [group]
      refine .take b next _ rfl group rfl limit rfl ?_ free rfl
      intro c
      rw [held_setPc, Pc.held, ids]
      rfl
  | lost =>
      unfold Setup.read
      simp only [group]
      refine .miss next _ rfl group rfl limit rfl ?_ ?_
      · exact held_same free.symm
      · simp only [Setup.atStake, group, ids]
  | refused =>
      unfold Setup.read
      exact .move b _ free.symm rfl

theorem handle_effect (consistent : state.Consistent setup) (b : B)
    {messages : List (Nat × Fields)} {batch : Batch F}
    (here : (state.buffer b).pc = .handling messages batch) :
    Effect setup state (.handle b) (setup.handle state b messages batch) := by
  have hand : state.held b = batch.msgIds ++ messages.map Prod.fst := by
    rw [State.held, here]
    rfl
  have known := consistent.workers b
  rw [here] at known
  cases messages with
  | nil =>
      have calm : setup.atStake state (.handle b) = [] := by
        simp only [Setup.atStake, here]
      rw [List.map_nil, List.append_nil] at hand
      unfold Setup.handle State.collected
      dsimp only
      split
      · rename_i empty
        rw [known.1.ids_nil empty] at hand
        exact .move b _ ((loop_held _).trans hand.symm) calm
      · exact .keep [] (List.append_nil _).symm rfl rfl (held_same hand.symm) calm
  | cons message rest =>
      obtain ⟨msgId, fields⟩ := message
      unfold Setup.handle
      dsimp only
      cases decoded : setup.decode fields with
      | frame frame =>
          refine .move b _ ?_ (by simp only [Setup.atStake, here, decoded])
          rw [hand, Pc.held, List.map_cons, List.append_assoc]
          rfl
      | undecodable =>
          refine .drop b rfl rfl rfl ?_ (by simp only [Setup.atStake, here, decoded])
          exact held_setPc state b .failed
      | missing =>
          refine .move b _ ?_ (by simp only [Setup.atStake, here, decoded])
          exact hand.symm
      | invalid =>
          refine .move b _ ?_ (by simp only [Setup.atStake, here, decoded])
          exact hand.symm

/-- Every step has one of the effects. -/
theorem step_effect (consistent : state.Consistent setup) {event : Event B F}
    (stepped : setup.step state event = some after) : Effect setup state event after := by
  have nothing := (List.append_nil state.entries).symm
  cases step_cases stepped with
  | foreign fields => exact .keep [fields] rfl rfl rfl (fun _ => rfl) rfl
  | publish b frames _ => exact .keep (frames.map setup.written) rfl rfl rfl (held_same rfl) rfl
  | counted b frames _ => exact .move b _ rfl rfl
  | start b pc =>
      refine .move b _ ?_ rfl
      rcases pc with pc | pc | pc <;> exact (held_of_pc pc).symm
  | created b pc =>
      exact .keep [] nothing (created_group consistent) rfl (held_same (held_of_pc pc).symm) rfl
  | createdLost b pc =>
      exact .keep [] nothing (created_group consistent) rfl (held_same (held_of_pc pc).symm) rfl
  | createRefused b pc => exact .move b _ (held_of_pc pc).symm rfl
  | resume b pc =>
      refine .move b _ ?_ rfl
      rcases pc with pc | pc <;> exact (loop_held _).trans (held_of_pc pc).symm
  | read b outcome pc => exact read_effect consistent b outcome pc
  | handle b messages batch pc => exact handle_effect consistent b pc
  | ackedBad b msgId messages batch pc =>
      have known := consistent.workers b
      rw [pc] at known
      obtain ⟨_, _, fields, found, bad⟩ := known
      refine .discard b msgId batch.msgIds (messages.map Prod.fst) rfl rfl rfl ?_
        (held_of_pc pc) (by rw [frameAt_of_fields found, bad]) rfl
      exact held_setPc _ b _
  | ackedBatch b batch pc =>
      refine .keep [] nothing rfl rfl ?_ rfl
      exact held_same ((loop_held _).trans (held_of_pc pc).symm)
  | ackLost b msgIds _ => exact .drop b rfl rfl rfl (held_setPc _ b .failed) rfl
  | ackRefused b _ => exact .drop b rfl rfl rfl (held_setPc _ b .failed) rfl
  | stored b batch pc => exact .save b batch rfl rfl rfl (held_setPc _ b _) (held_of_pc pc) rfl
  | storeFailed b batch pc =>
      refine .drop b rfl rfl rfl ?_ rfl
      intro c
      rw [held_setPc, loop_held]
  | stop b _ => exact .move b _ rfl rfl
  | cancelReading b pc => exact .drop b rfl rfl rfl (held_setPc _ b _) rfl
  | cancel b _ _ => exact .drop b rfl rfl rfl (held_setPc _ b _) rfl
  | crash b => exact .drop b rfl rfl rfl (held_setBuffer _ b _) rfl

end Effects

end RagDrift.Ingestion
