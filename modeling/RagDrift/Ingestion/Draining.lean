import RagDrift.Ingestion.Acknowledged

set_option autoImplicit false

/- What `stop_worker` waits for: the loop looks at the stop flag only between two reads. -/
namespace RagDrift.Ingestion

open Transition (run run_append run_cons run_invariant_of_meets meets_of_forall)

variable {B F : Type} {setup : Setup B F} {state after : State B F}

/-- The entries a worker deals with before it looks at the stop flag again: those in its hands,
and those an outstanding read will return. -/
def Pc.owed (setup : Setup B F) (b : B) (given : Nat) : Pc F → List Nat
  | .reading => List.range' given (setup.count b)
  | .handling messages batch => batch.msgIds ++ messages.map Prod.fst
  | .ackingBad _ messages batch => batch.msgIds ++ messages.map Prod.fst
  | .storing batch | .ackingBatch batch => batch.msgIds
  | _ => []

def State.owed (setup : Setup B F) (state : State B F) (b : B) : List Nat :=
  (state.buffer b).pc.owed setup b state.given

/-- An entry is stored and acknowledged. -/
def State.Drained (state : State B F) (msgId : Nat) : Prop :=
  msgId ∈ state.storedIds ∧ msgId ∈ state.acked

/-- An entry is stored and acknowledged, or the worker will still deal with it. -/
def State.Promised (setup : Setup B F) (b : B) (state : State B F) (msgId : Nat) : Prop :=
  state.Drained msgId ∨ msgId ∈ state.owed setup b

theorem loop_of_stopped {buffer : Buffer F} (stopped : buffer.stopped = true) :
    buffer.loop = .finished := by
  rw [Buffer.loop, if_pos stopped]

/-- Only one buffer consumes the stream. -/
def Event.SoleConsumer (b : B) : Event B F → Prop
  | .start c => c = b
  | _ => True

/-- Nobody starts a worker. -/
def Event.NoStart : Event B F → Prop
  | .start _ => False
  | _ => True

theorem Event.NoStart.ne {event : Event B F} (noStart : event.NoStart) (b : B) :
    event ≠ .start b := by
  rintro rfl
  exact noStart

theorem Event.Healthy.not_crash {event : Event B F} (healthy : event.Healthy) (b : B) :
    event ≠ .crash b := by
  rintro rfl
  exact healthy

/-- No other buffer has a worker. -/
def State.Sole (state : State B F) (b : B) : Prop := ∀ c, c ≠ b → (state.buffer c).pc = .idle

theorem State.Sole.eq_of_pc {b c : B} (sole : state.Sole b) {pc : Pc F}
    (here : (state.buffer c).pc = pc) (busy : pc ≠ .idle) : c = b := by
  by_contra differs
  exact busy (here.symm.trans (sole c differs))

variable [DecidableEq B]

/-- Every step touches one buffer at most, and a worker that is idle stays so until it is
started. -/
theorem step_local {event : Event B F} (stepped : setup.step state event = some after) :
    after.buffer = state.buffer ∨ ∃ c, (∀ d, d ≠ c → after.buffer d = state.buffer d) ∧
      ((after.buffer c).pc = (state.buffer c).pc ∨ (state.buffer c).pc ≠ .idle ∨
        (after.buffer c).pc = .idle ∨ event = .start c) := by
  have others (mid : State B F) (c : B) (buffer : Buffer F) (d : B) (differs : d ≠ c) :
      (mid.setBuffer c buffer).buffer d = mid.buffer d :=
    buffer_setBuffer_of_ne mid differs buffer
  have busy {c : B} {pc : Pc F} (here : (state.buffer c).pc = pc) (working : pc ≠ .idle) :
      (state.buffer c).pc ≠ .idle := here ▸ working
  have running {c : B} (here : (state.buffer c).pc.running = true) :
      (state.buffer c).pc ≠ .idle := by
    intro idle
    rw [idle] at here
    cases here
  cases step_cases stepped with
  | foreign fields => exact Or.inl rfl
  | publish c frames _ =>
      exact Or.inr ⟨c, others _ c _, Or.inl (by rw [buffer_setBuffer_self])⟩
  | counted c frames _ =>
      exact Or.inr ⟨c, others _ c _, Or.inl (by rw [buffer_setBuffer_self])⟩
  | start c _ => exact Or.inr ⟨c, others _ c _, Or.inr (Or.inr (Or.inr rfl))⟩
  | created c pc => exact Or.inr ⟨c, others _ c _, Or.inr (Or.inl (busy pc nofun))⟩
  | createdLost c pc => exact Or.inr ⟨c, others _ c _, Or.inr (Or.inl (busy pc nofun))⟩
  | createRefused c pc => exact Or.inr ⟨c, others _ c _, Or.inr (Or.inl (busy pc nofun))⟩
  | resume c pc =>
      have working : (state.buffer c).pc ≠ .idle := by
        rcases pc with here | here <;> exact busy here nofun
      exact Or.inr ⟨c, others _ c _, Or.inr (Or.inl working)⟩
  | read c outcome pc =>
      refine Or.inr ⟨c, ?_, Or.inr (Or.inl (busy pc nofun))⟩
      unfold Setup.read
      split <;> exact others _ c _
  | handle c messages batch pc =>
      refine Or.inr ⟨c, ?_, Or.inr (Or.inl (busy pc nofun))⟩
      unfold Setup.handle State.collected
      split
      · split <;> exact others _ c _
      · split <;> exact others _ c _
  | ackedBad c msgId messages batch pc =>
      exact Or.inr ⟨c, others _ c _, Or.inr (Or.inl (busy pc nofun))⟩
  | ackedBatch c batch pc => exact Or.inr ⟨c, others _ c _, Or.inr (Or.inl (busy pc nofun))⟩
  | ackLost c msgIds pc =>
      have working : (state.buffer c).pc ≠ .idle := by
        rcases pc with ⟨_, _, _, here, _⟩ | ⟨_, here, _⟩ <;> exact busy here nofun
      exact Or.inr ⟨c, others _ c _, Or.inr (Or.inl working)⟩
  | ackRefused c pc =>
      have working : (state.buffer c).pc ≠ .idle := by
        rcases pc with ⟨_, _, _, here⟩ | ⟨_, here⟩ <;> exact busy here nofun
      exact Or.inr ⟨c, others _ c _, Or.inr (Or.inl working)⟩
  | stored c batch pc => exact Or.inr ⟨c, others _ c _, Or.inr (Or.inl (busy pc nofun))⟩
  | storeFailed c batch pc => exact Or.inr ⟨c, others _ c _, Or.inr (Or.inl (busy pc nofun))⟩
  | stop c here => exact Or.inr ⟨c, others _ c _, Or.inr (Or.inl (running here))⟩
  | cancelReading c pc => exact Or.inr ⟨c, others _ c _, Or.inr (Or.inl (busy pc nofun))⟩
  | cancel c _ here => exact Or.inr ⟨c, others _ c _, Or.inr (Or.inl (running here))⟩
  | crash c =>
      have place := congrArg Buffer.pc (buffer_setBuffer_self state c Buffer.new)
      exact Or.inr ⟨c, others _ c _, Or.inr (Or.inr (Or.inl place))⟩

theorem step_sole {b : B} (sole : state.Sole b) {event : Event B F} (only : event.SoleConsumer b)
    (stepped : setup.step state event = some after) : after.Sole b := by
  intro d differs
  rcases step_local stepped with same | ⟨c, others, here⟩
  · rw [same]
    exact sole d differs
  · by_cases moved : d = c
    · subst moved
      rcases here with same | busy | idle | rfl
      · exact same.trans (sole d differs)
      · exact absurd (sole d differs) busy
      · exact idle
      · exact absurd only differs
    · rw [others d moved]
      exact sole d differs

/-- A worker that was told to stop and may not have noticed yet. -/
structure State.Stopping (setup : Setup B F) (b : B) (state : State B F) : Prop where
  recorded : state.Recorded setup
  sole : state.Sole b
  begun : (state.buffer b).pc ≠ .idle ∧ (state.buffer b).pc ≠ .creating
  stopped : (state.buffer b).stopped = true

/-- What one step of a run without failures does to a stopping worker: unless an entry cannot be
decoded, nothing is promised or given up. -/
structure Advances (setup : Setup B F) (b : B) (state after : State B F) : Prop where
  begun : (after.buffer b).pc ≠ .idle ∧ (after.buffer b).pc ≠ .creating
  stopped : (after.buffer b).stopped = true
  promised : (after.buffer b).pc ≠ .failed → ∀ msgId frame,
    setup.frameAt state.entries msgId = some frame →
      (after.Promised setup b msgId ↔ state.Promised setup b msgId)

/-- The worker itself moves on. -/
theorem Advances.mine {b : B} {mid : State B F} {buffer : Buffer F}
    (begun : buffer.pc ≠ .idle ∧ buffer.pc ≠ .creating) (stopped : buffer.stopped = true)
    (promised : buffer.pc ≠ .failed → ∀ msgId frame,
      setup.frameAt state.entries msgId = some frame →
        (mid.Drained msgId ∨ msgId ∈ buffer.pc.owed setup b mid.given ↔
          state.Promised setup b msgId)) :
    Advances setup b state (mid.setBuffer b buffer) := by
  have here := buffer_setBuffer_self mid b buffer
  refine ⟨by rwa [here], by rwa [here], ?_⟩
  intro alive msgId frame wellFormed
  rw [here] at alive
  rw [← promised alive msgId frame wellFormed, State.Promised, State.owed, here]
  exact Iff.rfl

omit [DecidableEq B] in
/-- Something happens beside the worker. -/
theorem Advances.aside {b : B} (stopping : state.Stopping setup b)
    (pc : (after.buffer b).pc = (state.buffer b).pc)
    (stopped : (after.buffer b).stopped = (state.buffer b).stopped)
    (stored : after.stored = state.stored) (acked : after.acked = state.acked)
    (group : after.group = state.group) : Advances setup b state after := by
  refine ⟨pc ▸ stopping.begun, stopped.trans stopping.stopped, ?_⟩
  intro _ msgId frame _
  rw [State.Promised, State.Promised, State.Drained, State.Drained, State.owed, State.owed,
    storedIds_same stored, acked, given_same group, pc]

omit [DecidableEq B] in
theorem owed_of_pc {b : B} {pc : Pc F} (here : (state.buffer b).pc = pc) :
    state.owed setup b = pc.owed setup b state.given := by
  rw [State.owed, here]

/-- A stopping worker at the head of its loop is through, and had nothing left. -/
theorem loop_advances {b : B} (stopping : state.Stopping setup b)
    (nothing : state.owed setup b = []) :
    Advances setup b state (state.setPc b (state.buffer b).loop) := by
  rw [loop_of_stopped stopping.stopped]
  refine .mine ⟨nofun, nofun⟩ stopping.stopped ?_
  intro _ msgId frame _
  rw [State.Promised, nothing]
  exact Iff.rfl

theorem read_advances {b : B} (stopping : state.Stopping setup b)
    (pc : (state.buffer b).pc = .reading) :
    Advances setup b state (setup.read state b .ok) := by
  have sound := stopping.recorded.regular.sound pc nofun nofun
  obtain ⟨next, bound, group⟩ := sound.consistent.group
  unfold Setup.read
  rw [group]
  refine .mine ⟨nofun, nofun⟩ stopping.stopped ?_
  intro _ msgId frame wellFormed
  have inside := frameAt_lt wellFormed
  have given := given_of_group group
  have length : (state.undelivered next (setup.count b)).length =
      min (setup.count b) (state.entries.length - next) := by
    rw [State.undelivered, List.length_map, List.length_zipIdx, List.length_take,
      List.length_drop]
  rw [State.Promised, owed_of_pc pc, Pc.owed, Pc.owed, given, undelivered_ids, length]
  refine or_congr Iff.rfl ?_
  change msgId ∈ [] ++ _ ↔ _
  rw [List.nil_append, List.mem_range'_1, List.mem_range'_1]
  omega

theorem handle_advances {b : B} (stopping : state.Stopping setup b)
    {messages : List (Nat × Fields)} {batch : Batch F}
    (pc : (state.buffer b).pc = .handling messages batch) :
    Advances setup b state (setup.handle state b messages batch) := by
  have sound := stopping.recorded.regular.sound pc nofun nofun
  have owed : state.owed setup b = (Pc.handling messages batch).owed setup b state.given :=
    owed_of_pc pc
  have known := sound.consistent.workers b
  rw [pc] at known
  obtain ⟨reads, present⟩ := known
  cases messages with
  | nil =>
      change _ = batch.msgIds ++ [] at owed
      rw [List.append_nil] at owed
      unfold Setup.handle State.collected
      dsimp only
      split
      · rename_i empty
        exact loop_advances stopping (owed.trans (reads.ids_nil empty))
      · refine .mine (by simp) stopping.stopped ?_
        intro _ msgId frame _
        rw [State.Promised, owed]
        exact Iff.rfl
  | cons message rest =>
      obtain ⟨bad, fields⟩ := message
      have found := present (bad, fields) List.mem_cons_self
      -- An entry without a frame is put aside, so what is well formed stays in hand.
      have aside (frameless : (setup.decode fields).frame? = none) :
          Advances setup b state (state.setPc b (.ackingBad bad rest batch)) := by
        refine .mine (by simp) stopping.stopped ?_
        intro _ msgId frame wellFormed
        have differs : msgId ≠ bad := by
          rintro rfl
          rw [frameAt_of_fields found, frameless] at wellFormed
          cases wellFormed
        rw [State.Promised, owed]
        refine or_congr Iff.rfl ?_
        simp only [Pc.owed, List.map_cons, List.mem_append, List.mem_cons, differs, false_or]
      unfold Setup.handle
      dsimp only
      split
      · refine .mine (by simp) stopping.stopped ?_
        intro _ msgId frame _
        rw [State.Promised, owed]
        refine or_congr Iff.rfl ?_
        simp only [Pc.owed, List.map_cons, List.append_assoc, List.cons_append, List.nil_append]
      · exact .mine (by simp) stopping.stopped fun alive => absurd rfl alive
      · rename_i missing
        exact aside (by rw [missing]; rfl)
      · rename_i invalid
        exact aside (by rw [invalid]; rfl)

theorem ack_advances {b : B} (stopping : state.Stopping setup b) {msgId : Nat}
    {messages : List (Nat × Fields)} {batch : Batch F}
    (pc : (state.buffer b).pc = .ackingBad msgId messages batch) :
    Advances setup b state ((state.ack [msgId]).setPc b (.handling messages batch)) := by
  have sound := stopping.recorded.regular.sound pc nofun nofun
  have known := sound.consistent.workers b
  rw [pc] at known
  obtain ⟨_, _, fields, found, frameless⟩ := known
  refine .mine ⟨nofun, nofun⟩ stopping.stopped ?_
  intro _ other frame wellFormed
  have differs : other ≠ msgId := by
    rintro rfl
    rw [frameAt_of_fields found, frameless] at wellFormed
    cases wellFormed
  have acked : other ∈ (state.ack [msgId]).acked ↔ other ∈ state.acked := by
    rw [State.ack, List.mem_append, List.mem_singleton, or_iff_left differs]
  rw [State.Promised, owed_of_pc pc, State.Drained, acked]
  exact Iff.rfl

theorem ackBatch_advances {b : B} (stopping : state.Stopping setup b) {batch : Batch F}
    (pc : (state.buffer b).pc = .ackingBatch batch) :
    Advances setup b state ((state.ack batch.msgIds).setBuffer b
      { state.buffer b with
        pc := (state.buffer b).loop
        pending := (state.buffer b).pending - batch.frames.length }) := by
  rw [loop_of_stopped stopping.stopped]
  refine .mine ⟨nofun, nofun⟩ stopping.stopped ?_
  intro _ msgId frame _
  have saved := stopping.recorded.audited.acking b batch pc msgId
  have acked : msgId ∈ (state.ack batch.msgIds).acked ↔
      msgId ∈ state.acked ∨ msgId ∈ batch.msgIds := List.mem_append
  rw [State.Promised, owed_of_pc pc, State.Drained, acked]
  change msgId ∈ state.storedIds ∧ _ ∨ msgId ∈ [] ↔
    (msgId ∈ state.storedIds ∧ msgId ∈ state.acked) ∨ msgId ∈ batch.msgIds
  rw [and_or_left, and_iff_right_of_imp saved, or_iff_left List.not_mem_nil]

theorem store_advances {b : B} (stopping : state.Stopping setup b) {batch : Batch F}
    (pc : (state.buffer b).pc = .storing batch) :
    Advances setup b state (({ state with stored := state.stored ++ [batch] } :
      State B F).setPc b (.ackingBatch batch)) := by
  refine .mine ⟨nofun, nofun⟩ stopping.stopped ?_
  intro _ msgId frame _
  have saved : ({ state with stored := state.stored ++ [batch] } : State B F).storedIds =
      state.storedIds ++ batch.msgIds := storedIds_save rfl
  rw [State.Promised, owed_of_pc pc, State.Drained, saved, List.mem_append]
  change (msgId ∈ state.storedIds ∨ msgId ∈ batch.msgIds) ∧ msgId ∈ state.acked ∨
    msgId ∈ batch.msgIds ↔ (msgId ∈ state.storedIds ∧ msgId ∈ state.acked) ∨
      msgId ∈ batch.msgIds
  tauto

theorem stopping_advances {b : B} (stopping : state.Stopping setup b) {event : Event B F}
    (healthy : event.Healthy) (noStart : event.NoStart)
    (stepped : setup.step state event = some after) : Advances setup b state after := by
  have mine {c : B} {pc : Pc F} (here : (state.buffer c).pc = pc) (busy : pc ≠ .idle) : c = b :=
    stopping.sole.eq_of_pc here busy
  have beside (mid : State B F) (c : B) (buffer : Buffer F) (others : mid.buffer = state.buffer)
      (pc : buffer.pc = (state.buffer c).pc) (stopped : c = b → buffer.stopped = true) :
      ((mid.setBuffer c buffer).buffer b).pc = (state.buffer b).pc ∧
        ((mid.setBuffer c buffer).buffer b).stopped = (state.buffer b).stopped := by
    apply buffer_of_setBuffer
      (fun kept => kept.pc = (state.buffer b).pc ∧ kept.stopped = (state.buffer b).stopped)
      ⟨rfl, rfl⟩ c buffer others
    intro same
    subst same
    exact ⟨pc, (stopped rfl).trans stopping.stopped.symm⟩
  cases step_cases stepped with
  | foreign fields => exact healthy.elim
  | publish c frames _ =>
      obtain ⟨pc, stopped⟩ := beside { state with
        entries := state.entries ++ frames.map setup.written } c
        { state.buffer c with inFlight := (state.buffer c).inFlight ++ [frames.length] } rfl rfl
        fun same => same ▸ stopping.stopped
      exact .aside stopping pc stopped rfl rfl rfl
  | counted c frames _ =>
      obtain ⟨pc, stopped⟩ := beside state c
        { state.buffer c with
          inFlight := (state.buffer c).inFlight.erase frames
          pending := (state.buffer c).pending + frames } rfl rfl
        fun same => same ▸ stopping.stopped
      exact .aside stopping pc stopped rfl rfl rfl
  | start c _ => exact noStart.elim
  | created c pc =>
      obtain rfl := mine pc nofun
      exact absurd pc stopping.begun.2
  | createdLost c _ => cases healthy
  | createRefused c _ => cases healthy
  | resume c pc =>
      have working : c = b := by
        rcases pc with here | here <;> exact mine here nofun
      subst working
      refine loop_advances stopping ?_
      rcases pc with here | here <;> exact owed_of_pc here
  | read c outcome pc =>
      obtain rfl := mine pc nofun
      cases healthy
      exact read_advances stopping pc
  | handle c messages batch pc =>
      obtain rfl := mine pc nofun
      exact handle_advances stopping pc
  | ackedBad c msgId messages batch pc =>
      obtain rfl := mine pc nofun
      exact ack_advances stopping pc
  | ackedBatch c batch pc =>
      obtain rfl := mine pc nofun
      exact ackBatch_advances stopping pc
  | ackLost c msgIds _ => cases healthy
  | ackRefused c _ => cases healthy
  | stored c batch pc =>
      obtain rfl := mine pc nofun
      exact store_advances stopping pc
  | storeFailed c batch _ => cases healthy
  | stop c running =>
      obtain ⟨pc, stopped⟩ := beside state c
        { state.buffer c with stopped := true } rfl rfl fun _ => rfl
      exact .aside stopping pc stopped rfl rfl rfl
  | cancelReading c _ => exact healthy.elim
  | cancel c _ _ => exact healthy.elim
  | crash c => exact healthy.elim

theorem stopping_step {b : B} (stopping : state.Stopping setup b) {event : Event B F}
    (healthy : event.Healthy) (noStart : event.NoStart)
    (stepped : setup.step state event = some after) : after.Stopping setup b := by
  have advances := stopping_advances stopping healthy noStart stepped
  have only : event.SoleConsumer b := by
    cases event with
    | start c => exact noStart.elim
    | _ => trivial
  exact ⟨step_recorded stopping.recorded stepped, step_sole stopping.sole only stepped,
    advances.begun, advances.stopped⟩

/-- A worker that has failed stays so until it is started again. -/
theorem step_failed {b : B} (failed : (state.buffer b).pc = .failed) {event : Event B F}
    (noStart : event ≠ .start b) (noCrash : event ≠ .crash b)
    (stepped : setup.step state event = some after) : (after.buffer b).pc = .failed := by
  have kept {mid : State B F} (c : B) (buffer : Buffer F) (others : mid.buffer = state.buffer)
      (mine : c = b → buffer.pc = .failed) : ((mid.setBuffer c buffer).buffer b).pc = .failed :=
    buffer_of_setBuffer (fun buffer => buffer.pc = .failed) failed c buffer others mine
  have away {c : B} {pc : Pc F} (here : (state.buffer c).pc = pc) (alive : pc ≠ .failed) :
      c ≠ b := by
    rintro rfl
    exact alive (here.symm.trans failed)
  have halted {c : B} (running : (state.buffer c).pc.running = true) : c ≠ b := by
    rintro rfl
    rw [failed] at running
    cases running
  have moved {mid : State B F} (c : B) (buffer : Buffer F) (others : mid.buffer = state.buffer)
      (differs : c ≠ b) : ((mid.setBuffer c buffer).buffer b).pc = .failed :=
    kept c buffer others fun same => absurd same differs
  cases step_cases stepped with
  | foreign fields => exact failed
  | publish c frames _ => exact kept c _ rfl fun same => same ▸ failed
  | counted c frames _ => exact kept c _ rfl fun same => same ▸ failed
  | start c _ => exact moved c _ rfl fun same => noStart (same ▸ rfl)
  | created c pc => exact moved c _ rfl (away pc nofun)
  | createdLost c pc => exact moved c _ rfl (away pc nofun)
  | createRefused c pc => exact moved c _ rfl (away pc nofun)
  | resume c pc =>
      have differs : c ≠ b := by
        rcases pc with here | here <;> exact away here nofun
      exact moved c _ rfl differs
  | read c outcome pc =>
      unfold Setup.read
      split <;> exact moved c _ rfl (away pc nofun)
  | handle c messages batch pc =>
      unfold Setup.handle State.collected
      split
      · split <;> exact moved c _ rfl (away pc nofun)
      · split <;> exact moved c _ rfl (away pc nofun)
  | ackedBad c msgId messages batch pc => exact moved c _ rfl (away pc nofun)
  | ackedBatch c batch pc => exact moved c _ rfl (away pc nofun)
  | ackLost c msgIds _ => exact kept c _ rfl fun _ => rfl
  | ackRefused c _ => exact kept c _ rfl fun _ => rfl
  | stored c batch pc => exact moved c _ rfl (away pc nofun)
  | storeFailed c batch pc => exact moved c _ rfl (away pc nofun)
  | stop c running => exact moved c _ rfl (halted running)
  | cancelReading c pc => exact moved c _ rfl (away pc nofun)
  | cancel c _ running => exact moved c _ rfl (halted running)
  | crash c => exact moved c _ rfl fun same => noCrash (same ▸ rfl)

theorem step_entries {event : Event B F} (stepped : setup.step state event = some after) :
    ∃ extra, after.entries = state.entries ++ extra := by
  have nothing := (List.append_nil state.entries).symm
  cases step_cases stepped with
  | foreign fields => exact ⟨[fields], rfl⟩
  | publish c frames _ => exact ⟨frames.map setup.written, rfl⟩
  | read c outcome _ => exact ⟨[], (read_entries setup state c outcome).trans nothing⟩
  | handle c messages batch _ =>
      exact ⟨[], (handle_entries setup state c messages batch).trans nothing⟩
  | _ => exact ⟨[], nothing⟩

/-- Until the worker has finished, what was promised at the call stays promised, and nothing that
was there at the call is promised besides. -/
theorem run_promised {b : B} {start final : State B F} {events : List (Event B F)}
    (stopping : start.Stopping setup b)
    (healthy : ∀ event ∈ events, event.Healthy ∧ event.NoStart)
    (ran : run setup.step start events = some final)
    (alive : (final.buffer b).pc ≠ .failed) {msgId : Nat} {frame : F}
    (wellFormed : setup.frameAt start.entries msgId = some frame) :
    final.Promised setup b msgId ↔ start.Promised setup b msgId := by
  have keeps : ∀ (state : State B F) event next,
      state.Stopping setup b ∧ setup.frameAt state.entries msgId = some frame ∧
        ((state.buffer b).pc ≠ .failed →
          (state.Promised setup b msgId ↔ start.Promised setup b msgId)) →
      event.Healthy ∧ event.NoStart → setup.step state event = some next →
      next.Stopping setup b ∧ setup.frameAt next.entries msgId = some frame ∧
        ((next.buffer b).pc ≠ .failed →
          (next.Promised setup b msgId ↔ start.Promised setup b msgId)) := by
    rintro state event next ⟨stopping, wellFormed, promised⟩ ⟨healthy, noStart⟩ stepped
    obtain ⟨extra, entries⟩ := step_entries stepped
    refine ⟨stopping_step stopping healthy noStart stepped, ?_, ?_⟩
    · rw [entries]
      exact frameAt_append wellFormed
    · intro alive
      have before : (state.buffer b).pc ≠ .failed :=
        fun failed => alive (step_failed failed (noStart.ne b) (healthy.not_crash b) stepped)
      have advances := stopping_advances stopping healthy noStart stepped
      exact (advances.promised alive msgId frame wellFormed).trans (promised before)
  exact (run_invariant_of_meets keeps ⟨stopping, wellFormed, fun _ => Iff.rfl⟩
    (meets_of_forall healthy) ran).2.2 alive

/-- When `stop_worker` returns, every well-formed frame that was in the stream at the call is
stored and acknowledged if and only if each was so at the call, or was in the hands of the worker,
or among the entries its outstanding read returns. -/
theorem stop_drains_iff (setup : Setup B F) (b : B) {group : Option Nat}
    (fresh : group = none ∨ group = some 0) {front back : List (Event B F)}
    {state final : State B F} (sole : ∀ event ∈ front, event.SoleConsumer b)
    (reached : run setup.step (.init group) front = some state)
    (running : (state.buffer b).pc.running = true)
    (healthy : ∀ event ∈ back, event.Healthy ∧ event.NoStart)
    (returned : run setup.step state (.stop b :: back) = some final)
    (finished : (final.buffer b).pc = .finished) :
    (∀ msgId frame, setup.frameAt state.entries msgId = some frame →
        final.Persisted setup msgId ∧ msgId ∈ final.acked) ↔
      ∀ msgId frame, setup.frameAt state.entries msgId = some frame →
        state.Promised setup b msgId := by
  have others : state.Sole b := by
    have keeps : ∀ (state : State B F) event next, state.Sole b → event.SoleConsumer b →
        setup.step state event = some next → next.Sole b :=
      fun _ _ _ sole only stepped => step_sole sole only stepped
    exact run_invariant_of_meets keeps (fun _ _ => rfl) (meets_of_forall sole) reached
  obtain ⟨next, stepped, later⟩ := run_cons.mp returned
  have called : next = state.setBuffer b { state.buffer b with stopped := true } := by
    unfold Setup.step at stepped
    simp only [running, if_true, Option.some.injEq] at stepped
    exact stepped.symm
  have here : next.buffer b = { state.buffer b with stopped := true } := by
    rw [called, buffer_setBuffer_self]
  have begun : (next.buffer b).pc ≠ .idle ∧ (next.buffer b).pc ≠ .creating := by
    rw [here]
    constructor <;> intro pc <;> rw [show (state.buffer b).pc = _ from pc] at running <;>
      cases running
  have only : (Event.stop b : Event B F).SoleConsumer b := trivial
  have recorded := step_recorded (run_recorded fresh reached) stepped
  have stopping : next.Stopping setup b :=
    ⟨recorded, step_sole others only stepped, begun, by rw [here]⟩
  have same : ∀ msgId, next.Promised setup b msgId ↔ state.Promised setup b msgId := by
    intro msgId
    rw [State.Promised, State.Promised, State.owed, here, called]
    exact Iff.rfl
  have last := run_recorded fresh (run_append reached returned)
  have through : ∀ msgId, final.Promised setup b msgId ↔
      final.Persisted setup msgId ∧ msgId ∈ final.acked := by
    intro msgId
    rw [State.Promised, owed_of_pc finished, last.persisted_iff]
    exact or_iff_left List.not_mem_nil
  refine forall_congr' fun msgId => forall_congr' fun frame => imp_congr_right ?_
  intro wellFormed
  have there : setup.frameAt next.entries msgId = some frame := by
    rw [called]
    exact wellFormed
  rw [← through, ← same]
  exact run_promised stopping healthy later (by rw [finished]; nofun) there

/-- Frames that are their own text, one in a batch. -/
def singleSetup : Setup Unit String := ⟨id, some, fun _ => 1⟩

/-- Two frames are in the stream and the worker has the first one when it is told to stop. -/
def beforeStop : List (Event Unit String) :=
  [.start (), .createGroup () .ok, .resume (), .publish () ["first", "second"], .counted () 2,
    .read () .ok, .handle (), .handle ()]

def afterStop : List (Event Unit String) := [.store () true, .xack () .ok]

def stopCalled : Option (State Unit String) := run singleSetup.step (.init none) beforeStop

theorem stopCalled_isSome : stopCalled.isSome := by
  decide +kernel

def calledState : State Unit String := stopCalled.get stopCalled_isSome

def stopReturned : Option (State Unit String) :=
  run singleSetup.step calledState (.stop () :: afterStop)

theorem stopReturned_isSome : stopReturned.isSome := by
  decide +kernel

def returnedState : State Unit String := stopReturned.get stopReturned_isSome

theorem stop_drains_iff_two :
    (∀ msgId frame, singleSetup.frameAt calledState.entries msgId = some frame →
      returnedState.Persisted singleSetup msgId ∧ msgId ∈ returnedState.acked) ↔
        ∀ msgId frame, singleSetup.frameAt calledState.entries msgId = some frame →
          calledState.Promised singleSetup () msgId :=
  stop_drains_iff singleSetup () (Or.inl rfl) (by simp [beforeStop, Event.SoleConsumer])
    (Option.some_get stopCalled_isSome).symm (by decide +kernel)
    (by simp [afterStop, Event.Healthy, Event.NoStart])
    (Option.some_get stopReturned_isSome).symm (by decide +kernel)

/-- The worker finishes with the first frame; the second one is left in the stream. -/
theorem stop_leaves_backlog : ¬ ∀ (setup : Setup Unit String)
    (front back : List (Event Unit String)) (state final : State Unit String),
    (∀ event ∈ front ++ back, event.Healthy) → (∀ event ∈ back, event.NoStart) →
    run setup.step (.init none) front = some state →
    (state.buffer ()).pc.running = true →
    run setup.step state (.stop () :: back) = some final → (final.buffer ()).pc = .finished →
    ∀ msgId frame, setup.frameAt state.entries msgId = some frame →
      final.Persisted setup msgId ∧ msgId ∈ final.acked := by
  intro all
  have healthy : ∀ event ∈ beforeStop ++ afterStop, event.Healthy := by
    simp [beforeStop, afterStop, Event.Healthy]
  have noStart : ∀ event ∈ afterStop, event.NoStart := by
    simp [afterStop, Event.NoStart]
  have wellFormed : singleSetup.frameAt calledState.entries 1 = some "second" := by
    decide +kernel
  have drained := all singleSetup beforeStop afterStop calledState returnedState healthy noStart
    (Option.some_get stopCalled_isSome).symm (by decide +kernel)
    (Option.some_get stopReturned_isSome).symm (by decide +kernel) 1 "second" wellFormed
  have acked : returnedState.acked = [0] := by decide +kernel
  rw [acked] at drained
  exact absurd drained.2 (by decide)

end RagDrift.Ingestion
