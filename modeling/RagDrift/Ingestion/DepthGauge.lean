import RagDrift.Ingestion.Draining

set_option autoImplicit false

/- The counter behind the depth gauge: it is raised after the entries are in the stream, and
lowered, but not below zero, after they are acknowledged. -/
namespace RagDrift.Ingestion

open Transition (run Meets run_cons meets_cons meets_of_forall run_invariant_of_meets)

variable {B F : Type} {setup : Setup B F} {state after : State B F}

/-- The buffer an event is about. -/
def Event.owner : Event B F → Option B
  | .foreign _ => none
  | .publish b _ | .counted b _ | .start b | .createGroup b _ | .resume b | .read b _ | .handle b
  | .xack b _ | .store b _ | .stop b | .cancel b | .crash b => some b

/-- Only well-formed frames are enqueued. -/
def Event.WellFormed (setup : Setup B F) : Event B F → Prop
  | .publish _ frames => ∀ frame ∈ frames,
      setup.modelValidateJson (setup.modelDumpJson frame) ≠ none
  | _ => True

/-- An event of the only buffer, which does not fail. -/
structure Event.Orderly (setup : Setup B F) (b : B) (event : Event B F) : Prop where
  healthy : event.Healthy
  owner : event.owner = some b
  wellFormed : event.WellFormed setup

/-- The entries that were added and not acknowledged. -/
def State.unacked (state : State B F) : List Nat :=
  (List.range state.entries.length).filter fun msgId => msgId ∉ state.acked

/-- The frames of the `enqueue` calls that have not counted them yet. -/
def uncounted (inFlight : List Nat) : Nat := inFlight.foldr (· + ·) 0

/-- What is counted of the frames of a buffer, or will be when its `enqueue` calls go on. -/
def Buffer.accounted (buffer : Buffer F) : Nat := buffer.pending + uncounted buffer.inFlight

/-- By how much the counter is too high. -/
def State.surplus (state : State B F) (b : B) : Int :=
  (state.buffer b).accounted + state.acked.length - state.entries.length

/-- The flush of a batch that is larger than the counter. -/
def Clamps (b : B) (state : State B F) : Event B F → Prop
  | .xack c outcome => c = b ∧ outcome = .ok ∧ ∃ batch,
      (state.buffer b).pc = .ackingBatch batch ∧ (state.buffer b).pending < batch.frames.length
  | _ => False

theorem uncounted_append (inFlight : List Nat) (size : Nat) :
    uncounted (inFlight ++ [size]) = uncounted inFlight + size := by
  induction inFlight with
  | nil => simp [uncounted]
  | cons first rest ih =>
      simp only [uncounted, List.cons_append, List.foldr_cons] at ih ⊢
      omega

theorem uncounted_erase {inFlight : List Nat} {size : Nat} (flying : size ∈ inFlight) :
    size + uncounted (inFlight.erase size) = uncounted inFlight := by
  induction inFlight with
  | nil => cases flying
  | cons first rest ih =>
      by_cases same : first = size
      · rw [same, List.erase_cons_head]
        rfl
      · rw [List.erase_cons_tail (by simpa using same)]
        have later := ih ((List.mem_cons.mp flying).resolve_left (Ne.symm same))
        simp only [uncounted, List.foldr_cons] at later ⊢
        omega

/-- What holds of every state of such a run. -/
structure State.Gauged (setup : Setup B F) (b : B) (state : State B F) : Prop where
  recorded : state.Recorded setup
  framed : ∀ fields ∈ state.entries, (setup.decode fields).frame? ≠ none
  once : state.acked.Nodup
  saved : ∀ msgId ∈ state.acked, msgId ∈ state.storedIds
  acking : ∀ batch, (state.buffer b).pc = .ackingBatch batch →
    batch.msgIds.Nodup ∧ ∀ msgId ∈ batch.msgIds, msgId ∉ state.acked

theorem State.Gauged.sound {b c : B} (gauged : state.Gauged setup b) {pc : Pc F}
    (here : (state.buffer c).pc = pc) (idle : pc ≠ .idle) (creating : pc ≠ .creating) :
    state.Sound setup :=
  gauged.recorded.regular.sound here idle creating

/-- No entry is put aside as a bad one. -/
theorem State.Gauged.not_bad {b c : B} (gauged : state.Gauged setup b) {msgId : Nat}
    {messages : List (Nat × Fields)} {batch : Batch F}
    (pc : (state.buffer c).pc = .ackingBad msgId messages batch) : False := by
  have known := (gauged.sound pc nofun nofun).consistent.workers c
  rw [pc] at known
  obtain ⟨_, _, fields, found, frameless⟩ := known
  exact gauged.framed fields (List.mem_of_getElem? found) frameless

/-- The acknowledged entries are distinct entries of the stream, so the others are as many as
are left. -/
theorem State.Gauged.unacked_length {b : B} (gauged : state.Gauged setup b) :
    state.unacked.length + state.acked.length = state.entries.length := by
  have inside : ∀ msgId ∈ state.acked, msgId < state.entries.length := by
    intro msgId acked
    rcases gauged.recorded.regular with unstarted | sound
    · rw [unstarted.acked] at acked
      cases acked
    · obtain ⟨next, bound, group⟩ := sound.consistent.group
      have below := sound.exclusive.stored msgId (gauged.saved msgId acked)
      rw [given_of_group group] at below
      omega
  have same : ((List.range state.entries.length).filter fun msgId => msgId ∈ state.acked).length =
      state.acked.length := by
    refine List.Perm.length_eq ((List.perm_ext_iff_of_nodup ?_ gauged.once).mpr ?_)
    · exact List.nodup_range.filter _
    · intro msgId
      rw [List.mem_filter, List.mem_range, decide_eq_true_iff]
      exact ⟨And.right, fun acked => ⟨inside msgId acked, acked⟩⟩
  have split := List.length_eq_length_filter_add (l := List.range state.entries.length)
    fun msgId => decide (msgId ∈ state.acked)
  simp only [← decide_not] at split
  rw [same, List.length_range] at split
  rw [State.unacked, Nat.add_comm]
  exact split.symm

theorem State.Gauged.keep {b : B} (gauged : state.Gauged setup b) (recorded : after.Recorded setup)
    (framed : ∀ fields ∈ after.entries, (setup.decode fields).frame? ≠ none)
    (acked : after.acked = state.acked) (stored : state.storedIds ⊆ after.storedIds)
    (acking : ∀ batch, (after.buffer b).pc = .ackingBatch batch →
      (state.buffer b).pc = .ackingBatch batch) : after.Gauged setup b := by
  refine ⟨recorded, framed, acked ▸ gauged.once, ?_, ?_⟩
  · intro msgId inside
    rw [acked] at inside
    exact stored (gauged.saved msgId inside)
  · intro batch here
    rw [acked]
    exact gauged.acking batch (acking batch here)

theorem init_gauged {group : Option Nat} (fresh : group = none ∨ group = some 0) (b : B) :
    (State.init group : State B F).Gauged setup b :=
  ⟨init_recorded fresh, nofun, List.nodup_nil, nofun, nofun⟩

section Steps

variable [DecidableEq B]

omit [DecidableEq B] in
theorem publish_framed {b : B} (gauged : state.Gauged setup b) {frames : List F}
    (wellFormed : ∀ frame ∈ frames, setup.modelValidateJson (setup.modelDumpJson frame) ≠ none) :
    ∀ fields ∈ state.entries ++ frames.map setup.written,
      (setup.decode fields).frame? ≠ none := by
  intro fields inside
  rcases List.mem_append.mp inside with old | new
  · exact gauged.framed fields old
  · obtain ⟨frame, member, rfl⟩ := List.mem_map.mp new
    rw [decode_written, validated_frame?]
    exact wellFormed frame member

theorem read_gauged {b : B} (gauged : state.Gauged setup b) {outcome : Outcome}
    (recorded : (setup.read state b outcome).Recorded setup) :
    (setup.read state b outcome).Gauged setup b := by
  refine gauged.keep recorded (by rw [read_entries]; exact gauged.framed) ?_ ?_ ?_
  · unfold Setup.read
    split <;> rfl
  · unfold Setup.read
    split <;> exact List.Subset.refl _
  · intro batch here
    unfold Setup.read at here
    split at here <;> rw [State.setPc, buffer_setBuffer_self] at here <;> cases here

theorem handle_gauged {b : B} (gauged : state.Gauged setup b) {messages : List (Nat × Fields)}
    {batch : Batch F} (recorded : (setup.handle state b messages batch).Recorded setup) :
    (setup.handle state b messages batch).Gauged setup b := by
  refine gauged.keep recorded (by rw [handle_entries]; exact gauged.framed) ?_ ?_ ?_
  · unfold Setup.handle State.collected
    split
    · split <;> rfl
    · split <;> rfl
  · unfold Setup.handle State.collected
    split
    · split <;> exact List.Subset.refl _
    · split <;> exact List.Subset.refl _
  · intro other here
    unfold Setup.handle State.collected at here
    split at here
    · split at here
      · rw [State.setPc, buffer_setBuffer_self] at here
        exact (loop_not_acking here).elim
      · rw [State.setPc, buffer_setBuffer_self] at here
        cases here
    · split at here <;> rw [State.setPc, buffer_setBuffer_self] at here <;> cases here

/-- The entries of a stored batch are acknowledged together, each for the first time. -/
theorem ackBatch_gauged {b : B} (gauged : state.Gauged setup b) {batch : Batch F}
    (pc : (state.buffer b).pc = .ackingBatch batch) {buffer : Buffer F}
    (working : ∀ other, buffer.pc ≠ .ackingBatch other)
    (recorded : ((state.ack batch.msgIds).setBuffer b buffer).Recorded setup) :
    ((state.ack batch.msgIds).setBuffer b buffer).Gauged setup b := by
  obtain ⟨distinct, fresh⟩ := gauged.acking batch pc
  refine ⟨recorded, gauged.framed, ?_, ?_, ?_⟩
  · refine List.nodup_append.mpr ⟨gauged.once, distinct, ?_⟩
    rintro msgId old other mine rfl
    exact fresh msgId mine old
  · intro msgId inside
    rcases List.mem_append.mp inside with old | new
    · exact gauged.saved msgId old
    · exact gauged.recorded.audited.acking b batch pc msgId new
  · intro other here
    rw [buffer_setBuffer_self] at here
    exact absurd here (working other)

theorem store_gauged {b : B} (gauged : state.Gauged setup b) {batch : Batch F}
    (pc : (state.buffer b).pc = .storing batch)
    (recorded : (({ state with stored := state.stored ++ [batch] } : State B F).setPc b
      (.ackingBatch batch)).Recorded setup) :
    (({ state with stored := state.stored ++ [batch] } : State B F).setPc b
      (.ackingBatch batch)).Gauged setup b := by
  have sound := gauged.sound pc nofun nofun
  have hand : state.held b = batch.msgIds := held_of_pc pc
  refine ⟨recorded, gauged.framed, gauged.once, ?_, ?_⟩
  · intro msgId inside
    have saved : (({ state with stored := state.stored ++ [batch] } : State B F).setPc b
        (.ackingBatch batch)).storedIds = state.storedIds ++ batch.msgIds := storedIds_save rfl
    rw [saved]
    exact List.mem_append_left _ (gauged.saved msgId inside)
  · intro other here
    rw [State.setPc, buffer_setBuffer_self] at here
    obtain rfl : batch = other := by simpa using here
    refine ⟨hand ▸ gauged.recorded.distinct.held b, ?_⟩
    intro msgId mine acked
    exact sound.exclusive.unsaved b msgId (hand ▸ mine) (gauged.saved msgId acked)

theorem step_gauged {b : B} (gauged : state.Gauged setup b) {event : Event B F}
    (orderly : event.Orderly setup b) (stepped : setup.step state event = some after) :
    after.Gauged setup b := by
  have recorded := step_recorded gauged.recorded stepped
  have moved {mid : State B F} {buffer : Buffer F} {batch : Batch F}
      (here : ((mid.setBuffer b buffer).buffer b).pc = .ackingBatch batch)
      (working : buffer.pc ≠ .ackingBatch batch) : (state.buffer b).pc = .ackingBatch batch := by
    rw [buffer_setBuffer_self] at here
    exact absurd here working
  have kept {mid : State B F} {buffer : Buffer F} {batch : Batch F}
      (here : ((mid.setBuffer b buffer).buffer b).pc = .ackingBatch batch)
      (same : buffer.pc = (state.buffer b).pc) : (state.buffer b).pc = .ackingBatch batch := by
    rw [buffer_setBuffer_self, same] at here
    exact here
  obtain ⟨healthy, owner, wellFormed⟩ := orderly
  cases step_cases stepped with
  | foreign fields => cases owner
  | publish c frames _ =>
      cases owner
      exact gauged.keep recorded (publish_framed gauged wellFormed) rfl (List.Subset.refl _)
        fun _ here => kept here rfl
  | counted c frames _ =>
      cases owner
      exact gauged.keep recorded gauged.framed rfl (List.Subset.refl _) fun _ here => kept here rfl
  | start c _ =>
      cases owner
      exact gauged.keep recorded gauged.framed rfl (List.Subset.refl _)
        fun _ here => moved here nofun
  | created c _ =>
      cases owner
      exact gauged.keep recorded gauged.framed rfl (List.Subset.refl _)
        fun _ here => moved here nofun
  | createdLost c _ => cases healthy
  | createRefused c _ => cases healthy
  | resume c _ =>
      cases owner
      exact gauged.keep recorded gauged.framed rfl (List.Subset.refl _)
        fun _ here => moved here fun acking => loop_not_acking acking
  | read c outcome _ =>
      cases owner
      exact read_gauged gauged recorded
  | handle c messages batch _ =>
      cases owner
      exact handle_gauged gauged recorded
  | ackedBad c msgId messages batch pc => exact (gauged.not_bad pc).elim
  | ackedBatch c batch pc =>
      cases owner
      exact ackBatch_gauged gauged pc (fun other here => loop_not_acking here) recorded
  | ackLost c msgIds _ => cases healthy
  | ackRefused c _ => cases healthy
  | stored c batch pc =>
      cases owner
      exact store_gauged gauged pc recorded
  | storeFailed c batch _ => cases healthy
  | stop c _ =>
      cases owner
      exact gauged.keep recorded gauged.framed rfl (List.Subset.refl _) fun _ here => kept here rfl
  | cancelReading c _ => exact healthy.elim
  | cancel c _ _ => exact healthy.elim
  | crash c => exact healthy.elim

theorem surplus_setBuffer (state : State B F) (b : B) (buffer : Buffer F) :
    (state.setBuffer b buffer).surplus b =
      buffer.accounted + state.acked.length - state.entries.length := by
  rw [State.surplus, buffer_setBuffer_self]
  rfl

/-- A step that only moves the worker leaves the surplus. -/
theorem surplus_setPc {b : B} {mid : State B F} (pc : Pc F) (others : mid.buffer = state.buffer)
    (acked : mid.acked = state.acked) (entries : mid.entries = state.entries) :
    (mid.setPc b pc).surplus b = state.surplus b := by
  rw [State.setPc, surplus_setBuffer, State.surplus, others, acked, entries]
  rfl

theorem handle_surplus (b : B) (messages : List (Nat × Fields)) (batch : Batch F) :
    (setup.handle state b messages batch).surplus b = state.surplus b := by
  unfold Setup.handle State.collected
  split
  · split <;> exact surplus_setPc _ rfl rfl rfl
  · split <;> exact surplus_setPc _ rfl rfl rfl

theorem read_surplus (b : B) (outcome : Outcome) :
    (setup.read state b outcome).surplus b = state.surplus b := by
  unfold Setup.read
  split <;> exact surplus_setPc _ rfl rfl rfl

omit [DecidableEq B] in
/-- As many frames as entries are in a batch that is being acknowledged. -/
theorem State.Gauged.batch_length {b c : B} (gauged : state.Gauged setup b) {batch : Batch F}
    (pc : (state.buffer c).pc = .ackingBatch batch) :
    batch.msgIds.length = batch.frames.length := by
  have known := (gauged.sound pc nofun nofun).consistent.workers c
  rw [pc] at known
  exact List.Forall₂.length_eq known

theorem ackBatch_surplus {b : B} (gauged : state.Gauged setup b) {batch : Batch F}
    (pc : (state.buffer b).pc = .ackingBatch batch) (next : Pc F) :
    ((state.ack batch.msgIds).setBuffer b { state.buffer b with
      pc := next
      pending := (state.buffer b).pending - batch.frames.length }).surplus b =
      state.surplus b + (batch.frames.length - (state.buffer b).pending : Nat) := by
  have length := gauged.batch_length pc
  rw [surplus_setBuffer, State.surplus, State.ack, List.length_append, length]
  simp only [Buffer.accounted]
  omega

theorem step_surplus {b : B} (gauged : state.Gauged setup b) {event : Event B F}
    (orderly : event.Orderly setup b) (calm : ¬ Clamps b state event)
    (stepped : setup.step state event = some after) : after.surplus b = state.surplus b := by
  obtain ⟨healthy, owner, _⟩ := orderly
  cases step_cases stepped with
  | foreign fields => cases owner
  | publish c frames _ =>
      cases owner
      rw [surplus_setBuffer, State.surplus, List.length_append, List.length_map]
      simp only [Buffer.accounted, uncounted_append]
      omega
  | counted c frames flying =>
      cases owner
      have sum := uncounted_erase flying
      rw [surplus_setBuffer, State.surplus]
      simp only [Buffer.accounted]
      omega
  | start c _ =>
      cases owner
      exact surplus_setBuffer state b _
  | created c _ =>
      cases owner
      exact surplus_setPc _ rfl rfl rfl
  | createdLost c _ => cases healthy
  | createRefused c _ => cases healthy
  | resume c _ =>
      cases owner
      exact surplus_setPc _ rfl rfl rfl
  | read c outcome _ =>
      cases owner
      exact read_surplus b outcome
  | handle c messages batch _ =>
      cases owner
      exact handle_surplus b messages batch
  | ackedBad c msgId messages batch pc => exact (gauged.not_bad pc).elim
  | ackedBatch c batch pc =>
      cases owner
      have fits : batch.frames.length ≤ (state.buffer b).pending :=
        Nat.le_of_not_lt fun less => calm ⟨rfl, rfl, batch, pc, less⟩
      rw [ackBatch_surplus gauged pc]
      omega
  | ackLost c msgIds _ => cases healthy
  | ackRefused c _ => cases healthy
  | stored c batch _ =>
      cases owner
      exact surplus_setPc _ rfl rfl rfl
  | storeFailed c batch _ => cases healthy
  | stop c _ =>
      cases owner
      exact surplus_setBuffer state b _
  | cancelReading c _ => exact healthy.elim
  | cancel c _ _ => exact healthy.elim
  | crash c => exact healthy.elim

/-- What is cut off at zero stays in the counter. -/
theorem clamp_surplus {b : B} (gauged : state.Gauged setup b) {event : Event B F}
    (clamps : Clamps b state event) (stepped : setup.step state event = some after) :
    state.surplus b < after.surplus b := by
  cases event with
  | xack c outcome =>
      obtain ⟨rfl, rfl, batch, pc, less⟩ := clamps
      cases step_cases stepped with
      | ackedBad _ msgId messages other there => exact (gauged.not_bad there).elim
      | ackedBatch _ other there =>
          obtain rfl : batch = other := by simpa [pc] using there
          rw [ackBatch_surplus gauged pc]
          omega
  | _ => exact clamps.elim

/-- A surplus never goes away, so there is none at the end when there was none and nothing was
cut off. -/
theorem run_surplus {b : B} {start final : State B F} {events : List (Event B F)}
    (gauged : start.Gauged setup b) (nonneg : 0 ≤ start.surplus b)
    (orderly : ∀ event ∈ events, event.Orderly setup b)
    (ran : run setup.step start events = some final) :
    final.surplus b = 0 ↔ start.surplus b = 0 ∧
      Meets setup.step (fun state event => ¬ Clamps b state event) start events := by
  induction events generalizing start with
  | nil =>
      cases ran
      exact (and_iff_left trivial).symm
  | cons event rest ih =>
      obtain ⟨next, stepped, later⟩ := run_cons.mp ran
      have here := orderly event List.mem_cons_self
      have others : ∀ other ∈ rest, other.Orderly setup b :=
        fun other inside => orderly other (List.mem_cons_of_mem _ inside)
      have gauged' := step_gauged gauged here stepped
      rw [meets_cons stepped]
      by_cases clamps : Clamps b start event
      · have more := clamp_surplus gauged clamps stepped
        rw [ih gauged' (by omega) others later]
        constructor
        · intro settled
          omega
        · exact fun settled => absurd clamps settled.2.1
      · have same := step_surplus gauged here clamps stepped
        rw [ih gauged' (by omega) others later, same, and_iff_right clamps]

theorem run_gauged {b : B} {start final : State B F} {events : List (Event B F)}
    (gauged : start.Gauged setup b) (orderly : ∀ event ∈ events, event.Orderly setup b)
    (ran : run setup.step start events = some final) : final.Gauged setup b := by
  have keeps : ∀ (state : State B F) event next, state.Gauged setup b →
      event.Orderly setup b → setup.step state event = some next → next.Gauged setup b :=
    fun _ _ _ gauged orderly stepped => step_gauged gauged orderly stepped
  exact run_invariant_of_meets keeps gauged (meets_of_forall orderly) ran

/-- Where no `enqueue` call is in progress, the counter is the number of entries that are not
acknowledged if and only if no flush found the counter smaller than its batch. -/
theorem gauge_exact_iff (setup : Setup B F) (b : B) {group : Option Nat}
    (fresh : group = none ∨ group = some 0) {events : List (Event B F)} {final : State B F}
    (orderly : ∀ event ∈ events, event.Orderly setup b)
    (ran : run setup.step (.init group) events = some final)
    (settled : (final.buffer b).inFlight = []) :
    (final.buffer b).pending = final.unacked.length ↔
      Meets setup.step (fun state event => ¬ Clamps b state event) (.init group) events := by
  have start : (State.init group : State B F).surplus b = 0 := rfl
  have exact := run_surplus (init_gauged fresh b) (Int.le_of_eq start.symm) orderly ran
  rw [start, and_iff_right rfl] at exact
  rw [← exact]
  have counted := (run_gauged (init_gauged fresh b) orderly ran).unacked_length
  rw [State.surplus, Buffer.accounted, settled]
  simp only [uncounted, List.foldr_nil]
  omega

end Steps

theorem oneFrame_orderly {events : List (Event Unit String)}
    (healthy : ∀ event ∈ events, event.Healthy ∧ event.owner = some ()) :
    ∀ event ∈ events, event.Orderly textSetup () := by
  intro event inside
  obtain ⟨reliable, owner⟩ := healthy event inside
  refine ⟨reliable, owner, ?_⟩
  cases event with
  | publish b frames => exact fun frame _ => nofun
  | _ => trivial

theorem gauge_exact_iff_frame :
    (((startedFirst.get startedFirst_isSome).buffer ()).pending =
      (startedFirst.get startedFirst_isSome).unacked.length ↔
        Meets textSetup.step (fun state event => ¬ Clamps () state event) (.init none)
          (oneFrame true ++ [.xack () .ok])) :=
  gauge_exact_iff textSetup () (Or.inl rfl)
    (oneFrame_orderly (by simp [oneFrame, Event.Healthy, Event.owner]))
    (Option.some_get startedFirst_isSome).symm (by decide +kernel)

/-- The frame is read, stored and acknowledged before its `enqueue` call goes on. -/
def countedLast : List (Event Unit String) :=
  [.start (), .createGroup () .ok, .resume (), .publish () ["frame"], .read () .ok, .handle (),
    .handle (), .store () true, .xack () .ok, .counted () 1]

def afterCounted : Option (State Unit String) := run textSetup.step (.init none) countedLast

theorem afterCounted_isSome : afterCounted.isSome := by
  decide +kernel

def countedState : State Unit String := afterCounted.get afterCounted_isSome

theorem gauge_stays_up : ¬ ∀ (setup : Setup Unit String) (events : List (Event Unit String))
    (final : State Unit String), (∀ event ∈ events, event.Orderly setup ()) →
    run setup.step (.init none) events = some final → (final.buffer ()).inFlight = [] →
    (final.buffer ()).pc = .reading → (final.buffer ()).pending = final.unacked.length := by
  intro all
  have orderly : ∀ event ∈ countedLast, event.Orderly textSetup () :=
    oneFrame_orderly (by simp [countedLast, Event.Healthy, Event.owner])
  have exact := all textSetup countedLast countedState orderly
    (Option.some_get afterCounted_isSome).symm (by decide +kernel) (by decide +kernel)
  have pending : (countedState.buffer ()).pending = 1 := by decide +kernel
  have unacked : countedState.unacked = [] := by decide +kernel
  rw [pending, unacked] at exact
  cases exact

end RagDrift.Ingestion
