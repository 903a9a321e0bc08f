import RagDrift.Ingestion.MemoryQueue
import RagDrift.Transition.Runs

set_option autoImplicit false

/- Where the frames of the in-memory buffer are: none is lost or doubled in any run, and none
overtakes another as long as the batches are put together one after the other. -/
namespace RagDrift.Ingestion.Memory

open Transition (run Meets run_invariant run_invariant_of_meets)

variable {F : Type} {batchSize : Int} {state after : State F}

@[simp] theorem frames_nil : frames ([] : List (Item F)) = [] := rfl

@[simp] theorem frames_frame (value : F) (items : List (Item F)) :
    frames (.frame value :: items) = value :: frames items := rfl

@[simp] theorem frames_stop (items : List (Item F)) : frames (.stop :: items) = frames items := rfl

@[simp] theorem frames_append (first second : List (Item F)) :
    frames (first ++ second) = frames first ++ frames second :=
  List.filterMap_append

@[simp] theorem frames_map (values : List F) : frames (values.map Item.frame) = values := by
  induction values with
  | nil => rfl
  | cons value rest ih => rw [List.map_cons, frames_frame, ih]

/-- The inner loop takes frames from the front of the queue and leaves the others. -/
theorem gather_frames (room : Nat) (queue : List (Item F)) :
    frames queue = (gather room queue).frames ++ frames (gather room queue).rest := by
  induction room generalizing queue with
  | zero => rfl
  | succ room ih =>
      cases queue with
      | nil => rfl
      | cons item rest =>
          cases item with
          | frame value =>
              rw [frames_frame, ih rest]
              rfl
          | stop => rfl

theorem gather_length (room : Nat) (queue : List (Item F)) :
    (gather room queue).frames.length ≤ room := by
  induction room generalizing queue with
  | zero => exact Nat.le_refl 0
  | succ room ih =>
      cases queue with
      | nil => exact Nat.zero_le _
      | cons item rest =>
          cases item with
          | frame value => exact Nat.succ_le_succ (ih rest)
          | stop => exact Nat.zero_le _

theorem batchLimit_pos (batchSize : Int) : 1 ≤ batchLimit batchSize := by
  unfold batchLimit
  omega

/-- The frames tasks have in hand, oldest first. -/
def State.inHand (state : State F) : List F := frames (state.hands.map Prod.snd)

/-- The frames handed over, those in hand and those in the queue. -/
def State.present (state : State F) : List F :=
  state.handed.flatten ++ state.inHand ++ frames state.queue

/-- Every frame is in one place, and every batch has its size. -/
structure State.Kept (batchSize : Int) (state : State F) : Prop where
  present : state.present.Perm state.enqueued
  sizes : ∀ batch ∈ state.handed, 1 ≤ batch.length ∧ batch.length ≤ batchLimit batchSize

/-- The sentinel of a `stop_worker` call is no frame. -/
theorem present_sentinel (state : State F) (calls : List Call) :
    ({ state with queue := state.queue ++ [.stop], calls := calls } : State F).present =
      state.present := by
  rw [State.present, State.present, frames_append, frames_stop, frames_nil, List.append_nil]
  rfl

/-- What a getter takes out of the queue is in the hand of its task. -/
theorem present_take (state : State F) (task : Nat) {item : Item F} {rest : List (Item F)}
    (queue : state.queue = item :: rest) :
    ({ state with queue := rest, hands := state.hands ++ [(task, item)] } : State F).present =
      state.present := by
  rw [State.present, State.present, State.inHand, State.inHand, queue, List.map_append,
    frames_append]
  cases item with
  | frame value =>
      simp only [List.map_cons, List.map_nil, frames_frame, frames_nil, List.append_assoc,
        List.cons_append, List.nil_append]
  | stop =>
      simp only [List.map_cons, List.map_nil, frames_stop, frames_nil, List.append_nil]

theorem inHand_split {task : Nat} {item : Item F} {front back : List (Nat × Item F)}
    (hands : state.hands = front ++ (task, item) :: back) :
    state.inHand =
      frames (front.map Prod.snd) ++ (frames [item] ++ frames (back.map Prod.snd)) := by
  rw [State.inHand, hands, List.map_append, List.map_cons, frames_append]
  cases item <;> rfl

theorem collect_hands {task : Nat} {item : Item F} {front back : List (Nat × Item F)}
    (hands : state.hands = front ++ (task, item) :: back) (first : task ∉ front.map Prod.fst) :
    (state.collect batchSize task item).hands = front ++ back := by
  have erased : (front ++ (task, item) :: back).eraseP (fun held => held.1 = task) =
      front ++ back := erase_hand first
  cases item <;> exact (congrArg _ hands).trans erased

/-- A task that goes on with a frame hands it over with what it gathers from the queue. -/
theorem present_frame {task : Nat} {value : F} {front back : List (Nat × Item F)}
    (hands : state.hands = front ++ (task, .frame value) :: back)
    (first : task ∉ front.map Prod.fst) :
    (state.collect batchSize task (.frame value)).present = state.handed.flatten ++
      (value :: (gather (batchLimit batchSize - 1) state.queue).frames) ++
      (frames (front.map Prod.snd) ++ frames (back.map Prod.snd)) ++
      frames (gather (batchLimit batchSize - 1) state.queue).rest := by
  have handed : (state.collect batchSize task (.frame value)).handed.flatten =
      state.handed.flatten ++
        (value :: (gather (batchLimit batchSize - 1) state.queue).frames) := by
    change (state.handed ++ [_]).flatten = _
    rw [List.flatten_append, List.flatten_singleton]
  rw [State.present, State.inHand, collect_hands hands first, handed, List.map_append,
    frames_append]
  rfl

theorem present_stop {task : Nat} {front back : List (Nat × Item F)}
    (hands : state.hands = front ++ (task, .stop) :: back) (first : task ∉ front.map Prod.fst) :
    (state.collect batchSize task .stop).present = state.present := by
  rw [State.present, State.present, inHand_split hands, State.inHand, collect_hands hands first,
    List.map_append, frames_append]
  rfl

/-- A value moves in front of what is older, together with what follows everything in hand. -/
theorem hand_over_perm (value : F) (older newer gathered rest : List F) :
    (value :: gathered ++ (older ++ newer) ++ rest).Perm
      (older ++ value :: newer ++ (gathered ++ rest)) :=
  calc value :: gathered ++ (older ++ newer) ++ rest
    _ = value :: (gathered ++ (older ++ newer) ++ rest) := rfl
    _ |>.Perm (value :: (older ++ newer ++ gathered ++ rest)) :=
        (List.perm_append_comm.append_right rest).cons value
    _ = value :: (older ++ newer) ++ (gathered ++ rest) := by
        rw [List.cons_append, List.append_assoc _ gathered]
    _ |>.Perm (older ++ value :: newer ++ (gathered ++ rest)) :=
        List.perm_middle.symm.append_right _

theorem collect_present {task : Nat} {item : Item F} {front back : List (Nat × Item F)}
    (hands : state.hands = front ++ (task, item) :: back) (first : task ∉ front.map Prod.fst) :
    (state.collect batchSize task item).present.Perm state.present := by
  cases item with
  | stop => exact .of_eq (present_stop hands first)
  | frame value =>
      have moved := (hand_over_perm value (frames (front.map Prod.snd))
        (frames (back.map Prod.snd)) (gather (batchLimit batchSize - 1) state.queue).frames
        (frames (gather (batchLimit batchSize - 1) state.queue).rest)).append_left
          state.handed.flatten
      rw [present_frame hands first, State.present, inHand_split hands,
        gather_frames (batchLimit batchSize - 1) state.queue]
      simpa only [frames_frame, frames_nil, List.append_assoc, List.cons_append,
        List.nil_append] using moved

theorem step_present {event : Event F} (stepped : step batchSize state event = some after) :
    (∃ added, after.enqueued = state.enqueued ++ added ∧
      after.present = state.present ++ added) ∨
    (after.enqueued = state.enqueued ∧ after.present.Perm state.present) := by
  have same (present : after.present = state.present) (enqueued : after.enqueued = state.enqueued) :
      after.enqueued = state.enqueued ∧ after.present.Perm state.present :=
    ⟨enqueued, .of_eq present⟩
  cases step_cases stepped with
  | enqueue added =>
      refine Or.inl ⟨added, rfl, ?_⟩
      simp only [State.present, State.inHand, frames_append, frames_map, List.append_assoc]
  | startRunning _ => exact Or.inr (same rfl rfl)
  | start _ => exact Or.inr (same rfl rfl)
  | begin task _ => exact Or.inr (same rfl rfl)
  | timeout task _ _ => exact Or.inr (same rfl rfl)
  | take task item rest queue _ _ => exact Or.inr (same (present_take state task queue) rfl)
  | collect task item front back hands first =>
      refine Or.inr ⟨?_, collect_present hands first⟩
      cases item <;> rfl
  | stored task _ => exact Or.inr (same rfl rfl)
  | stopIdle _ => exact Or.inr (same rfl rfl)
  | stop task _ _ =>
      exact Or.inr (same (present_sentinel state _) rfl)
  | returned call _ _ => exact Or.inr (same rfl rfl)

/-- The batches handed over so far, with at most one more. -/
theorem step_handed {event : Event F} (stepped : step batchSize state event = some after) :
    after.handed = state.handed ∨ ∃ value queue, after.handed =
      state.handed ++ [value :: (gather (batchLimit batchSize - 1) queue).frames] := by
  cases step_cases stepped with
  | collect task item front back hands first =>
      cases item with
      | frame value => exact Or.inr ⟨value, state.queue, rfl⟩
      | stop => exact Or.inl rfl
  | _ => exact Or.inl rfl

theorem init_kept : (State.init : State F).Kept batchSize :=
  ⟨.refl _, fun _ inside => absurd inside List.not_mem_nil⟩

theorem step_kept (kept : state.Kept batchSize) {event : Event F}
    (stepped : step batchSize state event = some after) : after.Kept batchSize := by
  refine ⟨?_, ?_⟩
  · rcases step_present stepped with ⟨added, enqueued, present⟩ | ⟨enqueued, present⟩
    · rw [enqueued, present]
      exact kept.present.append_right added
    · rw [enqueued]
      exact present.trans kept.present
  · intro batch inside
    rcases step_handed stepped with same | ⟨value, queue, handed⟩
    · rw [same] at inside
      exact kept.sizes batch inside
    · rw [handed] at inside
      rcases List.mem_append.mp inside with old | new
      · exact kept.sizes batch old
      · rw [List.mem_singleton] at new
        have length := gather_length (batchLimit batchSize - 1) queue
        have limit := batchLimit_pos batchSize
        rw [new, List.length_cons]
        omega

/-- No frame is lost or doubled, and every batch has its size, whatever the order of the steps. -/
theorem run_kept {events : List (Event F)} {final : State F}
    (ran : run (step batchSize) .init events = some final) : final.Kept batchSize := by
  have keeps : ∀ (state : State F) event next, state.Kept batchSize →
      step batchSize state event = some next → next.Kept batchSize :=
    fun _ _ _ kept stepped => step_kept kept stepped
  exact run_invariant keeps init_kept ran

/-- A task goes on with a frame only when it is the oldest in hand, and gathers more only when
no other task has one. -/
def InOrder (batchSize : Int) (state : State F) : Event F → Prop
  | .collect task => ∀ front value back, state.hands = front ++ (task, .frame value) :: back →
      frames (front.map Prod.snd) = [] ∧ (frames (back.map Prod.snd) = [] ∨
        (gather (batchLimit batchSize - 1) state.queue).frames = [])
  | _ => True

/-- With one item in hand there is nothing to overtake. -/
theorem inOrder_of_alone (state : State F) (event : Event F) (alone : state.hands.length ≤ 1) :
    InOrder batchSize state event := by
  cases event with
  | collect task =>
      intro front value back hands
      rw [hands, List.length_append, List.length_cons] at alone
      have older : front = [] := List.length_eq_zero_iff.mp (by omega)
      have newer : back = [] := List.length_eq_zero_iff.mp (by omega)
      rw [older, newer]
      exact ⟨rfl, Or.inl rfl⟩
  | _ => trivial

theorem collect_in_order {task : Nat} {item : Item F} {front back : List (Nat × Item F)}
    (hands : state.hands = front ++ (task, item) :: back) (first : task ∉ front.map Prod.fst)
    (ordered : InOrder batchSize state (.collect task)) :
    (state.collect batchSize task item).present = state.present := by
  cases item with
  | stop => exact present_stop hands first
  | frame value =>
      obtain ⟨older, newer⟩ := ordered front value back hands
      rw [present_frame hands first, State.present, inHand_split hands, older,
        gather_frames (batchLimit batchSize - 1) state.queue]
      rcases newer with alone | nothing
      · rw [alone]
        simp only [frames_frame, frames_nil, List.append_assoc, List.cons_append,
          List.nil_append, List.append_nil]
      · rw [nothing]
        simp only [frames_frame, frames_nil, List.append_assoc, List.cons_append,
          List.nil_append]

theorem step_in_order (present : state.present = state.enqueued) {event : Event F}
    (ordered : InOrder batchSize state event) (stepped : step batchSize state event = some after) :
    after.present = after.enqueued := by
  cases step_cases stepped with
  | enqueue added =>
      rw [State.present, State.inHand] at present
      simp only [State.present, State.inHand, frames_append, frames_map, ← List.append_assoc]
      rw [present]
  | take task item rest queue _ _ => exact (present_take state task queue).trans present
  | collect task item front back hands first =>
      have enqueued : (state.collect batchSize task item).enqueued = state.enqueued := by
        cases item <;> rfl
      rw [collect_in_order hands first ordered, enqueued]
      exact present
  | stop task _ _ =>
      exact (present_sentinel state _).trans present
  | _ => exact present

/-- In every run in which no frame overtakes another on its way into a batch, the enqueued frames
are at any time those handed over, then those in hand, then those in the queue; and every batch
has between one frame and `batch_size`. -/
theorem frames_conserved {events : List (Event F)} {final : State F}
    (ran : run (step batchSize) .init events = some final)
    (ordered : Meets (step batchSize) (InOrder batchSize) .init events) :
    final.enqueued = final.handed.flatten ++ final.inHand ++ frames final.queue ∧
      ∀ batch ∈ final.handed, 1 ≤ batch.length ∧ batch.length ≤ batchLimit batchSize := by
  have keeps : ∀ (state : State F) event next, state.present = state.enqueued →
      InOrder batchSize state event → step batchSize state event = some next →
      next.present = next.enqueued :=
    fun _ _ _ present ordered stepped => step_in_order present ordered stepped
  exact ⟨(run_invariant_of_meets keeps rfl ordered ran).symm, (run_kept ran).sizes⟩

/-- One worker takes two frames in one batch. -/
def oneWorker : List (Event Nat) :=
  [.start, .begin 0, .enqueue [1, 2, 3], .take 0, .collect 0, .stored 0, .take 0]

def afterOneWorker : Option (State Nat) := run (step 2) .init oneWorker

theorem afterOneWorker_isSome : afterOneWorker.isSome := by
  decide +kernel

theorem frames_conserved_oneWorker :
    (afterOneWorker.get afterOneWorker_isSome).enqueued =
      (afterOneWorker.get afterOneWorker_isSome).handed.flatten ++
        (afterOneWorker.get afterOneWorker_isSome).inHand ++
          frames (afterOneWorker.get afterOneWorker_isSome).queue ∧
      ∀ batch ∈ (afterOneWorker.get afterOneWorker_isSome).handed,
        1 ≤ batch.length ∧ batch.length ≤ batchLimit 2 := by
  have alone : Meets (step 2) (fun state _ => state.hands.length ≤ 1) .init oneWorker := by
    decide +kernel
  exact frames_conserved (Option.some_get afterOneWorker_isSome).symm
    (alone.imp inOrder_of_alone)

/-- A worker is started again before the `stop_worker` call that awaited the last one goes on;
that call then forgets the new task, and a third one is started beside it. -/
def twoLoops : List (Event Nat) :=
  [.start, .begin 0, .stop, .take 0, .collect 0, .start, .returned ⟨0, 0⟩, .start, .begin 1,
    .begin 2, .enqueue [1, 2, 3], .take 1, .take 2, .collect 1, .collect 2]

def afterTwoLoops : Option (State Nat) := run (step 50) .init twoLoops

theorem afterTwoLoops_isSome : afterTwoLoops.isSome := by
  decide +kernel

/-- The third frame is handed over before the second one. -/
theorem two_loops_reorder : ¬ ∀ (batchSize : Int) (events : List (Event Nat)) (final : State Nat),
    run (step batchSize) .init events = some final →
    final.enqueued = final.handed.flatten ++ final.inHand ++ frames final.queue := by
  intro all
  have conserved := all 50 twoLoops (afterTwoLoops.get afterTwoLoops_isSome)
    (Option.some_get afterTwoLoops_isSome).symm
  revert conserved
  decide +kernel

end RagDrift.Ingestion.Memory
