import RagDrift.Ingestion.Conservation

set_option autoImplicit false

/- The in-memory buffer over a repository whose writes may fail: `_flush` logs what
`batch_store_frames` raises, and the worker goes on with the next batch. -/
namespace RagDrift.Ingestion.Memory

open Transition (run run_cons run_invariant)

variable {F : Type} {batchSize : Int}

/-- The buffer, the batches that tasks are writing, and those whose write has ended. -/
structure Ledger (F : Type) where
  state : State F
  writing : List (Nat × List F)
  persisted : List (List F)
  lost : List (List F)

def Ledger.init : Ledger F := ⟨.init, [], [], []⟩

/-- The end of a write: `batch_store_frames` returns or raises. -/
def Ledger.settle (ledger : Ledger F) (task : Nat) (returned : Bool) : Ledger F :=
  let batches := (ledger.writing.filter fun entry => entry.1 = task).map Prod.snd
  { ledger with
    writing := ledger.writing.filter fun entry => !decide (entry.1 = task)
    persisted := if returned then ledger.persisted ++ batches else ledger.persisted
    lost := if returned then ledger.lost else ledger.lost ++ batches }

/-- A step of the buffer; only the end of a write looks at whether it returned. -/
def Ledger.step (batchSize : Int) (ledger : Ledger F) (event : Event F × Bool) :
    Option (Ledger F) :=
  (Memory.step batchSize ledger.state event.1).map fun after =>
    match event.1 with
    | .collect task =>
        let batches := after.handed.drop ledger.state.handed.length
        { ledger with
          state := after
          writing := ledger.writing ++ batches.map fun batch => (task, batch) }
    | .stored task => { ledger.settle task event.2 with state := after }
    | _ => { ledger with state := after }

/-- All batches, wherever they are. -/
def Ledger.batches (ledger : Ledger F) : List (List F) :=
  ledger.persisted ++ ledger.lost ++ ledger.writing.map Prod.snd

variable {ledger next : Ledger F} {event : Event F × Bool}

theorem Ledger.step_state (stepped : ledger.step batchSize event = some next) :
    Memory.step batchSize ledger.state event.1 = some next.state := by
  obtain ⟨after, moved, made⟩ := Option.map_eq_some_iff.mp stepped
  rw [moved]
  split at made <;> exact congrArg some (congrArg Ledger.state made)

theorem Ledger.settle_batches (ledger : Ledger F) (task : Nat) (returned : Bool) :
    (ledger.settle task returned).batches.Perm ledger.batches := by
  have split := (List.filter_append_perm (fun entry : Nat × List F => decide (entry.1 = task))
    ledger.writing).map Prod.snd
  rw [List.map_append] at split
  cases returned with
  | true =>
      show (ledger.persisted ++ _ ++ ledger.lost ++ _).Perm (ledger.persisted ++ ledger.lost ++ _)
      rw [List.append_assoc, List.append_assoc, List.append_assoc]
      apply List.Perm.append_left
      exact ((List.perm_append_comm_assoc _ _ _).trans (split.append_left _))
  | false =>
      show (ledger.persisted ++ (ledger.lost ++ _) ++ _).Perm
        (ledger.persisted ++ ledger.lost ++ _)
      rw [List.append_assoc, List.append_assoc, List.append_assoc]
      exact (split.append_left _).append_left _

theorem handed_of_not_collect {state after : State F} {event : Event F}
    (stepped : Memory.step batchSize state event = some after)
    (other : ∀ task, event ≠ .collect task) : after.handed = state.handed := by
  cases step_cases stepped with
  | collect task _ _ _ _ _ => exact absurd rfl (other task)
  | _ => rfl

/-- A step adds the batch it hands over, if any. -/
theorem Ledger.step_batches (stepped : ledger.step batchSize event = some next) :
    ∃ added, next.state.handed = ledger.state.handed ++ added ∧
      next.batches.Perm (ledger.batches ++ added) := by
  have moved := step_state stepped
  have grown : ∃ added, next.state.handed = ledger.state.handed ++ added := by
    rcases step_handed moved with same | ⟨value, queue, handed⟩
    · exact ⟨[], by rw [same, List.append_nil]⟩
    · exact ⟨_, handed⟩
  obtain ⟨added, handed⟩ := grown
  refine ⟨added, handed, ?_⟩
  have unchanged (other : ∀ task, ¬ event.1 = .collect task)
      (kept : next.batches.Perm ledger.batches) : next.batches.Perm (ledger.batches ++ added) := by
    have same := handed_of_not_collect moved other
    have none : added = [] := List.append_right_eq_self.mp (handed.symm.trans same)
    rw [none, List.append_nil]
    exact kept
  obtain ⟨after, _, made⟩ := Option.map_eq_some_iff.mp stepped
  obtain ⟨kind, returned⟩ := event
  cases kind with
  | collect task =>
      cases made
      have batch : after.handed.drop ledger.state.handed.length = added := by
        rw [show after.handed = _ from handed, List.drop_left]
      have last : ((after.handed.drop ledger.state.handed.length).map
          fun batch => (task, batch)).map Prod.snd = added := by
        rw [batch, List.map_map]
        exact List.map_id added
      apply List.Perm.of_eq
      simp only [batches, List.map_append, last, List.append_assoc]
  | stored task =>
      cases made
      exact unchanged (fun _ same => by cases same) (settle_batches ledger task returned)
  | _ =>
      cases made
      exact unchanged (fun _ same => by cases same) (.refl _)

/-- A batch whose write has ended stays where it is. -/
theorem Ledger.step_settled (stepped : ledger.step batchSize event = some next) :
    (∃ more, next.persisted = ledger.persisted ++ more) ∧
      (∃ more, next.lost = ledger.lost ++ more) ∧
      (event.2 = true → next.lost = ledger.lost) := by
  obtain ⟨after, _, made⟩ := Option.map_eq_some_iff.mp stepped
  obtain ⟨kind, returned⟩ := event
  have same : ∀ {list : List (List F)}, ∃ more, list = list ++ more :=
    ⟨[], (List.append_nil _).symm⟩
  cases kind with
  | stored task =>
      cases made
      cases returned with
      | true => exact ⟨⟨_, rfl⟩, same, fun _ => rfl⟩
      | false => exact ⟨same, ⟨_, rfl⟩, Bool.noConfusion⟩
  | _ =>
      cases made
      exact ⟨same, same, fun _ => rfl⟩

/-- Every batch that was handed over is being written, persisted or lost. -/
structure Ledger.Accounted (batchSize : Int) (ledger : Ledger F) : Prop where
  batches : ledger.batches.Perm ledger.state.handed
  kept : ledger.state.Kept batchSize

theorem Ledger.step_accounted (accounted : ledger.Accounted batchSize)
    (stepped : ledger.step batchSize event = some next) : next.Accounted batchSize := by
  obtain ⟨added, handed, batches⟩ := step_batches stepped
  refine ⟨?_, step_kept accounted.kept (step_state stepped)⟩
  rw [handed]
  exact batches.trans (accounted.batches.append_right added)

theorem Ledger.run_accounted {events : List (Event F × Bool)} {final : Ledger F}
    (ran : run (Ledger.step batchSize) .init events = some final) : final.Accounted batchSize := by
  have keeps : ∀ (ledger : Ledger F) event next, ledger.Accounted batchSize →
      ledger.step batchSize event = some next → next.Accounted batchSize :=
    fun _ _ _ accounted stepped => step_accounted accounted stepped
  exact run_invariant keeps ⟨.refl _, init_kept⟩ ran

/-- What was lost before is lost later. -/
theorem Ledger.run_settled {events : List (Event F × Bool)} {start final : Ledger F}
    (ran : run (Ledger.step batchSize) start events = some final) :
    (∃ more, final.lost = start.lost ++ more) ∧
      ((∀ event ∈ events, event.2 = true) → final.lost = start.lost) := by
  induction events generalizing start with
  | nil =>
      cases ran
      exact ⟨⟨[], (List.append_nil _).symm⟩, fun _ => rfl⟩
  | cons event rest ih =>
      obtain ⟨middle, stepped, later⟩ := run_cons.mp ran
      obtain ⟨_, ⟨first, lost⟩, returned⟩ := step_settled stepped
      obtain ⟨⟨second, grown⟩, quiet⟩ := ih later
      constructor
      · refine ⟨first ++ second, ?_⟩
        rw [grown, lost, List.append_assoc]
      · intro all
        rw [quiet fun other inside => all other (List.mem_cons_of_mem _ inside),
          returned (all event List.mem_cons_self)]

/-- All enqueued frames: in the queue, in hand, being written, persisted or lost. -/
theorem Ledger.Accounted.frames (accounted : ledger.Accounted batchSize) :
    (ledger.persisted.flatten ++ ledger.lost.flatten ++ (ledger.writing.map Prod.snd).flatten ++
      (ledger.state.inHand ++ frames ledger.state.queue)).Perm ledger.state.enqueued := by
  have handed := accounted.batches.flatten.append_right
    (ledger.state.inHand ++ Memory.frames ledger.state.queue)
  rw [Ledger.batches, List.flatten_append, List.flatten_append] at handed
  apply handed.trans
  rw [← List.append_assoc]
  exact accounted.kept.present

/-- Whatever the order of the steps and whichever writes fail: every enqueued frame is in one
place, a frame whose write failed is never stored later, and only a failed write loses one. -/
theorem failed_writes_lose {front back : List (Event F × Bool)} {middle final : Ledger F}
    (first : run (Ledger.step batchSize) .init front = some middle)
    (later : run (Ledger.step batchSize) middle back = some final) :
    (final.persisted.flatten ++ final.lost.flatten ++ (final.writing.map Prod.snd).flatten ++
      (final.state.inHand ++ frames final.state.queue)).Perm final.state.enqueued ∧
      (final.state.enqueued.Nodup →
        ∀ value ∈ middle.lost.flatten, value ∉ final.persisted.flatten) ∧
      ((∀ event ∈ front ++ back, event.2 = true) → final.lost = []) := by
  have ran := Transition.run_append first later
  have places := (Ledger.run_accounted ran).frames
  refine ⟨places, ?_, (Ledger.run_settled ran).2⟩
  intro distinct value lost stored
  obtain ⟨more, grown⟩ := (Ledger.run_settled later).1
  have still : value ∈ final.lost.flatten := by
    rw [grown, List.flatten_append]
    exact List.mem_append_left _ lost
  have apart := places.nodup_iff.mpr distinct
  rw [List.append_assoc, List.append_assoc] at apart
  exact (List.nodup_append.mp apart).2.2 value stored value (List.mem_append_left _ still) rfl

def failingWrite : List (Event Nat × Bool) :=
  [(.start, true), (.begin 0, true), (.enqueue [1, 2, 3], true), (.take 0, true),
    (.collect 0, true), (.stored 0, false)]

def secondWrite : List (Event Nat × Bool) :=
  [(.take 0, true), (.collect 0, true), (.stored 0, true)]

def afterFailingWrite : Option (Ledger Nat) := run (Ledger.step 2) .init failingWrite

theorem afterFailingWrite_isSome : afterFailingWrite.isSome := by
  decide +kernel

def afterSecondWrite : Option (Ledger Nat) :=
  run (Ledger.step 2) (afterFailingWrite.get afterFailingWrite_isSome) secondWrite

theorem afterSecondWrite_isSome : afterSecondWrite.isSome := by
  decide +kernel

theorem failed_writes_lose_first :
    2 ∉ (afterSecondWrite.get afterSecondWrite_isSome).persisted.flatten :=
  (failed_writes_lose (Option.some_get afterFailingWrite_isSome).symm
    (Option.some_get afterSecondWrite_isSome).symm).2.1 (by decide +kernel) 2 (by decide +kernel)

example : (afterSecondWrite.get afterSecondWrite_isSome).lost = [[1, 2]] ∧
    (afterSecondWrite.get afterSecondWrite_isSome).persisted = [[3]] := by
  decide +kernel

end RagDrift.Ingestion.Memory
