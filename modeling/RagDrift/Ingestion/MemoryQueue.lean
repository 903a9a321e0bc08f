import Mathlib.Data.List.Basic
import Mathlib.Logic.Function.Basic

set_option autoImplicit false

/- `ingestion.queue`: the in-memory buffer and its worker tasks. A step is what one task does
between two awaits. `asyncio.wait_for` runs `Queue.get` as a task of its own, so an item may be
out of the queue before the worker that waits for it goes on. -/
namespace RagDrift.Ingestion.Memory

/-- A frame, or `_STOP`. -/
inductive Item (F : Type) where
  | frame (value : F)
  | stop
  deriving DecidableEq

variable {F : Type}

def Item.frame? : Item F → Option F
  | .frame value => some value
  | .stop => none

/-- The frames among some items. -/
def frames (items : List (Item F)) : List F := items.filterMap Item.frame?

/-- `self._batch_size`. -/
def batchLimit (batchSize : Int) : Nat := (max 1 batchSize).toNat

/-- What the inner loop of `_run` takes out of the queue with `get_nowait`. -/
structure Gathered (F : Type) where
  frames : List F
  stop : Bool
  rest : List (Item F)
  deriving DecidableEq

/-- `while len(batch) < self._batch_size`, with so much room left. -/
def gather : Nat → List (Item F) → Gathered F
  | 0, queue => ⟨[], false, queue⟩
  | _ + 1, [] => ⟨[], false, []⟩
  | _ + 1, .stop :: rest => ⟨[], true, rest⟩
  | room + 1, .frame value :: rest =>
      let later := gather room rest
      ⟨value :: later.frames, later.stop, later.rest⟩

/-- Where a worker task stands; `done` is also where a task stands that does not exist. -/
inductive Pc where
  | starting
  | waiting
  | writing
  | done
  deriving DecidableEq

/-- A `stop_worker` call that awaits a task, and how many frames were enqueued before it. -/
structure Call where
  task : Nat
  before : Nat
  deriving DecidableEq

/-- The buffer, its tasks and the repository. `tasks` is how many worker tasks were created,
`hands` the items `Queue.get` has returned to tasks that have not gone on yet, oldest first, and
`handed` the batches passed to `batch_store_frames`. -/
structure State (F : Type) where
  queue : List (Item F)
  stopped : Bool
  workerTask : Option Nat
  tasks : Nat
  pc : Nat → Pc
  hands : List (Nat × Item F)
  handed : List (List F)
  calls : List Call
  enqueued : List F

def State.init : State F := ⟨[], false, none, 0, fun _ => .done, [], [], [], []⟩

/-- `is_running`. -/
def State.isRunning (state : State F) : Bool :=
  match state.workerTask with
  | some task => state.pc task ≠ .done
  | none => false

def State.setPc (state : State F) (task : Nat) (pc : Pc) : State F :=
  { state with pc := Function.update state.pc task pc }

/-- The head of the loop: `while not self._stopped`. -/
def State.loop (state : State F) : Pc := if state.stopped then .done else .waiting

/-- A task has an item in hand. -/
def State.holds (state : State F) (task : Nat) : Bool := task ∈ state.hands.map Prod.fst

inductive Event (F : Type) where
  | enqueue (frames : List F)
  | start
  | begin (task : Nat)
  | timeout (task : Nat)
  | take (task : Nat)
  | collect (task : Nat)
  | stored (task : Nat)
  | stop
  | returned (call : Call)

/-- `start_worker`. -/
def State.startWorker (state : State F) : State F :=
  if state.isRunning then state
  else { state with
    stopped := false
    workerTask := some state.tasks
    tasks := state.tasks + 1
    pc := Function.update state.pc state.tasks .starting }

/-- `stop_worker` up to its `await`. -/
def State.stopWorker (state : State F) : State F :=
  match state.workerTask with
  | some task =>
      if state.pc task = .done then { state with workerTask := none }
      else { state with
        queue := state.queue ++ [.stop]
        calls := state.calls ++ [⟨task, state.enqueued.length⟩] }
  | none => state

/-- `_run` from the item it was given to its next `await`. -/
def State.collect (batchSize : Int) (state : State F) (task : Nat) (item : Item F) : State F :=
  let hands := state.hands.eraseP fun held => held.1 = task
  match item with
  | .stop =>
      let halted : State F := { state with hands := hands, stopped := true }
      halted.setPc task halted.loop
  | .frame value =>
      let gathered := gather (batchLimit batchSize - 1) state.queue
      ({ state with
        hands := hands
        queue := gathered.rest
        stopped := state.stopped || gathered.stop
        handed := state.handed ++ [value :: gathered.frames] } : State F).setPc task .writing

def step (batchSize : Int) (state : State F) : Event F → Option (State F)
  | .enqueue frames => some { state with
      queue := state.queue ++ frames.map .frame
      enqueued := state.enqueued ++ frames }
  | .start => some state.startWorker
  | .begin task => if state.pc task = .starting then some (state.setPc task state.loop) else none
  | .timeout task =>
      if state.pc task = .waiting ∧ ¬ state.holds task then some (state.setPc task state.loop)
      else none
  | .take task =>
      match state.queue with
      | [] => none
      | item :: rest =>
          if state.pc task = .waiting ∧ ¬ state.holds task then
            some { state with queue := rest, hands := state.hands ++ [(task, item)] }
          else none
  | .collect task =>
      match state.hands.find? fun held => held.1 = task with
      | some (_, item) => some (state.collect batchSize task item)
      | none => none
  | .stored task => if state.pc task = .writing then some (state.setPc task state.loop) else none
  | .stop => some state.stopWorker
  | .returned call =>
      if call ∈ state.calls ∧ state.pc call.task = .done then
        some { state with calls := state.calls.erase call, workerTask := none }
      else none

/-- The steps one by one, each with where its task has to stand. -/
inductive Step (batchSize : Int) (state : State F) : Event F → State F → Prop where
  | enqueue (frames : List F) : Step batchSize state (.enqueue frames) { state with
      queue := state.queue ++ frames.map .frame
      enqueued := state.enqueued ++ frames }
  | startRunning (running : state.isRunning = true) : Step batchSize state .start state
  | start (idle : state.isRunning = false) : Step batchSize state .start { state with
      stopped := false
      workerTask := some state.tasks
      tasks := state.tasks + 1
      pc := Function.update state.pc state.tasks .starting }
  | begin (task : Nat) (pc : state.pc task = .starting) :
      Step batchSize state (.begin task) (state.setPc task state.loop)
  | timeout (task : Nat) (pc : state.pc task = .waiting) (free : state.holds task = false) :
      Step batchSize state (.timeout task) (state.setPc task state.loop)
  | take (task : Nat) (item : Item F) (rest : List (Item F)) (queue : state.queue = item :: rest)
      (pc : state.pc task = .waiting) (free : state.holds task = false) :
      Step batchSize state (.take task)
        { state with queue := rest, hands := state.hands ++ [(task, item)] }
  | collect (task : Nat) (item : Item F) (front back : List (Nat × Item F))
      (hands : state.hands = front ++ (task, item) :: back)
      (first : task ∉ front.map Prod.fst) :
      Step batchSize state (.collect task) (state.collect batchSize task item)
  | stored (task : Nat) (pc : state.pc task = .writing) :
      Step batchSize state (.stored task) (state.setPc task state.loop)
  | stopIdle (idle : state.isRunning = false) :
      Step batchSize state .stop { state with workerTask := none }
  | stop (task : Nat) (current : state.workerTask = some task) (alive : state.pc task ≠ .done) :
      Step batchSize state .stop { state with
        queue := state.queue ++ [.stop]
        calls := state.calls ++ [⟨task, state.enqueued.length⟩] }
  | returned (call : Call) (waiting : call ∈ state.calls) (finished : state.pc call.task = .done) :
      Step batchSize state (.returned call)
        { state with calls := state.calls.erase call, workerTask := none }

variable {batchSize : Int} {state after : State F}

theorem isRunning_iff : state.isRunning = true ↔
    ∃ task, state.workerTask = some task ∧ state.pc task ≠ .done := by
  unfold State.isRunning
  split
  · rename_i task current
    simp only [current, Option.some.injEq, decide_not, Bool.not_eq_true', decide_eq_false_iff_not,
      exists_eq_left']
  · rename_i current
    simp only [current, Bool.false_eq_true, reduceCtorEq, false_and, exists_false]

theorem find_hand {task : Nat} {hands : List (Nat × Item F)} {held : Nat × Item F}
    (found : hands.find? (fun held => held.1 = task) = some held) :
    held.1 = task ∧ ∃ front back, hands = front ++ (task, held.2) :: back ∧
      task ∉ front.map Prod.fst := by
  obtain ⟨here, front, back, split, others⟩ := List.find?_eq_some_iff_append.mp found
  have same : held.1 = task := by simpa using here
  refine ⟨same, front, back, ?_, ?_⟩
  · rw [split, ← same]
  · intro inside
    obtain ⟨other, member, named⟩ := List.mem_map.mp inside
    have differs := others other member
    simp [named] at differs

theorem erase_hand {task : Nat} {item : Item F} {front back : List (Nat × Item F)}
    (first : task ∉ front.map Prod.fst) :
    (front ++ (task, item) :: back).eraseP (fun held => held.1 = task) = front ++ back := by
  rw [List.eraseP_append_right]
  · rw [List.eraseP_cons_of_pos (by simp)]
  · intro other member
    have differs : other.1 ≠ task := fun same =>
      first (List.mem_map.mpr ⟨other, member, same⟩)
    simpa using differs

/-- Every step of the step function is one of these. -/
theorem step_cases {event : Event F} (stepped : step batchSize state event = some after) :
    Step batchSize state event after := by
  unfold step at stepped
  cases event with
  | enqueue frames =>
      cases stepped
      exact .enqueue frames
  | start =>
      dsimp only at stepped
      rw [State.startWorker, Option.some.injEq] at stepped
      split at stepped
      · rename_i running
        exact stepped ▸ .startRunning running
      · rename_i idle
        exact stepped ▸ .start (Bool.eq_false_iff.mpr idle)
  | begin task =>
      dsimp only at stepped
      split at stepped
      · rename_i pc
        cases stepped
        exact .begin task pc
      · cases stepped
  | timeout task =>
      dsimp only at stepped
      split at stepped
      · rename_i idle
        cases stepped
        exact .timeout task idle.1 (Bool.eq_false_iff.mpr idle.2)
      · cases stepped
  | take task =>
      dsimp only at stepped
      split at stepped
      · cases stepped
      · rename_i item rest queue
        split at stepped
        · rename_i idle
          cases stepped
          exact .take task item rest queue idle.1 (Bool.eq_false_iff.mpr idle.2)
        · cases stepped
  | collect task =>
      dsimp only at stepped
      split at stepped
      · rename_i name item found
        obtain ⟨_, front, back, split, first⟩ := find_hand found
        cases stepped
        exact .collect task item front back split first
      · cases stepped
  | stored task =>
      dsimp only at stepped
      split at stepped
      · rename_i pc
        cases stepped
        exact .stored task pc
      · cases stepped
  | stop =>
      dsimp only at stepped
      rw [State.stopWorker, Option.some.injEq] at stepped
      split at stepped
      · rename_i task current
        split at stepped
        · rename_i finished
          have idle : state.isRunning = false := by
            rw [State.isRunning, current]
            simp only [finished, ne_eq, not_true_eq_false, decide_false]
          exact stepped ▸ .stopIdle idle
        · rename_i alive
          exact stepped ▸ .stop task current alive
      · rename_i current
        have idle : state.isRunning = false := by rw [State.isRunning, current]
        have same : { state with workerTask := none } = state := by rw [← current]
        have called : Step batchSize state .stop { state with workerTask := none } :=
          .stopIdle idle
        rw [same] at called
        exact stepped ▸ called
  | returned call =>
      dsimp only at stepped
      split at stepped
      · rename_i ready
        cases stepped
        exact .returned call ready.1 ready.2
      · cases stepped

end RagDrift.Ingestion.Memory
