import RagDrift.Transition.Places
import RagDrift.Transition.Runs
import Mathlib.Data.List.Nodup

set_option autoImplicit false

/- `evaluator.db.pool`: the connection pool that all tasks of the event loop share. A step is what
one call does between two awaits. -/
namespace RagDrift.Db

open Transition (Occupied)

/-- Where the call of a task stands. A pool is its number among those that were created. -/
inductive Pc where
  | idle
  /-- At `async with _pool_lock`. -/
  | waiting
  /-- At `asyncpg.create_pool`, with the lock. -/
  | creating
  /-- `get_pool` has returned. -/
  | returned (pool : Nat)
  /-- At `_pool.close()`. -/
  | closing (pool : Nat)
  | raised
  deriving DecidableEq

def Pc.atRest : Pc → Bool
  | .idle | .returned _ | .raised => true
  | _ => false

variable {T : Type}

/-- `_pool`, `_pool_lock` with the task inside it and its queue, and the calls. `created` is how
many pools were created, `closed` are those that are closed. -/
structure State (T : Type) where
  pool : Option Nat
  locked : Option T
  waiters : List T
  created : Nat
  closed : List Nat
  pc : T → Pc

def State.init : State T := ⟨none, none, [], 0, [], fun _ => .idle⟩

/-- What a call does up to its next await. An await that does not succeed raises, as it does when
its task is cancelled. `Pool.close` returns at once where the pool is closed, and it leaves the
pool closed also where it raises. -/
inductive Event (T : Type) where
  | getPool (task : T)
  | acquired (task : T)
  | cancelled (task : T)
  | createdPool (task : T) (succeeds : Bool)
  | closePool (task : T)
  | closedPool (task : T) (succeeds : Bool)
  deriving DecidableEq

section Steps

variable [DecidableEq T]

def State.setPc (state : State T) (task : T) (pc : Pc) : State T :=
  { state with pc := Function.update state.pc task pc }

/-- The body of `async with _pool_lock`, up to its await or to the return behind it. -/
def State.enter (state : State T) (task : T) : State T :=
  match state.pool with
  | some pool => state.setPc task (.returned pool)
  | none => { state.setPc task .creating with locked := some task }

def step (state : State T) : Event T → Option (State T)
  | .getPool task =>
      if (state.pc task).atRest then
        match state.pool with
        | some pool => some (state.setPc task (.returned pool))
        | none =>
            -- `Lock.acquire` returns at once only where nobody is queued.
            if state.locked = none ∧ state.waiters = [] then some (state.enter task)
            else some { state.setPc task .waiting with waiters := state.waiters ++ [task] }
      else none
  | .acquired task =>
      match state.waiters with
      | first :: rest =>
          if first = task ∧ state.locked = none then
            some (({ state with waiters := rest } : State T).enter task)
          else none
      | [] => none
  | .cancelled task =>
      if state.pc task = .waiting then
        some { state.setPc task .raised with waiters := state.waiters.erase task }
      else none
  | .createdPool task succeeds =>
      if state.pc task = .creating then
        if succeeds then
          some { state.setPc task (.returned state.created) with
            pool := some state.created
            locked := none
            created := state.created + 1 }
        else some { state.setPc task .raised with locked := none }
      else none
  | .closePool task =>
      if (state.pc task).atRest then
        match state.pool with
        | some pool =>
            if pool ∈ state.closed then some { state.setPc task .idle with pool := none }
            else some (state.setPc task (.closing pool))
        | none => some (state.setPc task .idle)
      else none
  | .closedPool task succeeds =>
      match state.pc task with
      | .closing pool =>
          if succeeds then
            some { state.setPc task .idle with
              pool := none
              closed := state.closed ++ [pool] }
          else some { state.setPc task .raised with closed := state.closed ++ [pool] }
      | _ => none

/-- The steps one by one, each with where its task has to stand. -/
inductive Step (state : State T) : Event T → State T → Prop where
  | found (task : T) (pool : Nat) (pc : (state.pc task).atRest = true)
      (current : state.pool = some pool) :
      Step state (.getPool task) (state.setPc task (.returned pool))
  | create (task : T) (pc : (state.pc task).atRest = true) (missing : state.pool = none)
      (free : state.locked = none) (first : state.waiters = []) :
      Step state (.getPool task) { state.setPc task .creating with locked := some task }
  | wait (task : T) (pc : (state.pc task).atRest = true) (missing : state.pool = none)
      (busy : ¬ (state.locked = none ∧ state.waiters = [])) :
      Step state (.getPool task)
        { state.setPc task .waiting with waiters := state.waiters ++ [task] }
  | acquiredFound (task : T) (rest : List T) (pool : Nat) (queue : state.waiters = task :: rest)
      (free : state.locked = none) (current : state.pool = some pool) :
      Step state (.acquired task) { state.setPc task (.returned pool) with waiters := rest }
  | acquired (task : T) (rest : List T) (queue : state.waiters = task :: rest)
      (free : state.locked = none) (missing : state.pool = none) :
      Step state (.acquired task)
        { state.setPc task .creating with waiters := rest, locked := some task }
  | cancelled (task : T) (pc : state.pc task = .waiting) :
      Step state (.cancelled task)
        { state.setPc task .raised with waiters := state.waiters.erase task }
  | created (task : T) (pc : state.pc task = .creating) :
      Step state (.createdPool task true) { state.setPc task (.returned state.created) with
        pool := some state.created
        locked := none
        created := state.created + 1 }
  | notCreated (task : T) (pc : state.pc task = .creating) :
      Step state (.createdPool task false) { state.setPc task .raised with locked := none }
  | close (task : T) (pool : Nat) (pc : (state.pc task).atRest = true)
      (current : state.pool = some pool) (unclosed : pool ∉ state.closed) :
      Step state (.closePool task) (state.setPc task (.closing pool))
  | closeAgain (task : T) (pool : Nat) (pc : (state.pc task).atRest = true)
      (current : state.pool = some pool) (inside : pool ∈ state.closed) :
      Step state (.closePool task) { state.setPc task .idle with pool := none }
  | closeNothing (task : T) (pc : (state.pc task).atRest = true) (missing : state.pool = none) :
      Step state (.closePool task) (state.setPc task .idle)
  | closed (task : T) (pool : Nat) (pc : state.pc task = .closing pool) :
      Step state (.closedPool task true) { state.setPc task .idle with
        pool := none
        closed := state.closed ++ [pool] }
  | notClosed (task : T) (pool : Nat) (pc : state.pc task = .closing pool) :
      Step state (.closedPool task false)
        { state.setPc task .raised with closed := state.closed ++ [pool] }

variable {state next : State T}

theorem enter_found {task : T} {pool : Nat} (current : state.pool = some pool) :
    state.enter task = state.setPc task (.returned pool) := by
  rw [State.enter, current]

theorem enter_missing {task : T} (missing : state.pool = none) :
    state.enter task = { state.setPc task .creating with locked := some task } := by
  rw [State.enter, missing]

/-- Every step of the step function is one of these. -/
theorem step_cases {event : Event T} (stepped : step state event = some next) :
    Step state event next := by
  unfold step at stepped
  cases event with
  | getPool task =>
      dsimp only at stepped
      split at stepped
      case isFalse => cases stepped
      case isTrue pc =>
        split at stepped
        case h_1 pool current =>
          cases stepped
          exact .found task pool pc current
        case h_2 missing =>
          split at stepped
          case isTrue free =>
            cases stepped
            rw [enter_missing missing]
            exact .create task pc missing free.1 free.2
          case isFalse busy =>
            cases stepped
            exact .wait task pc missing busy
  | acquired task =>
      dsimp only at stepped
      split at stepped
      case h_2 => cases stepped
      case h_1 first rest queue =>
        split at stepped
        case isFalse => cases stepped
        case isTrue ready =>
          obtain ⟨rfl, free⟩ := ready
          cases stepped
          rcases Option.eq_none_or_eq_some state.pool with missing | ⟨pool, current⟩
          · rw [@enter_missing T _ { state with waiters := rest } first missing]
            exact .acquired first rest queue free missing
          · rw [@enter_found T _ { state with waiters := rest } first pool current]
            exact .acquiredFound first rest pool queue free current
  | cancelled task =>
      dsimp only at stepped
      split at stepped
      case isFalse => cases stepped
      case isTrue pc =>
        cases stepped
        exact .cancelled task pc
  | createdPool task succeeds =>
      dsimp only at stepped
      split at stepped
      case isFalse => cases stepped
      case isTrue pc =>
        cases succeeds with
        | true =>
            cases stepped
            exact .created task pc
        | false =>
            cases stepped
            exact .notCreated task pc
  | closePool task =>
      dsimp only at stepped
      split at stepped
      case isFalse => cases stepped
      case isTrue pc =>
        split at stepped
        case h_1 pool current =>
          split at stepped
          case isTrue inside =>
            cases stepped
            exact .closeAgain task pool pc current inside
          case isFalse unclosed =>
            cases stepped
            exact .close task pool pc current unclosed
        case h_2 missing =>
          cases stepped
          exact .closeNothing task pc missing
  | closedPool task succeeds =>
      dsimp only at stepped
      split at stepped
      case h_2 => cases stepped
      case h_1 pool pc =>
        cases succeeds with
        | true =>
            cases stepped
            exact .closed task pool pc
        | false =>
            cases stepped
            exact .notClosed task pool pc

end Steps

end RagDrift.Db
