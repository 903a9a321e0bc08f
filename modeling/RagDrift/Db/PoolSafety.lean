import RagDrift.Db.Pool

set_option autoImplicit false

/- What holds of the connection pool in every run: which pools are made, and which are closed. -/
namespace RagDrift.Db

open Transition (Occupied Listed run run_cons run_append run_invariant run_invariant_of_meets
  run_foldl Meets meets_of_forall)

variable {T : Type} {state next final : State T} {events : List (Event T)}

/-- The lock is held by the one task that creates a pool, while there is none, and the other
calls are queued. -/
structure State.Exclusive (state : State T) : Prop where
  lock : Occupied (· = .creating) state.pc state.locked
  queue : Listed (· = .waiting) state.pc state.waiters
  missing : state.locked ≠ none → state.pool = none

theorem init_exclusive : (State.init : State T).Exclusive where
  lock _ := iff_of_false nofun nofun
  queue := ⟨List.nodup_nil, fun _ => iff_of_false List.not_mem_nil nofun⟩
  missing held := absurd rfl held

/-- A task at rest is at no await. -/
theorem not_at {task : T} (pc : (state.pc task).atRest = true) {place : Pc}
    (busy : place.atRest = false) : state.pc task ≠ place := by
  rintro rfl
  exact absurd pc (by rw [busy]; exact Bool.false_ne_true)

theorem not_at_other {task : T} {here place : Pc} (pc : state.pc task = here)
    (other : here ≠ place) : state.pc task ≠ place := by
  rw [pc]
  exact other

theorem State.Exclusive.holder (exclusive : state.Exclusive) {task : T}
    (pc : state.pc task = .creating) : state.locked = some task :=
  (exclusive.lock task).mp pc

theorem State.Exclusive.vacant (exclusive : state.Exclusive) {task : T}
    (pc : state.pc task = .creating) : state.pool = none := by
  apply exclusive.missing
  rw [exclusive.holder pc]
  exact Option.some_ne_none _

variable [DecidableEq T]

/-- A call moves without lock and queue. -/
theorem State.Exclusive.setPc (exclusive : state.Exclusive) {task : T} {pc : Pc}
    (creates : state.pc task ≠ .creating) (waits : state.pc task ≠ .waiting)
    (creates' : pc ≠ .creating) (waits' : pc ≠ .waiting) : (state.setPc task pc).Exclusive :=
  ⟨exclusive.lock.outside creates creates', exclusive.queue.outside waits waits',
    exclusive.missing⟩

theorem step_exclusive {event : Event T} (exclusive : state.Exclusive)
    (stepped : step state event = some next) : next.Exclusive := by
  cases step_cases stepped with
  | found task pool pc _ => exact exclusive.setPc (not_at pc rfl) (not_at pc rfl) nofun nofun
  | create task pc missing free first =>
      have lock := exclusive.lock
      rw [free] at lock
      exact ⟨lock.enter task rfl, exclusive.queue.outside (not_at pc rfl) nofun, fun _ => missing⟩
  | wait task pc missing _ =>
      exact ⟨exclusive.lock.outside (not_at pc rfl) nofun,
        exclusive.queue.join (not_at pc rfl) rfl, exclusive.missing⟩
  | acquiredFound task rest pool queue free _ =>
      have listed := exclusive.queue
      rw [queue] at listed
      have waits : state.pc task = .waiting := (listed.mem_iff task).mp List.mem_cons_self
      exact ⟨exclusive.lock.outside (not_at_other waits nofun) nofun, listed.leave_first nofun,
        exclusive.missing⟩
  | acquired task rest queue free missing =>
      have lock := exclusive.lock
      have listed := exclusive.queue
      rw [free] at lock
      rw [queue] at listed
      exact ⟨lock.enter task rfl, listed.leave_first nofun, fun _ => missing⟩
  | cancelled task pc =>
      exact ⟨exclusive.lock.outside (not_at_other pc nofun) nofun, exclusive.queue.leave nofun,
        exclusive.missing⟩
  | created task pc =>
      have lock := exclusive.lock
      rw [exclusive.holder pc] at lock
      exact ⟨lock.leave nofun, exclusive.queue.outside (not_at_other pc nofun) nofun,
        fun held => absurd rfl held⟩
  | notCreated task pc =>
      have lock := exclusive.lock
      rw [exclusive.holder pc] at lock
      exact ⟨lock.leave nofun, exclusive.queue.outside (not_at_other pc nofun) nofun,
        fun held => absurd rfl held⟩
  | close task pool pc _ _ => exact exclusive.setPc (not_at pc rfl) (not_at pc rfl) nofun nofun
  | closeAgain task pool pc _ _ =>
      exact ⟨exclusive.lock.outside (not_at pc rfl) nofun,
        exclusive.queue.outside (not_at pc rfl) nofun, fun _ => rfl⟩
  | closeNothing task pc _ => exact exclusive.setPc (not_at pc rfl) (not_at pc rfl) nofun nofun
  | closed task pool pc =>
      exact ⟨exclusive.lock.outside (not_at_other pc nofun) nofun,
        exclusive.queue.outside (not_at_other pc nofun) nofun, fun _ => rfl⟩
  | notClosed task pool pc =>
      exact ⟨exclusive.lock.outside (not_at_other pc nofun) nofun,
        exclusive.queue.outside (not_at_other pc nofun) nofun, exclusive.missing⟩

theorem run_exclusive (ran : run step State.init events = some final) : final.Exclusive :=
  run_invariant (fun _ _ _ => step_exclusive) init_exclusive ran

/-- A call that waits for the lock waits for a creation, or for its turn. -/
theorem State.Exclusive.moves (exclusive : state.Exclusive) {task : T}
    (waits : state.pc task = .waiting) :
    (∃ holder, state.pc holder = .creating) ∨
      ∃ first next, step state (.acquired first) = some next := by
  rcases Option.eq_none_or_eq_some state.locked with free | ⟨holder, held⟩
  · right
    cases queue : state.waiters with
    | nil =>
        have member := (exclusive.queue.mem_iff task).mpr waits
        rw [queue] at member
        cases member
    | cons first rest =>
        refine ⟨first, ({ state with waiters := rest } : State T).enter first, ?_⟩
        simp only [step, queue, free, and_self, if_true]
  · exact .inl ⟨holder, (exclusive.lock holder).mpr held⟩

/-- A call that returned has the current pool, and none closes it. -/
def Pc.Agrees (current : Option Nat) : Pc → Prop
  | .returned pool => current = some pool
  | .closing _ => False
  | _ => True

/-- One pool at most was created, and it is what every call returned. -/
structure State.Single (state : State T) : Prop where
  created : state.created = if state.pool = none then 0 else 1
  agrees : ∀ task, (state.pc task).Agrees state.pool

def Event.Closes : Event T → Prop
  | .closePool _ => True
  | _ => False

theorem step_single {event : Event T} (exclusive : state.Exclusive) (single : state.Single)
    (stays : ¬ event.Closes) (stepped : step state event = some next) : next.Single := by
  have moved := fun (task : T) (place : Pc) (here : place.Agrees state.pool) =>
    Transition.forall_moved single.agrees task here
  cases step_cases stepped with
  | found task pool pc current => exact ⟨single.created, moved task _ current⟩
  | create task pc missing free first => exact ⟨single.created, moved task _ trivial⟩
  | wait task pc missing _ => exact ⟨single.created, moved task _ trivial⟩
  | acquiredFound task rest pool queue free current =>
      exact ⟨single.created, moved task _ current⟩
  | acquired task rest queue free missing => exact ⟨single.created, moved task _ trivial⟩
  | cancelled task pc => exact ⟨single.created, moved task _ trivial⟩
  | created task pc =>
      have missing := exclusive.vacant pc
      have first := single.created
      rw [if_pos missing] at first
      have nobody : ∀ other, (state.pc other).Agrees (some state.created) := by
        intro other
        have agrees := single.agrees other
        rw [missing] at agrees
        cases here : state.pc other with
        | returned pool =>
            rw [here] at agrees
            cases agrees
        | closing pool =>
            rw [here] at agrees
            exact agrees.elim
        | idle => trivial
        | waiting => trivial
        | creating => trivial
        | raised => trivial
      refine ⟨?_, Transition.forall_moved nobody task rfl⟩
      change state.created + 1 = if some state.created = none then 0 else 1
      rw [first, if_neg (by simp)]
  | notCreated task pc => exact ⟨single.created, moved task _ trivial⟩
  | close task pool pc _ _ => exact absurd trivial stays
  | closeAgain task pool pc _ _ => exact absurd trivial stays
  | closeNothing task pc _ => exact absurd trivial stays
  | closed task pool pc =>
      have agrees := single.agrees task
      rw [pc] at agrees
      exact agrees.elim
  | notClosed task pool pc =>
      have agrees := single.agrees task
      rw [pc] at agrees
      exact agrees.elim

omit [DecidableEq T] in
theorem init_single : (State.init : State T).Single := ⟨rfl, fun _ => trivial⟩

/-- Pools are created one at a time and only while there is none, and no call waits for nothing.
Until the pool is closed, all calls share the one that was created first. -/
theorem pool_shared (ran : run step State.init events = some final) :
    (∀ first second, final.pc first = .creating → final.pc second = .creating → first = second) ∧
      (∀ task, final.pc task = .creating → final.pool = none) ∧
      (∀ task, final.pc task = .waiting → (∃ holder, final.pc holder = .creating) ∨
        ∃ first next, step final (.acquired first) = some next) ∧
      ((∀ event ∈ events, ¬ event.Closes) → final.created ≤ 1 ∧
        ∀ task pool, final.pc task = .returned pool → final.pool = some pool) := by
  have exclusive := run_exclusive ran
  refine ⟨fun _ _ => exclusive.lock.unique, fun _ => exclusive.vacant,
    fun _ => exclusive.moves, ?_⟩
  · intro stays
    have keeps : ∀ (state : State T) (event : Event T) (next : State T),
        state.Exclusive ∧ state.Single → ¬ event.Closes → step state event = some next →
          next.Exclusive ∧ next.Single := by
      intro state event next both stays stepped
      exact ⟨step_exclusive both.1 stepped, step_single both.1 both.2 stays stepped⟩
    obtain ⟨_, single⟩ := run_invariant_of_meets keeps ⟨init_exclusive, init_single⟩
      (meets_of_forall stays) ran
    constructor
    · rw [single.created]
      split <;> decide
    · intro task pool returned
      have agrees := single.agrees task
      rw [returned] at agrees
      exact agrees

def Pc.isClosing : Pc → Bool
  | .closing _ => true
  | _ => false

/-- A call that closes a pool closes the current one. -/
def Pc.ClosesCurrent (current : Option Nat) : Pc → Prop
  | .closing pool => current = some pool
  | _ => True

/-- All pools but the newest are closed, and the newest is closed or current, or both. -/
structure State.Tended (state : State T) : Prop where
  closer : ∃ closer, Occupied (·.isClosing = true) state.pc closer
  closing : ∀ task, (state.pc task).ClosesCurrent state.pool
  newest : ∀ pool, state.pool = some pool → pool + 1 = state.created
  numbered : ∀ pool ∈ state.closed, pool < state.created
  kept : ∀ pool < state.created, state.pool = some pool ∨ pool ∈ state.closed

/-- `close_pool` is called while no other call of it is at its await. -/
def ClosesAlone (state : State T) (event : Event T) : Prop :=
  event.Closes → ∀ task, (state.pc task).isClosing = false

omit [DecidableEq T] in
theorem init_tended : (State.init : State T).Tended where
  closer := ⟨none, fun _ => iff_of_false Bool.false_ne_true (Option.some_ne_none _).symm⟩
  closing _ := trivial
  newest _ current := absurd current.symm (Option.some_ne_none _)
  numbered _ inside := absurd inside List.not_mem_nil
  kept _ below := absurd below (Nat.not_lt_zero _)

omit [DecidableEq T] in
theorem idle_of_atRest {task : T} (pc : (state.pc task).atRest = true) :
    (state.pc task).isClosing = false := by
  cases here : state.pc task with
  | closing pool =>
      rw [here] at pc
      cases pc
  | idle => rfl
  | waiting => rfl
  | creating => rfl
  | returned pool => rfl
  | raised => rfl

theorem closesCurrent_of_idle {place : Pc} (idle : place.isClosing = false)
    (current : Option Nat) : place.ClosesCurrent current := by
  cases place with
  | closing pool => cases idle
  | idle => trivial
  | waiting => trivial
  | creating => trivial
  | returned pool => trivial
  | raised => trivial

/-- A call that closes nothing moves to a place where it closes nothing. -/
theorem State.Tended.elsewhere (tended : state.Tended) {task : T} {place : Pc}
    (idle : (state.pc task).isClosing = false) (idle' : place.isClosing = false)
    (locked : Option T) (waiters : List T) :
    ({ state.setPc task place with locked := locked, waiters := waiters } : State T).Tended := by
  obtain ⟨closer, occupied⟩ := tended.closer
  have leaves : ¬ (state.pc task).isClosing = true := by
    rw [idle]
    exact Bool.false_ne_true
  have reaches : ¬ place.isClosing = true := by
    rw [idle']
    exact Bool.false_ne_true
  exact ⟨⟨closer, occupied.outside leaves reaches⟩,
    Transition.forall_moved tended.closing task (closesCurrent_of_idle idle' _), tended.newest,
    tended.numbered, tended.kept⟩

/-- The one call that closes the pool is done with it. -/
theorem State.Tended.done (tended : state.Tended) {task : T} {pool : Nat}
    (pc : state.pc task = .closing pool) {place : Pc} (idle : place.isClosing = false) :
    state.pool = some pool ∧
      Occupied (·.isClosing = true) (Function.update state.pc task place) none ∧
      ∀ current other, (Function.update state.pc task place other).ClosesCurrent current := by
  have current := tended.closing task
  rw [pc] at current
  obtain ⟨closer, occupied⟩ := tended.closer
  have closes : (state.pc task).isClosing = true := by rw [pc]; rfl
  rw [(occupied task).mp closes] at occupied
  have left : Occupied (·.isClosing = true) (Function.update state.pc task place) none := by
    apply occupied.leave
    rw [idle]
    exact Bool.false_ne_true
  refine ⟨current, left, ?_⟩
  intro any other
  apply closesCurrent_of_idle
  rw [← Bool.not_eq_true]
  exact fun closing => absurd ((left other).mp closing).symm (Option.some_ne_none _)

omit [DecidableEq T] in
theorem State.Tended.numbered_closed (tended : state.Tended) {pool : Nat}
    (current : state.pool = some pool) :
    ∀ other ∈ state.closed ++ [pool], other < state.created := by
  intro other inside
  rcases List.mem_append.mp inside with older | here
  · exact tended.numbered other older
  · have newest := tended.newest pool current
    rw [List.mem_singleton.mp here]
    omega

omit [DecidableEq T] in
theorem State.Tended.kept_closed (tended : state.Tended) {pool other : Nat}
    (current : state.pool = some pool) (below : other < state.created) :
    other ∈ state.closed ++ [pool] := by
  rcases tended.kept other below with same | older
  · rw [current, Option.some.injEq] at same
    exact List.mem_append_right _ (List.mem_singleton.mpr same.symm)
  · exact List.mem_append_left _ older

theorem step_tended {event : Event T} (exclusive : state.Exclusive) (tended : state.Tended)
    (alone : ClosesAlone state event) (stepped : step state event = some next) : next.Tended := by
  have idle_at : ∀ {task : T} {place : Pc}, state.pc task = place → place.isClosing = false →
      (state.pc task).isClosing = false := fun pc idle => pc ▸ idle
  have queued : ∀ {task : T} {rest : List T}, state.waiters = task :: rest →
      (state.pc task).isClosing = false := fun queue =>
    idle_at ((exclusive.queue.mem_iff _).mp (queue ▸ List.mem_cons_self)) rfl
  cases step_cases stepped with
  | found task pool pc current => exact tended.elsewhere (idle_of_atRest pc) rfl _ _
  | create task pc missing free first => exact tended.elsewhere (idle_of_atRest pc) rfl _ _
  | wait task pc missing _ => exact tended.elsewhere (idle_of_atRest pc) rfl _ _
  | acquiredFound task rest pool queue free current =>
      exact tended.elsewhere (queued queue) rfl _ _
  | acquired task rest queue free missing => exact tended.elsewhere (queued queue) rfl _ _
  | cancelled task pc => exact tended.elsewhere (idle_at pc rfl) rfl _ _
  | created task pc =>
      -- Nobody closes a pool while there is none.
      have missing := exclusive.vacant pc
      have reached : (Pc.returned state.created).isClosing = false := rfl
      have moved := tended.elsewhere (idle_at pc rfl) reached none state.waiters
      have nobody : ∀ other, (state.pc other).isClosing = false := by
        intro other
        cases here : state.pc other with
        | closing pool =>
            have current := tended.closing other
            rw [here, missing] at current
            cases current
        | idle => rfl
        | waiting => rfl
        | creating => rfl
        | returned pool => rfl
        | raised => rfl
      have target : (Pc.returned state.created).ClosesCurrent (some state.created) := trivial
      have closing := Transition.forall_moved
        (fun other => closesCurrent_of_idle (nobody other) (some state.created)) task target
      refine ⟨moved.closer, closing, ?_, ?_, ?_⟩
      · rintro pool ⟨⟩
        rfl
      · intro pool inside
        exact Nat.lt_succ_of_lt (tended.numbered pool inside)
      · intro pool below
        rcases Nat.lt_succ_iff_lt_or_eq.mp below with older | rfl
        · rcases tended.kept pool older with current | inside
          · rw [missing] at current
            cases current
          · exact .inr inside
        · exact .inl rfl
  | notCreated task pc => exact tended.elsewhere (idle_at pc rfl) rfl _ _
  | close task pool pc current _ =>
      have free : Occupied (·.isClosing = true) state.pc none := by
        intro other
        refine iff_of_false ?_ (Option.some_ne_none _).symm
        change ¬ (state.pc other).isClosing = true
        rw [alone trivial other]
        exact Bool.false_ne_true
      exact ⟨⟨_, free.enter task rfl⟩, Transition.forall_moved tended.closing task current,
        tended.newest, tended.numbered, tended.kept⟩
  | closeAgain task pool pc current inside =>
      have left := tended.elsewhere (idle_of_atRest pc) (rfl : Pc.idle.isClosing = false)
        state.locked state.waiters
      have nobody : ∀ other, (state.pc other).ClosesCurrent none :=
        fun other => closesCurrent_of_idle (alone trivial other) none
      refine ⟨left.closer, Transition.forall_moved nobody task trivial,
        fun _ same => absurd same (Option.some_ne_none _).symm, tended.numbered, ?_⟩
      intro other below
      right
      rcases tended.kept other below with same | older
      · rw [current, Option.some.injEq] at same
        exact same ▸ inside
      · exact older
  | closeNothing task pc missing => exact tended.elsewhere (idle_of_atRest pc) rfl _ _
  | closed task pool pc =>
      have idle : Pc.idle.isClosing = false := rfl
      obtain ⟨current, free, closing⟩ := tended.done pc idle
      have gone : ∀ other : Nat, none ≠ some other := fun other => (Option.some_ne_none other).symm
      exact ⟨⟨none, free⟩, closing none, fun _ same => absurd same (gone _),
        tended.numbered_closed current, fun other below => .inr (tended.kept_closed current below)⟩
  | notClosed task pool pc =>
      have raised : Pc.raised.isClosing = false := rfl
      obtain ⟨current, free, closing⟩ := tended.done pc raised
      exact ⟨⟨none, free⟩, closing _, tended.newest, tended.numbered_closed current,
        fun other below => .inr (tended.kept_closed current below)⟩

theorem run_tended (ran : run step State.init events = some final)
    (alone : Meets step ClosesAlone State.init events) : final.Exclusive ∧ final.Tended := by
  have keeps : ∀ (state : State T) (event : Event T) (next : State T),
      state.Exclusive ∧ state.Tended → ClosesAlone state event → step state event = some next →
        next.Exclusive ∧ next.Tended := by
    intro state event next both alone stepped
    exact ⟨step_exclusive both.1 stepped, step_tended both.1 both.2 alone stepped⟩
  exact run_invariant_of_meets keeps ⟨init_exclusive, init_tended⟩ alone ran

/-- The pool in the variable is closed. -/
def State.isStale (state : State T) : Bool :=
  match state.pool with
  | some pool => pool ∈ state.closed
  | none => false

/-- Whether the last step of a call of `close_pool` raised, if there was one. -/
def Event.closeRaised (raised : Bool) : Event T → Bool
  | .closePool _ => false
  | .closedPool _ succeeds => !succeeds
  | _ => raised

def closeRaised (events : List (Event T)) : Bool := events.foldl Event.closeRaised false

omit [DecidableEq T] in
theorem isStale_of_pool {pool : Nat} (current : state.pool = some pool) :
    state.isStale = true ↔ pool ∈ state.closed := by
  rw [State.isStale, current, decide_eq_true_eq]

omit [DecidableEq T] in
theorem isStale_of_none (missing : state.pool = none) : state.isStale = false := by
  rw [State.isStale, missing]

/-- A closed pool stays in the variable where closing it raised. -/
theorem step_isStale {event : Event T} (exclusive : state.Exclusive) (tended : state.Tended)
    (stepped : step state event = some next) :
    next.isStale = event.closeRaised state.isStale := by
  cases step_cases stepped with
  | found task pool pc current => rfl
  | create task pc missing free first => rfl
  | wait task pc missing _ => rfl
  | acquiredFound task rest pool queue free current => rfl
  | acquired task rest queue free missing => rfl
  | cancelled task pc => rfl
  | created task pc =>
      change decide (state.created ∈ state.closed) = state.isStale
      rw [isStale_of_none (exclusive.vacant pc), decide_eq_false_iff_not]
      exact fun inside => absurd (tended.numbered _ inside) (Nat.lt_irrefl _)
  | notCreated task pc => rfl
  | close task pool pc current unclosed =>
      change state.isStale = false
      rw [← Bool.not_eq_true, isStale_of_pool current]
      exact unclosed
  | closeAgain task pool pc current inside => rfl
  | closeNothing task pc missing => exact isStale_of_none missing
  | closed task pool pc => rfl
  | notClosed task pool pc =>
      have raised : Pc.raised.isClosing = false := rfl
      obtain ⟨current, _, _⟩ := tended.done pc raised
      have kept : ({ state.setPc task .raised with
        closed := state.closed ++ [pool] } : State T).pool = some pool := current
      apply (isStale_of_pool kept).mpr
      exact List.mem_append_right _ List.mem_cons_self

theorem run_isStale (ran : run step State.init events = some final)
    (alone : Meets step ClosesAlone State.init events) :
    final.isStale = closeRaised events := by
  have keeps : ∀ (state : State T) (event : Event T) (next : State T),
      state.Exclusive ∧ state.Tended → ClosesAlone state event → step state event = some next →
        (next.Exclusive ∧ next.Tended) ∧ next.isStale = event.closeRaised state.isStale := by
    intro state event next both alone stepped
    exact ⟨⟨step_exclusive both.1 stepped, step_tended both.1 both.2 alone stepped⟩,
      step_isStale both.1 both.2 stepped⟩
  exact run_foldl keeps ⟨init_exclusive, init_tended⟩ alone ran

def Event.task : Event T → T
  | .getPool task | .acquired task | .cancelled task | .createdPool task _ | .closePool task
  | .closedPool task _ => task

/-- What a call returns is the pool that is current then. -/
theorem step_returns {event : Event T} {pool : Nat} (stepped : step state event = some next)
    (returned : next.pc event.task = .returned pool) : next.pool = some pool := by
  have placed : ∀ {task : T} {place : Pc},
      Function.update state.pc task place task = .returned pool → place = .returned pool := by
    intro task place returned
    rwa [Function.update_self] at returned
  cases step_cases stepped with
  | found task current _ same =>
      cases placed returned
      exact same
  | acquiredFound task rest current _ _ same =>
      cases placed returned
      exact same
  | created task _ =>
      cases placed returned
      rfl
  | create task _ _ _ _ => cases placed returned
  | wait task _ _ _ => cases placed returned
  | acquired task rest _ _ _ => cases placed returned
  | cancelled task _ => cases placed returned
  | notCreated task _ => cases placed returned
  | close task current _ _ _ => cases placed returned
  | closeAgain task current _ _ _ => cases placed returned
  | closeNothing task _ _ => cases placed returned
  | closed task current _ => cases placed returned
  | notClosed task current _ => cases placed returned

/-- Where no two calls close the pool at a time, no pool is lost, and a call is handed a closed
one exactly if the last call that closed it raised. -/
theorem no_pool_lost (ran : run step State.init events = some final)
    (alone : Meets step ClosesAlone State.init events) :
    (∀ pool < final.created, final.pool = some pool ∨ pool ∈ final.closed) ∧
      ∀ front event back state next pool, events = front ++ event :: back →
        run step State.init front = some state → step state event = some next →
          next.pc event.task = .returned pool → next.pool = some pool ∧
            (pool ∈ next.closed ↔ closeRaised (front ++ [event]) = true) := by
  refine ⟨(run_tended ran alone).2.kept, ?_⟩
  intro front event back state next pool split reached stepped returned
  have before : run step State.init (front ++ [event]) = some next :=
    run_append reached (run_cons.mpr ⟨next, stepped, rfl⟩)
  have met : Meets step ClosesAlone State.init (front ++ [event]) := by
    rw [split, List.append_cons] at alone
    exact alone.front
  have current := step_returns stepped returned
  refine ⟨current, ?_⟩
  rw [← isStale_of_pool current, run_isStale before met]

/-- The pool is closed and opened anew while another call waits; closing the new one raises, and
the next call is handed the closed pool. -/
def reopened : List (Event Bool) :=
  [.getPool false, .createdPool false true, .closePool false, .getPool true,
    .closedPool false true, .getPool false, .getPool true, .createdPool false true,
    .acquired true, .closePool false, .closedPool false false, .getPool true]

instance (state : State Bool) (event : Event Bool) : Decidable (ClosesAlone state event) :=
  match event with
  | .closePool _ => decidable_of_iff (∀ task, (state.pc task).isClosing = false)
      ⟨fun idle _ => idle, fun alone => alone trivial⟩
  | .getPool _ | .acquired _ | .cancelled _ | .createdPool _ _ | .closedPool _ _ =>
      .isTrue fun closes => closes.elim

theorem reopened_isSome : (run step State.init reopened).isSome := by decide +kernel

theorem pool_shared_reopened :
    let final := (run step State.init reopened).get reopened_isSome
    (∀ first second, final.pc first = .creating → final.pc second = .creating → first = second) ∧
      (∀ task, final.pc task = .creating → final.pool = none) ∧
      (∀ task, final.pc task = .waiting → (∃ holder, final.pc holder = .creating) ∨
        ∃ first next, step final (.acquired first) = some next) ∧
      ((∀ event ∈ reopened, ¬ event.Closes) → final.created ≤ 1 ∧
        ∀ task pool, final.pc task = .returned pool → final.pool = some pool) :=
  pool_shared (Option.some_get reopened_isSome).symm

theorem no_pool_lost_reopened :
    let final := (run step State.init reopened).get reopened_isSome
    (∀ pool < final.created, final.pool = some pool ∨ pool ∈ final.closed) ∧
      ∀ front event back state next pool, reopened = front ++ event :: back →
        run step State.init front = some state → step state event = some next →
          next.pc event.task = .returned pool → next.pool = some pool ∧
            (pool ∈ next.closed ↔ closeRaised (front ++ [event]) = true) :=
  no_pool_lost (Option.some_get reopened_isSome).symm (by decide +kernel)

-- A second call that closes the first pool sets the variable to `None` when another pool is in it.
example : ((run step (State.init : State Bool)
    [.getPool false, .createdPool false true, .closePool false, .closePool true,
      .closedPool false true, .getPool false, .createdPool false true,
      .closedPool true true]).map fun final => (final.created, final.pool, final.closed)) =
    some (2, none, [0, 0]) := by
  decide +kernel

end RagDrift.Db
