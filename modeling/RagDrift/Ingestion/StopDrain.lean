import RagDrift.Ingestion.Conservation
import Mathlib.Data.List.Nodup
import Mathlib.Data.List.Perm.Subperm

set_option autoImplicit false

/- What a `stop_worker` call of the in-memory buffer waits for: the task it awaits goes through
the queue up to the first sentinel, if nobody interferes. -/
namespace RagDrift.Ingestion.Memory

open Transition (run Meets meets_of_forall run_invariant_of_meets)

variable {F : Type} {batchSize : Int} {state after : State F}

/-- A task holds one item at most, and only while it waits for one; only tasks that were created
are anywhere. -/
structure State.Tidy (state : State F) : Prop where
  once : (state.hands.map Prod.fst).Nodup
  waiting : ∀ held ∈ state.hands, state.pc held.1 = .waiting
  created : ∀ task, state.pc task ≠ .done → task < state.tasks
  current : ∀ task, state.workerTask = some task → task < state.tasks
  awaited : ∀ call ∈ state.calls, call.task < state.tasks ∧ call.before ≤ state.enqueued.length

theorem pc_setPc (state : State F) (task : Nat) (pc : Pc) (other : Nat) :
    (state.setPc task pc).pc other = if other = task then pc else state.pc other :=
  Function.update_apply _ _ _ _

theorem mem_hands {task : Nat} {item : Item F} {front back : List (Nat × Item F)}
    (hands : state.hands = front ++ (task, item) :: back) : (task, item) ∈ state.hands := by
  rw [hands]
  exact List.mem_append_right _ List.mem_cons_self

theorem not_holds {task : Nat} (free : state.holds task = false) :
    ∀ held ∈ state.hands, held.1 ≠ task := by
  rintro held inside rfl
  have named : held.1 ∈ state.hands.map Prod.fst := List.mem_map_of_mem inside
  rw [State.holds, decide_eq_false_iff_not] at free
  exact free named

theorem not_holds_of_pc (tidy : state.Tidy) {task : Nat} {pc : Pc} (here : state.pc task = pc)
    (busy : pc ≠ .waiting) : ∀ held ∈ state.hands, held.1 ≠ task := by
  rintro held inside rfl
  exact busy (here.symm.trans (tidy.waiting held inside))

/-- A task that holds nothing goes to another place. -/
theorem State.Tidy.setPc (tidy : state.Tidy) (task : Nat) (pc : Pc)
    (free : ∀ held ∈ state.hands, held.1 ≠ task) (alive : state.pc task ≠ .done) :
    (state.setPc task pc).Tidy := by
  refine ⟨tidy.once, ?_, ?_, tidy.current, tidy.awaited⟩
  · intro held inside
    rw [pc_setPc, if_neg (free held inside)]
    exact tidy.waiting held inside
  · intro other busy
    rw [pc_setPc] at busy
    split at busy
    · rename_i same
      exact same ▸ tidy.created task alive
    · exact tidy.created other busy

theorem init_tidy : (State.init : State F).Tidy :=
  ⟨List.nodup_nil, fun _ inside => absurd inside List.not_mem_nil, fun _ busy => absurd rfl busy,
    nofun, fun _ inside => absurd inside List.not_mem_nil⟩

theorem collect_pc (task : Nat) (item : Item F) (other : Nat) :
    (state.collect batchSize task item).pc other =
      if other = task then (match item with | .stop => .done | .frame _ => .writing)
      else state.pc other := by
  cases item <;> exact pc_setPc _ task _ other

theorem State.Tidy.enqueue (tidy : state.Tidy) (queue : List (Item F)) (added : List F) :
    ({ state with queue := queue, enqueued := state.enqueued ++ added } : State F).Tidy := by
  refine ⟨tidy.once, tidy.waiting, tidy.created, tidy.current, ?_⟩
  intro call inside
  obtain ⟨task, before⟩ := tidy.awaited call inside
  refine ⟨task, ?_⟩
  rw [List.length_append]
  omega

/-- A new task is given a number nobody has. -/
theorem State.Tidy.start (tidy : state.Tidy) :
    ({ state with
      stopped := false
      workerTask := some state.tasks
      tasks := state.tasks + 1
      pc := Function.update state.pc state.tasks .starting } : State F).Tidy := by
  refine ⟨tidy.once, ?_, ?_, ?_, ?_⟩
  · intro held inside
    have old := tidy.waiting held inside
    have below := tidy.created held.1 (by rw [old]; nofun)
    change Function.update state.pc state.tasks .starting held.1 = _
    rw [Function.update_of_ne (Nat.ne_of_lt below)]
    exact old
  · intro task busy
    change Function.update state.pc state.tasks .starting task ≠ .done at busy
    change task < state.tasks + 1
    by_cases fresh : task = state.tasks
    · omega
    · rw [Function.update_of_ne fresh] at busy
      have below := tidy.created task busy
      omega
  · rintro task ⟨⟩
    exact Nat.lt_succ_self _
  · intro call inside
    obtain ⟨task, before⟩ := tidy.awaited call inside
    exact ⟨Nat.lt_succ_of_lt task, before⟩

/-- A waiting task that holds nothing is given an item. -/
theorem State.Tidy.take (tidy : state.Tidy) {task : Nat} (item : Item F) (rest : List (Item F))
    (pc : state.pc task = .waiting) (free : state.holds task = false) :
    ({ state with queue := rest, hands := state.hands ++ [(task, item)] } : State F).Tidy := by
  refine ⟨?_, ?_, tidy.created, tidy.current, tidy.awaited⟩
  · rw [List.map_append]
    refine List.nodup_append.mpr ⟨tidy.once, List.nodup_singleton _, ?_⟩
    rintro other inside named single rfl
    obtain ⟨held, member, rfl⟩ := List.mem_map.mp inside
    exact not_holds free held member (List.mem_singleton.mp single)
  · intro held inside
    rcases List.mem_append.mp inside with old | new
    · exact tidy.waiting held old
    · rw [List.mem_singleton] at new
      rw [new]
      exact pc

/-- Nobody else holds anything for a task that goes on with an item. -/
theorem State.Tidy.others (tidy : state.Tidy) {task : Nat} {item : Item F}
    {front back : List (Nat × Item F)} (hands : state.hands = front ++ (task, item) :: back) :
    ∀ held ∈ front ++ back, held.1 ≠ task := by
  have names := tidy.once
  rw [hands, List.map_append, List.map_cons] at names
  have unnamed := (List.nodup_middle.mp names).notMem
  rw [← List.map_append] at unnamed
  rintro held inside rfl
  exact unnamed (List.mem_map.mpr ⟨held, inside, rfl⟩)

theorem State.Tidy.collect (tidy : state.Tidy) {task : Nat} {item : Item F}
    {front back : List (Nat × Item F)} (hands : state.hands = front ++ (task, item) :: back)
    (first : task ∉ front.map Prod.fst) : (state.collect batchSize task item).Tidy := by
  have rest : (front ++ back).Sublist state.hands := by
    rw [hands]
    exact (List.sublist_cons_self _ back).append_left front
  have pc : state.pc task = .waiting := tidy.waiting (task, item) (mem_hands hands)
  refine ⟨?_, ?_, ?_, ?_, ?_⟩
  · rw [collect_hands hands first]
    exact tidy.once.sublist (rest.map _)
  · rw [collect_hands hands first]
    intro held inside
    rw [collect_pc, if_neg (tidy.others hands held inside)]
    exact tidy.waiting held (rest.subset inside)
  · intro other busy
    rw [collect_pc] at busy
    have below : other < state.tasks := by
      split at busy
      · rename_i same
        exact tidy.created other (by rw [same, pc]; nofun)
      · exact tidy.created other busy
    cases item <;> exact below
  · cases item <;> exact tidy.current
  · cases item <;> exact tidy.awaited

theorem step_tidy (tidy : state.Tidy) {event : Event F}
    (stepped : step batchSize state event = some after) : after.Tidy := by
  have moved {task : Nat} {pc next : Pc} (here : state.pc task = pc) (alive : pc ≠ .done)
      (free : ∀ held ∈ state.hands, held.1 ≠ task) : (state.setPc task next).Tidy :=
    tidy.setPc task next free (here ▸ alive)
  cases step_cases stepped with
  | enqueue added => exact tidy.enqueue _ added
  | startRunning _ => exact tidy
  | start idle => exact tidy.start
  | begin task pc => exact moved pc nofun (not_holds_of_pc tidy pc nofun)
  | timeout task pc free => exact moved pc nofun (not_holds free)
  | take task item rest queue pc free => exact tidy.take item rest pc free
  | collect task item front back hands first => exact tidy.collect hands first
  | stored task pc => exact moved pc nofun (not_holds_of_pc tidy pc nofun)
  | stopIdle _ => exact ⟨tidy.once, tidy.waiting, tidy.created, nofun, tidy.awaited⟩
  | stop task current alive =>
      refine ⟨tidy.once, tidy.waiting, tidy.created, tidy.current, ?_⟩
      intro call inside
      rcases List.mem_append.mp inside with old | new
      · exact tidy.awaited call old
      · rw [List.mem_singleton] at new
        rw [new]
        exact ⟨tidy.current task current, Nat.le_refl _⟩
  | returned call _ _ =>
      refine ⟨tidy.once, tidy.waiting, tidy.created, nofun, ?_⟩
      exact fun other inside => tidy.awaited other (List.mem_of_mem_erase inside)

/-- The frames a task has in hand. -/
def State.handOf (state : State F) (task : Nat) : List F :=
  frames ((state.hands.filter fun held => held.1 = task).map Prod.snd)

/-- The frames that were enqueued before a call. -/
def State.before (state : State F) (call : Call) : List F := state.enqueued.take call.before

/-- A task is the current one and the only one alive, and every `stop_worker` call awaits it. -/
structure State.Sole (state : State F) (task : Nat) : Prop where
  current : state.workerTask = some task
  others : ∀ other, other ≠ task → state.pc other = .done
  calls : ∀ call ∈ state.calls, call.task = task

/-- Why the frames enqueued before a call are all handed over when its task is done. -/
inductive State.Pledged (batchSize : Int) (state : State F) (call : Call) : Prop
  /-- They are handed over, or in the hand of the task. -/
  | covered (handed : (state.before call).Subperm
      (state.handed.flatten ++ state.handOf call.task))
  /-- The task goes on until it comes to a sentinel, and they are in front of the first one. -/
  | draining (ahead : List F) (behind : List (Item F)) (sole : state.Sole call.task)
      (alive : state.pc call.task ≠ .done) (unstopped : state.stopped = false)
      (hands : ∀ held ∈ state.hands, held.2 ≠ .stop)
      (queue : state.queue = ahead.map .frame ++ .stop :: behind)
      (handed : (state.before call).Subperm (state.handed.flatten ++ state.inHand ++ ahead))
  /-- The task has a frame, and they all fit into its batch. -/
  | filling (value : F) (sole : state.Sole call.task)
      (hands : (call.task, .frame value) ∈ state.hands)
      (handed : (state.before call).Subperm (state.handed.flatten ++ state.inHand ++
        (gather (batchLimit batchSize - 1) state.queue).frames))

theorem State.Sole.eq_of_alive {task other : Nat} (sole : state.Sole task)
    (alive : state.pc other ≠ .done) : other = task := by
  by_contra differs
  exact alive (sole.others other differs)

theorem State.Sole.eq_of_pc {task other : Nat} (sole : state.Sole task) {pc : Pc}
    (here : state.pc other = pc) (alive : pc ≠ .done) : other = task :=
  sole.eq_of_alive (here ▸ alive)

/-- Only the sole task has something in hand, and one item at most. -/
theorem State.Sole.hands_eq {task : Nat} (sole : state.Sole task) (tidy : state.Tidy) :
    state.hands = [] ∨ ∃ item, state.hands = [(task, item)] := by
  have mine : ∀ held ∈ state.hands, held.1 = task := fun held inside =>
    sole.eq_of_pc (tidy.waiting held inside) nofun
  have once := tidy.once
  match listed : state.hands with
  | [] => exact Or.inl rfl
  | [(name, item)] =>
      have named := mine (name, item) (listed ▸ List.mem_cons_self)
      exact Or.inr ⟨item, by rw [← named]⟩
  | first :: second :: rest =>
      have one := mine first (listed ▸ List.mem_cons_self)
      have two := mine second (listed ▸ List.mem_cons_of_mem _ List.mem_cons_self)
      rw [listed, List.map_cons, List.map_cons, one, two] at once
      exact absurd List.mem_cons_self (List.nodup_cons.mp once).1

theorem State.Sole.hands_of_mem {task : Nat} (sole : state.Sole task) (tidy : state.Tidy)
    {item : Item F} (inside : (task, item) ∈ state.hands) : state.hands = [(task, item)] := by
  rcases sole.hands_eq tidy with none | ⟨other, one⟩
  · rw [none] at inside
    cases inside
  · rw [one, List.mem_singleton] at inside
    rw [one, ← inside]

theorem State.Sole.not_idle {task : Nat} (sole : state.Sole task) (alive : state.pc task ≠ .done) :
    ¬ state.isRunning = false := by
  rw [isRunning_iff.mpr ⟨task, sole.current, alive⟩]
  nofun

theorem State.Sole.not_returning {task : Nat} (sole : state.Sole task)
    (alive : state.pc task ≠ .done) {call : Call} (inside : call ∈ state.calls) :
    state.pc call.task ≠ .done := by
  rw [sole.calls call inside]
  exact alive

theorem State.Sole.setPc {task : Nat} (sole : state.Sole task) (pc : Pc) :
    (state.setPc task pc).Sole task := by
  refine ⟨sole.current, ?_, sole.calls⟩
  intro other differs
  rw [pc_setPc, if_neg differs]
  exact sole.others other differs

theorem State.Sole.collect {task : Nat} (sole : state.Sole task) (item : Item F) :
    (state.collect batchSize task item).Sole task := by
  refine ⟨by cases item <;> exact sole.current, ?_, by cases item <;> exact sole.calls⟩
  intro other differs
  rw [collect_pc, if_neg differs]
  exact sole.others other differs

/-- A longer queue gives at least as much. -/
theorem gather_append (room : Nat) (queue more : List (Item F)) :
    (gather room queue).frames.Sublist (gather room (queue ++ more)).frames := by
  induction room generalizing queue with
  | zero => exact List.Sublist.refl _
  | succ room ih =>
      cases queue with
      | nil => exact List.nil_sublist _
      | cons item rest =>
          cases item with
          | frame value => exact (ih rest).cons_cons value
          | stop => exact List.Sublist.refl _

/-- In front of a sentinel the batch fills up, or the worker comes to the sentinel. -/
theorem gather_sentinel (room : Nat) (ahead : List F) (behind : List (Item F)) :
    (∃ more, ahead = (gather room (ahead.map .frame ++ .stop :: behind)).frames ++ more ∧
      (gather room (ahead.map .frame ++ .stop :: behind)).stop = false ∧
      (gather room (ahead.map .frame ++ .stop :: behind)).rest =
        more.map .frame ++ .stop :: behind) ∨
    (gather room (ahead.map .frame ++ .stop :: behind)).frames = ahead := by
  induction room generalizing ahead with
  | zero => exact Or.inl ⟨ahead, rfl, rfl, rfl⟩
  | succ room ih =>
      cases ahead with
      | nil => exact Or.inr rfl
      | cons value rest =>
          rcases ih rest with ⟨more, split, stop, queue⟩ | all
          · exact Or.inl ⟨more, congrArg (value :: ·) split, stop, queue⟩
          · exact Or.inr (congrArg (value :: ·) all)

theorem before_append (added : List F) {call : Call}
    (known : call.before ≤ state.enqueued.length)
    (enqueued : after.enqueued = state.enqueued ++ added) :
    after.before call = state.before call := by
  rw [State.before, State.before, enqueued, List.take_append_of_le_length known]

theorem handOf_take (task : Nat) (item : Item F) (other : Nat) {rest : List (Item F)} :
    (state.handOf other).Sublist
      (({ state with queue := rest, hands := state.hands ++ [(task, item)] } :
        State F).handOf other) := by
  change (state.handOf other).Sublist
    (frames (((state.hands ++ [(task, item)]).filter fun held => held.1 = other).map Prod.snd))
  rw [List.filter_append, List.map_append, frames_append]
  exact List.sublist_append_left _ _

/-- A task that goes on leaves what others have in hand. -/
theorem handOf_collect_other {task other : Nat} {item : Item F} {front back : List (Nat × Item F)}
    (hands : state.hands = front ++ (task, item) :: back) (first : task ∉ front.map Prod.fst)
    (differs : task ≠ other) :
    (state.collect batchSize task item).handOf other = state.handOf other := by
  rw [State.handOf, State.handOf, collect_hands hands first, hands, List.filter_append,
    List.filter_append, List.filter_cons_of_neg (by simpa using differs)]

/-- What a task has in hand is the one item it goes on with. -/
theorem handOf_collect {task : Nat} {item : Item F} {front back : List (Nat × Item F)}
    (tidy : state.Tidy) (hands : state.hands = front ++ (task, item) :: back) :
    state.handOf task = frames [item] := by
  have others : ∀ held ∈ front ++ back, ¬ decide (held.1 = task) = true := by
    intro held inside same
    exact tidy.others hands held inside (of_decide_eq_true same)
  have left := List.filter_eq_nil_iff.mpr fun held inside =>
    others held (List.mem_append_left back inside)
  have right := List.filter_eq_nil_iff.mpr fun held inside =>
    others held (List.mem_append_right front inside)
  rw [State.handOf, hands, List.filter_append, List.filter_cons_of_pos (by simp), left, right]
  rfl

theorem collect_handed (task : Nat) (value : F) :
    (state.collect batchSize task (.frame value)).handed.flatten = state.handed.flatten ++
      value :: (gather (batchLimit batchSize - 1) state.queue).frames := by
  change (state.handed ++ [_]).flatten = _
  rw [List.flatten_append, List.flatten_singleton]

/-- What is handed over or in the hand of the task is handed over when the task goes on. -/
theorem covered_step (tidy : state.Tidy) {call : Call} (waiting : call ∈ state.calls)
    (covered : (state.before call).Subperm (state.handed.flatten ++ state.handOf call.task))
    {event : Event F} (stepped : step batchSize state event = some after) :
    (after.before call).Subperm (after.handed.flatten ++ after.handOf call.task) := by
  cases step_cases stepped with
  | enqueue added =>
      rw [before_append added (tidy.awaited call waiting).2 rfl]
      exact covered
  | take task item rest queue _ _ =>
      exact covered.trans ((handOf_take task item call.task).append_left _).subperm
  | collect task item front back hands first =>
      have known : (state.collect batchSize task item).before call = state.before call := by
        cases item <;> rfl
      rw [known]
      refine covered.trans (List.Sublist.subperm ?_)
      by_cases same : task = call.task
      · rw [← same, handOf_collect tidy hands]
        cases item with
        | frame value =>
            rw [collect_handed, List.append_assoc]
            refine List.Sublist.append_left ?_ _
            rw [frames_frame, frames_nil, List.cons_append]
            exact (List.nil_sublist _).cons_cons value
        | stop =>
            rw [frames_stop, frames_nil, List.append_nil]
            exact List.sublist_append_left _ _
      · rw [handOf_collect_other hands first same]
        refine List.Sublist.append_right ?_ _
        cases item with
        | frame value =>
            rw [collect_handed]
            exact List.sublist_append_left _ _
        | stop => exact List.Sublist.refl _
  | _ => exact covered

/-- A further `stop_worker` call awaits the sole task too. -/
theorem State.Sole.stop {task current : Nat} (sole : state.Sole task)
    (here : state.workerTask = some current) :
    ({ state with
      queue := state.queue ++ [.stop]
      calls := state.calls ++ [⟨current, state.enqueued.length⟩] } : State F).Sole task := by
  refine ⟨sole.current, sole.others, ?_⟩
  intro call inside
  rcases List.mem_append.mp inside with old | new
  · exact sole.calls call old
  · rw [List.mem_singleton] at new
    rw [new]
    exact Option.some.inj (here.symm.trans sole.current)

theorem inHand_single {task : Nat} {item : Item F} (hands : state.hands = [(task, item)]) :
    state.inHand = frames [item] := by
  rw [State.inHand, hands]
  rfl

/-- The sole task, with a frame in hand, can only go on with it. -/
theorem filling_step (tidy : state.Tidy) {call : Call} (waiting : call ∈ state.calls) {value : F}
    (sole : state.Sole call.task) (held : (call.task, .frame value) ∈ state.hands)
    (handed : (state.before call).Subperm (state.handed.flatten ++ state.inHand ++
      (gather (batchLimit batchSize - 1) state.queue).frames))
    {event : Event F} (stepped : step batchSize state event = some after) :
    after.Pledged batchSize call := by
  have here := tidy.waiting _ held
  have alive : state.pc call.task ≠ .done := by
    rw [here]
    nofun
  have busy {task : Nat} {pc : Pc} (there : state.pc task = pc) (done : pc ≠ .done)
      (differs : pc ≠ .waiting) : False := by
    have same := sole.eq_of_pc there done
    exact differs (there.symm.trans (same ▸ here))
  have holding {task : Nat} (pc : state.pc task = .waiting) (free : state.holds task = false) :
      False :=
    not_holds free _ held (sole.eq_of_pc pc nofun).symm
  have hands := sole.hands_of_mem tidy held
  have more (items : List (Item F)) : (state.before call).Subperm
      (state.handed.flatten ++ state.inHand ++
        (gather (batchLimit batchSize - 1) (state.queue ++ items)).frames) :=
    handed.trans ((gather_append _ _ items).append_left _).subperm
  cases step_cases stepped with
  | enqueue added =>
      refine .filling value ⟨sole.current, sole.others, sole.calls⟩ held ?_
      rw [before_append added (tidy.awaited call waiting).2 rfl]
      exact more _
  | startRunning _ => exact .filling value sole held handed
  | start idle => exact absurd idle (sole.not_idle alive)
  | begin task pc => exact (busy pc nofun nofun).elim
  | timeout task pc free => exact (holding pc free).elim
  | take task item rest queue pc free => exact (holding pc free).elim
  | collect task item front back there first =>
      have inside := mem_hands there
      rw [hands, List.mem_singleton] at inside
      cases inside
      refine .covered ?_
      rw [inHand_single hands, List.append_assoc] at handed
      rw [collect_handed]
      exact handed.trans (List.sublist_append_left _ _).subperm
  | stored task pc => exact (busy pc nofun nofun).elim
  | stopIdle idle => exact absurd idle (sole.not_idle alive)
  | stop task current _ => exact .filling value (sole.stop current) held (more _)
  | returned other inside finished => exact absurd finished (sole.not_returning alive inside)

/-- The batch takes what fits in front of the sentinel, or comes to the sentinel. -/
theorem draining_collect (tidy : state.Tidy) {call : Call} {ahead : List F}
    {behind : List (Item F)} (sole : state.Sole call.task) (unstopped : state.stopped = false)
    (hands : ∀ held ∈ state.hands, held.2 ≠ .stop)
    (queue : state.queue = ahead.map .frame ++ .stop :: behind)
    (handed : (state.before call).Subperm (state.handed.flatten ++ state.inHand ++ ahead))
    {item : Item F} {front back : List (Nat × Item F)}
    (there : state.hands = front ++ (call.task, item) :: back)
    (first : call.task ∉ front.map Prod.fst) :
    (state.collect batchSize call.task item).Pledged batchSize call := by
  have inside := mem_hands there
  have one := sole.hands_of_mem tidy inside
  have alone : front = [] ∧ back = [] := by
    have length := congrArg List.length (one.symm.trans there)
    rw [List.length_append, List.length_cons, List.length_cons, List.length_nil] at length
    exact ⟨List.length_eq_zero_iff.mp (by omega), List.length_eq_zero_iff.mp (by omega)⟩
  have free : (state.collect batchSize call.task item).hands = [] := by
    rw [collect_hands there first, alone.1, alone.2]
    rfl
  cases item with
  | stop => exact absurd rfl (hands _ (one ▸ List.mem_cons_self))
  | frame value =>
      rw [inHand_single one, List.append_assoc] at handed
      rcases gather_sentinel (batchLimit batchSize - 1) ahead behind with
        ⟨more, split, stop, rest⟩ | all
      · rw [← queue] at split stop rest
        refine .draining more behind (sole.collect _) ?_ ?_ ?_ rest ?_
        · rw [collect_pc, if_pos rfl]
          nofun
        · change (state.stopped || (gather _ state.queue).stop) = false
          rw [unstopped, stop]
          rfl
        · rw [free]
          nofun
        · rw [collect_handed, State.inHand, free, List.append_assoc, List.append_assoc]
          rw [split] at handed
          exact handed
      · rw [← queue] at all
        refine .covered ?_
        rw [collect_handed, all]
        exact handed.trans (List.sublist_append_left _ _).subperm

/-- The sole task on its way to the first sentinel. -/
theorem draining_step (tidy : state.Tidy) {call : Call} (waiting : call ∈ state.calls)
    {ahead : List F} {behind : List (Item F)} (sole : state.Sole call.task)
    (alive : state.pc call.task ≠ .done) (unstopped : state.stopped = false)
    (hands : ∀ held ∈ state.hands, held.2 ≠ .stop)
    (queue : state.queue = ahead.map .frame ++ .stop :: behind)
    (handed : (state.before call).Subperm (state.handed.flatten ++ state.inHand ++ ahead))
    {event : Event F} (stepped : step batchSize state event = some after) :
    after.Pledged batchSize call := by
  -- The task comes to the head of its loop and goes on, since nobody has stopped it.
  have looped {task : Nat} {pc : Pc} (there : state.pc task = pc) (done : pc ≠ .done) :
      (state.setPc task state.loop).Pledged batchSize call := by
    obtain rfl := sole.eq_of_pc there done
    refine .draining ahead behind (sole.setPc _) ?_ unstopped hands queue handed
    rw [pc_setPc, if_pos rfl, State.loop, unstopped]
    simp
  cases step_cases stepped with
  | enqueue added =>
      refine .draining ahead (behind ++ added.map .frame) ⟨sole.current, sole.others, sole.calls⟩
        alive unstopped hands ?_ ?_
      · change state.queue ++ _ = _
        rw [queue, List.append_assoc, List.cons_append]
      · rw [before_append added (tidy.awaited call waiting).2 rfl]
        exact handed
  | startRunning _ => exact .draining ahead behind sole alive unstopped hands queue handed
  | start idle => exact absurd idle (sole.not_idle alive)
  | begin task pc => exact looped pc (by simp)
  | timeout task pc _ => exact looped pc (by simp)
  | take task item rest there pc free =>
      obtain rfl := sole.eq_of_pc pc (by simp)
      have nothing : state.hands = [] := by
        rcases sole.hands_eq tidy with none | ⟨other, one⟩
        · exact none
        · exact absurd rfl (not_holds free (call.task, other) (one ▸ List.mem_cons_self))
      have empty : state.inHand = [] := by
        rw [State.inHand, nothing]
        rfl
      rw [empty, List.append_nil] at handed
      rw [queue] at there
      cases ahead with
      | nil =>
          refine .covered ?_
          rw [List.append_nil] at handed
          exact handed.trans (List.sublist_append_left _ _).subperm
      | cons value ahead =>
          cases there
          refine .draining ahead behind ⟨sole.current, sole.others, sole.calls⟩ alive unstopped
            ?_ rfl ?_
          · intro held inside
            change held ∈ state.hands ++ [(call.task, .frame value)] at inside
            rw [nothing, List.nil_append, List.mem_singleton] at inside
            rw [inside]
            simp
          · change (state.before call).Subperm (state.handed.flatten ++
              frames ((state.hands ++ [(call.task, Item.frame value)]).map Prod.snd) ++ ahead)
            rw [nothing, List.append_assoc]
            exact handed
  | collect task item front back there first =>
      have inside := mem_hands there
      obtain rfl := sole.eq_of_pc (tidy.waiting _ inside) (by simp)
      exact draining_collect tidy sole unstopped hands queue handed there first
  | stored task pc => exact looped pc (by simp)
  | stopIdle idle => exact absurd idle (sole.not_idle alive)
  | stop task current _ =>
      refine .draining ahead (behind ++ [.stop]) (sole.stop current) alive unstopped hands ?_
        handed
      change state.queue ++ _ = _
      rw [queue, List.append_assoc, List.cons_append]
  | returned other inside finished => exact absurd finished (sole.not_returning alive inside)

theorem pledged_step (tidy : state.Tidy) {call : Call} (waiting : call ∈ state.calls)
    (pledged : state.Pledged batchSize call) {event : Event F}
    (stepped : step batchSize state event = some after) : after.Pledged batchSize call := by
  cases pledged with
  | covered handed => exact .covered (covered_step tidy waiting handed stepped)
  | draining ahead behind sole alive unstopped hands queue handed =>
      exact draining_step tidy waiting sole alive unstopped hands queue handed stepped
  | filling value sole hands handed =>
      exact filling_step tidy waiting sole hands handed stepped

/-- A `stop_worker` call for a task drains the queue: nothing is left that the task does not have
itself, or nobody else can interfere and either it goes on and no frame is behind a sentinel,
or it has a frame and all the others fit into the same batch. -/
def State.Safe (batchSize : Int) (state : State F) (task : Nat) : Prop :=
  (frames state.queue = [] ∧ ∀ held ∈ state.hands, held.1 ≠ task → held.2 = .stop) ∨
  state.Sole task ∧
    ((state.stopped = false ∧ (∀ held ∈ state.hands, held.2 ≠ .stop) ∧
        ∃ (ahead : List F) (behind : List (Item F)),
          state.queue = ahead.map .frame ++ behind ∧ frames behind = []) ∨
      (∃ value, (task, .frame value) ∈ state.hands) ∧
        frames (gather (batchLimit batchSize - 1) state.queue).rest = [])

/-- Every `stop_worker` call that finds a worker running is safe. -/
def SafeStop (batchSize : Int) (state : State F) : Event F → Prop
  | .stop => ∀ task, state.workerTask = some task → state.pc task ≠ .done →
      state.Safe batchSize task
  | _ => True

/-- With only sentinels in other hands all frames in hand are in the hand of the task. -/
theorem inHand_handOf {task : Nat} (others : ∀ held ∈ state.hands, held.1 ≠ task → held.2 = .stop) :
    state.inHand = state.handOf task := by
  rw [State.inHand, State.handOf]
  generalize state.hands = hands at others
  induction hands with
  | nil => rfl
  | cons held rest ih =>
      have later := ih fun other inside => others other (List.mem_cons_of_mem _ inside)
      obtain ⟨name, item⟩ := held
      by_cases same : name = task
      · rw [List.filter_cons_of_pos (by simpa using same), List.map_cons, List.map_cons]
        cases item with
        | frame value => exact congrArg (value :: ·) later
        | stop => exact later
      · rw [List.filter_cons_of_neg (by simpa using same)]
        have sentinel := others (name, item) List.mem_cons_self same
        dsimp only at sentinel
        rw [sentinel]
        exact later

/-- Behind no frame the first sentinel comes, at the latest that of the new call. -/
theorem sentinel_first {behind : List (Item F)} (none : frames behind = []) :
    ∃ later, behind ++ [.stop] = .stop :: later := by
  cases behind with
  | nil => exact ⟨[], rfl⟩
  | cons item rest =>
      cases item with
      | frame value => cases none
      | stop => exact ⟨rest ++ [.stop], rfl⟩

theorem pledged_of_safe (kept : state.Kept batchSize) {task : Nat}
    (current : state.workerTask = some task) (alive : state.pc task ≠ .done)
    (safe : state.Safe batchSize task) :
    ({ state with
      queue := state.queue ++ [.stop]
      calls := state.calls ++ [⟨task, state.enqueued.length⟩] } : State F).Pledged batchSize
        ⟨task, state.enqueued.length⟩ := by
  have all : state.enqueued.Subperm (state.handed.flatten ++ state.inHand ++ frames state.queue) :=
    kept.present.symm.subperm
  have before : state.enqueued.take state.enqueued.length = state.enqueued :=
    List.take_of_length_le (Nat.le_refl _)
  rcases safe with ⟨empty, others⟩ | ⟨sole, ⟨unstopped, hands, ahead, behind, queue, none⟩ | fits⟩
  · refine .covered ?_
    rw [State.before, before]
    rw [empty, List.append_nil, inHand_handOf others] at all
    exact all
  · obtain ⟨later, sentinel⟩ := sentinel_first none
    refine .draining ahead later (sole.stop current) alive unstopped hands ?_ ?_
    · change state.queue ++ [.stop] = _
      rw [queue, List.append_assoc, sentinel]
    · rw [State.before, before]
      rw [queue, frames_append, frames_map, none, List.append_nil] at all
      exact all
  · obtain ⟨⟨value, held⟩, rest⟩ := fits
    refine .filling value (sole.stop current) held ?_
    rw [State.before, before]
    rw [gather_frames (batchLimit batchSize - 1) state.queue, rest, List.append_nil] at all
    exact all.trans ((gather_append _ _ [.stop]).append_left _).subperm

/-- What holds of every state of a run whose `stop_worker` calls are all safe. -/
structure State.Pledges (batchSize : Int) (state : State F) : Prop where
  tidy : state.Tidy
  kept : state.Kept batchSize
  calls : ∀ call ∈ state.calls, state.Pledged batchSize call

theorem step_pledges (pledges : state.Pledges batchSize) {event : Event F}
    (safe : SafeStop batchSize state event) (stepped : step batchSize state event = some after) :
    after.Pledges batchSize := by
  refine ⟨step_tidy pledges.tidy stepped, step_kept pledges.kept stepped, ?_⟩
  intro call inside
  have old (waiting : call ∈ state.calls) : after.Pledged batchSize call :=
    pledged_step pledges.tidy waiting (pledges.calls call waiting) stepped
  cases step_cases stepped with
  | stop task current alive =>
      rcases List.mem_append.mp inside with before | new
      · exact old before
      · rw [List.mem_singleton] at new
        rw [new]
        exact pledged_of_safe pledges.kept current alive (safe task current alive)
  | returned other _ _ => exact old (List.mem_of_mem_erase inside)
  | collect task item front back _ _ => exact old (by cases item <;> exact inside)
  | _ => exact old inside

/-- Every frame that was enqueued before a call has been handed over once the call can return. -/
def State.Drained (state : State F) : Prop :=
  ∀ call ∈ state.calls, state.pc call.task = .done →
    (state.before call).Subperm state.handed.flatten

/-- In every run in which each `stop_worker` call that finds a worker running is safe, these calls
drain the queue. -/
theorem stop_worker_drains {events : List (Event F)} {final : State F}
    (ran : run (step batchSize) .init events = some final)
    (safe : Meets (step batchSize) (SafeStop batchSize) .init events) : final.Drained := by
  have keeps : ∀ (state : State F) event next, state.Pledges batchSize →
      SafeStop batchSize state event → step batchSize state event = some next →
      next.Pledges batchSize :=
    fun _ _ _ pledges safe stepped => step_pledges pledges safe stepped
  have start : (State.init : State F).Pledges batchSize :=
    ⟨init_tidy, init_kept, fun _ inside => absurd inside List.not_mem_nil⟩
  have pledges := run_invariant_of_meets keeps start safe ran
  intro call waiting finished
  have free := not_holds_of_pc pledges.tidy finished nofun
  cases pledges.calls call waiting with
  | covered handed =>
      have nothing : final.handOf call.task = [] := by
        rw [State.handOf, List.filter_eq_nil_iff.mpr]
        · rfl
        · exact fun held inside same => free held inside (of_decide_eq_true same)
      rw [nothing, List.append_nil] at handed
      exact handed
  | draining _ _ _ alive _ _ _ _ => exact absurd finished alive
  | filling value _ held _ => exact absurd rfl (free _ held)

/-- A frame is enqueued, and the worker is stopped. -/
def stopOnce : List (Event Nat) :=
  [.start, .begin 0, .enqueue [1], .stop, .take 0, .collect 0, .stored 0]

def afterStopOnce : Option (State Nat) := run (step 50) .init stopOnce

theorem afterStopOnce_isSome : afterStopOnce.isSome := by
  decide +kernel

theorem safeStop_of_ne (state : State F) {event : Event F} (differs : event ≠ .stop) :
    SafeStop batchSize state event := by
  cases event with
  | stop => exact absurd rfl differs
  | _ => trivial

/-- The call finds one frame in the queue and the only worker waiting. -/
theorem stopOnce_safe : Meets (step 50) (SafeStop 50) .init stopOnce := by
  refine ⟨trivial, ?_⟩
  rintro _ ⟨⟩
  refine ⟨trivial, ?_⟩
  rintro _ ⟨⟩
  refine ⟨trivial, ?_⟩
  rintro _ ⟨⟩
  refine ⟨?_, ?_⟩
  · rintro task ⟨⟩ _
    refine Or.inr ⟨⟨rfl, ?_, nofun⟩, Or.inl ⟨rfl, nofun, [1], [], rfl, rfl⟩⟩
    intro other differs
    exact (Function.update_of_ne differs _ _).trans (Function.update_of_ne differs _ _)
  · rintro _ ⟨⟩
    have later : ∀ event ∈ [Event.take 0, .collect 0, .stored 0], event ≠ (.stop : Event Nat) := by
      simp
    exact (meets_of_forall later).imp fun state _ differs => safeStop_of_ne state differs

theorem stop_worker_drains_once : (afterStopOnce.get afterStopOnce_isSome).Drained :=
  stop_worker_drains (Option.some_get afterStopOnce_isSome).symm stopOnce_safe

/-- Two calls overlap; a frame is enqueued between them. -/
def stopTwice : List (Event Nat) :=
  [.start, .begin 0, .enqueue [1], .stop, .enqueue [2], .stop, .take 0, .collect 0, .stored 0]

def afterStopTwice : Option (State Nat) := run (step 50) .init stopTwice

theorem afterStopTwice_isSome : afterStopTwice.isSome := by
  decide +kernel

/-- The worker ends at the first sentinel, and the second call returns with its frame in the
queue. -/
theorem second_stop_leaves_frame : ¬ ∀ (batchSize : Int) (events : List (Event Nat))
    (final : State Nat), run (step batchSize) .init events = some final → final.Drained := by
  intro all
  have drained := all 50 stopTwice (afterStopTwice.get afterStopTwice_isSome)
    (Option.some_get afterStopTwice_isSome).symm ⟨0, 2⟩ (by decide +kernel) (by decide +kernel)
  have inside := drained.subset (show 2 ∈ _ by decide +kernel)
  revert inside
  decide +kernel

end RagDrift.Ingestion.Memory
