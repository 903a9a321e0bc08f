import RagDrift.Ingestion.Holdings
import RagDrift.Transition.Runs

set_option autoImplicit false

/- Whether every well-formed frame of the stream is stored in the end: exactly when no failure
takes one out of the hands of a worker. -/
namespace RagDrift.Ingestion

variable {B F : Type} {setup : Setup B F} {state after : State B F}

def State.storedIds (state : State B F) : List Nat := state.stored.flatMap Batch.msgIds

/-- How many entries the group was given. -/
def State.given (state : State B F) : Nat := state.group.getD 0

theorem given_of_group {next : Nat} (group : state.group = some next) : state.given = next := by
  rw [State.given, group, Option.getD_some]

theorem given_same (same : after.group = state.group) : after.given = state.given := by
  rw [State.given, State.given, same]

theorem storedIds_same (same : after.stored = state.stored) :
    after.storedIds = state.storedIds := by
  rw [State.storedIds, State.storedIds, same]

theorem storedIds_save {batch : Batch F} (saved : after.stored = state.stored ++ [batch]) :
    after.storedIds = state.storedIds ++ batch.msgIds := by
  rw [State.storedIds, State.storedIds, saved, List.flatMap_append, List.flatMap_singleton]

theorem State.Consistent.append (consistent : state.Consistent setup) (extra : List Fields) :
    ({ state with entries := state.entries ++ extra } : State B F).Consistent setup := by
  refine ⟨fun b => (consistent.workers b).append, ?_, ?_⟩
  · intro batch inside
    exact (consistent.stored batch inside).append
  · obtain ⟨next, bound, group⟩ := consistent.group
    refine ⟨next, ?_, group⟩
    rw [List.length_append]
    omega

theorem State.Consistent.deliver (consistent : state.Consistent setup) {next : Nat}
    {messages : List (Nat × Fields)} (bound : next + messages.length ≤ state.entries.length) :
    (state.deliver next messages).Consistent setup :=
  ⟨consistent.workers, consistent.stored, next + messages.length, bound, rfl⟩

theorem State.Consistent.ack (consistent : state.Consistent setup) (msgIds : List Nat) :
    (state.ack msgIds).Consistent setup :=
  ⟨consistent.workers, consistent.stored, consistent.group⟩

theorem State.Consistent.save (consistent : state.Consistent setup) {batch : Batch F}
    (reads : batch.Reads setup state.entries) :
    ({ state with stored := state.stored ++ [batch] } : State B F).Consistent setup := by
  refine ⟨consistent.workers, ?_, consistent.group⟩
  intro other inside
  rcases List.mem_append.mp inside with old | new
  · exact consistent.stored other old
  · rw [List.mem_singleton] at new
    exact new ▸ reads

theorem State.Consistent.created (consistent : state.Consistent setup) :
    state.created.Consistent setup := by
  refine ⟨consistent.workers, consistent.stored, ?_⟩
  obtain ⟨next, bound, group⟩ := consistent.group
  exact ⟨next, bound, (created_group consistent).trans group⟩

section Steps

variable [DecidableEq B]

theorem State.Consistent.setBuffer (consistent : state.Consistent setup) (b : B)
    (buffer : Buffer F) (known : buffer.pc.Consistent setup state.entries) :
    (state.setBuffer b buffer).Consistent setup := by
  refine ⟨?_, consistent.stored, consistent.group⟩
  intro c
  change (Function.update state.buffer b buffer c).pc.Consistent setup state.entries
  rw [Function.update_apply]
  split
  · exact known
  · exact consistent.workers c

theorem State.Consistent.setPc (consistent : state.Consistent setup) (b : B) (pc : Pc F)
    (known : pc.Consistent setup state.entries) : (state.setPc b pc).Consistent setup :=
  consistent.setBuffer b _ known

theorem read_consistent (consistent : state.Consistent setup) (b : B) (outcome : Outcome) :
    (setup.read state b outcome).Consistent setup := by
  obtain ⟨next, bound, group⟩ := consistent.group
  have limit := undelivered_length_le state next (setup.count b) bound
  cases outcome with
  | ok =>
      unfold Setup.read
      simp only [group]
      refine (consistent.deliver limit).setPc b _ ?_
      exact ⟨.nil, fun message inside => mem_undelivered inside⟩
  | lost =>
      unfold Setup.read
      simp only [group]
      exact (consistent.deliver limit).setPc b _ trivial
  | refused =>
      unfold Setup.read
      exact consistent.setPc b _ trivial

theorem handle_consistent (consistent : state.Consistent setup) (b : B)
    {messages : List (Nat × Fields)} {batch : Batch F}
    (here : (state.buffer b).pc = .handling messages batch) :
    (setup.handle state b messages batch).Consistent setup := by
  have known := consistent.workers b
  rw [here] at known
  obtain ⟨reads, present⟩ := known
  cases messages with
  | nil =>
      unfold Setup.handle State.collected
      dsimp only
      split
      · exact consistent.setPc b _ (loop_consistent setup _ _)
      · rename_i frames
        refine State.Consistent.setPc ?_ b _ ⟨reads, frames⟩
        exact ⟨consistent.workers, consistent.stored, consistent.group⟩
  | cons message rest =>
      obtain ⟨msgId, fields⟩ := message
      have found := present (msgId, fields) List.mem_cons_self
      have others := fun message inside => present message (List.mem_cons_of_mem _ inside)
      unfold Setup.handle
      dsimp only
      cases decoded : setup.decode fields with
      | frame frame =>
          refine consistent.setPc b _ ⟨reads.snoc ?_, others⟩
          rw [frameAt_of_fields found, decoded]
          rfl
      | undecodable => exact consistent.setPc b _ trivial
      | missing =>
          exact consistent.setPc b _ ⟨reads, others, fields, found, by rw [decoded]; rfl⟩
      | invalid =>
          exact consistent.setPc b _ ⟨reads, others, fields, found, by rw [decoded]; rfl⟩

theorem step_consistent (consistent : state.Consistent setup) {event : Event B F}
    (stepped : setup.step state event = some after) : after.Consistent setup := by
  cases step_cases stepped with
  | foreign fields => exact consistent.append [fields]
  | publish b frames _ =>
      exact (consistent.append _).setBuffer b _ ((consistent.workers b).append)
  | counted b frames _ => exact consistent.setBuffer b _ (consistent.workers b)
  | start b _ => exact consistent.setBuffer b _ trivial
  | created b _ => exact consistent.created.setPc b _ trivial
  | createdLost b _ => exact consistent.created.setPc b _ trivial
  | createRefused b _ => exact consistent.setPc b _ trivial
  | resume b _ => exact consistent.setPc b _ (loop_consistent setup _ _)
  | read b outcome _ => exact read_consistent consistent b outcome
  | handle b messages batch pc => exact handle_consistent consistent b pc
  | ackedBad b msgId messages batch pc =>
      have known := consistent.workers b
      rw [pc] at known
      exact (consistent.ack _).setPc b _ ⟨known.1, known.2.1⟩
  | ackedBatch b batch _ => exact (consistent.ack _).setBuffer b _ (loop_consistent setup _ _)
  | ackLost b msgIds _ => exact (consistent.ack _).setPc b _ trivial
  | ackRefused b _ => exact consistent.setPc b _ trivial
  | stored b batch pc =>
      have known := consistent.workers b
      rw [pc] at known
      exact (consistent.save known.1).setPc b _ known.1
  | storeFailed b batch _ => exact consistent.setPc b _ (loop_consistent setup _ _)
  | stop b _ => exact consistent.setBuffer b _ (consistent.workers b)
  | cancelReading b _ => exact consistent.setPc b _ trivial
  | cancel b _ _ => exact consistent.setPc b _ trivial
  | crash b => exact consistent.setBuffer b _ trivial

end Steps

/-- An entry in hand was given to the group, is in the hands of one worker only, and is not
stored yet. -/
structure State.Exclusive (state : State B F) : Prop where
  worker : ∀ b c msgId, msgId ∈ state.held b → msgId ∈ state.held c → b = c
  unsaved : ∀ b msgId, msgId ∈ state.held b → msgId ∉ state.storedIds
  held : ∀ b msgId, msgId ∈ state.held b → msgId < state.given
  stored : ∀ msgId ∈ state.storedIds, msgId < state.given

/-- Entries only leave the hands of workers, and none of the others changes, so who has what
stays settled. -/
theorem State.Exclusive.shrink (exclusive : state.Exclusive)
    (held : ∀ c msgId, msgId ∈ after.held c → msgId ∈ state.held c)
    (stored : after.storedIds = state.storedIds) (given : state.given ≤ after.given) :
    after.Exclusive := by
  refine ⟨?_, ?_, ?_, ?_⟩
  · intro b c msgId first second
    exact exclusive.worker b c msgId (held b msgId first) (held c msgId second)
  · intro b msgId inside
    rw [stored]
    exact exclusive.unsaved b msgId (held b msgId inside)
  · intro b msgId inside
    exact Nat.lt_of_lt_of_le (exclusive.held b msgId (held b msgId inside)) given
  · intro msgId inside
    rw [stored] at inside
    exact Nat.lt_of_lt_of_le (exclusive.stored msgId inside) given

variable [DecidableEq B]

theorem mem_held_if {b c : B} {msgId : Nat} {mine others : List Nat}
    (inside : msgId ∈ if c = b then mine else others) :
    c = b ∧ msgId ∈ mine ∨ c ≠ b ∧ msgId ∈ others := by
  split at inside
  · rename_i same
    exact Or.inl ⟨same, inside⟩
  · rename_i differs
    exact Or.inr ⟨differs, inside⟩

/-- A worker that saves what it has leaves it to the store: no other worker had any of it. -/
theorem State.Exclusive.save (exclusive : state.Exclusive) {b : B} {batch : Batch F}
    (group : after.group = state.group) (stored : after.stored = state.stored ++ [batch])
    (held : ∀ c, after.held c = if c = b then [] else state.held c)
    (before : state.held b = batch.msgIds) : after.Exclusive := by
  have others : ∀ c msgId, msgId ∈ after.held c → c ≠ b ∧ msgId ∈ state.held c := by
    intro c msgId inside
    rw [held] at inside
    rcases mem_held_if inside with ⟨_, mine⟩ | rest
    · cases mine
    · exact rest
  refine ⟨?_, ?_, ?_, ?_⟩
  · intro c d msgId first second
    exact exclusive.worker c d msgId (others c msgId first).2 (others d msgId second).2
  · intro c msgId inside
    obtain ⟨differs, mine⟩ := others c msgId inside
    rw [storedIds_save stored, List.mem_append, not_or]
    refine ⟨exclusive.unsaved c msgId mine, ?_⟩
    rw [← before]
    exact fun saved => differs (exclusive.worker c b msgId mine saved)
  · intro c msgId inside
    rw [given_same group]
    exact exclusive.held c msgId (others c msgId inside).2
  · intro msgId inside
    rw [given_same group]
    rw [storedIds_save stored] at inside
    rcases List.mem_append.mp inside with old | new
    · exact exclusive.stored msgId old
    · rw [← before] at new
      exact exclusive.held b msgId new

/-- A worker that takes the next entries of the group takes what nobody was given before. -/
theorem State.Exclusive.take (exclusive : state.Exclusive) {b : B} {next count : Nat}
    (before : state.group = some next) (group : after.group = some (next + count))
    (stored : after.stored = state.stored)
    (held : ∀ c, after.held c = if c = b then List.range' next count else state.held c) :
    after.Exclusive := by
  have given := given_of_group before
  have given' := given_of_group group
  have cases : ∀ c msgId, msgId ∈ after.held c →
      c = b ∧ next ≤ msgId ∧ msgId < next + count ∨ c ≠ b ∧ msgId ∈ state.held c := by
    intro c msgId inside
    rw [held] at inside
    rcases mem_held_if inside with ⟨same, mine⟩ | rest
    · rw [List.mem_range'_1] at mine
      exact Or.inl ⟨same, mine⟩
    · exact Or.inr rest
  refine ⟨?_, ?_, ?_, ?_⟩
  · intro c d msgId first second
    rcases cases c msgId first with ⟨rfl, low, _⟩ | ⟨_, old⟩
    · rcases cases d msgId second with ⟨rfl, _⟩ | ⟨_, old⟩
      · rfl
      · have below := exclusive.held d msgId old
        omega
    · rcases cases d msgId second with ⟨_, low, _⟩ | ⟨_, old'⟩
      · have below := exclusive.held c msgId old
        omega
      · exact exclusive.worker c d msgId old old'
  · intro c msgId inside
    rw [storedIds_same stored]
    rcases cases c msgId inside with ⟨_, low, _⟩ | ⟨_, old⟩
    · intro saved
      have below := exclusive.stored msgId saved
      omega
    · exact exclusive.unsaved c msgId old
  · intro c msgId inside
    rcases cases c msgId inside with ⟨_, _, high⟩ | ⟨_, old⟩
    · omega
    · have below := exclusive.held c msgId old
      omega
  · intro msgId inside
    rw [storedIds_same stored] at inside
    have below := exclusive.stored msgId inside
    omega

theorem effect_exclusive {event : Event B F} (exclusive : state.Exclusive)
    (effect : Effect setup state event after) : after.Exclusive := by
  cases effect with
  | keep extra entries group stored held calm =>
      exact exclusive.shrink (fun c _ inside => held c ▸ inside) (storedIds_same stored)
        (Nat.le_of_eq (given_same group).symm)
  | miss next count entries before group bound stored held stake =>
      refine exclusive.shrink (fun c _ inside => held c ▸ inside) (storedIds_same stored) ?_
      rw [given_of_group before, given_of_group group]
      omega
  | discard b msgId front back entries group stored held before bad calm =>
      refine exclusive.shrink ?_ (storedIds_same stored) (Nat.le_of_eq (given_same group).symm)
      intro c other inside
      rw [held] at inside
      rcases mem_held_if inside with ⟨rfl, mine⟩ | ⟨_, others⟩
      · rw [before]
        exact ((List.sublist_cons_self msgId back).append_left front).subset mine
      · exact others
  | drop b entries group stored held stake =>
      refine exclusive.shrink ?_ (storedIds_same stored) (Nat.le_of_eq (given_same group).symm)
      intro c other inside
      rw [held] at inside
      rcases mem_held_if inside with ⟨_, mine⟩ | ⟨_, others⟩
      · cases mine
      · exact others
  | save b batch entries group stored held before calm =>
      exact exclusive.save group stored held before
  | take b next count entries before group bound stored held free calm =>
      exact exclusive.take before group stored held

/-- A well-formed entry the group was given, which nobody has and which is not stored. -/
structure State.Lost (setup : Setup B F) (state : State B F) (msgId : Nat) : Prop where
  wellFormed : ∃ frame, setup.frameAt state.entries msgId = some frame
  given : msgId < state.given
  unsaved : msgId ∉ state.storedIds
  unheld : ∀ b, msgId ∉ state.held b

/-- Every well-formed entry the group was given is in hand or stored. -/
def State.Covered (setup : Setup B F) (state : State B F) : Prop :=
  ∀ msgId frame, setup.frameAt state.entries msgId = some frame → msgId < state.given →
    msgId ∈ state.storedIds ∨ ∃ b, msgId ∈ state.held b

/-- An event that takes a well-formed entry out of everyone's hands. -/
def Drops (setup : Setup B F) (state : State B F) (event : Event B F) : Prop :=
  ∃ msgId ∈ setup.atStake state event, ∃ frame,
    setup.frameAt state.entries msgId = some frame

theorem not_mem_held_if {b c : B} {msgId : Nat} {mine others : List Nat}
    (notMine : msgId ∉ mine) (notOthers : msgId ∉ others) :
    msgId ∉ if c = b then mine else others := by
  split <;> assumption

/-- A lost entry stays lost: `>` never returns it again, and nothing else reads the stream. -/
theorem effect_lost {event : Event B F} {msgId : Nat} (lost : state.Lost setup msgId)
    (effect : Effect setup state event after) : after.Lost setup msgId := by
  obtain ⟨⟨frame, wellFormed⟩, given, unsaved, unheld⟩ := lost
  cases effect with
  | keep extra entries group stored held calm =>
      refine ⟨⟨frame, ?_⟩, ?_, ?_, ?_⟩
      · rw [entries]
        exact frameAt_append wellFormed
      · rw [given_same group]
        exact given
      · rw [storedIds_same stored]
        exact unsaved
      · intro c
        rw [held]
        exact unheld c
  | take b next count entries before group bound stored held free calm =>
      rw [given_of_group before] at given
      refine ⟨⟨frame, entries ▸ wellFormed⟩, ?_, storedIds_same stored ▸ unsaved, ?_⟩
      · rw [given_of_group group]
        omega
      · intro c
        rw [held]
        refine not_mem_held_if ?_ (unheld c)
        rw [List.mem_range'_1]
        omega
  | miss next count entries before group bound stored held stake =>
      rw [given_of_group before] at given
      refine ⟨⟨frame, entries ▸ wellFormed⟩, ?_, storedIds_same stored ▸ unsaved, ?_⟩
      · rw [given_of_group group]
        omega
      · intro c
        rw [held]
        exact unheld c
  | discard b bad front back entries group stored held before isBad calm =>
      refine ⟨⟨frame, entries ▸ wellFormed⟩, given_same group ▸ given,
        storedIds_same stored ▸ unsaved, ?_⟩
      intro c
      rw [held]
      refine not_mem_held_if ?_ (unheld c)
      intro inside
      apply unheld b
      rw [before]
      exact ((List.sublist_cons_self bad back).append_left front).subset inside
  | save b batch entries group stored held before calm =>
      refine ⟨⟨frame, entries ▸ wellFormed⟩, given_same group ▸ given, ?_, ?_⟩
      · rw [storedIds_save stored, List.mem_append, not_or]
        exact ⟨unsaved, before ▸ unheld b⟩
      · intro c
        rw [held]
        exact not_mem_held_if List.not_mem_nil (unheld c)
  | drop b entries group stored held stake =>
      refine ⟨⟨frame, entries ▸ wellFormed⟩, given_same group ▸ given,
        storedIds_same stored ▸ unsaved, ?_⟩
      intro c
      rw [held]
      exact not_mem_held_if List.not_mem_nil (unheld c)

theorem effect_drops {event : Event B F} (exclusive : state.Exclusive)
    (effect : Effect setup state event after) (drops : Drops setup state event) :
    ∃ msgId, after.Lost setup msgId := by
  obtain ⟨msgId, inside, frame, wellFormed⟩ := drops
  refine ⟨msgId, ?_⟩
  cases effect with
  | keep extra entries group stored held calm =>
      rw [calm] at inside
      cases inside
  | take b next count entries before group bound stored held free calm =>
      rw [calm] at inside
      cases inside
  | discard b bad front back entries group stored held before isBad calm =>
      rw [calm] at inside
      cases inside
  | save b batch entries group stored held before calm =>
      rw [calm] at inside
      cases inside
  | miss next count entries before group bound stored held stake =>
      rw [stake, List.mem_range'_1] at inside
      have given := given_of_group before
      refine ⟨⟨frame, entries ▸ wellFormed⟩, ?_, ?_, ?_⟩
      · rw [given_of_group group]
        exact inside.2
      · rw [storedIds_same stored]
        intro saved
        have below := exclusive.stored msgId saved
        omega
      · intro c mine
        rw [held] at mine
        have below := exclusive.held c msgId mine
        omega
  | drop b entries group stored held stake =>
      rw [stake] at inside
      refine ⟨⟨frame, entries ▸ wellFormed⟩, ?_, ?_, ?_⟩
      · rw [given_same group]
        exact exclusive.held b msgId inside
      · rw [storedIds_same stored]
        exact exclusive.unsaved b msgId inside
      · intro c mine
        rw [held] at mine
        rcases mem_held_if mine with ⟨_, none⟩ | ⟨differs, theirs⟩
        · cases none
        · exact differs (exclusive.worker c b msgId theirs inside)

theorem effect_covered {event : Event B F} (consistent : state.Consistent setup)
    (covered : state.Covered setup) (effect : Effect setup state event after)
    (safe : ¬ Drops setup state event) : after.Covered setup := by
  intro msgId frame wellFormed given
  cases effect with
  | keep extra entries group stored held calm =>
      obtain ⟨next, bound, same⟩ := consistent.group
      rw [given_same group] at given
      have old : setup.frameAt state.entries msgId = some frame := by
        have below := given_of_group same
        rw [entries, Setup.frameAt, List.getElem?_append_left (by omega)] at wellFormed
        exact wellFormed
      rw [storedIds_same stored]
      rcases covered msgId frame old given with saved | ⟨c, mine⟩
      · exact Or.inl saved
      · exact Or.inr ⟨c, held c ▸ mine⟩
  | take b next count entries before group bound stored held free calm =>
      rw [entries] at wellFormed
      rw [given_of_group group] at given
      rw [storedIds_same stored]
      by_cases old : msgId < next
      · rcases covered msgId frame wellFormed (by rw [given_of_group before]; exact old) with
          saved | ⟨c, mine⟩
        · exact Or.inl saved
        · right
          refine ⟨c, ?_⟩
          have differs : c ≠ b := by
            rintro rfl
            rw [free] at mine
            cases mine
          rw [held, if_neg differs]
          exact mine
      · right
        refine ⟨b, ?_⟩
        rw [held, if_pos rfl, List.mem_range'_1]
        omega
  | miss next count entries before group bound stored held stake =>
      rw [entries] at wellFormed
      rw [given_of_group group] at given
      rw [storedIds_same stored]
      by_cases old : msgId < next
      · rcases covered msgId frame wellFormed (by rw [given_of_group before]; exact old) with
          saved | ⟨c, mine⟩
        · exact Or.inl saved
        · exact Or.inr ⟨c, held c ▸ mine⟩
      · refine absurd ⟨msgId, ?_, frame, wellFormed⟩ safe
        rw [stake, List.mem_range'_1]
        omega
  | discard b bad front back entries group stored held before isBad calm =>
      rw [entries] at wellFormed
      rw [given_same group] at given
      rw [storedIds_same stored]
      rcases covered msgId frame wellFormed given with saved | ⟨c, mine⟩
      · exact Or.inl saved
      · right
        refine ⟨c, ?_⟩
        rw [held]
        by_cases same : c = b
        · rw [if_pos same]
          rw [same, before, List.mem_append, List.mem_cons] at mine
          rw [List.mem_append]
          rcases mine with left | rfl | right
          · exact Or.inl left
          · rw [isBad] at wellFormed
            cases wellFormed
          · exact Or.inr right
        · rw [if_neg same]
          exact mine
  | save b batch entries group stored held before calm =>
      rw [entries] at wellFormed
      rw [given_same group] at given
      rw [storedIds_save stored, List.mem_append]
      rcases covered msgId frame wellFormed given with saved | ⟨c, mine⟩
      · exact Or.inl (Or.inl saved)
      · by_cases same : c = b
        · rw [same, before] at mine
          exact Or.inl (Or.inr mine)
        · right
          refine ⟨c, ?_⟩
          rw [held, if_neg same]
          exact mine
  | drop b entries group stored held stake =>
      rw [entries] at wellFormed
      rw [given_same group] at given
      rw [storedIds_same stored]
      rcases covered msgId frame wellFormed given with saved | ⟨c, mine⟩
      · exact Or.inl saved
      · right
        refine ⟨c, ?_⟩
        have differs : c ≠ b := by
          rintro rfl
          exact safe ⟨msgId, stake ▸ mine, frame, wellFormed⟩
        rw [held, if_neg differs]
        exact mine

end RagDrift.Ingestion
