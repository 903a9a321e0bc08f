import RagDrift.Ingestion.AtLeastOnce

set_option autoImplicit false

/- Runs on a fresh stream, on which the first worker still has to create the consumer group. -/
namespace RagDrift.Ingestion

open Transition (run Meets run_invariant run_invariant_of_meets meets_of_forall exists_break)

variable {B F : Type} {setup : Setup B F} {state after : State B F}

/-- No worker is past `_ensure_consumer_group` yet, so nothing was read. -/
structure State.Unstarted (state : State B F) : Prop where
  group : state.group = none
  waiting : ∀ b, (state.buffer b).pc = .idle ∨ (state.buffer b).pc = .creating
  stored : state.stored = []
  handed : state.handed = []
  acked : state.acked = []

/-- A state of a run on a fresh stream. -/
def State.Regular (setup : Setup B F) (state : State B F) : Prop :=
  state.Unstarted ∨ state.Sound setup

theorem init_unstarted : (State.init none : State B F).Unstarted :=
  ⟨rfl, fun _ => Or.inl rfl, rfl, rfl, rfl⟩

theorem State.Unstarted.held (unstarted : state.Unstarted) (b : B) : state.held b = [] := by
  rcases unstarted.waiting b with pc | pc <;> exact held_of_pc pc

theorem State.Unstarted.storedIds (unstarted : state.Unstarted) : state.storedIds = [] := by
  rw [State.storedIds, unstarted.stored, List.flatMap_nil]

theorem State.Unstarted.created_group (unstarted : state.Unstarted) :
    state.created.group = some state.entries.length := by
  rw [State.created, unstarted.group]
  rfl

/-- The group exists and no worker has an entry, so everyone's hands are in order. -/
theorem State.Unstarted.sound_of_group (unstarted : state.Unstarted)
    (entries : after.entries = state.entries) (group : after.group = some state.entries.length)
    (stored : after.stored = state.stored) (held : ∀ b, after.held b = [])
    (workers : ∀ b, (after.buffer b).pc.Consistent setup after.entries) :
    after.Sound setup := by
  have nothing : after.storedIds = [] := by
    rw [storedIds_same stored]
    exact unstarted.storedIds
  have free : ∀ b msgId, msgId ∉ after.held b := by
    intro b msgId
    rw [held b]
    exact List.not_mem_nil
  refine ⟨⟨workers, ?_, state.entries.length, Nat.le_of_eq (by rw [entries]), group⟩,
    ⟨?_, ?_, ?_, ?_⟩⟩
  · intro batch inside
    rw [stored, unstarted.stored] at inside
    cases inside
  · exact fun b c msgId inside => absurd inside (free b msgId)
  · exact fun b msgId inside => absurd inside (free b msgId)
  · exact fun b msgId inside => absurd inside (free b msgId)
  · intro msgId inside
    rw [nothing] at inside
    cases inside

theorem State.Unstarted.append (unstarted : state.Unstarted) (extra : List Fields) :
    ({ state with entries := state.entries ++ extra } : State B F).Unstarted :=
  ⟨unstarted.group, unstarted.waiting, unstarted.stored, unstarted.handed, unstarted.acked⟩

/-- Before the group exists a worker stands nowhere else. -/
theorem State.Unstarted.not_pc (unstarted : state.Unstarted) {b : B} {pc : Pc F}
    (here : (state.buffer b).pc = pc) (idle : pc ≠ .idle) (creating : pc ≠ .creating) : False := by
  rcases unstarted.waiting b with there | there
  · exact idle (here.symm.trans there)
  · exact creating (here.symm.trans there)

/-- A worker that stands anywhere else has a group to read from. -/
theorem State.Regular.sound (regular : state.Regular setup) {b : B} {pc : Pc F}
    (here : (state.buffer b).pc = pc) (idle : pc ≠ .idle) (creating : pc ≠ .creating) :
    state.Sound setup :=
  regular.resolve_left fun unstarted => unstarted.not_pc here idle creating

variable [DecidableEq B]

theorem State.Unstarted.setBuffer (unstarted : state.Unstarted) (b : B) (buffer : Buffer F)
    (waiting : buffer.pc = .idle ∨ buffer.pc = .creating) :
    (state.setBuffer b buffer).Unstarted := by
  refine ⟨unstarted.group, ?_, unstarted.stored, unstarted.handed, unstarted.acked⟩
  intro c
  exact buffer_of_setBuffer (fun kept => kept.pc = .idle ∨ kept.pc = .creating)
    (unstarted.waiting c) b buffer rfl fun _ => waiting

/-- The worker that created the group goes on with nothing in hand. -/
theorem State.Unstarted.created_sound (unstarted : state.Unstarted) (b : B) (pc : Pc F)
    (free : pc.held = []) (known : pc.Consistent setup state.entries) :
    (state.created.setPc b pc).Sound setup := by
  refine unstarted.sound_of_group rfl unstarted.created_group rfl ?_ ?_
  · intro c
    rw [held_setPc, free]
    split
    · rfl
    · exact unstarted.held c
  · intro c
    have before : (state.buffer c).pc.Consistent setup state.entries := by
      rcases unstarted.waiting c with here | here <;> rw [here] <;> trivial
    exact buffer_of_setBuffer (fun kept => kept.pc.Consistent setup state.entries) before b _ rfl
      fun _ => known

/-- What the step that creates the group leaves behind: everything before it is out of reach. -/
structure State.Creates (setup : Setup B F) (state after : State B F) : Prop where
  sound : after.Sound setup
  entries : after.entries = state.entries
  group : after.group = some state.entries.length
  storedIds : after.storedIds = []
  held : ∀ b, after.held b = []

theorem State.Unstarted.creates (unstarted : state.Unstarted) (b : B) (pc : Pc F)
    (free : pc.held = []) (known : pc.Consistent setup state.entries) :
    state.Creates setup (state.created.setPc b pc) := by
  refine ⟨unstarted.created_sound b pc free known, rfl, unstarted.created_group, ?_, ?_⟩
  · exact unstarted.storedIds
  · intro c
    rw [held_setPc, free]
    split
    · rfl
    · exact unstarted.held c

/-- Either the group still does not exist, or this step created it. -/
theorem unstarted_step (unstarted : state.Unstarted) {event : Event B F}
    (stepped : setup.step state event = some after) :
    after.Unstarted ∨ (∃ b outcome, event = .createGroup b outcome) ∧
      state.Creates setup after := by
  have idle {b : B} (running : (state.buffer b).pc.running = true) : False := by
    rcases unstarted.waiting b with pc | pc <;> rw [pc] at running <;> cases running
  cases step_cases stepped with
  | foreign fields => exact Or.inl (unstarted.append [fields])
  | publish b frames _ =>
      exact Or.inl ((unstarted.append _).setBuffer b _ (unstarted.waiting b))
  | counted b frames _ => exact Or.inl (unstarted.setBuffer b _ (unstarted.waiting b))
  | start b _ => exact Or.inl (unstarted.setBuffer b _ (Or.inr rfl))
  | created b _ => exact Or.inr ⟨⟨b, .ok, rfl⟩, unstarted.creates b .ready rfl trivial⟩
  | createdLost b _ => exact Or.inr ⟨⟨b, .lost, rfl⟩, unstarted.creates b .idle rfl trivial⟩
  | createRefused b _ => exact Or.inl (unstarted.setBuffer b _ (Or.inl rfl))
  | resume b pc =>
      rcases pc with pc | pc <;> exact (unstarted.not_pc pc nofun nofun).elim
  | read b outcome pc => exact (unstarted.not_pc pc nofun nofun).elim
  | handle b messages batch pc => exact (unstarted.not_pc pc nofun nofun).elim
  | ackedBad b msgId messages batch pc => exact (unstarted.not_pc pc nofun nofun).elim
  | ackedBatch b batch pc => exact (unstarted.not_pc pc nofun nofun).elim
  | ackLost b msgIds pc =>
      rcases pc with ⟨_, _, _, pc, _⟩ | ⟨_, pc, _⟩ <;>
        exact (unstarted.not_pc pc nofun nofun).elim
  | ackRefused b pc =>
      rcases pc with ⟨_, _, _, pc⟩ | ⟨_, pc⟩ <;> exact (unstarted.not_pc pc nofun nofun).elim
  | stored b batch pc => exact (unstarted.not_pc pc nofun nofun).elim
  | storeFailed b batch pc => exact (unstarted.not_pc pc nofun nofun).elim
  | stop b running => exact (idle running).elim
  | cancelReading b pc => exact (unstarted.not_pc pc nofun nofun).elim
  | cancel b _ running => exact (idle running).elim
  | crash b => exact Or.inl (unstarted.setBuffer b _ (Or.inl rfl))

theorem step_regular (regular : state.Regular setup) {event : Event B F}
    (stepped : setup.step state event = some after) : after.Regular setup := by
  rcases regular with unstarted | sound
  · rcases unstarted_step unstarted stepped with still | ⟨_, creates⟩
    · exact Or.inl still
    · exact Or.inr creates.sound
  · exact Or.inr (step_sound sound stepped)

omit [DecidableEq B] in
theorem init_regular {group : Option Nat} (fresh : group = none ∨ group = some 0) :
    (State.init group : State B F).Regular setup := by
  rcases fresh with rfl | rfl
  · exact Or.inl init_unstarted
  · exact Or.inr (init_sound setup)

/-- No worker has an entry twice, and none is stored twice. -/
structure State.Distinct (state : State B F) : Prop where
  held : ∀ b, (state.held b).Nodup
  stored : state.storedIds.Nodup

omit [DecidableEq B] in
theorem State.Distinct.of_free (held : ∀ b, state.held b = []) (stored : state.storedIds = []) :
    state.Distinct := by
  refine ⟨?_, ?_⟩
  · intro b
    rw [held b]
    exact List.nodup_nil
  · rw [stored]
    exact List.nodup_nil

theorem nodup_held_if {b c : B} {mine others : List Nat} (first : mine.Nodup)
    (second : others.Nodup) : (if c = b then mine else others).Nodup := by
  split <;> assumption

theorem effect_distinct {event : Event B F} (exclusive : state.Exclusive)
    (distinct : state.Distinct) (effect : Effect setup state event after) : after.Distinct := by
  cases effect with
  | keep extra entries group stored held calm =>
      exact ⟨fun c => held c ▸ distinct.held c, storedIds_same stored ▸ distinct.stored⟩
  | take b next count entries before group bound stored held free calm =>
      refine ⟨?_, storedIds_same stored ▸ distinct.stored⟩
      intro c
      rw [held]
      exact nodup_held_if List.nodup_range' (distinct.held c)
  | miss next count entries before group bound stored held stake =>
      exact ⟨fun c => held c ▸ distinct.held c, storedIds_same stored ▸ distinct.stored⟩
  | discard b msgId front back entries group stored held before bad calm =>
      refine ⟨?_, storedIds_same stored ▸ distinct.stored⟩
      intro c
      rw [held]
      have mine := distinct.held b
      rw [before] at mine
      refine nodup_held_if (mine.sublist ?_) (distinct.held c)
      exact (List.sublist_cons_self msgId back).append_left front
  | save b batch entries group stored held before calm =>
      refine ⟨?_, ?_⟩
      · intro c
        rw [held]
        exact nodup_held_if List.nodup_nil (distinct.held c)
      · rw [storedIds_save stored, ← before]
        refine List.nodup_append.mpr ⟨distinct.stored, distinct.held b, ?_⟩
        rintro msgId saved other mine rfl
        exact exclusive.unsaved b msgId mine saved
  | drop b entries group stored held stake =>
      refine ⟨?_, storedIds_same stored ▸ distinct.stored⟩
      intro c
      rw [held]
      exact nodup_held_if List.nodup_nil (distinct.held c)

theorem step_distinct (regular : state.Regular setup) (distinct : state.Distinct)
    {event : Event B F} (stepped : setup.step state event = some after) : after.Distinct := by
  rcases regular with unstarted | sound
  · rcases unstarted_step unstarted stepped with still | ⟨_, creates⟩
    · exact .of_free still.held still.storedIds
    · exact .of_free creates.held creates.storedIds
  · exact effect_distinct sound.exclusive distinct (step_effect sound.consistent stepped)

omit [DecidableEq B] in
/-- What `enqueue` writes is read back as the text it wrote. -/
theorem decode_written (setup : Setup B F) (frame : F) :
    setup.decode (setup.written frame) = setup.validated (setup.modelDumpJson frame) := by
  have text : String.fromUTF8? ⟨(setup.modelDumpJson frame).toUTF8.data.toList.toArray⟩ =
      some (setup.modelDumpJson frame) := by
    rw [Array.toArray_toList]
    exact dif_pos (setup.modelDumpJson frame).isValidUTF8
  unfold Setup.decode Setup.written Fields.raw
  simp only [text]

/-- Only buffers write to the stream. -/
def State.Published (setup : Setup B F) (state : State B F) : Prop :=
  ∀ fields ∈ state.entries, ∃ frame, fields = setup.written frame

omit [DecidableEq B] in
theorem State.Published.not_undecodable (published : state.Published setup) {fields : Fields}
    (inside : fields ∈ state.entries) : setup.decode fields ≠ .undecodable := by
  obtain ⟨frame, rfl⟩ := published fields inside
  rw [decode_written, Setup.validated]
  split <;> nofun

/-- The repository and Redis answer every call, no process crashes, and only buffers write to
the stream. -/
def Event.Healthy : Event B F → Prop
  | .foreign _ | .cancel _ | .crash _ => False
  | .createGroup _ outcome | .read _ outcome | .xack _ outcome => outcome = .ok
  | .store _ succeeds => succeeds = true
  | _ => True

theorem read_entries (setup : Setup B F) (state : State B F) (b : B) (outcome : Outcome) :
    (setup.read state b outcome).entries = state.entries := by
  unfold Setup.read
  split <;> rfl

theorem handle_entries (setup : Setup B F) (state : State B F) (b : B)
    (messages : List (Nat × Fields)) (batch : Batch F) :
    (setup.handle state b messages batch).entries = state.entries := by
  unfold Setup.handle State.collected
  split
  · split <;> rfl
  · split <;> rfl

theorem step_published (published : state.Published setup) {event : Event B F}
    (healthy : event.Healthy) (stepped : setup.step state event = some after) :
    after.Published setup := by
  cases step_cases stepped with
  | foreign fields => exact healthy.elim
  | publish b frames _ =>
      intro fields inside
      rcases List.mem_append.mp inside with old | new
      · exact published fields old
      · obtain ⟨frame, _, rfl⟩ := List.mem_map.mp new
        exact ⟨frame, rfl⟩
  | read b outcome _ =>
      unfold State.Published
      rw [read_entries]
      exact published
  | handle b messages batch _ =>
      unfold State.Published
      rw [handle_entries]
      exact published
  | _ => exact published

omit [DecidableEq B] in
/-- In a run without failures a worker loses nothing it was given. -/
theorem healthy_calm (sound : state.Sound setup) (published : state.Published setup)
    {event : Event B F} (healthy : event.Healthy) : setup.atStake state event = [] := by
  cases event with
  | read b outcome =>
      cases outcome with
      | lost => cases healthy
      | _ => rfl
  | handle b =>
      simp only [Setup.atStake]
      split
      · rename_i msgId fields rest batch pc
        have known := sound.consistent.workers b
        rw [pc] at known
        have found := known.2 (msgId, fields) List.mem_cons_self
        have decodable := published.not_undecodable (List.mem_of_getElem? found)
        split
        · rename_i undecodable
          exact absurd undecodable decodable
        · rfl
      · rfl
  | xack b outcome =>
      cases outcome with
      | ok => rfl
      | _ => cases healthy
  | store b succeeds =>
      cases succeeds with
      | true => rfl
      | false => cases healthy
  | cancel b => exact healthy.elim
  | crash b => exact healthy.elim
  | _ => rfl

omit [DecidableEq B] in
theorem not_drops_of_calm {event : Event B F} (calm : setup.atStake state event = []) :
    ¬ Drops setup state event := by
  rintro ⟨msgId, inside, _⟩
  rw [calm] at inside
  cases inside

/-- Every well-formed frame of the stream is stored, and no entry twice. -/
structure State.StoredOnce (setup : Setup B F) (state : State B F) : Prop where
  all : state.AllStored setup
  once : state.storedIds.Nodup

/-- An event that creates the group behind a well-formed entry. -/
def Skips (setup : Setup B F) (state : State B F) : Event B F → Prop
  | .createGroup _ outcome => outcome ≠ .refused ∧ state.group = none ∧
      ∃ msgId frame, setup.frameAt state.entries msgId = some frame
  | _ => False

/-- What holds after every run of healthy events on a fresh stream. -/
structure State.Served (setup : Setup B F) (state : State B F) : Prop where
  regular : state.Regular setup
  published : state.Published setup
  distinct : state.Distinct

omit [DecidableEq B] in
/-- A group that was created behind no well-formed entry has everything covered, since it was
given nothing else. -/
theorem State.Creates.covered (creates : state.Creates setup after)
    (clear : ¬ ∃ msgId frame, setup.frameAt state.entries msgId = some frame) :
    after.Covered setup := by
  intro msgId frame wellFormed _
  rw [creates.entries] at wellFormed
  exact absurd ⟨msgId, frame, wellFormed⟩ clear

omit [DecidableEq B] in
/-- An entry the group was created behind is lost. -/
theorem State.Creates.lost (creates : state.Creates setup after) {msgId : Nat} {frame : F}
    (wellFormed : setup.frameAt state.entries msgId = some frame) : after.Lost setup msgId := by
  refine ⟨⟨frame, creates.entries ▸ wellFormed⟩, ?_, ?_, ?_⟩
  · rw [given_of_group creates.group]
    exact frameAt_lt wellFormed
  · rw [creates.storedIds]
    exact List.not_mem_nil
  · intro b
    rw [creates.held]
    exact List.not_mem_nil

omit [DecidableEq B] in
theorem init_served : (State.init none : State B F).Served setup :=
  ⟨Or.inl init_unstarted, fun _ inside => absurd inside List.not_mem_nil,
    .of_free (fun _ => rfl) rfl⟩

theorem step_served (served : state.Served setup) {event : Event B F} (healthy : event.Healthy)
    (stepped : setup.step state event = some after) : after.Served setup where
  regular := step_regular served.regular stepped
  published := step_published served.published healthy stepped
  distinct := step_distinct served.regular served.distinct stepped

/-- Until the group exists nothing is said; from then on every entry it was given is covered. -/
theorem step_serves_all (served : state.Served setup)
    (covered : state.Unstarted ∨ state.Sound setup ∧ state.Covered setup) {event : Event B F}
    (healthy : event.Healthy) (keeps : ¬ Skips setup state event)
    (stepped : setup.step state event = some after) :
    after.Unstarted ∨ after.Sound setup ∧ after.Covered setup := by
  rcases covered with unstarted | ⟨sound, covered⟩
  · rcases unstarted_step unstarted stepped with still | ⟨⟨b, outcome, rfl⟩, creates⟩
    · exact Or.inl still
    · have answered : outcome ≠ .refused := by
        rw [healthy]
        nofun
      have clear : ¬ ∃ msgId frame, setup.frameAt state.entries msgId = some frame :=
        fun behind => keeps ⟨answered, unstarted.group, behind⟩
      exact Or.inr ⟨creates.sound, creates.covered clear⟩
  · have calm := healthy_calm sound served.published healthy
    exact Or.inr ⟨step_sound sound stepped, effect_covered sound.consistent covered
      (step_effect sound.consistent stepped) (not_drops_of_calm calm)⟩

theorem skips_lose (regular : state.Regular setup) {event : Event B F}
    (skips : Skips setup state event) (stepped : setup.step state event = some after) :
    after.Sound setup ∧ ∃ msgId, after.Lost setup msgId := by
  cases event with
  | createGroup b outcome =>
      obtain ⟨answered, none, msgId, frame, wellFormed⟩ := skips
      rcases regular with unstarted | sound
      · have lost {pc : Pc F} (free : pc.held = []) (known : pc.Consistent setup state.entries) :=
          (unstarted.creates b pc free known).lost wellFormed
        cases step_cases stepped with
        | created b _ =>
            exact ⟨unstarted.created_sound b .ready rfl trivial, msgId, lost rfl trivial⟩
        | createdLost b _ =>
            exact ⟨unstarted.created_sound b .idle rfl trivial, msgId, lost rfl trivial⟩
        | createRefused b _ => exact absurd rfl answered
      · obtain ⟨next, _, group⟩ := sound.consistent.group
        exact absurd (none.symm.trans group) nofun
  | _ => exact skips.elim

/-- On a fresh stream without failures, once the group has nothing more to return and no worker
is in the middle of a batch, every well-formed frame is stored exactly once if and only if the
consumer group was not created behind one: it starts at the end of the stream. -/
theorem stored_once_iff_group_first (setup : Setup B F) {events : List (Event B F)}
    {final : State B F} (healthy : ∀ event ∈ events, event.Healthy)
    (ran : run setup.step (.init none) events = some final)
    (exhausted : final.group = some final.entries.length) (resting : ∀ b, final.held b = []) :
    final.StoredOnce setup ↔
      Meets setup.step (fun state event => ¬ Skips setup state event) (.init none) events := by
  have reliable : Meets setup.step (fun _ event => event.Healthy) (.init none) events :=
    meets_of_forall healthy
  constructor
  · intro once
    by_contra breaks
    obtain ⟨front, event, back, state, next, reached, skips, stepped, later⟩ :=
      exists_break ran breaks
    have keeps : ∀ (state : State B F) event next, state.Regular setup →
        setup.step state event = some next → next.Regular setup :=
      fun _ _ _ regular stepped => step_regular regular stepped
    have regular := run_invariant keeps (init_regular (Or.inl rfl)) reached
    obtain ⟨sound, msgId, lost⟩ := skips_lose regular (not_not.mp skips) stepped
    exact (run_lost sound lost later).not_allStored once.all
  · intro safe
    have keeps : ∀ state event next,
        state.Served setup ∧ (state.Unstarted ∨ state.Sound setup ∧ state.Covered setup) →
        event.Healthy ∧ ¬ Skips setup state event → setup.step state event = some next →
        next.Served setup ∧ (next.Unstarted ∨ next.Sound setup ∧ next.Covered setup) := by
      rintro state event next ⟨served, covered⟩ ⟨healthy, keeps⟩ stepped
      exact ⟨step_served served healthy stepped,
        step_serves_all served covered healthy keeps stepped⟩
    obtain ⟨served, covered⟩ := run_invariant_of_meets keeps
      ⟨init_served, Or.inl init_unstarted⟩ (reliable.and safe) ran
    rcases covered with unstarted | ⟨sound, covered⟩
    · rw [unstarted.group] at exhausted
      cases exhausted
    · exact ⟨stored_of_covered sound covered exhausted resting, served.distinct.stored⟩

def startedFirst : Option (State Unit String) :=
  run textSetup.step (.init none) (oneFrame true ++ [.xack () .ok])

theorem startedFirst_isSome : startedFirst.isSome := by
  decide +kernel

theorem stored_once_iff_group_first_frame :
    (startedFirst.get startedFirst_isSome).StoredOnce textSetup ↔
      Meets textSetup.step (fun state event => ¬ Skips textSetup state event) (.init none)
        (oneFrame true ++ [.xack () .ok]) := by
  have healthy : ∀ event ∈ oneFrame true ++ [.xack () .ok], event.Healthy := by
    simp [oneFrame, Event.Healthy]
  have resting : (startedFirst.get startedFirst_isSome).held () = [] := by decide +kernel
  exact stored_once_iff_group_first textSetup healthy (Option.some_get startedFirst_isSome).symm
    (by decide +kernel) fun _ => resting

/-- The frame is in the stream before the worker is started. -/
def enqueuedFirst : List (Event Unit String) :=
  [.publish () ["frame"], .counted () 1, .start (), .createGroup () .ok, .resume ()]

def afterEnqueuedFirst : Option (State Unit String) :=
  run textSetup.step (.init none) enqueuedFirst

theorem afterEnqueuedFirst_isSome : afterEnqueuedFirst.isSome := by
  decide +kernel

def skippedState : State Unit String := afterEnqueuedFirst.get afterEnqueuedFirst_isSome

/-- The worker waits for new entries behind the one that was there before it. -/
theorem frame_before_group_skipped : ¬ ∀ (setup : Setup Unit String)
    (events : List (Event Unit String)) (final : State Unit String),
    (∀ event ∈ events, event.Healthy) → run setup.step (.init none) events = some final →
    final.group = some final.entries.length → (∀ b, final.held b = []) →
    final.StoredOnce setup := by
  intro all
  have healthy : ∀ event ∈ enqueuedFirst, event.Healthy := by
    simp [enqueuedFirst, Event.Healthy]
  have resting : skippedState.held () = [] := by decide +kernel
  have exhausted : skippedState.group = some skippedState.entries.length := by decide +kernel
  have stored := all textSetup enqueuedFirst skippedState healthy
    (Option.some_get afterEnqueuedFirst_isSome).symm exhausted fun _ => resting
  have wellFormed : textSetup.frameAt skippedState.entries 0 = some "frame" := by decide +kernel
  have none : skippedState.stored = [] := by decide +kernel
  obtain ⟨batch, inside, _⟩ := stored.all 0 "frame" wellFormed
  rw [none] at inside
  cases inside

end RagDrift.Ingestion
