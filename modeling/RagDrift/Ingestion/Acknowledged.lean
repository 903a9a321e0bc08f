import RagDrift.Ingestion.Startup

set_option autoImplicit false

/- What an acknowledgement says about an entry, and how often an entry is handed to the
repository: over every run, with every failure. -/
namespace RagDrift.Ingestion

open Transition (run run_invariant)

variable {B F : Type} {setup : Setup B F} {state after : State B F}

/-- The frame field of an entry; a client uses one kind of key. -/
def Fields.frameField (fields : Fields) : Option Raw := fields.textKey.or fields.bytesKey

/-- `RAGEvaluationFrame` cannot be read from a field value. -/
def Setup.Fails (setup : Setup B F) : Raw → Prop
  | .text text => setup.modelValidateJson text = none
  | .bytes bytes => ∀ text, String.fromUTF8? ⟨bytes.toArray⟩ = some text →
      setup.modelValidateJson text = none

/-- An entry that has no frame field, or one that fails validation. -/
def Setup.Rejects (setup : Setup B F) (fields : Fields) : Prop :=
  fields.frameField = none ∨ ∃ raw, fields.frameField = some raw ∧ setup.Fails raw

theorem validated_frame? (text : String) :
    (setup.validated text).frame? = setup.modelValidateJson text := by
  unfold Setup.validated
  split <;> rename_i valid <;> rw [valid] <;> rfl

/-- An empty value, which the worker passes over, fails validation when the empty text does. -/
theorem fails_of_falsy (empty : setup.modelValidateJson "" = none) {raw : Raw}
    (falsy : raw.truthy = false) : setup.Fails raw := by
  cases raw with
  | text value =>
      have blank : value = "" := by simpa [Raw.truthy] using falsy
      rw [blank]
      exact empty
  | bytes value =>
      have blank : value = [] := by simpa [Raw.truthy] using falsy
      intro text decoded
      rw [blank] at decoded
      have nothing : String.fromUTF8? ⟨([] : List UInt8).toArray⟩ = some "" := by decide +kernel
      rw [nothing, Option.some.injEq] at decoded
      rw [← decoded]
      exact empty

/-- The worker finds no frame in a value exactly when the value fails validation. -/
theorem fails_of_frameless {fields : Fields} {raw : Raw} (read : fields.raw = some raw)
    (frameless : (setup.decode fields).frame? = none) : setup.Fails raw := by
  unfold Setup.decode at frameless
  rw [read] at frameless
  cases raw with
  | text text => rwa [validated_frame?] at frameless
  | bytes bytes =>
      intro text decoded
      simp only [decoded] at frameless
      rwa [validated_frame?] at frameless

theorem rejects_of_frameless (empty : setup.modelValidateJson "" = none) {fields : Fields}
    (frameless : (setup.decode fields).frame? = none) : setup.Rejects fields := by
  unfold Setup.Rejects Fields.frameField
  cases text : fields.textKey with
  | none =>
      have raw : fields.raw = fields.bytesKey := by rw [Fields.raw, text]
      rw [Option.none_or]
      cases bytes : fields.bytesKey with
      | none => exact Or.inl rfl
      | some value => exact Or.inr ⟨value, rfl, fails_of_frameless (raw.trans bytes) frameless⟩
  | some value =>
      rw [Option.some_or]
      refine Or.inr ⟨value, rfl, ?_⟩
      cases truth : value.truthy with
      | false => exact fails_of_falsy empty truth
      | true =>
          have raw : fields.raw = some value := by
            rw [Fields.raw, text]
            exact if_pos truth
          exact fails_of_frameless raw frameless

/-- The entries a worker has in hand that were not handed to the repository yet. -/
def Pc.unhanded : Pc F → List Nat
  | .handling messages batch => batch.msgIds ++ messages.map Prod.fst
  | .ackingBad msgId messages batch => batch.msgIds ++ msgId :: messages.map Prod.fst
  | _ => []

def State.unhanded (state : State B F) (b : B) : List Nat := (state.buffer b).pc.unhanded

def State.handedIds (state : State B F) : List Nat := state.handed.flatMap Batch.msgIds

theorem Pc.unhanded_held {pc : Pc F} {msgId : Nat} (inside : msgId ∈ pc.unhanded) :
    msgId ∈ pc.held := by
  cases pc with
  | handling messages batch => exact inside
  | ackingBad bad messages batch => exact inside
  | _ => cases inside

theorem loop_unhanded (buffer : Buffer F) : buffer.loop.unhanded = [] := by
  unfold Buffer.loop
  split <;> rfl

theorem loop_not_acking {buffer : Buffer F} {batch : Batch F}
    (here : buffer.loop = .ackingBatch batch) : False := by
  unfold Buffer.loop at here
  split at here <;> cases here

/-- An acknowledged entry is settled: it is stored, or there is no frame in it. -/
def State.Settled (setup : Setup B F) (state : State B F) (msgId : Nat) : Prop :=
  msgId ∈ state.storedIds ∨
    ∃ fields, state.entries[msgId]? = some fields ∧ (setup.decode fields).frame? = none

/-- Only settled entries are acknowledged, and what was handed to the repository is no longer in
front of any worker. -/
structure State.Audited (setup : Setup B F) (state : State B F) : Prop where
  acked : ∀ msgId ∈ state.acked, state.Settled setup msgId
  acking : ∀ b batch, (state.buffer b).pc = .ackingBatch batch →
    ∀ msgId ∈ batch.msgIds, msgId ∈ state.storedIds
  reads : ∀ batch ∈ state.handed, batch.Reads setup state.entries
  once : state.handedIds.Nodup
  below : ∀ msgId ∈ state.handedIds, msgId < state.given
  fresh : ∀ b, ∀ msgId ∈ state.unhanded b, msgId ∉ state.handedIds

theorem State.Settled.mono {msgId : Nat} (settled : state.Settled setup msgId)
    {extra : List Fields} (entries : after.entries = state.entries ++ extra)
    (stored : state.storedIds ⊆ after.storedIds) : after.Settled setup msgId := by
  rcases settled with saved | ⟨fields, found, frameless⟩
  · exact Or.inl (stored saved)
  · refine Or.inr ⟨fields, ?_, frameless⟩
    rw [entries]
    exact fields_append found

theorem init_audited (setup : Setup B F) (group : Option Nat) :
    (State.init group : State B F).Audited setup :=
  ⟨nofun, nofun, nofun, List.nodup_nil, nofun, fun _ _ _ => List.not_mem_nil⟩

/-- A step that hands nothing to the repository: what it acknowledges has to be settled, and a
worker may only have new entries in front of it. -/
theorem State.Audited.unhanding (audited : state.Audited setup) (extra : List Fields)
    (entries : after.entries = state.entries ++ extra)
    (stored : state.storedIds ⊆ after.storedIds) (given : state.given ≤ after.given)
    (handed : after.handed = state.handed)
    (acked : ∀ msgId ∈ after.acked, msgId ∈ state.acked ∨ after.Settled setup msgId)
    (unhanded : ∀ c, ∀ msgId ∈ after.unhanded c,
      msgId ∈ state.unhanded c ∨ state.given ≤ msgId)
    (acking : ∀ c batch, (after.buffer c).pc = .ackingBatch batch →
      ∀ msgId ∈ batch.msgIds, msgId ∈ after.storedIds) :
    after.Audited setup := by
  have handedIds : after.handedIds = state.handedIds := by
    rw [State.handedIds, State.handedIds, handed]
  refine ⟨?_, acking, ?_, handedIds ▸ audited.once, ?_, ?_⟩
  · intro msgId inside
    rcases acked msgId inside with old | settled
    · exact (audited.acked msgId old).mono entries stored
    · exact settled
  · intro batch inside
    rw [handed] at inside
    rw [entries]
    exact (audited.reads batch inside).append
  · intro msgId inside
    rw [handedIds] at inside
    exact Nat.lt_of_lt_of_le (audited.below msgId inside) given
  · intro c msgId inside
    rw [handedIds]
    rcases unhanded c msgId inside with here | new
    · exact audited.fresh c msgId here
    · intro handedBefore
      have limit := audited.below msgId handedBefore
      omega

section Steps

variable [DecidableEq B]

/-- The same for a step of one worker. -/
theorem State.Audited.update (audited : state.Audited setup) {mid : State B F} (b : B)
    (buffer : Buffer F) (extra : List Fields) (entries : mid.entries = state.entries ++ extra)
    (stored : state.storedIds ⊆ mid.storedIds) (given : state.given ≤ mid.given)
    (handed : mid.handed = state.handed) (others : mid.buffer = state.buffer)
    (acked : ∀ msgId ∈ mid.acked, msgId ∈ state.acked ∨ mid.Settled setup msgId)
    (unhanded : ∀ msgId ∈ buffer.pc.unhanded, msgId ∈ state.unhanded b ∨ state.given ≤ msgId)
    (acking : ∀ batch, buffer.pc = .ackingBatch batch →
      ∀ msgId ∈ batch.msgIds, msgId ∈ mid.storedIds) :
    (mid.setBuffer b buffer).Audited setup := by
  refine audited.unhanding extra entries stored given handed acked ?_ ?_
  · intro c msgId inside
    rw [State.unhanded, buffer_setBuffer] at inside
    split at inside
    · rename_i same
      exact same ▸ unhanded msgId inside
    · rw [others] at inside
      exact Or.inl inside
  · intro c batch here msgId inside
    rw [buffer_setBuffer] at here
    split at here
    · exact acking batch here msgId inside
    · rw [others] at here
      exact stored (audited.acking c batch here msgId inside)

/-- A worker moves on with at most what it had in front of it. -/
theorem State.Audited.move (audited : state.Audited setup) (b : B) (buffer : Buffer F)
    (unhanded : ∀ msgId ∈ buffer.pc.unhanded, msgId ∈ state.unhanded b)
    (acking : ∀ batch, buffer.pc = .ackingBatch batch → (state.buffer b).pc = .ackingBatch batch) :
    (state.setBuffer b buffer).Audited setup := by
  refine audited.update b buffer [] (List.append_nil _).symm (List.Subset.refl _) (Nat.le_refl _)
    rfl rfl (fun _ inside => Or.inl inside) ?_ ?_
  · exact fun msgId inside => Or.inl (unhanded msgId inside)
  · exact fun batch here => audited.acking b batch (acking batch here)

theorem State.Audited.loop (audited : state.Audited setup) (b : B) :
    (state.setPc b (state.buffer b).loop).Audited setup := by
  refine audited.move b _ ?_ fun batch here => (loop_not_acking here).elim
  intro msgId inside
  change msgId ∈ (state.buffer b).loop.unhanded at inside
  rw [loop_unhanded] at inside
  cases inside

omit [DecidableEq B] in
theorem given_created (state : State B F) : state.given ≤ state.created.given := by
  unfold State.given State.created
  cases state.group with
  | none => exact Nat.zero_le _
  | some next => exact Nat.le_refl _

theorem State.Audited.ofCreated (audited : state.Audited setup) (b : B) {pc : Pc F}
    (unhanded : pc.unhanded = []) (acking : ∀ batch, pc ≠ .ackingBatch batch) :
    (state.created.setPc b pc).Audited setup := by
  refine audited.update b _ [] (List.append_nil _).symm (List.Subset.refl _)
    (given_created state) rfl rfl (fun _ inside => Or.inl inside) ?_ ?_
  · intro msgId inside
    change msgId ∈ pc.unhanded at inside
    rw [unhanded] at inside
    cases inside
  · exact fun batch here => absurd here (acking batch)

/-- A worker acknowledges settled entries and has nothing new in front of it. -/
theorem State.Audited.ack (audited : state.Audited setup) (b : B) (buffer : Buffer F)
    (msgIds : List Nat) (settled : ∀ msgId ∈ msgIds, state.Settled setup msgId)
    (unhanded : ∀ msgId ∈ buffer.pc.unhanded, msgId ∈ state.unhanded b)
    (acking : ∀ batch, buffer.pc ≠ .ackingBatch batch) :
    ((state.ack msgIds).setBuffer b buffer).Audited setup := by
  refine audited.update b buffer [] (List.append_nil _).symm (List.Subset.refl _) (Nat.le_refl _)
    rfl rfl ?_ ?_ ?_
  · intro msgId inside
    rcases List.mem_append.mp inside with old | new
    · exact Or.inl old
    · exact Or.inr (settled msgId new)
  · exact fun msgId inside => Or.inl (unhanded msgId inside)
  · exact fun batch here => absurd here (acking batch)

theorem read_audited (audited : state.Audited setup) (b : B) (outcome : Outcome) :
    (setup.read state b outcome).Audited setup := by
  unfold Setup.read
  split
  · rename_i next group
    have given := given_of_group group
    refine audited.update b _ [] (List.append_nil _).symm (List.Subset.refl _) ?_ rfl rfl
      (fun _ inside => Or.inl inside) ?_ nofun
    · change state.given ≤ next + _
      omega
    · intro msgId inside
      change msgId ∈ [] ++ List.map Prod.fst _ at inside
      rw [List.nil_append, undelivered_ids, List.mem_range'_1] at inside
      exact Or.inr (by omega)
  · rename_i next group
    have given := given_of_group group
    refine audited.update b _ [] (List.append_nil _).symm (List.Subset.refl _) ?_ rfl rfl
      (fun _ inside => Or.inl inside) nofun nofun
    change state.given ≤ next + _
    omega
  · exact audited.move b _ nofun nofun

/-- The batch a worker has collected goes to the repository. -/
theorem State.Audited.hand (audited : state.Audited setup) (exclusive : state.Exclusive)
    (distinct : state.Distinct) (b : B) {batch : Batch F} (reads : batch.Reads setup state.entries)
    (unhanded : state.unhanded b = batch.msgIds) (held : state.held b = batch.msgIds) :
    (({ state with handed := state.handed ++ [batch] } : State B F).setPc b
      (.storing batch)).Audited setup := by
  have handedIds : (({ state with handed := state.handed ++ [batch] } : State B F).setPc b
      (.storing batch)).handedIds = state.handedIds ++ batch.msgIds := by
    change (state.handed ++ [batch]).flatMap Batch.msgIds = _
    rw [List.flatMap_append, List.flatMap_singleton]
    rfl
  refine ⟨audited.acked, ?_, ?_, ?_, ?_, ?_⟩
  · intro c other here msgId inside
    change (State.buffer _ c).pc = _ at here
    rw [State.setPc, buffer_setBuffer] at here
    split at here
    · cases here
    · exact audited.acking c other here msgId inside
  · intro other inside
    rcases List.mem_append.mp inside with old | new
    · exact audited.reads other old
    · rw [List.mem_singleton] at new
      exact new ▸ reads
  · rw [handedIds]
    refine List.nodup_append.mpr ⟨audited.once, held ▸ distinct.held b, ?_⟩
    rintro msgId old other mine rfl
    rw [← unhanded] at mine
    exact audited.fresh b msgId mine old
  · intro msgId inside
    rw [handedIds] at inside
    rcases List.mem_append.mp inside with old | new
    · exact audited.below msgId old
    · exact exclusive.held b msgId (held ▸ new)
  · intro c msgId inside
    rw [State.unhanded, State.setPc, buffer_setBuffer] at inside
    split at inside
    · cases inside
    · rename_i differs
      rw [handedIds, List.mem_append, not_or]
      refine ⟨audited.fresh c msgId inside, ?_⟩
      intro mine
      exact differs (exclusive.worker c b msgId (Pc.unhanded_held inside) (held ▸ mine))

theorem handle_audited (audited : state.Audited setup) (sound : state.Sound setup)
    (distinct : state.Distinct) (b : B) {messages : List (Nat × Fields)} {batch : Batch F}
    (here : (state.buffer b).pc = .handling messages batch) :
    (setup.handle state b messages batch).Audited setup := by
  have front : state.unhanded b = batch.msgIds ++ messages.map Prod.fst := by
    rw [State.unhanded, here]
    rfl
  have held : state.held b = batch.msgIds ++ messages.map Prod.fst := held_of_pc here
  have known := sound.consistent.workers b
  rw [here] at known
  cases messages with
  | nil =>
      rw [List.map_nil, List.append_nil] at front held
      unfold Setup.handle State.collected
      dsimp only
      split
      · exact audited.loop b
      · exact audited.hand sound.exclusive distinct b known.1 front held
  | cons message rest =>
      obtain ⟨msgId, fields⟩ := message
      unfold Setup.handle
      dsimp only
      split
      · refine audited.move b _ ?_ nofun
        intro other inside
        rw [front]
        change other ∈ (batch.msgIds ++ [msgId]) ++ rest.map Prod.fst at inside
        rwa [List.append_assoc] at inside
      · exact audited.move b _ nofun nofun
      · exact audited.move b _ (fun other inside => front ▸ inside) nofun
      · exact audited.move b _ (fun other inside => front ▸ inside) nofun

omit [DecidableEq B] in
/-- What a worker asks to acknowledge is settled. -/
theorem acking_settled (audited : state.Audited setup) (sound : state.Sound setup) {b : B}
    {msgIds : List Nat}
    (pc : (∃ msgId messages batch, (state.buffer b).pc = .ackingBad msgId messages batch ∧
        msgIds = [msgId]) ∨
      ∃ batch, (state.buffer b).pc = .ackingBatch batch ∧ msgIds = batch.msgIds) :
    ∀ msgId ∈ msgIds, state.Settled setup msgId := by
  rintro msgId inside
  rcases pc with ⟨bad, messages, batch, here, rfl⟩ | ⟨batch, here, rfl⟩
  · have known := sound.consistent.workers b
    rw [here] at known
    rw [List.mem_singleton] at inside
    exact Or.inr (inside ▸ known.2.2)
  · exact Or.inl (audited.acking b batch here msgId inside)

theorem step_audited (audited : state.Audited setup) (regular : state.Regular setup)
    (distinct : state.Distinct) {event : Event B F}
    (stepped : setup.step state event = some after) : after.Audited setup := by
  cases step_cases stepped with
  | foreign fields =>
      exact audited.unhanding [fields] rfl (List.Subset.refl _) (Nat.le_refl _) rfl
        (fun _ inside => Or.inl inside) (fun _ _ inside => Or.inl inside) audited.acking
  | publish b frames _ =>
      exact audited.update b _ (frames.map setup.written) rfl (List.Subset.refl _)
        (Nat.le_refl _) rfl rfl (fun _ inside => Or.inl inside) (fun _ inside => Or.inl inside)
        (audited.acking b)
  | counted b frames _ => exact audited.move b _ (fun _ inside => inside) fun _ here => here
  | start b _ => exact audited.move b _ nofun nofun
  | created b _ => exact audited.ofCreated b rfl nofun
  | createdLost b _ => exact audited.ofCreated b rfl nofun
  | createRefused b _ => exact audited.move b _ nofun nofun
  | resume b _ => exact audited.loop b
  | read b outcome _ => exact read_audited audited b outcome
  | handle b messages batch pc =>
      exact handle_audited audited (regular.sound pc nofun nofun) distinct b pc
  | ackedBad b msgId messages batch pc =>
      refine audited.ack b _ _ (acking_settled audited (regular.sound pc nofun nofun)
        (Or.inl ⟨msgId, messages, batch, pc, rfl⟩)) ?_ nofun
      intro other inside
      rw [State.unhanded, pc]
      exact ((List.sublist_cons_self msgId _).append_left batch.msgIds).subset inside
  | ackedBatch b batch pc =>
      refine audited.ack b _ _ (acking_settled audited (regular.sound pc nofun nofun)
        (Or.inr ⟨batch, pc, rfl⟩)) ?_ fun batch here => loop_not_acking here
      intro msgId inside
      change msgId ∈ (state.buffer b).loop.unhanded at inside
      rw [loop_unhanded] at inside
      cases inside
  | ackLost b msgIds pc =>
      have settled : state.Sound setup := by
        rcases pc with ⟨_, _, _, here, _⟩ | ⟨_, here, _⟩ <;> exact regular.sound here nofun nofun
      exact audited.ack b _ _ (acking_settled audited settled pc) nofun nofun
  | ackRefused b _ => exact audited.move b _ nofun nofun
  | stored b batch pc =>
      have ids : ({ state with stored := state.stored ++ [batch] } : State B F).storedIds =
          state.storedIds ++ batch.msgIds := storedIds_save rfl
      refine audited.update b _ [] (List.append_nil _).symm ?_ (Nat.le_refl _) rfl rfl
        (fun _ inside => Or.inl inside) nofun ?_
      · rw [ids]
        exact List.subset_append_left _ _
      · intro other here msgId inside
        cases here
        rw [ids]
        exact List.mem_append_right _ inside
  | storeFailed b batch _ => exact audited.loop b
  | stop b _ => exact audited.move b _ (fun _ inside => inside) fun _ here => here
  | cancelReading b _ => exact audited.move b _ nofun nofun
  | cancel b _ _ => exact audited.move b _ nofun nofun
  | crash b => exact audited.move b _ nofun nofun

/-- What holds of every state of a run on a fresh stream, whatever fails in it. -/
structure State.Recorded (setup : Setup B F) (state : State B F) : Prop where
  regular : state.Regular setup
  distinct : state.Distinct
  audited : state.Audited setup

omit [DecidableEq B] in
theorem init_recorded {group : Option Nat} (fresh : group = none ∨ group = some 0) :
    (State.init group : State B F).Recorded setup :=
  ⟨init_regular fresh, .of_free (fun _ => rfl) rfl, init_audited setup group⟩

theorem step_recorded (recorded : state.Recorded setup) {event : Event B F}
    (stepped : setup.step state event = some after) : after.Recorded setup :=
  ⟨step_regular recorded.regular stepped,
    step_distinct recorded.regular recorded.distinct stepped,
    step_audited recorded.audited recorded.regular recorded.distinct stepped⟩

theorem run_recorded {group : Option Nat} (fresh : group = none ∨ group = some 0)
    {events : List (Event B F)} {final : State B F}
    (ran : run setup.step (.init group) events = some final) : final.Recorded setup := by
  have keeps : ∀ (state : State B F) event next, state.Recorded setup →
      setup.step state event = some next → next.Recorded setup :=
    fun _ _ _ recorded stepped => step_recorded recorded stepped
  exact run_invariant keeps (init_recorded fresh) ran

end Steps

/-- An entry was part of a `batch_store_frames` call that returned. -/
def State.Persisted (setup : Setup B F) (state : State B F) (msgId : Nat) : Prop :=
  ∃ batch ∈ state.stored, ∃ frame, setup.frameAt state.entries msgId = some frame ∧
    (msgId, frame) ∈ batch.msgIds.zip batch.frames

/-- Every batch that was handed over holds the frames of the entries beside them, and no entry
is in two of them, or twice in one. -/
structure State.HandedOnce (setup : Setup B F) (state : State B F) : Prop where
  reads : ∀ batch ∈ state.handed, batch.Reads setup state.entries
  once : state.handedIds.Nodup

theorem State.Recorded.persisted_of_stored (recorded : state.Recorded setup) {msgId : Nat}
    (saved : msgId ∈ state.storedIds) : state.Persisted setup msgId := by
  obtain ⟨batch, inside, member⟩ := List.mem_flatMap.mp saved
  have reads : batch.Reads setup state.entries := by
    rcases recorded.regular with unstarted | sound
    · rw [unstarted.stored] at inside
      cases inside
    · exact sound.consistent.stored batch inside
  exact ⟨batch, inside, reads.exists_frame member⟩

theorem State.Recorded.persisted_iff (recorded : state.Recorded setup) {msgId : Nat} :
    state.Persisted setup msgId ↔ msgId ∈ state.storedIds := by
  constructor
  · rintro ⟨batch, inside, frame, _, member⟩
    exact List.mem_flatMap.mpr ⟨batch, inside, (List.of_mem_zip member).1⟩
  · exact recorded.persisted_of_stored

/-- In every state of every run, an acknowledged entry was persisted or has no frame that could
be; and no entry is handed to the repository twice. -/
theorem acked_persisted_or_rejected [DecidableEq B] (setup : Setup B F)
    (empty : setup.modelValidateJson "" = none) {group : Option Nat}
    (fresh : group = none ∨ group = some 0) {events : List (Event B F)} {final : State B F}
    (ran : run setup.step (.init group) events = some final) :
    (∀ msgId ∈ final.acked, final.Persisted setup msgId ∨
      ∃ fields, final.entries[msgId]? = some fields ∧ setup.Rejects fields) ∧
    final.HandedOnce setup := by
  have recorded := run_recorded fresh ran
  refine ⟨?_, recorded.audited.reads, recorded.audited.once⟩
  intro msgId acked
  rcases recorded.audited.acked msgId acked with saved | ⟨fields, found, frameless⟩
  · exact Or.inl (recorded.persisted_of_stored saved)
  · exact Or.inr ⟨fields, found, rejects_of_frameless empty frameless⟩

/-- Frames that are their own text; no frame has the empty text. -/
def wordSetup : Setup Unit String := ⟨id, fun text => if text = "" then none else some text,
  fun _ => 50⟩

/-- A frame and an entry without one are read together; then the worker is cancelled while it
waits. -/
def wordEvents : List (Event Unit String) :=
  [.start (), .createGroup () .ok, .resume (), .publish () ["frame"], .foreign ⟨none, none⟩,
    .counted () 1, .read () .ok, .handle (), .handle (), .xack () .ok, .handle (),
    .store () true, .xack () .ok, .cancel ()]

def afterWords : Option (State Unit String) := run wordSetup.step (.init none) wordEvents

theorem afterWords_isSome : afterWords.isSome := by
  decide +kernel

theorem acked_persisted_or_rejected_words :
    (∀ msgId ∈ (afterWords.get afterWords_isSome).acked,
      (afterWords.get afterWords_isSome).Persisted wordSetup msgId ∨
        ∃ fields, (afterWords.get afterWords_isSome).entries[msgId]? = some fields ∧
          wordSetup.Rejects fields) ∧
    (afterWords.get afterWords_isSome).HandedOnce wordSetup :=
  acked_persisted_or_rejected wordSetup (by decide) (Or.inl rfl)
    (Option.some_get afterWords_isSome).symm

end RagDrift.Ingestion
