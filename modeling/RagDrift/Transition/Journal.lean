import RagDrift.Transition.Runs

set_option autoImplicit false

/- What the steps of a run send out, in the order of the run. -/
namespace RagDrift.Transition

variable {State Event Out : Type} (step : State → Event → Option State)
  (emit : State → Event → List Out)

def journal : State → List Event → List Out
  | _, [] => []
  | state, event :: rest => emit state event ++
      match step state event with
      | some next => journal next rest
      | none => []

variable {step emit}

theorem journal_cons {state next : State} {event : Event} (stepped : step state event = some next)
    (rest : List Event) :
    journal step emit state (event :: rest) = emit state event ++ journal step emit next rest := by
  rw [journal, stepped]

/-- What each step keeps of a state and of what was sent so far holds after every run. -/
theorem run_journal {invariant : State → List Out → Prop} {condition : Event → Prop}
    (keeps : ∀ state event next sent, invariant state sent → condition event →
      step state event = some next → invariant next (sent ++ emit state event))
    {start final : State} {events : List Event} {sent : List Out} (initially : invariant start sent)
    (all : ∀ event ∈ events, condition event) (ran : run step start events = some final) :
    invariant final (sent ++ journal step emit start events) := by
  induction events generalizing start sent with
  | nil =>
      cases ran
      rw [journal, List.append_nil]
      exact initially
  | cons event rest ih =>
      obtain ⟨next, stepped, later⟩ := run_cons.mp ran
      rw [journal_cons stepped, ← List.append_assoc]
      exact ih (keeps start event next sent initially (all event List.mem_cons_self) stepped)
        (fun other inside => all other (List.mem_cons_of_mem _ inside)) later

/-- Every entry of a journal has its reason in the entries in front of it. -/
def Justified (why : List Out → Out → Prop) (sent : List Out) : Prop :=
  ∀ front entry back, sent = front ++ entry :: back → why front entry

theorem justified_nil {why : List Out → Out → Prop} : Justified why [] := by
  intro front entry back split
  exact absurd split.symm (by simp)

theorem Justified.concat {why : List Out → Out → Prop} {sent : List Out} {entry : Out}
    (justified : Justified why sent) (reason : why sent entry) :
    Justified why (sent ++ [entry]) := by
  intro front other back split
  rcases List.eq_nil_or_concat back with rfl | ⟨back, last, rfl⟩
  · obtain ⟨rfl, same⟩ := List.append_inj' split rfl
    exact List.singleton_inj.mp same ▸ reason
  · rw [List.concat_eq_append, ← List.cons_append, ← List.append_assoc] at split
    exact justified front other back (List.append_inj' split rfl).1

variable {Sender : Type} [DecidableEq Sender]

/-- The part of a journal that one sender is the author of. -/
def sentBy (sender : Sender) (entries : List (Sender × Out)) : List Out :=
  (entries.filter fun entry => entry.1 = sender).map Prod.snd

@[simp] theorem sentBy_append (sender : Sender)
    (front back : List (Sender × Out)) :
    sentBy sender (front ++ back) = sentBy sender front ++ sentBy sender back := by
  rw [sentBy, List.filter_append, List.map_append]
  rfl

theorem sentBy_of_all {sender : Sender} {entries : List (Sender × Out)}
    (all : ∀ entry ∈ entries, entry.1 = sender) : sentBy sender entries = entries.map Prod.snd := by
  rw [sentBy, List.filter_eq_self.mpr fun entry inside => by simpa using all entry inside]

theorem sentBy_of_none {sender : Sender} {entries : List (Sender × Out)}
    (none : ∀ entry ∈ entries, entry.1 ≠ sender) : sentBy sender entries = [] := by
  rw [sentBy, List.filter_eq_nil_iff.mpr fun entry inside => by simpa using none entry inside,
    List.map_nil]

end RagDrift.Transition
