import Mathlib.Data.List.Nodup
import Mathlib.Logic.Function.Basic

set_option autoImplicit false

/- Tasks that are each at one place of their program, and places that belong to one task at a
time. -/
namespace RagDrift.Transition

variable {Task Place : Type} [DecidableEq Task]

/-- What holds of all places holds of them after a task has moved to such a place. -/
theorem forall_moved {good : Place → Prop} {pc : Task → Place} (all : ∀ task, good (pc task))
    (task : Task) {place : Place} (here : good place) :
    ∀ other, good (Function.update pc task place other) := by
  rw [Function.forall_update_iff pc fun _ place => good place]
  exact ⟨here, fun other _ => all other⟩

/-- The tasks at the places of a region are its owner, if it has one. -/
def Occupied (region : Place → Prop) (pc : Task → Place) (owner : Option Task) : Prop :=
  ∀ task, region (pc task) ↔ owner = some task

namespace Occupied

variable {region : Place → Prop} {pc : Task → Place} {owner : Option Task} {task : Task}
  {place : Place}

omit [DecidableEq Task] in
theorem unique (occupied : Occupied region pc owner) {first second : Task}
    (one : region (pc first)) (other : region (pc second)) : first = second := by
  have owns := (occupied first).mp one
  rw [(occupied second).mp other, Option.some.injEq] at owns
  exact owns.symm

theorem enter (free : Occupied region pc none) (task : Task) (inside : region place) :
    Occupied region (Function.update pc task place) (some task) := by
  intro other
  by_cases same : other = task
  · subst same
    rw [Function.update_self]
    exact iff_of_true inside rfl
  · rw [Function.update_of_ne same, free other]
    exact iff_of_false nofun fun owns => same (Option.some.inj owns).symm

theorem leave (occupied : Occupied region pc (some task)) (outside : ¬ region place) :
    Occupied region (Function.update pc task place) none := by
  intro other
  by_cases same : other = task
  · subst same
    rw [Function.update_self]
    exact iff_of_false outside nofun
  · rw [Function.update_of_ne same, occupied other]
    exact iff_of_false (fun owns => same (Option.some.inj owns).symm) nofun

/-- A task that moves outside of a region leaves it as it is. -/
theorem outside (occupied : Occupied region pc owner) (start : ¬ region (pc task))
    (target : ¬ region place) : Occupied region (Function.update pc task place) owner := by
  intro other
  by_cases same : other = task
  · subst same
    rw [Function.update_self, ← occupied other]
    exact iff_of_false target start
  · rw [Function.update_of_ne same, occupied other]

end Occupied

/-- The tasks at the places of a region are those of a list, which holds each of them once. -/
structure Listed (region : Place → Prop) (pc : Task → Place) (tasks : List Task) : Prop where
  once : tasks.Nodup
  mem_iff : ∀ task, task ∈ tasks ↔ region (pc task)

namespace Listed

variable {region : Place → Prop} {pc : Task → Place} {tasks : List Task} {task : Task}
  {place : Place}

theorem join (listed : Listed region pc tasks) (outside : ¬ region (pc task))
    (inside : region place) :
    Listed region (Function.update pc task place) (tasks ++ [task]) := by
  have absent : task ∉ tasks := fun member => outside ((listed.mem_iff task).mp member)
  constructor
  · rw [List.nodup_append_comm, List.singleton_append, List.nodup_cons]
    exact ⟨absent, listed.once⟩
  · intro other
    rw [List.mem_append, List.mem_singleton]
    by_cases same : other = task
    · subst same
      rw [Function.update_self]
      exact iff_of_true (.inr rfl) inside
    · rw [Function.update_of_ne same, ← listed.mem_iff other]
      exact or_iff_left same

theorem leave (listed : Listed region pc tasks) (outside : ¬ region place) :
    Listed region (Function.update pc task place) (tasks.erase task) := by
  refine ⟨listed.once.erase task, ?_⟩
  intro other
  rw [listed.once.mem_erase_iff]
  by_cases same : other = task
  · subst same
    rw [Function.update_self]
    exact iff_of_false (fun member => member.1 rfl) outside
  · rw [Function.update_of_ne same, ← listed.mem_iff other]
    exact and_iff_right same

theorem leave_first {rest : List Task} (listed : Listed region pc (task :: rest))
    (outside : ¬ region place) : Listed region (Function.update pc task place) rest := by
  have left : Listed region (Function.update pc task place) ((task :: rest).erase task) :=
    listed.leave outside
  rwa [List.erase_cons_head] at left

theorem outside (listed : Listed region pc tasks) (start : ¬ region (pc task))
    (target : ¬ region place) : Listed region (Function.update pc task place) tasks := by
  refine ⟨listed.once, ?_⟩
  intro other
  rw [listed.mem_iff other]
  by_cases same : other = task
  · subst same
    rw [Function.update_self]
    exact iff_of_false start target
  · rw [Function.update_of_ne same]

end Listed

end RagDrift.Transition
