import Mathlib.Data.List.Induction

set_option autoImplicit false

/- A store of entries under keys that are put and that vanish: what it holds was put last. -/
namespace RagDrift.Collections

variable {K V : Type} [DecidableEq K]

inductive Change (K V : Type) where
  | put (key : K) (value : V)
  | drop (key : K)

def Change.apply (store : K → Option V) : Change K V → K → Option V
  | .put key value => fun other => if other = key then some value else store other
  | .drop key => fun other => if other = key then none else store other

/-- The store that starts empty. -/
def stored (changes : List (Change K V)) : K → Option V :=
  changes.foldl Change.apply fun _ => none

def Change.putAt (key : K) : Change K V → Option V
  | .put other value => if other = key then some value else none
  | .drop _ => none

/-- The value put last under a key. -/
def latest (changes : List (Change K V)) (key : K) : Option V :=
  changes.reverse.findSome? (Change.putAt key)

theorem stored_concat (changes : List (Change K V)) (change : Change K V) :
    stored (changes ++ [change]) = change.apply (stored changes) := by
  rw [stored, List.foldl_append, List.foldl_cons, List.foldl_nil, stored]

theorem latest_concat (changes : List (Change K V)) (change : Change K V) (key : K) :
    latest (changes ++ [change]) key = (change.putAt key).or (latest changes key) := by
  rw [latest, List.reverse_append, List.reverse_singleton, List.singleton_append,
    List.findSome?_cons]
  cases change.putAt key <;> rfl

/-- The changes of a log of events, with one more event. -/
theorem latest_filterMap_concat {E : Type} (change? : E → Option (Change K V)) (events : List E)
    (event : E) (key : K) :
    latest ((events ++ [event]).filterMap change?) key =
      ((change? event).bind (Change.putAt key)).or (latest (events.filterMap change?) key) := by
  rw [List.filterMap_append]
  cases changed : change? event with
  | none =>
      rw [List.filterMap_cons_none changed, List.filterMap_nil, List.append_nil, Option.bind_none,
        Option.none_or]
  | some change =>
      rw [List.filterMap_cons_some changed, List.filterMap_nil, latest_concat, Option.bind_some]

/-- Under a key there is nothing or what was put there last. -/
theorem stored_eq (changes : List (Change K V)) (key : K) :
    stored changes key = none ∨ stored changes key = latest changes key := by
  induction changes using List.reverseRecOn with
  | nil => exact .inl rfl
  | append_singleton before change ih =>
      rw [stored_concat, latest_concat]
      cases change with
      | put other value =>
          by_cases here : key = other
          · simp [Change.apply, Change.putAt, here]
          · simpa [Change.apply, Change.putAt, here, Ne.symm here] using ih
      | drop other =>
          by_cases here : key = other
          · simp [Change.apply, here]
          · simpa [Change.apply, Change.putAt, here] using ih

end RagDrift.Collections
