import RagDrift.Json.Value

set_option autoImplicit false

/- Python objects built from JSON, and their dictionaries. Both types carry the proof
that no key occurs twice, so reading one back never depends on which entry is found. -/
namespace RagDrift

variable {N : Type}

@[ext] structure PyVal (N : Type) where
  json : Json N
  distinct : json.KeysDistinct

@[ext] structure Dict (N : Type) where
  members : List (String × Json N)
  distinct : (Json.obj members).KeysDistinct

instance [DecidableEq N] : DecidableEq (PyVal N) :=
  fun left right => decidable_of_iff (left.json = right.json) PyVal.ext_iff.symm

instance [DecidableEq N] : DecidableEq (Dict N) :=
  fun left right => decidable_of_iff (left.members = right.members) Dict.ext_iff.symm

namespace PyVal

/-- Python's `None`. -/
def none : PyVal N := ⟨.null, trivial⟩

def bool (flag : Bool) : PyVal N := ⟨.bool flag, trivial⟩

def num (number : N) : PyVal N := ⟨.num number, trivial⟩

def str (text : String) : PyVal N := ⟨.str text, trivial⟩

def ofDict (d : Dict N) : PyVal N := ⟨.obj d.members, d.distinct⟩

/-- The dictionary in a value that `isinstance(value, dict)` accepts. -/
def asDict? : PyVal N → Option (Dict N)
  | ⟨.obj members, distinct⟩ => some ⟨members, distinct⟩
  | _ => Option.none

theorem asDict?_ofDict (d : Dict N) : (ofDict d).asDict? = some d := rfl

theorem ofDict_ne_none (d : Dict N) : ofDict d ≠ none := by
  intro same
  cases same

theorem ofDict_of_asDict? {value : PyVal N} {d : Dict N} (found : value.asDict? = some d) :
    value = ofDict d := by
  obtain ⟨json, distinct⟩ := value
  cases json with
  | obj members =>
      rw [asDict?, Option.some.injEq] at found
      subst found
      rfl
  | _ => cases found

section PythonEquality

variable [Zero N] [One N]

/-- Python's `==`. -/
def Same (left right : PyVal N) : Prop := left.json.canon = right.json.canon

instance [DecidableEq N] (left right : PyVal N) : Decidable (Same left right) :=
  inferInstanceAs (Decidable (left.json.canon = right.json.canon))

theorem Same.refl (value : PyVal N) : Same value value := Eq.refl _

theorem Same.symm {left right : PyVal N} (same : Same left right) : Same right left :=
  Eq.symm same

theorem Same.trans {first second third : PyVal N} (front : Same first second)
    (back : Same second third) : Same first third :=
  Eq.trans front back

/-- Nothing but `None` equals `None`. -/
theorem same_none_iff (value : PyVal N) : Same value none ↔ value = none := by
  constructor
  · intro same
    apply PyVal.ext
    obtain ⟨json, distinct⟩ := value
    cases json <;> simp_all [Same, none, Json.canon]
  · rintro rfl
    exact Same.refl _

theorem same_str_iff (left right : String) :
    Same (str left : PyVal N) (str right) ↔ left = right := by
  simp [Same, str, Json.canon]

end PythonEquality

end PyVal

namespace Dict

theorem value_distinct (d : Dict N) {key : String} {value : Json N}
    (found : d.members.lookup key = some value) : value.KeysDistinct :=
  ((Json.keysDistinct_obj_iff d.members).mp d.distinct).2 _ (Json.mem_of_lookup found)

def empty : Dict N := ⟨[], by simp [Json.KeysDistinct, Json.KeysDistinctMembers]⟩

/-- The value at a key, if the key is in the dictionary. -/
def get? (d : Dict N) (key : String) : Option (PyVal N) :=
  match found : d.members.lookup key with
  | none => none
  | some value => some ⟨value, d.value_distinct found⟩

/-- `d.get(key)`, which cannot tell a missing key from one that holds `None`. -/
def get (d : Dict N) (key : String) : PyVal N := (d.get? key).getD PyVal.none

def set (d : Dict N) (key : String) (value : PyVal N) : Dict N :=
  ⟨Json.setMember key value.json d.members,
    Json.keysDistinct_setMember d.distinct value.distinct⟩

def erase (d : Dict N) (key : String) : Dict N :=
  ⟨Json.eraseMember key d.members, Json.keysDistinct_eraseMember d.distinct⟩

def keys (d : Dict N) : List String := d.members.map Prod.fst

/-- `{**d, **entries}` for entries written out in the source. -/
def setAll (d : Dict N) (entries : List (String × PyVal N)) : Dict N :=
  entries.foldl (fun acc entry => acc.set entry.1 entry.2) d

theorem get?_map_json (d : Dict N) (key : String) :
    (d.get? key).map PyVal.json = d.members.lookup key := by
  unfold get?
  split
  · rename_i found
    rw [found]
    rfl
  · rename_i value found
    exact found.symm

@[simp] theorem get?_empty (key : String) : (empty : Dict N).get? key = none := rfl

theorem get?_set (d : Dict N) (key : String) (value : PyVal N) (name : String) :
    (d.set key value).get? name = if name = key then some value else d.get? name := by
  apply Option.map_injective (f := PyVal.json) (fun a b equal => PyVal.ext equal)
  rw [get?_map_json, set, Json.lookup_setMember]
  split
  · rfl
  · rw [get?_map_json]

@[simp] theorem get?_set_self (d : Dict N) (key : String) (value : PyVal N) :
    (d.set key value).get? key = some value := by
  rw [get?_set, if_pos rfl]

theorem get?_set_ne (d : Dict N) {key name : String} (value : PyVal N) (differs : name ≠ key) :
    (d.set key value).get? name = d.get? name := by
  rw [get?_set, if_neg differs]

theorem get?_setAll_of_not_mem {entries : List (String × PyVal N)} {key : String}
    (absent : key ∉ entries.map Prod.fst) (d : Dict N) :
    (d.setAll entries).get? key = d.get? key := by
  induction entries generalizing d with
  | nil => rfl
  | cons entry rest ih =>
      rw [List.map_cons, List.mem_cons, not_or] at absent
      show ((d.set entry.1 entry.2).setAll rest).get? key = d.get? key
      rw [ih absent.2, get?_set_ne d entry.2 absent.1]

theorem get?_setAll {entries : List (String × PyVal N)}
    (distinct : (entries.map Prod.fst).Nodup) {key : String} {value : PyVal N}
    (listed : (key, value) ∈ entries) (d : Dict N) :
    (d.setAll entries).get? key = some value := by
  induction entries generalizing d with
  | nil => cases listed
  | cons entry rest ih =>
      rw [List.map_cons, List.nodup_cons] at distinct
      show ((d.set entry.1 entry.2).setAll rest).get? key = some value
      cases List.mem_cons.mp listed with
      | inl here =>
          subst here
          rw [get?_setAll_of_not_mem distinct.1, get?_set_self]
      | inr later => exact ih distinct.2 later _

theorem get?_erase (d : Dict N) (key name : String) :
    (d.erase key).get? name = if name = key then none else d.get? name := by
  apply Option.map_injective (f := PyVal.json) (fun a b equal => PyVal.ext equal)
  rw [get?_map_json, erase, Json.lookup_eraseMember]
  split
  · rfl
  · rw [get?_map_json]

theorem mem_keys_iff (d : Dict N) (key : String) : key ∈ d.keys ↔ (d.get? key).isSome := by
  rw [keys, ← Json.lookup_isSome_iff_mem, ← get?_map_json, Option.isSome_map]

theorem get?_eq_none_iff (d : Dict N) (key : String) : d.get? key = none ↔ key ∉ d.keys := by
  rw [mem_keys_iff, Option.not_isSome_iff_eq_none]

theorem get_of_get? {d : Dict N} {key : String} {value : PyVal N}
    (found : d.get? key = some value) : d.get key = value := by
  rw [get, found, Option.getD_some]

theorem get_of_not_mem {d : Dict N} {key : String} (absent : key ∉ d.keys) :
    d.get key = PyVal.none := by
  rw [get, (get?_eq_none_iff d key).mpr absent, Option.getD_none]

theorem get?_of_mem {d : Dict N} {key : String} (inside : key ∈ d.keys) :
    d.get? key = some (d.get key) := by
  obtain ⟨value, found⟩ := Option.isSome_iff_exists.mp ((mem_keys_iff d key).mp inside)
  rw [found, get_of_get? found]

theorem mem_keys_of_asDict? {d : Dict N} {key : String} {value : Dict N}
    (found : (d.get key).asDict? = some value) : key ∈ d.keys := by
  by_contra absent
  rw [get_of_not_mem absent] at found
  cases found

theorem get_set (d : Dict N) (key : String) (value : PyVal N) (name : String) :
    (d.set key value).get name = if name = key then value else d.get name := by
  rw [get, get, get?_set]
  split <;> rfl

theorem get_erase (d : Dict N) (key name : String) :
    (d.erase key).get name = if name = key then PyVal.none else d.get name := by
  rw [get, get, get?_erase]
  split <;> rfl

section PythonEquality

variable [Zero N] [One N]

/-- Python's `==` on dictionaries, which is blind to the order of the keys. -/
def Same (left right : Dict N) : Prop := (PyVal.ofDict left).Same (PyVal.ofDict right)

instance [DecidableEq N] (left right : Dict N) : Decidable (Same left right) :=
  inferInstanceAs (Decidable ((PyVal.ofDict left).Same (PyVal.ofDict right)))

/-- Equal dictionaries have the same keys, with equal values. -/
theorem same_iff (left right : Dict N) :
    left.Same right ↔ ∀ key, (left.get? key).map (fun value => value.json.canon) =
      (right.get? key).map (fun value => value.json.canon) := by
  rw [Same, PyVal.Same, PyVal.ofDict, PyVal.ofDict, Json.canon_obj_eq_iff]
  simp only [← get?_map_json, Option.map_map, Function.comp_def]

theorem same_iff_keys (left right : Dict N) :
    left.Same right ↔
      (∀ key, key ∈ left.keys ↔ key ∈ right.keys) ∧
      ∀ key, (left.get key).Same (right.get key) := by
  rw [same_iff]
  constructor
  · intro same
    refine ⟨?_, ?_⟩
    · intro key
      have somes := congrArg Option.isSome (same key)
      rw [Option.isSome_map, Option.isSome_map] at somes
      rw [mem_keys_iff, mem_keys_iff, somes]
    · intro key
      have here := same key
      rw [get, get]
      cases leftAt : left.get? key <;> cases rightAt : right.get? key <;>
        simp only [leftAt, rightAt, Option.map_none, Option.map_some, reduceCtorEq,
          Option.some.injEq] at here
      · exact PyVal.Same.refl _
      · exact here
  · rintro ⟨keysSame, valuesSame⟩ key
    have member := keysSame key
    have value := valuesSame key
    rw [mem_keys_iff, mem_keys_iff] at member
    rw [get, get] at value
    cases leftAt : left.get? key <;> cases rightAt : right.get? key <;>
      simp only [leftAt, rightAt, Option.isSome_none, Option.isSome_some,
        Bool.false_eq_true, iff_true, iff_false, not_true] at member
    · rfl
    · rw [leftAt, rightAt] at value
      exact congrArg some value

theorem same_empty_iff (d : Dict N) : empty.Same d ↔ d = empty := by
  constructor
  · intro same
    have none : d.keys = [] := by
      apply List.eq_nil_iff_forall_not_mem.mpr
      intro key inside
      cases (((same_iff_keys _ _).mp same).1 key).mpr inside
    exact Dict.ext (List.map_eq_nil_iff.mp none)
  · rintro rfl
    exact PyVal.Same.refl _

theorem Same.refl (d : Dict N) : d.Same d := PyVal.Same.refl _

theorem Same.symm {left right : Dict N} (same : left.Same right) : right.Same left :=
  PyVal.Same.symm same

theorem Same.trans {first second third : Dict N} (front : first.Same second)
    (back : second.Same third) : first.Same third :=
  PyVal.Same.trans front back

end PythonEquality

end Dict

end RagDrift
