import RagDrift.Json.Reading
import RagDrift.Python.Number

set_option autoImplicit false

/- Models of fields with types and of extra fields: the dictionary such a model is written as, and
how a field is validated. -/
namespace RagDrift

variable {A : Type}

def Number.isFinite : Number → Bool
  | .finite _ => true
  | _ => false

namespace Json

mutual
/-- Floats that are not finite are written as `null`. -/
def nulled : Json Number → Json Number
  | .num number => if number.isFinite then .num number else .null
  | .arr items => .arr (nulledItems items)
  | .obj members => .obj (nulledMembers members)
  | value => value

def nulledItems : List (Json Number) → List (Json Number)
  | [] => []
  | item :: rest => nulled item :: nulledItems rest

def nulledMembers : List (String × Json Number) → List (String × Json Number)
  | [] => []
  | (key, value) :: rest => (key, nulled value) :: nulledMembers rest
end

theorem nulledItems_eq_map (items : List (Json Number)) :
    nulledItems items = items.map nulled := by
  induction items with
  | nil => rfl
  | cons item rest ih => rw [nulledItems, ih, List.map_cons]

theorem nulledMembers_eq_map (members : List (String × Json Number)) :
    nulledMembers members = members.map fun member => (member.1, nulled member.2) := by
  induction members with
  | nil => rfl
  | cons member rest ih => rw [nulledMembers, ih, List.map_cons]

theorem nulledMembers_keys (members : List (String × Json Number)) :
    (nulledMembers members).map Prod.fst = members.map Prod.fst := by
  rw [nulledMembers_eq_map, List.map_map]
  rfl

mutual
theorem nulled_nulled (value : Json Number) : value.nulled.nulled = value.nulled := by
  match value with
  | .null | .bool _ | .str _ => rfl
  | .num number => cases number <;> rfl
  | .arr items => rw [nulled, nulled, nulledItems_nulled items]
  | .obj members => rw [nulled, nulled, nulledMembers_nulled members]

theorem nulledItems_nulled (items : List (Json Number)) :
    nulledItems (nulledItems items) = nulledItems items := by
  match items with
  | [] => rfl
  | item :: rest => rw [nulledItems, nulledItems, nulled_nulled item, nulledItems_nulled rest]

theorem nulledMembers_nulled (members : List (String × Json Number)) :
    nulledMembers (nulledMembers members) = nulledMembers members := by
  match members with
  | [] => rfl
  | (key, value) :: rest =>
      rw [nulledMembers, nulledMembers, nulled_nulled value, nulledMembers_nulled rest]
end

mutual
theorem nulled_distinct (value : Json Number) (distinct : value.KeysDistinct) :
    value.nulled.KeysDistinct := by
  match value, distinct with
  | .null, _ | .bool _, _ | .str _, _ => trivial
  | .num number, _ => cases number <;> trivial
  | .arr items, distinct => exact nulledItems_distinct items distinct
  | .obj members, distinct =>
      refine ⟨?_, nulledMembers_distinct members distinct.2⟩
      rw [nulledMembers_keys]
      exact distinct.1

theorem nulledItems_distinct (items : List (Json Number)) (distinct : KeysDistinctItems items) :
    KeysDistinctItems (nulledItems items) := by
  match items, distinct with
  | [], _ => trivial
  | item :: rest, distinct =>
      exact ⟨nulled_distinct item distinct.1, nulledItems_distinct rest distinct.2⟩

theorem nulledMembers_distinct (members : List (String × Json Number))
    (distinct : KeysDistinctMembers members) : KeysDistinctMembers (nulledMembers members) := by
  match members, distinct with
  | [], _ => trivial
  | (_, value) :: rest, distinct =>
      exact ⟨nulled_distinct value distinct.1, nulledMembers_distinct rest distinct.2⟩
end

end Json

def PyVal.nulled (value : PyVal Number) : PyVal Number :=
  ⟨value.json.nulled, Json.nulled_distinct value.json value.distinct⟩

def Dict.nulled (d : Dict Number) : Dict Number :=
  ⟨Json.nulledMembers d.members, Json.nulled_distinct (.obj d.members) d.distinct⟩

namespace PyVal

@[simp] theorem nulled_none : (none : PyVal Number).nulled = none := rfl

@[simp] theorem nulled_str (text : String) : (str text : PyVal Number).nulled = str text := rfl

@[simp] theorem nulled_ofDict (d : Dict Number) : (ofDict d).nulled = ofDict d.nulled := rfl

theorem nulled_num (number : Number) :
    (num number).nulled = if number.isFinite then num number else none := by
  cases number <;> rfl

@[simp] theorem nulled_arr (items : List (PyVal Number)) :
    (arr items).nulled = arr (items.map nulled) := by
  apply PyVal.ext
  show Json.arr (Json.nulledItems (items.map json)) = Json.arr ((items.map nulled).map json)
  rw [Json.nulledItems_eq_map, List.map_map, List.map_map]
  rfl

theorem nulled_nulled (value : PyVal Number) : value.nulled.nulled = value.nulled :=
  PyVal.ext (Json.nulled_nulled value.json)

end PyVal

theorem Dict.nulled_keys (d : Dict Number) : d.nulled.keys = d.keys :=
  Json.nulledMembers_keys d.members

namespace Schemas

/-- `model_extra` of a model with these fields. -/
structure Extra (fields : List String) where
  dict : Dict Number
  apart : ∀ key ∈ dict.keys, key ∉ fields
  deriving DecidableEq

@[ext] theorem Extra.ext {fields : List String} {left right : Extra fields}
    (same : left.dict = right.dict) : left = right := by
  cases left
  cases right
  cases same
  rfl

def Extra.none (fields : List String) : Extra fields := ⟨.empty, by simp [Dict.keys, Dict.empty]⟩

def Extra.nulled {fields : List String} (extra : Extra fields) : Extra fields :=
  ⟨extra.dict.nulled, by rw [Dict.nulled_keys]; exact extra.apart⟩

/-- Everything in a dictionary that is no field. -/
def extraOf (fields : List String) (data : Dict Number) : Extra fields where
  dict := ⟨data.members.filter fun member => member.1 ∉ fields, by
    have distinct := (Json.keysDistinct_obj_iff data.members).mp data.distinct
    rw [Json.keysDistinct_obj_iff]
    refine ⟨distinct.1.sublist (List.filter_sublist.map Prod.fst), ?_⟩
    intro member inside
    exact distinct.2 member (List.mem_of_mem_filter inside)⟩
  apart := by
    intro key inside
    obtain ⟨member, kept, rfl⟩ := List.mem_map.mp inside
    simpa using (List.mem_filter.mp kept).2

/-- The fields of a model in their order, and the extra fields behind them. -/
structure Filled (fields : List String) where
  known : List (String × PyVal Number)
  names : known.map Prod.fst = fields
  extra : Extra fields

section Filled

variable {fields : List String} (unique : fields.Nodup) (filled : Filled fields)

def Filled.members : List (String × Json Number) :=
  filled.known.map (fun field => (field.1, field.2.json)) ++ filled.extra.dict.members

theorem Filled.members_keys : filled.members.map Prod.fst = fields ++ filled.extra.dict.keys := by
  rw [members, List.map_append, List.map_map]
  exact congrArg (· ++ filled.extra.dict.keys) filled.names

include unique in
theorem Filled.members_distinct : (Json.obj filled.members).KeysDistinct := by
  have extra := (Json.keysDistinct_obj_iff _).mp filled.extra.dict.distinct
  rw [Json.keysDistinct_obj_iff, filled.members_keys]
  constructor
  · refine List.nodup_append.mpr ⟨unique, extra.1, ?_⟩
    intro name known other inside same
    rw [same] at known
    exact filled.extra.apart other inside known
  · intro member inside
    rcases List.mem_append.mp inside with known | inExtra
    · obtain ⟨field, _, rfl⟩ := List.mem_map.mp known
      exact field.2.distinct
    · exact extra.2 member inExtra

def Filled.dict : Dict Number := ⟨filled.members, filled.members_distinct unique⟩

/-- A field is found where it was written. -/
theorem Filled.get?_dict {key : String} (known : key ∈ fields) :
    (filled.dict unique).get? key = filled.known.lookup key := by
  apply Option.map_injective (f := PyVal.json) (fun left right same => PyVal.ext same)
  rw [Dict.get?_map_json]
  show (filled.known.map (fun field => (field.1, field.2.json)) ++
    filled.extra.dict.members).lookup key = _
  rw [← filled.names] at known
  generalize filled.known = entries at known ⊢
  induction entries with
  | nil => cases known
  | cons field rest ih =>
      obtain ⟨name, value⟩ := field
      rw [List.map_cons, List.cons_append, Json.lookup_cons, Json.lookup_cons]
      by_cases here : key = name
      · rw [if_pos here, if_pos here]
        rfl
      · rw [if_neg here, if_neg here]
        exact ih ((List.mem_cons.mp known).resolve_left here)

theorem Filled.extraOf_dict : extraOf fields (filled.dict unique) = filled.extra := by
  apply Extra.ext
  apply Dict.ext
  show (filled.known.map (fun field => (field.1, field.2.json)) ++
    filled.extra.dict.members).filter (fun member => member.1 ∉ fields) = _
  have none : (filled.known.map fun field => (field.1, field.2.json)).filter
      (fun member => member.1 ∉ fields) = [] := by
    rw [List.filter_eq_nil_iff]
    intro member inside
    obtain ⟨field, known, rfl⟩ := List.mem_map.mp inside
    have named : field.1 ∈ fields := by
      rw [← filled.names]
      exact List.mem_map_of_mem known
    simpa using named
  have all : filled.extra.dict.members.filter (fun member => member.1 ∉ fields) =
      filled.extra.dict.members := by
    rw [List.filter_eq_self]
    intro member inside
    simpa using filled.extra.apart member.1 (List.mem_map_of_mem inside)
  rw [List.filter_append, none, all, List.nil_append]

def Filled.nulled : Filled fields where
  known := filled.known.map fun field => (field.1, field.2.nulled)
  names := by
    rw [List.map_map]
    exact filled.names
  extra := filled.extra.nulled

theorem Filled.dict_nulled : (filled.dict unique).nulled = filled.nulled.dict unique := by
  apply Dict.ext
  show Json.nulledMembers (filled.known.map (fun field => (field.1, field.2.json)) ++
    filled.extra.dict.members) = (filled.known.map fun field => (field.1, field.2.nulled)).map
      (fun field => (field.1, field.2.json)) ++ Json.nulledMembers filled.extra.dict.members
  rw [Json.nulledMembers_eq_map, Json.nulledMembers_eq_map, List.map_append, List.map_map,
    List.map_map]
  rfl

end Filled

def required (data : Dict Number) (key : String) (read : PyVal Number → Option A) : Option A :=
  (data.get? key).bind read

def withDefault (data : Dict Number) (key : String) (default : A)
    (read : PyVal Number → Option A) : Option A :=
  match data.get? key with
  | none => some default
  | some value => read value

/-- `T | None`. -/
def nullable (read : PyVal Number → Option A) (value : PyVal Number) : Option (Option A) :=
  if value = PyVal.none then some none else (read value).map some

/-- `list[T]`. -/
def listOf (read : PyVal Number → Option A) (value : PyVal Number) : Option (List A) :=
  value.asItems?.bind fun items => items.mapM read

/-- How an optional field is written. -/
def orNone (write : A → PyVal Number) : Option A → PyVal Number
  | none => PyVal.none
  | some value => write value

section Written

variable {fields : List String} (unique : fields.Nodup) (filled : Filled fields) {key : String}
  {value : PyVal Number} (known : key ∈ fields) (found : filled.known.lookup key = some value)
include known found

theorem required_dict (read : PyVal Number → Option A) :
    required (filled.dict unique) key read = read value := by
  rw [required, filled.get?_dict unique known, found, Option.bind_some]

theorem withDefault_dict (default : A) (read : PyVal Number → Option A) :
    withDefault (filled.dict unique) key default read = read value := by
  rw [withDefault, filled.get?_dict unique known, found]

end Written

section Survival

variable {B : Type} {read : PyVal Number → Option A} {write : B → PyVal Number} {fine : B → Prop}
  {change : B → A}

/-- Once its numbers are nulled, what is written for a value is accepted where the value is fine,
and read as the changed value. -/
def Survives (read : PyVal Number → Option A) (write : B → PyVal Number) (fine : B → Prop)
    (change : B → A) : Prop :=
  ∀ value result, read (write value).nulled = some result ↔ fine value ∧ change value = result

theorem Survives.listOf (survives : Survives read write fine change) :
    Survives (listOf read) (fun values => .arr (values.map write))
      (fun values => ∀ value ∈ values, fine value) (List.map change) := by
  intro values results
  rw [PyVal.nulled_arr, Schemas.listOf, PyVal.asItems?_arr, Option.bind_some]
  beta_reduce
  induction values generalizing results with
  | nil => simp
  | cons value rest ih =>
      rw [List.map_cons, List.map_cons, List.mapM_cons, List.forall_mem_cons]
      constructor
      · intro ran
        obtain ⟨first, here, ran⟩ := Option.bind_eq_some_iff.mp ran
        obtain ⟨others, later, same⟩ := Option.bind_eq_some_iff.mp ran
        obtain ⟨fineHere, rfl⟩ := (survives value first).mp here
        obtain ⟨fineLater, rfl⟩ := (ih others).mp later
        exact ⟨⟨fineHere, fineLater⟩, Option.some.inj same⟩
      · rintro ⟨⟨fineHere, fineLater⟩, rfl⟩
        refine Option.bind_eq_some_iff.mpr ⟨_, (survives value _).mpr ⟨fineHere, rfl⟩, ?_⟩
        exact Option.bind_eq_some_iff.mpr ⟨_, (ih _).mpr ⟨fineLater, rfl⟩, rfl⟩

/-- An optional field, where nothing else is written as `None`. -/
theorem Survives.nullable (survives : Survives read write fine change)
    (visible : ∀ value, (write value).nulled ≠ PyVal.none) :
    Survives (nullable read) (orNone write) (fun field => ∀ value ∈ field, fine value)
      (Option.map change) := by
  intro field result
  cases field with
  | none =>
      rw [orNone, Schemas.nullable, if_pos (PyVal.nulled_none)]
      simp
  | some value =>
      rw [orNone, Schemas.nullable, if_neg (visible value), Option.map_eq_some_iff]
      constructor
      · rintro ⟨inner, accepted, rfl⟩
        obtain ⟨fineValue, rfl⟩ := (survives value inner).mp accepted
        exact ⟨by simpa using fineValue, rfl⟩
      · rintro ⟨fineValue, rfl⟩
        exact ⟨_, (survives value _).mpr ⟨fineValue value rfl, rfl⟩, rfl⟩

section Fields

variable {fields : List String}

theorem Filled.lookup_nulled (filled : Filled fields) {key : String} {value : PyVal Number}
    (found : filled.known.lookup key = some value) :
    filled.nulled.known.lookup key = some value.nulled := by
  show (filled.known.map fun field => (field.1, field.2.nulled)).lookup key = _
  generalize filled.known = entries at found ⊢
  induction entries with
  | nil => cases found
  | cons field rest ih =>
      obtain ⟨name, other⟩ := field
      rw [Json.lookup_cons] at found
      rw [List.map_cons, Json.lookup_cons]
      by_cases here : key = name
      · rw [if_pos here] at found ⊢
        rw [Option.some.inj found]
      · rw [if_neg here] at found ⊢
        exact ih found

variable (survives : Survives read write fine change) (unique : fields.Nodup)
  (filled : Filled fields) (key : String) {value : B} (known : key ∈ fields)
  (found : filled.known.lookup key = some (write value))
include survives known found

theorem Survives.required (result : A) :
    required (filled.nulled.dict unique) key read = some result ↔
      fine value ∧ change value = result := by
  rw [required_dict unique filled.nulled known (filled.lookup_nulled found)]
  exact survives value result

theorem Survives.withDefault (default result : A) :
    withDefault (filled.nulled.dict unique) key default read = some result ↔
      fine value ∧ change value = result := by
  rw [withDefault_dict unique filled.nulled known (filled.lookup_nulled found)]
  exact survives value result

end Fields

theorem survives_dict : Survives PyVal.asDict? PyVal.ofDict (fun _ => True) Dict.nulled := by
  intro d result
  rw [PyVal.nulled_ofDict, PyVal.asDict?_ofDict]
  simp

end Survival

end Schemas

end RagDrift
