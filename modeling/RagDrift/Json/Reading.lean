import RagDrift.Json.Dict

set_option autoImplicit false

/- Reading the fields of a dictionary whose values have the types a class annotates. -/
namespace RagDrift

variable {N A B : Type}

namespace Json

mutual
def decKeysDistinct : (value : Json N) → Decidable value.KeysDistinct
  | .null | .bool _ | .num _ | .str _ => .isTrue trivial
  | .arr items => decKeysDistinctItems items
  | .obj members => @instDecidableAnd _ _ inferInstance (decKeysDistinctMembers members)

def decKeysDistinctItems : (items : List (Json N)) → Decidable (KeysDistinctItems items)
  | [] => .isTrue trivial
  | item :: rest => @instDecidableAnd _ _ (decKeysDistinct item) (decKeysDistinctItems rest)

def decKeysDistinctMembers :
    (members : List (String × Json N)) → Decidable (KeysDistinctMembers members)
  | [] => .isTrue trivial
  | (_, value) :: rest =>
      @instDecidableAnd _ _ (decKeysDistinct value) (decKeysDistinctMembers rest)
end

instance (value : Json N) : Decidable value.KeysDistinct := decKeysDistinct value

def toDict? : Json N → Option (Dict N)
  | .obj members =>
      if distinct : (Json.obj members).KeysDistinct then some ⟨members, distinct⟩ else none
  | _ => none

theorem toDict?_members (d : Dict N) : (Json.obj d.members).toDict? = some d := by
  rw [toDict?, dif_pos d.distinct]

end Json

namespace PyVal

def asText? (value : PyVal N) : Option String :=
  match value.json with
  | .str text => some text
  | _ => Option.none

/-- A number that is no `bool`. -/
def asPlainNumber? (value : PyVal N) : Option N :=
  match value.json with
  | .num number => some number
  | _ => Option.none

def asItems? : PyVal N → Option (List (PyVal N))
  | ⟨.arr items, distinct⟩ =>
      some (items.pmap PyVal.mk ((Json.keysDistinctItems_iff items).mp distinct))
  | _ => Option.none

def arr (items : List (PyVal N)) : PyVal N where
  json := .arr (items.map json)
  distinct := by
    apply (Json.keysDistinctItems_iff _).mpr
    intro item inside
    obtain ⟨value, _, rfl⟩ := List.mem_map.mp inside
    exact value.distinct

@[simp] theorem asText?_str (text : String) : (str text : PyVal N).asText? = some text := rfl

@[simp] theorem asPlainNumber?_num (number : N) : (num number).asPlainNumber? = some number := rfl

@[simp] theorem asItems?_arr (items : List (PyVal N)) : (arr items).asItems? = some items := by
  show some (List.pmap PyVal.mk (items.map json) _) = some items
  congr 1
  induction items with
  | nil => rfl
  | cons item rest ih => exact congrArg (item :: ·) ih

end PyVal

inductive DecodeError where
  /-- `data[key]` of a key that is missing. -/
  | keyError (key : String)
  /-- A value that has not the type the class annotates; Python carries it on unchecked. -/
  | untyped (key : String)
  deriving DecidableEq

namespace Dict

/-- `data[key]`. -/
def required (data : Dict N) (key : String) (view : PyVal N → Option A) : Except DecodeError A :=
  match data.get? key with
  | none => .error (.keyError key)
  | some value =>
      match view value with
      | some field => .ok field
      | none => .error (.untyped key)

/-- `data.get(key, default)`. -/
def optional (data : Dict N) (key : String) (default : A) (view : PyVal N → Option A) :
    Except DecodeError A :=
  match data.get? key with
  | none => .ok default
  | some value =>
      match view value with
      | some field => .ok field
      | none => .error (.untyped key)

end Dict

theorem mapM_undoes {M : Type → Type} [Monad M] [LawfulMonad M] {put : A → B} {take : B → M A}
    (undoes : ∀ item, take (put item) = pure item) (list : List A) :
    (list.map put).mapM take = pure list := by
  induction list with
  | nil => simp
  | cons item rest ih =>
      rw [List.map_cons, List.mapM_cons, undoes, ih]
      simp

end RagDrift
