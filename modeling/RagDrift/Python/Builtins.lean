import RagDrift.Json.Dict
import RagDrift.Json.WholeNumbers
import Mathlib.Logic.Equiv.Basic

set_option autoImplicit false

/- What the modelled code takes from Python and its standard library, where the library's
text is not part of the repository. -/
namespace RagDrift

variable {N : Type}

/-- `str(uuid.uuid5(uuid.NAMESPACE_OID, name))`, `str(value)`, and a number written with a
fixed count of decimal places. -/
structure Runtime (N : Type) where
  uuid5 : String → String
  str : PyVal N → String
  fixed : Nat → N → String

/-- `values[:stop]`; a negative stop counts from the end. -/
def sliceTo {α : Type} (values : List α) (stop : Int) : List α :=
  if 0 ≤ stop then values.take stop.toNat else values.take (values.length - stop.natAbs)

theorem sliceTo_front {α : Type} (values : List α) (stop : Int) :
    sliceTo values stop <+: values := by
  unfold sliceTo
  split
  · exact List.take_prefix _ _
  · exact List.take_prefix _ _

/-- The number behind `isinstance(value, int | float)`, which holds of a `bool` as well. -/
def PyVal.asNumber? [Zero N] [One N] (value : PyVal N) : Option N :=
  match value.json with
  | .num number => some number
  | .bool flag => some (if flag then 1 else 0)
  | _ => Option.none

/- The ids of the names in the table are the ones Python computes; containers are never put
into a text. -/

def uuidTable (uuids : List (String × String)) : Equiv.Perm String :=
  uuids.foldr (fun pair others => (Equiv.swap pair.1 pair.2).trans others) (Equiv.refl String)

def wholeRuntime (uuids : List (String × String)) : Runtime Int where
  uuid5 := uuidTable uuids
  str value :=
    match value.json with
    | .str text => text
    | .num number => String.ofList (Json.wholeText number)
    | .bool flag => if flag then "True" else "False"
    | _ => "None"
  fixed places number :=
    String.ofList ((Json.wholeText number).dropLast ++ List.replicate places '0')

end RagDrift
