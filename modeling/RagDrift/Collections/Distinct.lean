import Mathlib.Data.List.NodupEquivFin
import Mathlib.Data.List.Perm.Basic

set_option autoImplicit false

/- Lists without repetitions: what is seen first is kept, and two lists of the same things
number them in two orders. -/
namespace RagDrift.Collections

variable {A : Type}

theorem nodup_eraseDups [BEq A] [LawfulBEq A] (values : List A) : values.eraseDups.Nodup := by
  match values with
  | [] => simp
  | first :: rest =>
      have shorter : (rest.filter fun value => !value == first).length ≤ rest.length :=
        List.length_filter_le _ rest
      rw [List.eraseDups_cons, List.nodup_cons]
      constructor
      · simp
      · exact nodup_eraseDups _
termination_by values.length
decreasing_by
  show _ < rest.length + 1
  omega

section Renumbering

variable [DecidableEq A] {first second : List A}

/-- From the place of a thing in one list to its place in the other. -/
def renumber (distinctFirst : first.Nodup) (distinctSecond : second.Nodup)
    (reordered : first.Perm second) : Fin first.length ≃ Fin second.length :=
  (distinctFirst.getEquiv first).trans
    ((Equiv.subtypeEquivRight fun _ => reordered.mem_iff).trans
      (distinctSecond.getEquiv second).symm)

@[simp] theorem get_renumber (distinctFirst : first.Nodup) (distinctSecond : second.Nodup)
    (reordered : first.Perm second) (place : Fin first.length) :
    second.get (renumber distinctFirst distinctSecond reordered place) = first.get place := by
  show second.get ((distinctSecond.getEquiv second).symm
    ⟨first.get place, reordered.mem_iff.mp (List.get_mem first place)⟩) = first.get place
  exact congrArg Subtype.val ((distinctSecond.getEquiv second).apply_symm_apply _)

end Renumbering

/-- The place where a list without repetitions holds a value. -/
theorem finIdxOf?_eq_some_iff_get [BEq A] [LawfulBEq A] {values : List A} (distinct : values.Nodup)
    {value : A} {place : Fin values.length} :
    values.finIdxOf? value = some place ↔ values.get place = value := by
  rw [List.finIdxOf?_eq_some_iff]
  constructor
  · rintro ⟨here, _⟩
    exact here
  · intro here
    refine ⟨here, ?_⟩
    intro earlier before there
    have same : earlier = place := distinct.get_inj_iff.mp (there.trans here.symm)
    omega

end RagDrift.Collections
