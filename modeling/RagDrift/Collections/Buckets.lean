import RagDrift.Json.Value
import Mathlib.Data.List.Nodup
import Mathlib.Data.List.Perm.Basic

set_option autoImplicit false

/- Dictionaries whose values are lists: what one list holds, and what all of them hold
together. -/
namespace RagDrift.Collections

open Json (setMember eraseMember)

variable {A : Type}

abbrev Buckets (A : Type) := List (String × List A)

/-- `d.get(key, [])`. -/
def bucket (members : Buckets A) (key : String) : List A := (members.lookup key).getD []

/-- The items of all values. -/
def contents (members : Buckets A) : List A := members.flatMap Prod.snd

theorem bucket_setMember (members : Buckets A) (key : String) (items : List A) (name : String) :
    bucket (setMember key items members) name =
      if name = key then items else bucket members name := by
  rw [bucket, Json.lookup_setMember]
  split
  · rfl
  · rfl

theorem bucket_eraseMember (members : Buckets A) (key name : String) :
    bucket (eraseMember key members) name = if name = key then [] else bucket members name := by
  rw [bucket, Json.lookup_eraseMember]
  split
  · rfl
  · rfl

theorem eraseMember_setMember (members : Buckets A) (key : String) (items : List A) :
    eraseMember key (setMember key items members) = eraseMember key members := by
  induction members with
  | nil => simp [setMember, eraseMember]
  | cons member rest ih =>
      obtain ⟨other, old⟩ := member
      by_cases here : other = key
      · simp [setMember, eraseMember, here]
      · simp only [setMember, here, ↓reduceIte, eraseMember, ne_eq, not_false_eq_true,
          decide_true, List.filter_cons_of_pos] at ih ⊢
        rw [ih]

theorem nodup_setMember {members : Buckets A} (distinct : (members.map Prod.fst).Nodup)
    (key : String) (items : List A) : ((setMember key items members).map Prod.fst).Nodup := by
  rw [Json.setMember_keys]
  split
  · exact distinct
  · rename_i fresh
    rw [List.nodup_append]
    refine ⟨distinct, List.nodup_singleton key, ?_⟩
    rintro name inside _ here rfl
    rw [List.mem_singleton] at here
    exact fresh (here ▸ inside)

theorem nodup_eraseMember {members : Buckets A} (distinct : (members.map Prod.fst).Nodup)
    (key : String) : ((eraseMember key members).map Prod.fst).Nodup :=
  distinct.sublist (List.filter_sublist.map Prod.fst)

/-- All items are those of one key and those of the others. -/
theorem contents_perm {members : Buckets A} (distinct : (members.map Prod.fst).Nodup)
    (key : String) :
    (contents members).Perm (bucket members key ++ contents (eraseMember key members)) := by
  induction members with
  | nil => exact List.Perm.refl []
  | cons member rest ih =>
      obtain ⟨other, items⟩ := member
      rw [List.map_cons, List.nodup_cons] at distinct
      by_cases here : other = key
      · subst here
        have gone : eraseMember other ((other, items) :: rest) = rest := by
          rw [eraseMember, List.filter_cons_of_neg (by simp), List.filter_eq_self]
          intro member inside
          have differs : member.1 ≠ other := by
            intro same
            have again : member.1 ∈ rest.map Prod.fst := List.mem_map_of_mem inside
            exact distinct.1 (same ▸ again)
          simpa using differs
        rw [gone, bucket, Json.lookup_cons, if_pos rfl]
        exact List.Perm.refl _
      · have kept : eraseMember key ((other, items) :: rest) =
            (other, items) :: eraseMember key rest := by
          rw [eraseMember, List.filter_cons_of_pos (by simpa using here)]
          rfl
        have same : bucket ((other, items) :: rest) key = bucket rest key := by
          rw [bucket, Json.lookup_cons, if_neg (fun equal => here equal.symm)]
          rfl
        rw [kept, same]
        show (items ++ contents rest).Perm
          (bucket rest key ++ (items ++ contents (eraseMember key rest)))
        have moved := (ih distinct.2).append_left items
        rw [← List.append_assoc] at moved ⊢
        exact moved.trans (List.perm_append_comm.append_right _)

theorem contents_setMember {members : Buckets A} (distinct : (members.map Prod.fst).Nodup)
    (key : String) (items : List A) :
    (contents (setMember key items members)).Perm
      (items ++ contents (eraseMember key members)) := by
  have split := contents_perm (nodup_setMember distinct key items) key
  rwa [bucket_setMember, if_pos rfl, eraseMember_setMember] at split

theorem mem_contents {members : Buckets A} (distinct : (members.map Prod.fst).Nodup) {item : A} :
    item ∈ contents members ↔ ∃ key, item ∈ bucket members key := by
  constructor
  · intro inside
    obtain ⟨⟨key, items⟩, member, here⟩ := List.mem_flatMap.mp inside
    refine ⟨key, ?_⟩
    obtain ⟨front, back, split⟩ := List.append_of_mem member
    have fresh : key ∉ front.map Prod.fst := by
      rw [split, List.map_append, List.nodup_append] at distinct
      intro before
      exact distinct.2.2 key before key List.mem_cons_self rfl
    have absent : front.lookup key = none := by
      rw [← Option.not_isSome_iff_eq_none, Json.lookup_isSome_iff_mem]
      exact fresh
    rw [bucket, split, List.lookup_append, absent, Option.none_or, Json.lookup_cons, if_pos rfl]
    exact here
  · rintro ⟨key, here⟩
    exact (contents_perm distinct key).mem_iff.mpr (List.mem_append_left _ here)

end RagDrift.Collections
