import Mathlib.Data.String.Basic
import Mathlib.Algebra.Group.Basic

set_option autoImplicit false

/- JSON values over an arbitrary type of numbers, and equality of values the way
Python compares them. Nothing here knows which program stores the values. -/
namespace RagDrift

inductive Json (N : Type) where
  | null
  | bool (flag : Bool)
  | num (number : N)
  | str (text : String)
  | arr (items : List (Json N))
  | obj (members : List (String × Json N))

namespace Json

variable {N : Type}

section Equality

variable [DecidableEq N]

mutual
def decEq : (left right : Json N) → Decidable (left = right)
  | .null, .null => isTrue rfl
  | .bool a, .bool b => decidable_of_iff (a = b) (by simp)
  | .num a, .num b => decidable_of_iff (a = b) (by simp)
  | .str a, .str b => decidable_of_iff (a = b) (by simp)
  | .arr a, .arr b => @decidable_of_iff _ (a = b) (by simp) (decEqItems a b)
  | .obj a, .obj b => @decidable_of_iff _ (a = b) (by simp) (decEqMembers a b)
  | .null, .bool _ | .null, .num _ | .null, .str _ | .null, .arr _ | .null, .obj _
  | .bool _, .null | .bool _, .num _ | .bool _, .str _ | .bool _, .arr _ | .bool _, .obj _
  | .num _, .null | .num _, .bool _ | .num _, .str _ | .num _, .arr _ | .num _, .obj _
  | .str _, .null | .str _, .bool _ | .str _, .num _ | .str _, .arr _ | .str _, .obj _
  | .arr _, .null | .arr _, .bool _ | .arr _, .num _ | .arr _, .str _ | .arr _, .obj _
  | .obj _, .null | .obj _, .bool _ | .obj _, .num _ | .obj _, .str _ | .obj _, .arr _ =>
      isFalse (by simp)

def decEqItems : (left right : List (Json N)) → Decidable (left = right)
  | [], [] => isTrue rfl
  | [], _ :: _ | _ :: _, [] => isFalse (by simp)
  | a :: as, b :: bs =>
      @decidable_of_iff _ (a = b ∧ as = bs) (by simp)
        (@instDecidableAnd _ _ (decEq a b) (decEqItems as bs))

def decEqMembers : (left right : List (String × Json N)) → Decidable (left = right)
  | [], [] => isTrue rfl
  | [], _ :: _ | _ :: _, [] => isFalse (by simp)
  | (j, a) :: as, (k, b) :: bs =>
      @decidable_of_iff _ (j = k ∧ a = b ∧ as = bs) (by simp [and_assoc])
        (@instDecidableAnd _ _ (instDecidableEqString j k)
          (@instDecidableAnd _ _ (decEq a b) (decEqMembers as bs)))
end

instance : DecidableEq (Json N) := decEq

end Equality

/- Members as an insertion-ordered dictionary: the first entry of a key is its value. -/

section Members

variable {V : Type}

/-- `d[key] = value`: in place when the key is there, otherwise at the end. -/
def setMember (key : String) (value : V) : List (String × V) → List (String × V)
  | [] => [(key, value)]
  | (other, old) :: rest =>
      if other = key then (key, value) :: rest else (other, old) :: setMember key value rest

/-- `d.pop(key, None)` on the dictionary that stays behind. -/
def eraseMember (key : String) (members : List (String × V)) : List (String × V) :=
  members.filter (fun member => member.1 ≠ key)

theorem lookup_cons (other : String) (value : V) (rest : List (String × V)) (name : String) :
    ((other, value) :: rest).lookup name =
      if name = other then some value else rest.lookup name := by
  by_cases same : name = other
  · simp [same]
  · have differs : (name == other) = false := by simpa using same
    simp only [List.lookup_cons, differs, same, ↓reduceIte]

theorem lookup_setMember (key : String) (value : V) (members : List (String × V)) (name : String) :
    (setMember key value members).lookup name =
      if name = key then some value else members.lookup name := by
  induction members with
  | nil => rw [setMember, lookup_cons]
  | cons member rest ih =>
      obtain ⟨other, old⟩ := member
      by_cases here : other = key
      · subst other
        simp only [setMember, ↓reduceIte, lookup_cons]
        split <;> rfl
      · simp only [setMember, here, ↓reduceIte, lookup_cons, ih]
        by_cases same : name = key
        · simp only [same, ↓reduceIte, Ne.symm here]
        · simp only [same, ↓reduceIte]

theorem lookup_eraseMember (key : String) (members : List (String × V)) (name : String) :
    (eraseMember key members).lookup name =
      if name = key then none else members.lookup name := by
  induction members with
  | nil => simp [eraseMember]
  | cons member rest ih =>
      obtain ⟨other, old⟩ := member
      simp only [eraseMember] at ih ⊢
      by_cases here : other = key
      · subst other
        rw [List.filter_cons_of_neg (by simp), ih, lookup_cons]
        split <;> rfl
      · rw [List.filter_cons_of_pos (by simpa using here), lookup_cons, lookup_cons, ih]
        by_cases same : name = other
        · subst name
          simp only [here, ↓reduceIte]
        · simp only [same, ↓reduceIte]

theorem setMember_keys (key : String) (value : V) (members : List (String × V)) :
    (setMember key value members).map Prod.fst =
      if key ∈ members.map Prod.fst then members.map Prod.fst
      else members.map Prod.fst ++ [key] := by
  induction members with
  | nil => simp [setMember]
  | cons member rest ih =>
      obtain ⟨other, old⟩ := member
      by_cases here : other = key
      · subst other
        simp [setMember]
      · have differs : key ≠ other := fun equal => here equal.symm
        simp only [setMember, here, ↓reduceIte, List.map_cons, ih, List.mem_cons, differs,
          false_or]
        split <;> rfl

theorem setMember_fresh (key : String) (value : V) (members : List (String × V))
    (fresh : key ∉ members.map Prod.fst) :
    setMember key value members = members ++ [(key, value)] := by
  induction members with
  | nil => rfl
  | cons member rest ih =>
      obtain ⟨other, old⟩ := member
      simp only [List.map_cons, List.mem_cons, not_or] at fresh
      have differs : other ≠ key := fun equal => fresh.1 equal.symm
      simp only [setMember, differs, ↓reduceIte, List.cons_append, ih fresh.2]

theorem mem_setMember {key : String} {value : V} {members : List (String × V)}
    {member : String × V} (inside : member ∈ setMember key value members) :
    member = (key, value) ∨ member ∈ members := by
  induction members with
  | nil => simpa [setMember] using inside
  | cons first rest ih =>
      obtain ⟨other, old⟩ := first
      by_cases here : other = key
      · simp only [setMember, here, ↓reduceIte, List.mem_cons] at inside ⊢
        rcases inside with rfl | tail
        · exact Or.inl rfl
        · exact Or.inr (Or.inr tail)
      · simp only [setMember, here, ↓reduceIte, List.mem_cons] at inside ⊢
        rcases inside with rfl | tail
        · exact Or.inr (Or.inl rfl)
        · rcases ih tail with new | old
          · exact Or.inl new
          · exact Or.inr (Or.inr old)

theorem lookup_isSome_iff_mem (key : String) (members : List (String × V)) :
    (members.lookup key).isSome ↔ key ∈ members.map Prod.fst := by
  rw [List.lookup_isSome_iff, List.mem_map]
  constructor
  · rintro ⟨member, inside, same⟩
    exact ⟨member, inside, (by simpa using same : key = member.1).symm⟩
  · rintro ⟨member, inside, same⟩
    exact ⟨member, inside, by simpa using same.symm⟩

theorem mem_of_lookup {key : String} {value : V} {members : List (String × V)}
    (found : members.lookup key = some value) : (key, value) ∈ members := by
  obtain ⟨before, after, split, _⟩ := List.lookup_eq_some_iff.mp found
  rw [split]
  exact List.mem_append_right before List.mem_cons_self

end Members

/- No dictionary inside the value holds a key twice: what every Python object satisfies. -/

mutual
def KeysDistinct : Json N → Prop
  | .arr items => KeysDistinctItems items
  | .obj members => (members.map Prod.fst).Nodup ∧ KeysDistinctMembers members
  | _ => True

def KeysDistinctItems : List (Json N) → Prop
  | [] => True
  | item :: rest => KeysDistinct item ∧ KeysDistinctItems rest

def KeysDistinctMembers : List (String × Json N) → Prop
  | [] => True
  | (_, value) :: rest => KeysDistinct value ∧ KeysDistinctMembers rest
end

theorem keysDistinctItems_iff (items : List (Json N)) :
    KeysDistinctItems items ↔ ∀ item ∈ items, KeysDistinct item := by
  induction items with
  | nil => simp [KeysDistinctItems]
  | cons item rest ih => simp [KeysDistinctItems, ih]

theorem keysDistinctMembers_iff (members : List (String × Json N)) :
    KeysDistinctMembers members ↔ ∀ member ∈ members, KeysDistinct member.2 := by
  induction members with
  | nil => simp [KeysDistinctMembers]
  | cons member rest ih => simp [KeysDistinctMembers, ih]

theorem keysDistinct_obj_iff (members : List (String × Json N)) :
    KeysDistinct (.obj members) ↔
      (members.map Prod.fst).Nodup ∧ ∀ member ∈ members, KeysDistinct member.2 := by
  simp only [KeysDistinct, keysDistinctMembers_iff]

theorem keysDistinct_setMember {key : String} {value : Json N} {members : List (String × Json N)}
    (old : KeysDistinct (.obj members)) (new : KeysDistinct value) :
    KeysDistinct (.obj (setMember key value members)) := by
  rw [keysDistinct_obj_iff] at old ⊢
  refine ⟨?_, ?_⟩
  · rw [setMember_keys]
    split
    · exact old.1
    · rename_i fresh
      exact List.nodup_append.mpr ⟨old.1, by simp, by
        intro a ha b hb equal
        rw [List.mem_singleton] at hb
        exact fresh (by rw [← hb, ← equal]; exact ha)⟩
  · intro member inside
    rcases mem_setMember inside with rfl | kept
    · exact new
    · exact old.2 member kept

theorem keysDistinct_eraseMember {key : String} {members : List (String × Json N)}
    (old : KeysDistinct (.obj members)) :
    KeysDistinct (.obj (eraseMember key members)) := by
  rw [keysDistinct_obj_iff] at old ⊢
  refine ⟨?_, ?_⟩
  · exact old.1.sublist (List.filter_sublist.map Prod.fst)
  · intro member inside
    exact old.2 member (List.mem_of_mem_filter inside)

/- What a reader makes of a text in which a key may come twice: the place of the first entry
and the value of the last. -/

mutual
def reread : Json N → Json N
  | .arr items => .arr (rereadItems items)
  | .obj members => .obj (rereadMembers [] members)
  | value => value

def rereadItems : List (Json N) → List (Json N)
  | [] => []
  | item :: rest => reread item :: rereadItems rest

def rereadMembers (done : List (String × Json N)) : List (String × Json N) → List (String × Json N)
  | [] => done
  | (key, value) :: rest => rereadMembers (setMember key (reread value) done) rest
end

theorem rereadItems_eq_map (items : List (Json N)) : rereadItems items = items.map reread := by
  induction items with
  | nil => rfl
  | cons item rest ih => rw [rereadItems, ih, List.map_cons]

mutual
/-- A value without such keys is read back as it is. -/
theorem reread_of_distinct (value : Json N) (distinct : value.KeysDistinct) :
    value.reread = value := by
  match value, distinct with
  | .null, _ | .bool _, _ | .num _, _ | .str _, _ => rfl
  | .arr items, distinct => rw [reread, rereadItems_of_distinct items distinct]
  | .obj members, distinct =>
      rw [reread, rereadMembers_of_distinct members distinct.2 [] (by simpa using distinct.1),
        List.nil_append]

theorem rereadItems_of_distinct (items : List (Json N)) (distinct : KeysDistinctItems items) :
    rereadItems items = items := by
  match items, distinct with
  | [], _ => rfl
  | item :: rest, distinct =>
      rw [rereadItems, reread_of_distinct item distinct.1, rereadItems_of_distinct rest distinct.2]

theorem rereadMembers_of_distinct (members : List (String × Json N))
    (distinct : KeysDistinctMembers members) (done : List (String × Json N))
    (unique : ((done ++ members).map Prod.fst).Nodup) :
    rereadMembers done members = done ++ members := by
  match members, distinct with
  | [], _ => exact (List.append_nil done).symm
  | (key, value) :: rest, distinct =>
      have fresh : key ∉ done.map Prod.fst := by
        rw [List.map_append, List.map_cons] at unique
        exact fun inside => (List.nodup_append.mp unique).2.2 key inside key List.mem_cons_self rfl
      rw [rereadMembers, reread_of_distinct value distinct.1, setMember_fresh key value done fresh,
        rereadMembers_of_distinct rest distinct.2 (done ++ [(key, value)]) (by simpa using unique),
        List.append_assoc, List.singleton_append]
end

/- Python's `==`. Dictionaries compare without regard to order and a `bool` is the number
zero or one, so a value is compared through the form that forgets both. -/

section Canonical

variable {V : Type}

/-- Insertion into members sorted by key, the new entry winning. -/
def insertMember (key : String) (value : V) : List (String × V) → List (String × V)
  | [] => [(key, value)]
  | (other, old) :: rest =>
      if key < other then (key, value) :: (other, old) :: rest
      else if key = other then (key, value) :: rest
      else (other, old) :: insertMember key value rest

theorem lookup_insertMember (key : String) (value : V) (members : List (String × V))
    (name : String) :
    (insertMember key value members).lookup name =
      if name = key then some value else members.lookup name := by
  induction members with
  | nil => rw [insertMember, lookup_cons]
  | cons member rest ih =>
      obtain ⟨other, old⟩ := member
      simp only [insertMember]
      split
      · rw [lookup_cons]
      · split
        · rename_i here
          subst other
          simp only [lookup_cons]
          split <;> rfl
        · rename_i here
          simp only [lookup_cons, ih]
          by_cases same : name = key
          · simp only [same, ↓reduceIte, here]
          · simp only [same, ↓reduceIte]

def Sorted (members : List (String × V)) : Prop :=
  members.Pairwise (fun left right => left.1 < right.1)

theorem insertMember_sorted (key : String) (value : V) (members : List (String × V))
    (sorted : Sorted members) : Sorted (insertMember key value members) := by
  have keys : ∀ (list : List (String × V)) (bound : String), bound < key →
      (∀ member ∈ list, bound < member.1) →
      ∀ member ∈ insertMember key value list, bound < member.1 := by
    intro list bound above all
    induction list with
    | nil =>
        intro member inside
        rw [insertMember, List.mem_singleton] at inside
        rw [inside]
        exact above
    | cons first rest ih =>
        obtain ⟨other, old⟩ := first
        intro member inside
        simp only [insertMember] at inside
        split at inside
        · rcases List.mem_cons.mp inside with rfl | tail
          · exact above
          · exact all member tail
        · split at inside
          · rcases List.mem_cons.mp inside with rfl | tail
            · exact above
            · exact all member (List.mem_cons_of_mem _ tail)
          · rcases List.mem_cons.mp inside with rfl | tail
            · exact all _ List.mem_cons_self
            · exact ih (fun m hm => all m (List.mem_cons_of_mem _ hm)) member tail
  induction members with
  | nil => exact List.pairwise_singleton _ _
  | cons first rest ih =>
      obtain ⟨other, old⟩ := first
      obtain ⟨head, tail⟩ := List.pairwise_cons.mp sorted
      simp only [insertMember]
      split
      · rename_i below
        refine List.pairwise_cons.mpr ⟨?_, sorted⟩
        intro member inside
        rcases List.mem_cons.mp inside with rfl | later
        · exact below
        · exact below.trans (head member later)
      · split
        · rename_i here
          subst other
          exact List.pairwise_cons.mpr ⟨head, tail⟩
        · rename_i notBelow differs
          have above : other < key := lt_of_le_of_ne (not_lt.mp notBelow)
            (fun equal => differs equal.symm)
          exact List.pairwise_cons.mpr ⟨keys rest other above head, ih tail⟩

theorem sorted_lookup_lt {members : List (String × V)} {bound : String}
    (all : ∀ member ∈ members, bound < member.1) : members.lookup bound = none := by
  rw [List.lookup_eq_none_iff]
  intro member inside
  simpa using (all member inside).ne

/-- Sorted members are determined by their lookups. -/
theorem sorted_ext {left right : List (String × V)} (leftSorted : Sorted left)
    (rightSorted : Sorted right) (same : ∀ name, left.lookup name = right.lookup name) :
    left = right := by
  induction left generalizing right with
  | nil =>
      cases right with
      | nil => rfl
      | cons member rest =>
          obtain ⟨key, value⟩ := member
          simpa [lookup_cons] using same key
  | cons member rest ih =>
      obtain ⟨key, value⟩ := member
      obtain ⟨leftHead, leftTail⟩ := List.pairwise_cons.mp leftSorted
      cases right with
      | nil => simpa [lookup_cons] using same key
      | cons other others =>
          obtain ⟨key', value'⟩ := other
          obtain ⟨rightHead, rightTail⟩ := List.pairwise_cons.mp rightSorted
          have keys : key = key' := by
            rcases lt_trichotomy key key' with below | equal | above
            · have absent : ((key', value') :: others).lookup key = none := by
                apply sorted_lookup_lt
                intro entry inside
                rcases List.mem_cons.mp inside with rfl | later
                · exact below
                · exact below.trans (rightHead entry later)
              rw [← same key, lookup_cons, if_pos rfl] at absent
              cases absent
            · exact equal
            · have absent : ((key, value) :: rest).lookup key' = none := by
                apply sorted_lookup_lt
                intro entry inside
                rcases List.mem_cons.mp inside with rfl | later
                · exact above
                · exact above.trans (leftHead entry later)
              rw [same key', lookup_cons, if_pos rfl] at absent
              cases absent
          subst key'
          have values : value = value' := by simpa [lookup_cons] using same key
          subst value'
          congr 1
          apply ih leftTail rightTail
          intro name
          by_cases here : name = key
          · subst name
            rw [sorted_lookup_lt leftHead, sorted_lookup_lt rightHead]
          · simpa only [lookup_cons, here, ↓reduceIte] using same name

end Canonical

section PythonEquality

variable [Zero N] [One N]

mutual
/-- The representative of a value among those Python's `==` identifies with it. -/
def canon : Json N → Json N
  | .null => .null
  | .bool flag => .num (if flag then 1 else 0)
  | .num number => .num number
  | .str text => .str text
  | .arr items => .arr (canonItems items)
  | .obj members => .obj (canonMembers members)

def canonItems : List (Json N) → List (Json N)
  | [] => []
  | item :: rest => canon item :: canonItems rest

def canonMembers : List (String × Json N) → List (String × Json N)
  | [] => []
  | (key, value) :: rest => insertMember key (canon value) (canonMembers rest)
end

theorem canonMembers_sorted (members : List (String × Json N)) :
    Sorted (canonMembers members) := by
  induction members with
  | nil => exact List.Pairwise.nil
  | cons member rest ih => exact insertMember_sorted _ _ _ ih

theorem lookup_canonMembers (members : List (String × Json N)) (name : String) :
    (canonMembers members).lookup name = (members.lookup name).map canon := by
  induction members with
  | nil => simp [canonMembers]
  | cons member rest ih =>
      obtain ⟨key, value⟩ := member
      rw [canonMembers, lookup_insertMember, ih, lookup_cons]
      split <;> rfl

/-- Two dictionaries are equal exactly when every key has equal values in both. -/
theorem canon_obj_eq_iff (left right : List (String × Json N)) :
    canon (.obj left) = canon (.obj right) ↔
      ∀ name, (left.lookup name).map canon = (right.lookup name).map canon := by
  simp only [canon, Json.obj.injEq]
  constructor
  · intro equal name
    rw [← lookup_canonMembers, ← lookup_canonMembers, equal]
  · intro same
    apply sorted_ext (canonMembers_sorted left) (canonMembers_sorted right)
    intro name
    rw [lookup_canonMembers, lookup_canonMembers, same name]

end PythonEquality

end Json

end RagDrift
