import Mathlib.Data.List.Forall2

set_option autoImplicit false

/- Computations that may raise: what is known when one returned. -/
namespace RagDrift.Exceptions

variable {E A B : Type}

theorem bind_ok_iff {ran : Except E A} {next : A → Except E B} {result : B} :
    ran >>= next = .ok result ↔ ∃ middle, ran = .ok middle ∧ next middle = .ok result := by
  cases ran with
  | error reason =>
      constructor
      · intro returned
        cases returned
      · rintro ⟨middle, same, _⟩
        cases same
  | ok middle =>
      constructor
      · intro returned
        exact ⟨middle, rfl, returned⟩
      · rintro ⟨other, same, returned⟩
        cases same
        exact returned

theorem bind_error_iff {ran : Except E A} {next : A → Except E B} {reason : E} :
    ran >>= next = .error reason ↔
      ran = .error reason ∨ ∃ middle, ran = .ok middle ∧ next middle = .error reason := by
  cases ran with
  | error other =>
      constructor
      · intro failed
        cases failed
        exact .inl rfl
      · rintro (same | ⟨middle, same, _⟩)
        · cases same
          rfl
        · cases same
  | ok middle =>
      constructor
      · intro failed
        exact .inr ⟨middle, rfl, failed⟩
      · rintro (same | ⟨other, same, failed⟩)
        · cases same
        · cases same
          exact failed

theorem map_ok_iff {ran : Except E A} {change : A → B} {result : B} :
    ran.map change = .ok result ↔ ∃ before, ran = .ok before ∧ change before = result := by
  cases ran with
  | error reason =>
      constructor
      · intro returned
        cases returned
      · rintro ⟨before, same, _⟩
        cases same
  | ok before => simp [Except.map]

theorem map_eq_map {first second : Except E A} {change : A → B}
    (same : first.map change = second.map change) :
    (∃ reason, first = .error reason ∧ second = .error reason) ∨
      ∃ one two, first = .ok one ∧ second = .ok two ∧ change one = change two := by
  cases first with
  | error reason =>
      cases second with
      | error other =>
          cases same
          exact .inl ⟨reason, rfl, rfl⟩
      | ok two => cases same
  | ok one =>
      cases second with
      | error other => cases same
      | ok two => exact .inr ⟨one, two, rfl, rfl, Except.ok.inj same⟩

theorem mapError_ok_iff {F : Type} {ran : Except E A} {change : E → F} {result : A} :
    ran.mapError change = .ok result ↔ ran = .ok result := by
  cases ran with
  | error reason => exact ⟨nofun, nofun⟩
  | ok value => exact ⟨fun same => by cases same; rfl, fun same => by cases same; rfl⟩

theorem toOption_some_iff {ran : Except E A} {result : A} :
    ran.toOption = some result ↔ ran = .ok result := by
  cases ran with
  | error reason => exact ⟨nofun, nofun⟩
  | ok value => exact ⟨fun same => by cases same; rfl, fun same => by cases same; rfl⟩

theorem mapM_ok_iff {step : A → Except E B} {list : List A} {results : List B} :
    list.mapM step = .ok results ↔
      List.Forall₂ (fun item result => step item = .ok result) list results := by
  induction list generalizing results with
  | nil =>
      rw [List.mapM_nil, List.forall₂_nil_left_iff]
      exact ⟨fun same => (Except.ok.inj same).symm, fun same => congrArg Except.ok same.symm⟩
  | cons first rest ih =>
      rw [List.mapM_cons, bind_ok_iff, List.forall₂_cons_left_iff]
      constructor
      · rintro ⟨result, here, returned⟩
        obtain ⟨others, later, same⟩ := bind_ok_iff.mp returned
        exact ⟨result, others, here, ih.mp later, (Except.ok.inj same).symm⟩
      · rintro ⟨result, others, here, later, rfl⟩
        exact ⟨result, here, bind_ok_iff.mpr ⟨others, ih.mpr later, rfl⟩⟩

theorem mapM_ok {step : A → Except E B} {list : List A}
    (each : ∀ item ∈ list, ∃ result, step item = .ok result) :
    ∃ results, list.mapM step = .ok results := by
  induction list with
  | nil => exact ⟨[], rfl⟩
  | cons first rest ih =>
      obtain ⟨result, here⟩ := each first List.mem_cons_self
      obtain ⟨others, later⟩ := ih fun item inside => each item (List.mem_cons_of_mem _ inside)
      exact ⟨result :: others, mapM_ok_iff.mpr (.cons here (mapM_ok_iff.mp later))⟩

theorem mapM_eq_ok_map {step : A → Except E B} {total : A → B} {list : List A}
    (each : ∀ item ∈ list, step item = .ok (total item)) :
    list.mapM step = .ok (list.map total) := by
  rw [mapM_ok_iff, List.forall₂_map_right_iff, List.forall₂_same]
  exact each

/-- All results are known if each one that there can be is. -/
theorem eq_map_of_mapM {step : A → Except E B} {total : A → B} {list : List A} {results : List B}
    (each : ∀ item result, step item = .ok result → result = total item)
    (ran : list.mapM step = .ok results) : results = list.map total := by
  have related := mapM_ok_iff.mp ran
  induction related with
  | nil => rfl
  | cons here later ih =>
      rw [List.map_cons, ← each _ _ here, ← ih (mapM_ok_iff.mpr later)]

theorem exists_result_of_mem {step : A → Except E B} {list : List A} {results : List B}
    (ran : list.mapM step = .ok results) {item : A} (inside : item ∈ list) :
    ∃ result ∈ results, step item = .ok result := by
  have related := mapM_ok_iff.mp ran
  induction related with
  | nil => cases inside
  | cons here _ ih =>
      rcases List.mem_cons.mp inside with rfl | later
      · exact ⟨_, List.mem_cons_self, here⟩
      · obtain ⟨result, member, same⟩ := ih (mapM_ok_iff.mpr ‹_›) later
        exact ⟨result, List.mem_cons_of_mem _ member, same⟩

theorem exists_of_mem_results {step : A → Except E B} {list : List A} {results : List B}
    (ran : list.mapM step = .ok results) {result : B} (inside : result ∈ results) :
    ∃ item ∈ list, step item = .ok result := by
  have related := mapM_ok_iff.mp ran
  induction related with
  | nil => cases inside
  | cons here _ ih =>
      rcases List.mem_cons.mp inside with rfl | later
      · exact ⟨_, List.mem_cons_self, here⟩
      · obtain ⟨item, member, same⟩ := ih (mapM_ok_iff.mpr ‹_›) later
        exact ⟨item, List.mem_cons_of_mem _ member, same⟩

end RagDrift.Exceptions
