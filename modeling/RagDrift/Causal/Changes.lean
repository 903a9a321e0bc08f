import RagDrift.Causal.ChangeExtractor

set_option autoImplicit false

/- When two records count as changed, and where in the sorted history each event stands. -/
namespace RagDrift.Causal

open Storage (EvaluationRecord)

variable {N : Type}

/-- A list splits in one way around an element whose key occurs once. -/
theorem split_unique {α β : Type} (key : α → β) {front back front' back' : List α}
    {here here' : α} (same : front ++ here :: back = front' ++ here' :: back')
    (distinct : ((front ++ here :: back).map key).Nodup) (equal : key here = key here') :
    front = front' ∧ here = here' ∧ back = back' := by
  induction front generalizing front' with
  | nil =>
      cases front' with
      | nil =>
          rw [List.nil_append, List.nil_append, List.cons.injEq] at same
          exact ⟨rfl, same.1, same.2⟩
      | cons first front' =>
          rw [List.nil_append, List.cons_append, List.cons.injEq] at same
          rw [List.nil_append, List.map_cons, List.nodup_cons] at distinct
          refine absurd ?_ distinct.1
          rw [equal, same.2]
          exact List.mem_map_of_mem (List.mem_append_right _ List.mem_cons_self)
  | cons first front ih =>
      cases front' with
      | nil =>
          rw [List.nil_append, List.cons_append, List.cons.injEq] at same
          rw [List.cons_append, List.map_cons, List.nodup_cons] at distinct
          refine absurd ?_ distinct.1
          rw [same.1, ← equal]
          exact List.mem_map_of_mem (List.mem_append_right _ List.mem_cons_self)
      | cons first' front' =>
          rw [List.cons_append, List.cons_append, List.cons.injEq] at same
          rw [List.cons_append, List.map_cons, List.nodup_cons] at distinct
          obtain ⟨frontSame, rest⟩ := ih same.2 distinct.2
          exact ⟨by rw [same.1, frontSame], rest⟩

theorem ChangeType.text_plain (changeType : ChangeType) : ':' ∉ changeType.text.toList := by
  cases changeType <;> decide

theorem info_signature (record : EvaluationRecord N) :
    (extractChangeSignature record).info = record.metadata.get "system_info" := rfl

theorem pipeline_signature (record : EvaluationRecord N) :
    (extractChangeSignature record).pipeline = record.metadata.get "pipeline_name" := rfl

theorem metadata_signature_get (record : EvaluationRecord N) (key : String) :
    (extractChangeSignature record).metadata.get key =
      if key = "pipeline_name" ∨ key = "system_info" then PyVal.none
      else record.metadata.get key := by
  rw [extractChangeSignature, Dict.get_erase, Dict.get_erase]
  by_cases pipeline : key = "pipeline_name"
  · simp only [pipeline, ↓reduceIte, true_or]
  · simp only [pipeline, ↓reduceIte, false_or]

section Sorting

variable [LinearOrder N]

def TimeSorted (records : List (EvaluationRecord N)) : Prop :=
  records.Pairwise fun left right => left.timestamp ≤ right.timestamp

theorem sortRecords_perm (records : List (EvaluationRecord N)) :
    (sortRecords records).Perm records :=
  List.perm_insertionSort _ _

theorem sortRecords_sorted (records : List (EvaluationRecord N)) :
    TimeSorted (sortRecords records) := by
  have total : Std.Total fun left right : EvaluationRecord N => left.timestamp ≤ right.timestamp :=
    ⟨fun left right => le_total _ _⟩
  have trans : IsTrans (EvaluationRecord N) fun left right => left.timestamp ≤ right.timestamp :=
    ⟨fun _ _ _ => le_trans⟩
  exact List.pairwise_insertionSort _ _

theorem sortRecords_of_sorted {records : List (EvaluationRecord N)}
    (sorted : TimeSorted records) : sortRecords records = records :=
  List.Pairwise.insertionSort_eq sorted

def RunsDistinct (records : List (EvaluationRecord N)) : Prop :=
  (records.map EvaluationRecord.runId).Nodup

def TimesDistinct (records : List (EvaluationRecord N)) : Prop :=
  (records.map EvaluationRecord.timestamp).Nodup

theorem RunsDistinct.sorted {records : List (EvaluationRecord N)}
    (distinct : RunsDistinct records) : RunsDistinct (sortRecords records) :=
  (((sortRecords_perm records).map _).nodup_iff).mpr distinct

/-- `prev` stands directly before `cur` once the records are sorted. -/
def Consecutive (records : List (EvaluationRecord N)) (prev cur : EvaluationRecord N) : Prop :=
  ∃ front back, sortRecords records = front ++ prev :: cur :: back

theorem Consecutive.mem_right {store : List (EvaluationRecord N)}
    {prev cur : EvaluationRecord N} (consecutive : Consecutive store prev cur) : cur ∈ store := by
  obtain ⟨front, back, split⟩ := consecutive
  rw [← (sortRecords_perm store).mem_iff, split]
  simp

theorem Consecutive.mem_left {store : List (EvaluationRecord N)}
    {prev cur : EvaluationRecord N} (consecutive : Consecutive store prev cur) : prev ∈ store := by
  obtain ⟨front, back, split⟩ := consecutive
  rw [← (sortRecords_perm store).mem_iff, split]
  simp

/-- Where a key is distinct, a record with that key has one predecessor. -/
theorem Consecutive.unique_key {β : Type} (key : EvaluationRecord N → β)
    {records : List (EvaluationRecord N)} (distinct : (records.map key).Nodup)
    {prev cur prev' cur' : EvaluationRecord N} (first : Consecutive records prev cur)
    (second : Consecutive records prev' cur') (same : key cur = key cur') :
    prev = prev' ∧ cur = cur' := by
  obtain ⟨front, back, split⟩ := first
  obtain ⟨front', back', split'⟩ := second
  have sorted : ((sortRecords records).map key).Nodup :=
    (((sortRecords_perm records).map key).nodup_iff).mpr distinct
  have both : (front ++ [prev]) ++ cur :: back = (front' ++ [prev']) ++ cur' :: back' := by
    simpa using split.symm.trans split'
  have apart : (((front ++ [prev]) ++ cur :: back).map key).Nodup := by
    rw [split] at sorted
    simpa using sorted
  obtain ⟨fronts, here, _⟩ := split_unique key both apart same
  have before := (List.append_inj' fronts rfl).2
  rw [List.cons.injEq] at before
  exact ⟨before.1, here⟩

theorem Consecutive.unique {records : List (EvaluationRecord N)} (distinct : RunsDistinct records)
    {prev cur prev' cur' : EvaluationRecord N} (first : Consecutive records prev cur)
    (second : Consecutive records prev' cur') (same : cur.runId = cur'.runId) :
    prev = prev' ∧ cur = cur' :=
  first.unique_key EvaluationRecord.runId distinct second same

end Sorting

section Changes

variable [Equality N]

theorem mem_changedFields {prev curr : Dict N} {key : String} {change : FieldChange N} :
    (key, change) ∈ changedFields prev curr ↔
      ¬ Equal (prev.get key) (curr.get key) ∧ change = ⟨prev.get key, curr.get key⟩ := by
  rw [changedFields, List.mem_filterMap]
  constructor
  · rintro ⟨other, _, found⟩
    split at found
    · cases found
    · rename_i differs
      rw [Option.some.injEq, Prod.mk.injEq] at found
      obtain ⟨rfl, rfl⟩ := found
      exact ⟨differs, rfl⟩
  · rintro ⟨differs, rfl⟩
    refine ⟨key, ?_, by rw [if_neg differs]⟩
    rw [unionKeys, List.mem_append, List.mem_filter, decide_eq_true_eq]
    by_contra absent
    simp only [not_or, not_and, not_not] at absent
    have outside : key ∉ curr.keys := fun inside => absent.1 (absent.2 inside)
    apply differs
    rw [Dict.get_of_not_mem absent.1, Dict.get_of_not_mem outside]
    exact (equal_none_iff _).mpr rfl

theorem changedFields_eq_nil_iff (prev curr : Dict N) :
    changedFields prev curr = [] ↔ ∀ key, Equal (prev.get key) (curr.get key) := by
  rw [List.eq_nil_iff_forall_not_mem]
  constructor
  · intro none key
    by_contra differs
    exact none (key, ⟨prev.get key, curr.get key⟩) (mem_changedFields.mpr ⟨differs, rfl⟩)
  · rintro same ⟨key, change⟩ inside
    exact (mem_changedFields.mp inside).1 (same key)

/-- The two records agree on the version and, up to `None`, on every metadata key. -/
def Unchanged (prev cur : EvaluationRecord N) : Prop :=
  prev.systemVersion = cur.systemVersion ∧
    ∀ key, Equal (prev.metadata.get key) (cur.metadata.get key)

/-- The event of a record behind its predecessor. -/
def detectChange (rt : Runtime N) (prev cur : EvaluationRecord N) : Option (ChangeEvent N) :=
  diffSignatures rt (extractChangeSignature prev) (extractChangeSignature cur)

theorem unchanged_iff_not_hasChange (prev cur : EvaluationRecord N) :
    Unchanged prev cur ↔
      ¬ hasChange (extractChangeSignature prev) (extractChangeSignature cur) := by
  simp only [hasChange, not_or, not_not, ne_eq, changedFields_eq_nil_iff, info_signature,
    pipeline_signature, metadata_signature_get]
  constructor
  · rintro ⟨version, same⟩
    refine ⟨version, same _, same _, ?_⟩
    intro key
    split
    · exact (equal_none_iff _).mpr rfl
    · exact same key
  · rintro ⟨version, pipeline, info, others⟩
    refine ⟨version, ?_⟩
    intro key
    by_cases named : key = "pipeline_name" ∨ key = "system_info"
    · rcases named with rfl | rfl
      · exact pipeline
      · exact info
    · have same := others key
      rw [if_neg named, if_neg named] at same
      exact same

theorem detectChange_eq_none_iff (rt : Runtime N) (prev cur : EvaluationRecord N) :
    detectChange rt prev cur = none ↔ Unchanged prev cur := by
  rw [unchanged_iff_not_hasChange, detectChange, diffSignatures]
  split
  · rename_i changed
    simp only [reduceCtorEq, changed, not_true]
  · rename_i same
    simp only [same, not_false_iff]

theorem detectChange_some {rt : Runtime N} {prev cur : EvaluationRecord N}
    {change : ChangeEvent N} (found : detectChange rt prev cur = some change) :
    change = ChangeEvent.new rt cur.timestamp cur.runId
      (diffType (extractChangeSignature prev) (extractChangeSignature cur))
      (diffDetails (extractChangeSignature prev) (extractChangeSignature cur)) := by
  rw [detectChange, diffSignatures] at found
  split at found
  · exact (Option.some.inj found).symm
  · cases found

theorem detectChange_runId {rt : Runtime N} {prev cur : EvaluationRecord N}
    {change : ChangeEvent N} (found : detectChange rt prev cur = some change) :
    change.runId = cur.runId := by
  rw [detectChange_some found]
  rfl

variable [LinearOrder N]

omit [LinearOrder N] in
theorem mem_walk {rt : Runtime N} {change : ChangeEvent N}
    (records : List (EvaluationRecord N)) (before : EvaluationRecord N) :
    change ∈ walk rt (some (extractChangeSignature before)) records ↔
      ∃ front prev cur back, before :: records = front ++ prev :: cur :: back ∧
        detectChange rt prev cur = some change := by
  induction records generalizing before with
  | nil =>
      refine ⟨fun inside => ?_, ?_⟩
      · rw [walk] at inside
        cases inside
      · rintro ⟨front, prev, cur, back, split, _⟩
        have lengths := congrArg List.length split
        simp only [List.length_cons, List.length_nil, List.length_append] at lengths
        omega
  | cons record rest ih =>
      rw [walk, List.mem_append, Option.mem_toList, Option.bind_some, ih]
      constructor
      · rintro (here | ⟨front, prev, cur, back, split, found⟩)
        · exact ⟨[], before, record, rest, rfl, here⟩
        · exact ⟨before :: front, prev, cur, back, congrArg (before :: ·) split, found⟩
      · rintro ⟨front, prev, cur, back, split, found⟩
        cases front with
        | nil =>
            simp only [List.nil_append, List.cons.injEq] at split
            obtain ⟨rfl, rfl, rfl⟩ := split
            exact Or.inl found
        | cons first front =>
            rw [List.cons_append, List.cons.injEq] at split
            exact Or.inr ⟨front, prev, cur, back, split.2, found⟩

/-- Every event belongs to a record and its predecessor. -/
theorem mem_extractChangeEvents {rt : Runtime N} {records : List (EvaluationRecord N)}
    {change : ChangeEvent N} :
    change ∈ extractChangeEvents rt records ↔
      ∃ prev cur, Consecutive records prev cur ∧ detectChange rt prev cur = some change := by
  rw [extractChangeEvents]
  cases sorted : sortRecords records with
  | nil =>
      refine ⟨fun inside => (List.not_mem_nil inside).elim, ?_⟩
      rintro ⟨prev, cur, ⟨front, back, split⟩, _⟩
      rw [sorted] at split
      simp at split
  | cons first rest =>
      have begin : walk rt none (first :: rest) =
          walk rt (some (extractChangeSignature first)) rest := rfl
      rw [begin, mem_walk]
      constructor
      · rintro ⟨front, prev, cur, back, split, found⟩
        exact ⟨prev, cur, ⟨front, back, sorted.trans split⟩, found⟩
      · rintro ⟨prev, cur, ⟨front, back, split⟩, found⟩
        exact ⟨front, prev, cur, back, sorted.symm.trans split, found⟩

/-- With distinct timestamps a record has an event of its own time exactly when it differs
from its predecessor. -/
theorem event_at_iff (rt : Runtime N) {records : List (EvaluationRecord N)}
    (distinct : TimesDistinct records) {prev cur : EvaluationRecord N}
    (consecutive : Consecutive records prev cur) :
    (∃ event ∈ extractChangeEvents rt records, event.timestamp = cur.timestamp) ↔
      ¬ Unchanged prev cur := by
  rw [← detectChange_eq_none_iff rt]
  constructor
  · rintro ⟨event, inside, same⟩
    obtain ⟨prev', cur', consecutive', found⟩ := mem_extractChangeEvents.mp inside
    have time : cur'.timestamp = cur.timestamp := by
      rw [← same, detectChange_some found]
      rfl
    obtain ⟨rfl, rfl⟩ :=
      consecutive'.unique_key EvaluationRecord.timestamp distinct consecutive time
    rw [found]
    exact Option.some_ne_none event
  · intro changed
    obtain ⟨event, found⟩ := Option.ne_none_iff_exists'.mp changed
    refine ⟨event, mem_extractChangeEvents.mpr ⟨prev, cur, consecutive, found⟩, ?_⟩
    rw [detectChange_some found]
    rfl

end Changes

end RagDrift.Causal
