import RagDrift.Python.Exceptions
import RagDrift.Storage.SaveHistory

set_option autoImplicit false

/- What `load_all` makes of an arbitrary text, line by line. -/
namespace RagDrift.Storage

open Text (pieces universalNewlines strip)
open Json (loads NumText)
open Exceptions (bind_ok_iff bind_error_iff)

variable {N : Type}

/-- The metric an item of a `metrics` list encodes. -/
def encodedMetric : Json N → Option (LoadedMetric N)
  | .obj data => (LoadedMetric.fromDict data).toOption
  | _ => none

/-- The metrics of a line: none where there is no entry, else those of a list of decodable
objects. -/
def encodedMetrics (data : List (String × Json N)) : Option (List (LoadedMetric N)) :=
  match data.lookup "metrics" with
  | none => some []
  | some (.arr items) => items.mapM encodedMetric
  | some _ => none

/-- The other fields, with their defaults. -/
def recordWith (data : List (String × Json N)) (metrics : List (LoadedMetric N)) :
    LoadedRecord N where
  runId := (data.lookup "run_id").getD (.str "")
  metrics := metrics
  metadata := (data.lookup "metadata").getD (.obj [])
  systemVersion := (data.lookup "system_version").getD .null
  recordId := (data.lookup "record_id").bind notNone
  timestamp := (data.lookup "timestamp").bind notNone

def encodedRecord : Json N → Option (LoadedRecord N)
  | .obj data => (encodedMetrics data).map (recordWith data)
  | _ => none

def encodedLine [NumText N] (line : List Char) : Option (LoadedRecord N) :=
  (loads (strip line)).bind encodedRecord

/-- The lines of a file opened in text mode. -/
def fileLines (content : List Char) : List (List Char) := pieces (universalNewlines content)

def encodedRecords [NumText N] (content : List Char) : List (LoadedRecord N) :=
  (fileLines content).filterMap encodedLine

/-- A metrics entry that a loop runs over without an error although it encodes no metrics: a
text, an object, or a list with an item that is no object and no object that is undecodable. -/
def MisreadMetrics : Json N → Prop
  | .str _ | .obj _ => True
  | .arr items => (∃ item ∈ items, ∀ data, item ≠ .obj data) ∧
      ∀ data, .obj data ∈ items → (LoadedMetric.fromDict data).isOk
  | _ => False

/-- JSON that is no object, or an object with such a metrics entry. -/
def Misread : Json N → Prop
  | .obj data => ∃ metrics, data.lookup "metrics" = some metrics ∧ MisreadMetrics metrics
  | _ => True

def MisreadLine (N : Type) [NumText N] (line : List Char) : Prop :=
  ∃ value : Json N, loads (strip line) = some value ∧ Misread value

theorem kwargs_error {required optional : List String} {data : List (String × Json N)}
    {reason : PyErr} (failed : kwargs required optional data = .error reason) :
    reason = .typeError := by
  unfold kwargs at failed
  split_ifs at failed
  · cases failed
    rfl

theorem LoadedMetric.fromDict_error {data : List (String × Json N)} {reason : PyErr}
    (failed : LoadedMetric.fromDict data = .error reason) : reason = .typeError := by
  unfold LoadedMetric.fromDict at failed
  split at failed <;>
    · rcases bind_error_iff.mp failed with unread | ⟨field, _, returned⟩
      · exact kwargs_error unread
      · cases returned

/-- A loop over items ends well or with a `TypeError`. -/
theorem loadMetrics_error {items : List (Json N)} {reason : PyErr}
    (failed : loadMetrics items = .error reason) : reason = .typeError := by
  induction items with
  | nil => cases failed
  | cons item rest ih =>
      rw [loadMetrics] at failed
      rcases bind_error_iff.mp failed with first | ⟨metric, _, failed⟩
      · cases item with
        | obj data => exact LoadedMetric.fromDict_error first
        | null | bool _ | num _ | str _ | arr _ => cases first
      · rcases bind_error_iff.mp failed with later | ⟨metrics, _, returned⟩
        · exact ih later
        · cases returned

theorem ofItem_of_encoded {item : Json N} {metric : LoadedMetric N}
    (encoded : encodedMetric item = some metric) : LoadedMetric.ofItem item = .ok metric := by
  cases item with
  | obj data =>
      rw [encodedMetric] at encoded
      cases read : LoadedMetric.fromDict data with
      | error reason =>
          rw [read] at encoded
          cases encoded
      | ok other =>
          rw [read] at encoded
          cases encoded
          exact read
  | null | bool _ | num _ | str _ | arr _ => cases encoded

theorem loadMetrics_of_encoded {items : List (Json N)} {metrics : List (LoadedMetric N)}
    (encoded : items.mapM encodedMetric = some metrics) : loadMetrics items = .ok metrics := by
  induction items generalizing metrics with
  | nil =>
      cases encoded
      rfl
  | cons item rest ih =>
      rw [List.mapM_cons] at encoded
      obtain ⟨metric, first, encoded⟩ := Option.bind_eq_some_iff.mp encoded
      obtain ⟨others, later, same⟩ := Option.bind_eq_some_iff.mp encoded
      cases same
      rw [loadMetrics, ofItem_of_encoded first, ih later]
      rfl

/-- The loop goes through exactly where no object in the list is undecodable. -/
theorem loadMetrics_isOk_iff (items : List (Json N)) :
    (loadMetrics items).isOk ↔
      ∀ data, .obj data ∈ items → (LoadedMetric.fromDict data).isOk := by
  induction items with
  | nil => simp [loadMetrics, Except.isOk, Except.toBool]
  | cons item rest ih =>
      rw [loadMetrics]
      have both : ((LoadedMetric.ofItem item).bind fun metric =>
          (loadMetrics rest).bind fun metrics => .ok (metric :: metrics)).isOk ↔
          (LoadedMetric.ofItem item).isOk ∧ (loadMetrics rest).isOk := by
        cases LoadedMetric.ofItem item <;> cases loadMetrics rest <;>
          simp [Except.bind, Except.isOk, Except.toBool]
      refine both.trans ?_
      rw [ih]
      constructor
      · rintro ⟨first, later⟩ data inside
        rcases List.mem_cons.mp inside with rfl | there
        · exact first
        · exact later data there
      · intro all
        refine ⟨?_, fun data inside => all data (List.mem_cons_of_mem _ inside)⟩
        cases item with
        | obj data => exact all data List.mem_cons_self
        | null | bool _ | num _ | str _ | arr _ => rfl

/-- Items that are objects and decodable encode metrics, and no others do. -/
theorem mapM_encodedMetric_isSome_iff (items : List (Json N)) :
    (items.mapM encodedMetric).isSome ↔
      (∀ item ∈ items, ∃ data, item = .obj data) ∧ (loadMetrics items).isOk := by
  rw [loadMetrics_isOk_iff]
  induction items with
  | nil => simp
  | cons item rest ih =>
      have both : ((item :: rest).mapM encodedMetric).isSome ↔
          (encodedMetric item).isSome ∧ (rest.mapM encodedMetric).isSome := by
        rw [List.mapM_cons]
        cases encodedMetric item <;> cases rest.mapM encodedMetric <;> simp
      rw [both, ih, List.forall_mem_cons]
      cases item with
      | obj data =>
          have read : (encodedMetric (.obj data)).isSome ↔ (LoadedMetric.fromDict data).isOk := by
            rw [encodedMetric]
            cases LoadedMetric.fromDict data <;> simp [Except.isOk, Except.toBool, Except.toOption]
          rw [read]
          simp only [List.mem_cons, Json.obj.injEq, forall_eq_or_imp, exists_eq', true_and]
          tauto
      | null | bool _ | num _ | str _ | arr _ => simp [encodedMetric]

/-- What `from_dict` makes of the metrics entry. -/
def decodedMetrics (data : List (String × Json N)) : Except PyErr (List (LoadedMetric N)) :=
  iterate ((data.lookup "metrics").getD (.arr [])) >>= loadMetrics

theorem fromDict_obj (data : List (String × Json N)) :
    LoadedRecord.fromDict (.obj data) = (decodedMetrics data).map (recordWith data) := by
  rw [LoadedRecord.fromDict, decodedMetrics]
  cases iterate ((data.lookup "metrics").getD (.arr [])) with
  | error reason => rfl
  | ok items => rfl

theorem iterate_error {value : Json N} {reason : PyErr} (failed : iterate value = .error reason) :
    reason = .typeError := by
  cases value with
  | null | bool _ | num _ =>
      cases failed
      rfl
  | str _ | arr _ | obj _ => cases failed

theorem decodedMetrics_error {data : List (String × Json N)} {reason : PyErr}
    (failed : decodedMetrics data = .error reason) : reason = .typeError := by
  rcases bind_error_iff.mp failed with first | ⟨items, _, later⟩
  · exact iterate_error first
  · exact loadMetrics_error later

theorem loadMetrics_raw_isOk {items : List (Json N)}
    (raw : ∀ item ∈ items, ∃ text, item = .str text) : (loadMetrics items).isOk := by
  rw [loadMetrics_isOk_iff]
  intro data inside
  obtain ⟨text, same⟩ := raw _ inside
  cases same

theorem toOption_eq_none_iff {A : Type} {ran : Except PyErr A} :
    ran.toOption = none ↔ ¬ ran.isOk := by
  cases ran <;> simp [Except.toOption, Except.isOk, Except.toBool]

theorem mapM_encodedMetric_of_other {items : List (Json N)}
    (other : ∃ item ∈ items, ∀ data, item ≠ .obj data) : items.mapM encodedMetric = none := by
  obtain ⟨item, inside, other⟩ := other
  by_contra some
  have encodes := mapM_encodedMetric_isSome_iff items
  obtain ⟨data, same⟩ := (encodes.mp (Option.isSome_iff_ne_none.mpr some)).1 item inside
  exact other data same

/-- A loop over the names of an object or the characters of a text skips nothing. -/
theorem toOption_raw_ne {items : List (Json N)}
    (raw : ∀ item ∈ items, ∃ text, item = .str text) : (loadMetrics items).toOption ≠ none := by
  intro skipped
  exact toOption_eq_none_iff.mp skipped (loadMetrics_raw_isOk raw)

/-- The lists that are misread are those where the loop and the encoding differ. -/
theorem toOption_loadMetrics_iff (items : List (Json N)) :
    (loadMetrics items).toOption = items.mapM encodedMetric ↔ ¬ MisreadMetrics (.arr items) := by
  have encodes := mapM_encodedMetric_isSome_iff items
  rw [MisreadMetrics, ← loadMetrics_isOk_iff]
  cases encoded : items.mapM encodedMetric with
  | some metrics =>
      rw [loadMetrics_of_encoded encoded]
      refine ⟨fun _ => ?_, fun _ => rfl⟩
      rintro ⟨other, _⟩
      rw [mapM_encodedMetric_of_other other] at encoded
      cases encoded
  | none =>
      rw [encoded] at encodes
      rw [toOption_eq_none_iff]
      constructor
      · rintro skipped ⟨_, read⟩
        exact skipped read
      · intro fine read
        have objects : ∀ item ∈ items, ∃ data, item = .obj data := by
          by_contra mixed
          push Not at mixed
          exact fine ⟨mixed, read⟩
        exact absurd (encodes.mpr ⟨objects, read⟩) (by simp)

/-- The metrics entries that are misread are those where `from_dict` and the encoding differ. -/
theorem toOption_decodedMetrics_iff (data : List (String × Json N)) :
    (decodedMetrics data).toOption = encodedMetrics data ↔
      ¬ ∃ metrics, data.lookup "metrics" = some metrics ∧ MisreadMetrics metrics := by
  rw [decodedMetrics, encodedMetrics]
  cases entry : data.lookup "metrics" with
  | none => exact ⟨fun _ => nofun, fun _ => rfl⟩
  | some metrics =>
      have named : (∃ other, some metrics = some other ∧ MisreadMetrics other) ↔
          MisreadMetrics metrics := by simp
      rw [named, Option.getD_some]
      cases metrics with
      | null | bool _ | num _ => exact ⟨fun _ => id, fun _ => rfl⟩
      | str text =>
          refine ⟨fun skipped => absurd skipped (toOption_raw_ne ?_),
            fun fine => absurd trivial fine⟩
          intro item inside
          obtain ⟨c, _, rfl⟩ := List.mem_map.mp inside
          exact ⟨_, rfl⟩
      | obj members =>
          refine ⟨fun skipped => absurd skipped (toOption_raw_ne ?_),
            fun fine => absurd trivial fine⟩
          intro item inside
          obtain ⟨member, _, rfl⟩ := List.mem_map.mp inside
          exact ⟨_, rfl⟩
      | arr items => exact toOption_loadMetrics_iff items

theorem encodedMetrics_of_misread {data : List (String × Json N)} {metrics : Json N}
    (entry : data.lookup "metrics" = some metrics) (misread : MisreadMetrics metrics) :
    encodedMetrics data = none := by
  rw [encodedMetrics, entry]
  cases metrics with
  | null | bool _ | num _ => cases misread
  | str _ | obj _ => rfl
  | arr items => exact mapM_encodedMetric_of_other misread.1

variable [NumText N]

theorem encodedLine_blank {line : List Char} (blank : strip line = []) :
    (encodedLine line : Option (LoadedRecord N)) = none := by
  rw [encodedLine, blank]
  rfl

/-- A line is treated as it should be exactly where it is not one of the misread ones. -/
theorem loadLine_eq_encodedLine_iff (line : List Char) :
    (loadLine line : Except PyErr (Option (LoadedRecord N))) = .ok (encodedLine line) ↔
      ¬ MisreadLine N line := by
  by_cases blank : strip line = []
  · have nothing : ¬ MisreadLine N line := by
      rintro ⟨value, read, _⟩
      rw [blank] at read
      cases read
    rw [loadLine, if_pos blank, encodedLine_blank blank]
    exact ⟨fun _ => nothing, fun _ => rfl⟩
  · cases read : (loads (strip line) : Option (Json N)) with
    | none =>
        have nothing : ¬ MisreadLine N line := by
          rintro ⟨value, other, _⟩
          rw [read] at other
          cases other
        rw [loadLine, if_neg blank, encodedLine, read]
        exact ⟨fun _ => nothing, fun _ => rfl⟩
    | some value =>
        have named : MisreadLine N line ↔ Misread value := by simp [MisreadLine, read]
        simp only [loadLine, if_neg blank, read, encodedLine, named, Option.bind_some]
        cases value with
        | null | bool _ | num _ | str _ | arr _ =>
            constructor
            · intro same
              cases same
            · intro fine
              exact absurd trivial fine
        | obj data =>
            rw [Misread, ← toOption_decodedMetrics_iff, fromDict_obj, encodedRecord]
            cases decoded : decodedMetrics data with
            | error reason =>
                rw [decodedMetrics_error decoded]
                cases encodedMetrics data <;>
                  simp [Except.map, Except.toOption]
            | ok metrics =>
                cases encodedMetrics data <;>
                  simp [Except.map, Except.toOption, recordWith]

/-- A record that a line encodes is read, whatever the line. -/
theorem loadLine_of_encodedLine {line : List Char} {record : LoadedRecord N}
    (encoded : encodedLine line = some record) : loadLine line = .ok (some record) := by
  rw [← encoded]
  apply (loadLine_eq_encodedLine_iff line).mpr
  rintro ⟨value, read, misread⟩
  rw [encodedLine, read, Option.bind_some] at encoded
  cases value with
  | null | bool _ | num _ | str _ | arr _ => cases encoded
  | obj data =>
      obtain ⟨metrics, entry, misread⟩ := misread
      rw [encodedRecord, encodedMetrics_of_misread entry misread] at encoded
      cases encoded

theorem encodedLines_sublist {lines : List (List Char)} {records : List (LoadedRecord N)}
    (read : loadLines lines = .ok records) : (lines.filterMap encodedLine).Sublist records := by
  induction lines generalizing records with
  | nil => exact List.nil_sublist _
  | cons line rest ih =>
      obtain ⟨record, first, read⟩ := bind_ok_iff.mp read
      obtain ⟨others, later, same⟩ := bind_ok_iff.mp read
      cases same
      rw [List.filterMap_cons]
      cases encoded : (encodedLine line : Option (LoadedRecord N)) with
      | none => exact (ih later).trans (List.sublist_append_right _ _)
      | some kept =>
          rw [loadLine_of_encodedLine encoded] at first
          cases first
          exact (ih later).cons_cons kept

theorem loadLines_eq_encoded_iff (lines : List (List Char)) :
    loadLines lines = .ok (lines.filterMap encodedLine : List (LoadedRecord N)) ↔
      ∀ line ∈ lines, ¬ MisreadLine N line := by
  induction lines with
  | nil => simp [loadLines]
  | cons line rest ih =>
      rw [List.forall_mem_cons, ← ih, ← loadLine_eq_encodedLine_iff]
      have joined : (line :: rest).filterMap encodedLine =
          (encodedLine line : Option (LoadedRecord N)).toList ++ rest.filterMap encodedLine := by
        rw [List.filterMap_cons]
        cases (encodedLine line : Option (LoadedRecord N)) <;> rfl
      rw [joined]
      constructor
      · intro read
        obtain ⟨record, first, read⟩ := bind_ok_iff.mp read
        obtain ⟨others, later, returned⟩ := bind_ok_iff.mp read
        have same := Except.ok.inj returned
        -- neither the first line nor the others give fewer records than they encode
        have enough := (encodedLines_sublist later).length_le
        have lengths := congrArg List.length same
        rw [List.length_append, List.length_append] at lengths
        cases encoded : (encodedLine line : Option (LoadedRecord N)) with
        | some kept =>
            rw [loadLine_of_encodedLine encoded] at first
            cases first
            rw [encoded] at same
            exact ⟨loadLine_of_encodedLine encoded,
              later.trans (congrArg Except.ok (List.append_cancel_left same))⟩
        | none =>
            rw [encoded] at same lengths
            cases record with
            | none => exact ⟨first, later.trans (congrArg Except.ok same)⟩
            | some extra =>
                simp only [Option.toList_some, Option.toList_none, List.length_singleton,
                  List.length_nil] at lengths
                omega
      · rintro ⟨first, later⟩
        rw [loadLines, first, later]
        rfl

/-- `load_all` reads the encoded records of a text, and nothing else, exactly where no line is
JSON of another kind or an object whose metrics are misread. -/
theorem loadAll_eq_encoded_iff (content : List Char) :
    loadAll (Disk.holding content) = .ok (encodedRecords content : List (LoadedRecord N)) ↔
      ∀ line ∈ fileLines content, ¬ MisreadLine N line :=
  loadLines_eq_encoded_iff (fileLines content)

/-- A line that is a number makes the history unreadable. -/
theorem loadAll_number_line :
    (loadAll (Disk.holding ['5', '\n']) : Except PyErr (List (LoadedRecord Int))) =
        .error .attributeError ∧
      ¬ ∀ content : List Char, loadAll (Disk.holding content) =
        .ok (encodedRecords content : List (LoadedRecord Int)) := by
  have escaped : (loadAll (Disk.holding ['5', '\n']) : Except PyErr (List (LoadedRecord Int))) =
      .error .attributeError := by
    rfl
  refine ⟨escaped, ?_⟩
  intro tolerant
  have read := tolerant ['5', '\n']
  rw [escaped] at read
  cases read

end RagDrift.Storage
