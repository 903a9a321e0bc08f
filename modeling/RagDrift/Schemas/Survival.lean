import RagDrift.Schemas.Telemetry

set_option autoImplicit false

/- What validation makes of a frame that was written: the numbers JSON does not know are nulled, and
a list of floats does not take that. -/
namespace RagDrift.Schemas

variable {T : Type}

/- Numbers that are not finite come back as `None` where that is a value of the field. -/

def nulledNumber (number : Option Number) : Option Number := number.filter Number.isFinite

def GraphTopologyPayload.nulled (payload : GraphTopologyPayload) : GraphTopologyPayload where
  nodes := payload.nodes.map Dict.nulled
  edges := payload.edges.map Dict.nulled
  density := nulledNumber payload.density
  metadata := payload.metadata.nulled
  modelExtra := payload.modelExtra.nulled

def QueryPayload.nulled (payload : QueryPayload) : QueryPayload :=
  { payload with modelExtra := payload.modelExtra.nulled }

def RetrievalContextPayload.nulled (payload : RetrievalContextPayload) :
    RetrievalContextPayload where
  textChunks := payload.textChunks
  denseEmbeddings := payload.denseEmbeddings
  graphTopology := payload.graphTopology.map GraphTopologyPayload.nulled
  modelExtra := payload.modelExtra.nulled

def ExecutionMetadataPayload.nulled (payload : ExecutionMetadataPayload) :
    ExecutionMetadataPayload :=
  { payload with
    latencyMs := nulledNumber payload.latencyMs
    extra := payload.extra.nulled
    modelExtra := payload.modelExtra.nulled }

def OutputPayload.nulled (payload : OutputPayload) : OutputPayload :=
  { payload with
    confidenceScore := nulledNumber payload.confidenceScore
    modelExtra := payload.modelExtra.nulled }

/-- A datetime as it is accepted in the form in which it is written. -/
def Pydantic.accepted (pydantic : Pydantic T) (time : T) : T :=
  (pydantic.datetime (.str (pydantic.isoformat time))).getD time

def RAGEvaluationFrame.nulled (pydantic : Pydantic T) (frame : RAGEvaluationFrame T) :
    RAGEvaluationFrame T where
  traceId := frame.traceId
  timestamp := pydantic.accepted frame.timestamp
  query := frame.query.nulled
  context := frame.context.nulled
  metadata := frame.metadata.nulled
  output := frame.output.nulled
  modelExtra := frame.modelExtra.nulled

def Finite (numbers : List Number) : Prop := ∀ number ∈ numbers, number.isFinite = true

def QueryPayload.Finite (payload : QueryPayload) : Prop :=
  ∀ embedding ∈ payload.embedding, Schemas.Finite embedding

def RetrievalContextPayload.Finite (payload : RetrievalContextPayload) : Prop :=
  ∀ rows ∈ payload.denseEmbeddings, ∀ row ∈ rows, Schemas.Finite row

def OutputPayload.Finite (payload : OutputPayload) : Prop :=
  ∀ embedding ∈ payload.responseEmbedding, Schemas.Finite embedding

/-- No embedding of the frame holds a NaN or an infinity. -/
structure RAGEvaluationFrame.Finite (frame : RAGEvaluationFrame T) : Prop where
  query : frame.query.Finite
  context : frame.context.Finite
  output : frame.output.Finite

section Leaves

variable {pydantic : Pydantic T} (sound : pydantic.Sound)
include sound

theorem survives_str : Survives pydantic.str .str (fun _ => True) id := by
  intro text result
  rw [PyVal.nulled_str, sound.str]
  simp

theorem survives_strings : Survives (listOf pydantic.str) strings (fun _ => True) id := by
  intro texts result
  have each := (survives_str sound).listOf texts result
  rw [List.map_id] at each
  simp only [implies_true] at each
  exact each

theorem survives_float :
    Survives pydantic.float .num (fun number => number.isFinite = true) id := by
  intro number result
  rw [PyVal.nulled_num]
  by_cases finite : number.isFinite = true
  · rw [if_pos finite, sound.float]
    simp [finite]
  · rw [if_neg finite, sound.float_none]
    simp [finite]

theorem survives_floats : Survives (listOf pydantic.float) floats Finite id := by
  intro numbers result
  have each := (survives_float sound).listOf numbers result
  rw [List.map_id] at each
  exact each

theorem survives_rows : Survives (listOf (listOf pydantic.float))
    (fun rows => .arr (rows.map floats)) (fun rows => ∀ row ∈ rows, Finite row) id := by
  intro rows result
  have each := (survives_floats sound).listOf rows result
  rw [List.map_id] at each
  exact each

/-- An optional float that is not finite is read as `None`. -/
theorem survives_number :
    Survives (nullable pydantic.float) (orNone .num) (fun _ => True) nulledNumber := by
  intro number result
  cases number with
  | none => simp [orNone, nullable, nulledNumber]
  | some number =>
      rw [orNone, PyVal.nulled_num]
      by_cases finite : number.isFinite = true
      · have visible : PyVal.num number ≠ PyVal.none := fun same => by cases same
        rw [if_pos finite, nullable, if_neg visible, sound.float]
        simp [nulledNumber, Option.filter, finite]
      · rw [if_neg finite, nullable, if_pos rfl]
        simp [nulledNumber, Option.filter, finite]

theorem survives_int : Survives pydantic.int (fun number : Int => .num (.finite number))
    (fun _ => True) id := by
  intro number result
  have whole : (PyVal.num (.finite (number : ℚ)) : PyVal Number).nulled =
      .num (.finite number) := rfl
  rw [whole, sound.int]
  simp

end Leaves

theorem arr_visible {B : Type} (write : B → PyVal Number) (values : List B) :
    (PyVal.arr (values.map write)).nulled ≠ PyVal.none := by
  rw [PyVal.nulled_arr]
  nofun

theorem survives_dicts :
    Survives (listOf PyVal.asDict?) dicts (fun _ => True) (List.map Dict.nulled) := by
  intro entries result
  have each := survives_dict.listOf entries result
  simp only [implies_true] at each
  exact each

theorem survives_ragType : Survives (fun value => value.asText?.bind RagType.ofText?)
    (fun ragType : RagType => .str ragType.text) (fun _ => True) id := by
  intro ragType result
  have found : RagType.ofText? ragType.text = some ragType := by
    cases ragType <;> decide
  beta_reduce
  rw [PyVal.nulled_str, PyVal.asText?_str, Option.bind_some, found]
  simp

section Payloads

variable {pydantic : Pydantic T} (sound : pydantic.Sound)
include sound

theorem GraphTopologyPayload.survives :
    Survives (GraphTopologyPayload.validate pydantic) document (fun _ => True) nulled := by
  intro payload result
  have unique : fields.Nodup := by decide
  have nodes := survives_dicts.required unique payload.filled "nodes" (by decide) rfl
  have edges := survives_dicts.required unique payload.filled "edges" (by decide) rfl
  have density := (survives_number sound).withDefault unique payload.filled "density"
    (by decide) rfl none
  have metadata := survives_dict.withDefault unique payload.filled "metadata"
    (by decide) rfl .empty
  rw [document, PyVal.nulled_ofDict, Filled.dict_nulled, validate, PyVal.asDict?_ofDict]
  simp only [Option.bind_eq_bind, Option.bind_some, Option.bind_eq_some_iff, nodes, edges, density,
    metadata, Filled.extraOf_dict]
  constructor
  · rintro ⟨_, ⟨-, rfl⟩, _, ⟨-, rfl⟩, _, ⟨-, rfl⟩, _, ⟨-, rfl⟩, same⟩
    exact ⟨trivial, Option.some.inj same⟩
  · rintro ⟨-, rfl⟩
    exact ⟨_, ⟨trivial, rfl⟩, _, ⟨trivial, rfl⟩, _, ⟨trivial, rfl⟩, _, ⟨trivial, rfl⟩, rfl⟩

theorem QueryPayload.survives :
    Survives (QueryPayload.validate pydantic) document Finite nulled := by
  intro payload result
  have unique : fields.Nodup := by decide
  have text := (survives_str sound).required unique payload.filled "text" (by decide) rfl
  have embedding := ((survives_floats sound).nullable (arr_visible _)).withDefault unique
    payload.filled "embedding" (by decide) rfl none
  rw [document, PyVal.nulled_ofDict, Filled.dict_nulled, validate, PyVal.asDict?_ofDict]
  simp only [Option.bind_eq_bind, Option.bind_some, Option.bind_eq_some_iff, text, embedding,
    Filled.extraOf_dict]
  rw [Option.map_id]
  constructor
  · rintro ⟨_, ⟨-, rfl⟩, _, ⟨finite, rfl⟩, same⟩
    exact ⟨finite, Option.some.inj same⟩
  · rintro ⟨finite, rfl⟩
    exact ⟨_, ⟨trivial, rfl⟩, _, ⟨finite, rfl⟩, rfl⟩

theorem RetrievalContextPayload.survives :
    Survives (RetrievalContextPayload.validate pydantic) document Finite nulled := by
  intro payload result
  have unique : fields.Nodup := by decide
  have textChunks := (survives_strings sound).required unique payload.filled
    "text_chunks" (by decide) rfl
  have denseEmbeddings := ((survives_rows sound).nullable (arr_visible _)).withDefault unique
    payload.filled "dense_embeddings" (by decide) rfl none
  have graphTopology := ((GraphTopologyPayload.survives sound).nullable (by nofun)).withDefault
    unique payload.filled "graph_topology" (by decide) rfl none
  rw [document, PyVal.nulled_ofDict, Filled.dict_nulled, validate, PyVal.asDict?_ofDict]
  simp only [Option.bind_eq_bind, Option.bind_some, Option.bind_eq_some_iff, textChunks,
    denseEmbeddings, graphTopology, Filled.extraOf_dict]
  rw [Option.map_id]
  constructor
  · rintro ⟨_, ⟨-, rfl⟩, _, ⟨finite, rfl⟩, _, ⟨-, rfl⟩, same⟩
    exact ⟨finite, Option.some.inj same⟩
  · rintro ⟨finite, rfl⟩
    exact ⟨_, ⟨trivial, rfl⟩, _, ⟨finite, rfl⟩, _, ⟨fun _ _ => trivial, rfl⟩, rfl⟩

theorem ExecutionMetadataPayload.survives :
    Survives (ExecutionMetadataPayload.validate pydantic) document (fun _ => True) nulled := by
  intro payload result
  have unique : fields.Nodup := by decide
  have ragType := survives_ragType.required unique payload.filled "rag_type" (by decide) rfl
  have agentHops := ((survives_strings sound).nullable (arr_visible _)).withDefault unique
    payload.filled "agent_hops" (by decide) rfl none
  have iterations := (survives_int sound).withDefault unique payload.filled
    "reflection_iterations" (by decide) rfl 0
  have latency := (survives_number sound).withDefault unique payload.filled "latency_ms"
    (by decide) rfl none
  have extra := survives_dict.withDefault unique payload.filled "extra" (by decide) rfl .empty
  rw [document, PyVal.nulled_ofDict, Filled.dict_nulled, validate, PyVal.asDict?_ofDict]
  simp only [Option.bind_eq_bind, Option.bind_some, Option.bind_eq_some_iff, ragType, agentHops,
    iterations, latency, extra, Filled.extraOf_dict]
  rw [Option.map_id]
  constructor
  · rintro ⟨_, ⟨-, rfl⟩, _, ⟨-, rfl⟩, _, ⟨-, rfl⟩, _, ⟨-, rfl⟩, _, ⟨-, rfl⟩, same⟩
    exact ⟨trivial, Option.some.inj same⟩
  · rintro ⟨-, rfl⟩
    exact ⟨_, ⟨trivial, rfl⟩, _, ⟨fun _ _ => trivial, rfl⟩, _, ⟨trivial, rfl⟩, _, ⟨trivial, rfl⟩,
      _, ⟨trivial, rfl⟩, rfl⟩

theorem OutputPayload.survives :
    Survives (OutputPayload.validate pydantic) document Finite nulled := by
  intro payload result
  have unique : fields.Nodup := by decide
  have answer := (survives_str sound).required unique payload.filled "generated_answer"
    (by decide) rfl
  have response := ((survives_floats sound).nullable (arr_visible _)).withDefault unique
    payload.filled "response_embedding" (by decide) rfl none
  have confidence := (survives_number sound).withDefault unique payload.filled "confidence_score"
    (by decide) rfl none
  rw [document, PyVal.nulled_ofDict, Filled.dict_nulled, validate, PyVal.asDict?_ofDict]
  simp only [Option.bind_eq_bind, Option.bind_some, Option.bind_eq_some_iff, answer, response,
    confidence, Filled.extraOf_dict]
  rw [Option.map_id]
  constructor
  · rintro ⟨_, ⟨-, rfl⟩, _, ⟨finite, rfl⟩, _, ⟨-, rfl⟩, same⟩
    exact ⟨finite, Option.some.inj same⟩
  · rintro ⟨finite, rfl⟩
    exact ⟨_, ⟨trivial, rfl⟩, _, ⟨finite, rfl⟩, _, ⟨trivial, rfl⟩, rfl⟩

theorem survives_datetime : Survives pydantic.datetime
    (fun time => .str (pydantic.isoformat time)) (fun _ => True) pydantic.accepted := by
  intro time result
  obtain ⟨accepted, same⟩ := sound.datetime time
  rw [PyVal.nulled_str, Pydantic.accepted, same]
  simp

theorem RAGEvaluationFrame.survives (drawn : Drawn T) :
    Survives (RAGEvaluationFrame.validate pydantic drawn) (document pydantic) Finite
      (nulled pydantic) := by
  intro frame result
  have unique : fields.Nodup := by decide
  have traceId := (survives_str sound).withDefault unique (frame.filled pydantic) "trace_id"
    (by decide) rfl drawn.uuid4
  have timestamp := (survives_datetime sound).withDefault unique (frame.filled pydantic)
    "timestamp" (by decide) rfl drawn.utcnow
  have query := (QueryPayload.survives sound).required unique (frame.filled pydantic) "query"
    (by decide) rfl
  have context := (RetrievalContextPayload.survives sound).required unique
    (frame.filled pydantic) "context" (by decide) rfl
  have metadata := (ExecutionMetadataPayload.survives sound).required unique
    (frame.filled pydantic) "metadata" (by decide) rfl
  have output := (OutputPayload.survives sound).required unique (frame.filled pydantic) "output"
    (by decide) rfl
  rw [document, PyVal.nulled_ofDict, Filled.dict_nulled, validate, PyVal.asDict?_ofDict]
  simp only [Option.bind_eq_bind, Option.bind_some, Option.bind_eq_some_iff, traceId, timestamp,
    query, context, metadata, output, Filled.extraOf_dict]
  constructor
  · rintro ⟨_, ⟨-, rfl⟩, _, ⟨-, rfl⟩, _, ⟨finiteQuery, rfl⟩, _, ⟨finiteContext, rfl⟩, _, ⟨-, rfl⟩,
      _, ⟨finiteOutput, rfl⟩, same⟩
    exact ⟨⟨finiteQuery, finiteContext, finiteOutput⟩, Option.some.inj same⟩
  · rintro ⟨finite, rfl⟩
    exact ⟨_, ⟨trivial, rfl⟩, _, ⟨trivial, rfl⟩, _, ⟨finite.query, rfl⟩, _, ⟨finite.context, rfl⟩,
      _, ⟨trivial, rfl⟩, _, ⟨finite.output, rfl⟩, rfl⟩

end Payloads

end RagDrift.Schemas
