import RagDrift.Drift.Spectrum

set_option autoImplicit false

/- Graph drift of rearranged, renamed and exchanged windows. -/
namespace RagDrift.Drift

open Telemetry (GraphTopologyPayload)

section Exchanged

theorem distance_comm (left right : List ℝ) : distance left right = distance right left := by
  have square : ∀ a b : ℝ, (a - b) ^ 2 = (b - a) ^ 2 := fun a b => by ring
  rw [distance, distance, List.zipWith_comm]
  simp only [square]

theorem spectralDistance_comm {n m : Nat} (A : Matrix (Fin n) (Fin n) ℝ)
    (B : Matrix (Fin m) (Fin m) ℝ) (k : Int) :
    spectralDistance A B k = spectralDistance B A k := by
  unfold spectralDistance
  simp only [or_comm, min_comm, distance_comm]

/-- What the other order of the windows makes of a result. -/
structure GraphDrift.Reversed (drift back : GraphDrift ℝ) : Prop where
  densityDelta : back.densityDelta = -drift.densityDelta
  nodeCountDelta : back.nodeCountDelta = -drift.nodeCountDelta
  spectralDistance : back.spectralDistance = drift.spectralDistance
  isGraphDrifted : back.isGraphDrifted = drift.isGraphDrifted

theorem computeGraphDrift_reversed (runtime : Runtime ℝ) (calculator : GraphDriftCalculator ℝ)
    (baseline current : List (GraphTopologyPayload ℝ)) :
    GraphDrift.Reversed (calculator.computeGraphDrift runtime baseline current)
      (calculator.computeGraphDrift runtime current baseline) := by
  constructor
  · exact (neg_sub _ _).symm
  · exact (neg_sub _ _).symm
  · exact spectralDistance_comm _ _ _
  · unfold GraphDriftCalculator.computeGraphDrift
    simp only [spectralDistance_comm (pooledGraph runtime current).adjacency, abs_sub_comm]

end Exchanged

section Rearranged

variable {N : Type}

/-- The same nodes and the same edges, in any order, any number of times and in any payloads. -/
structure SameWindow (first second : List (GraphTopologyPayload N)) : Prop where
  nodes : ∀ node, node ∈ first.flatMap GraphTopologyPayload.nodes ↔
    node ∈ second.flatMap GraphTopologyPayload.nodes
  edges : ∀ edge, edge ∈ first.flatMap GraphTopologyPayload.edges ↔
    edge ∈ second.flatMap GraphTopologyPayload.edges

theorem SameWindow.renames (runtime : Runtime N) {first second : List (GraphTopologyPayload N)}
    (same : SameWindow first second) :
    Renames id (pooledGraph runtime first) (pooledGraph runtime second) :=
  renames_of_mem_iff runtime same.nodes same.edges

end Rearranged

section Renamed

variable {N : Type}

def RenamedNode (f : String → String) (node renamed : Dict N) : Prop :=
  ∃ name, node.get "id" = .str name ∧ renamed.get "id" = .str (f name)

def RenamedEdge (f : String → String) (edge renamed : Dict N) : Prop :=
  ∃ source target, edgeEnd edge "source" "from" = .str source ∧
    edgeEnd edge "target" "to" = .str target ∧
    edgeEnd renamed "source" "from" = .str (f source) ∧
    edgeEnd renamed "target" "to" = .str (f target)

structure RenamedPayload (f : String → String) (payload renamed : GraphTopologyPayload N) :
    Prop where
  nodes : List.Forall₂ (RenamedNode f) payload.nodes renamed.nodes
  edges : List.Forall₂ (RenamedEdge f) payload.edges renamed.edges

/-- The ids of all nodes and the ends of all edges. -/
def windowNames (runtime : Runtime N) (payloads : List (GraphTopologyPayload N)) : Set String :=
  {name | name ∈ (pooledGraph runtime payloads).nodes ∨
    ∃ pair ∈ edgeEnds runtime payloads, name = pair.1 ∨ name = pair.2}

/-- A window whose names are texts, and the same window under other names. -/
structure Renamed (runtime : Runtime N) (f : String → String)
    (first second : List (GraphTopologyPayload N)) : Prop where
  payloads : List.Forall₂ (RenamedPayload f) first second
  injective : Set.InjOn f (windowNames runtime first)
  nonempty : ∀ name ∈ windowNames runtime first, name ≠ "" ∧ f name ≠ ""

variable {runtime : Runtime N} {f : String → String} {first second : List (GraphTopologyPayload N)}

theorem map_eq_of_forall₂ {A B C : Type} {R : A → B → Prop} {g : A → C} {h : B → C} {f : C → C}
    (step : ∀ a b, R a b → h b = f (g a)) {left : List A} {right : List B}
    (related : List.Forall₂ R left right) : right.map h = (left.map g).map f := by
  induction related with
  | nil => rfl
  | cons head _ ih =>
      rw [List.map_cons, List.map_cons, List.map_cons, step _ _ head, ih]

/-- `str` gives a text as it is. -/
def StrOfText (runtime : Runtime N) : Prop := ∀ text, runtime.str (.str text) = text

theorem nodeId_of_text (texts : StrOfText runtime) {node : Dict N} {name : String}
    (found : node.get "id" = .str name) : nodeId runtime node = name := by
  rw [nodeId, found]
  exact texts name

theorem Renamed.names (texts : StrOfText runtime) (renamed : Renamed runtime f first second) :
    (second.flatMap GraphTopologyPayload.nodes).map (nodeId runtime) =
      ((first.flatMap GraphTopologyPayload.nodes).map (nodeId runtime)).map f := by
  apply map_eq_of_forall₂ (R := RenamedNode f)
  · rintro node changed ⟨name, before, after⟩
    rw [nodeId_of_text texts before, nodeId_of_text texts after]
  · exact List.rel_flatMap renamed.payloads fun _ _ payload => payload.nodes

theorem Renamed.ends (texts : StrOfText runtime) (renamed : Renamed runtime f first second) :
    edgeEnds runtime second = (edgeEnds runtime first).map (Prod.map f f) := by
  apply map_eq_of_forall₂ (R := RenamedEdge f)
  · rintro edge changed ⟨source, target, fromBefore, toBefore, fromAfter, toAfter⟩
    rw [edgeEndpoints, edgeEndpoints, fromBefore, toBefore, fromAfter, toAfter, texts, texts,
      texts, texts, Prod.map_apply]
  · exact List.rel_flatMap renamed.payloads fun _ _ payload => payload.edges

theorem Renamed.renames (texts : StrOfText runtime) (renamed : Renamed runtime f first second) :
    Renames f (pooledGraph runtime first) (pooledGraph runtime second) := by
  apply Renames.of_members (nodup_edgePairs runtime first) (nodup_edgePairs runtime second)
  · intro name
    rw [mem_nodes, renamed.names texts, List.mem_map]
    simp only [mem_nodes]
  · intro pair
    rw [mem_edgePairs, renamed.ends texts, List.mem_map]
    simp only [mem_edgePairs]
    have names : ∀ before ∈ edgeEnds runtime first, before.1 ∈ windowNames runtime first ∧
        before.2 ∈ windowNames runtime first := by
      intro before inside
      exact ⟨.inr ⟨before, inside, .inl rfl⟩, .inr ⟨before, inside, .inr rfl⟩⟩
    constructor
    · rintro ⟨⟨before, inside, rfl⟩, _, _, apart⟩
      obtain ⟨left, right⟩ := names before inside
      exact ⟨before, ⟨inside, (renamed.nonempty _ left).1, (renamed.nonempty _ right).1,
        fun same => apart (congrArg f same)⟩, rfl⟩
    · rintro ⟨before, ⟨inside, _, _, apart⟩, rfl⟩
      obtain ⟨left, right⟩ := names before inside
      exact ⟨⟨before, inside, rfl⟩, (renamed.nonempty _ left).2, (renamed.nonempty _ right).2,
        fun same => apart (renamed.injective left right same)⟩
  · apply renamed.injective.mono
    rintro name (inside | ⟨pair, inside, which⟩)
    · exact .inl inside
    · exact .inr ⟨pair, (mem_edgePairs.mp inside).1, which⟩

end Renamed

/-- Graph drift does not see the order of payloads, nodes and edges, nor how often they come and
in which payload, nor the names of the nodes, and the other order of the windows reverses the two
differences. -/
theorem computeGraphDrift_laws {runtime : Runtime ℝ} (texts : StrOfText runtime)
    (calculator : GraphDriftCalculator ℝ) (baseline current : List (GraphTopologyPayload ℝ)) :
    (∀ baseline' current', SameWindow baseline baseline' → SameWindow current current' →
      calculator.computeGraphDrift runtime baseline' current' =
        calculator.computeGraphDrift runtime baseline current) ∧
    (∀ f baseline' current', Renamed runtime f baseline baseline' →
      Renamed runtime f current current' →
      calculator.computeGraphDrift runtime baseline' current' =
        calculator.computeGraphDrift runtime baseline current) ∧
    GraphDrift.Reversed (calculator.computeGraphDrift runtime baseline current)
      (calculator.computeGraphDrift runtime current baseline) := by
  refine ⟨?_, ?_, computeGraphDrift_reversed runtime calculator baseline current⟩
  · intro baseline' current' before after
    exact (computeGraphDrift_congr runtime calculator (before.renames runtime).sameStatistics
      (after.renames runtime).sameStatistics).symm
  · intro f baseline' current' before after
    exact (computeGraphDrift_congr runtime calculator (before.renames texts).sameStatistics
      (after.renames texts).sameStatistics).symm

section PairGraph

def literalRuntime : Runtime ℝ where
  uuid5 name := name
  str value :=
    match value.json with
    | .str text => text
    | _ => "None"
  fixed _ _ := ""

/-- Two nodes and an edge. -/
def pairGraph (source target : String) : GraphTopologyPayload ℝ where
  nodes := [Dict.empty.set "id" (.str source), Dict.empty.set "id" (.str target)]
  edges := [(Dict.empty.set "source" (.str source)).set "to" (.str target)]

theorem pairGraph_renamed : Renamed literalRuntime ("node " ++ ·) [pairGraph "a" "b"]
    [pairGraph "node a" "node b"] := by
  have payload : RenamedPayload ("node " ++ ·) (pairGraph "a" "b")
      (pairGraph "node a" "node b") :=
    ⟨.cons ⟨"a", rfl, rfl⟩ (.cons ⟨"b", rfl, rfl⟩ .nil),
      .cons ⟨"a", "b", rfl, rfl, rfl, rfl⟩ .nil⟩
  have nodes : (pooledGraph literalRuntime [pairGraph "a" "b"]).nodes = ["a", "b"] := rfl
  have ends : edgeEnds literalRuntime [pairGraph "a" "b"] = [("a", "b")] := rfl
  refine ⟨.cons payload .nil, ?_, ?_⟩
  · intro left _ right _ same
    exact (String.append_right_inj _).mp same
  · intro name inside
    simp only [windowNames, nodes, ends, Set.mem_ofPred_eq, List.mem_cons, List.not_mem_nil,
      or_false, exists_eq_left] at inside
    constructor
    · rintro rfl
      simp at inside
    · simp

/-- The edge in a payload of its own, twice, and a node that comes again. -/
def pairGraphs : List (GraphTopologyPayload ℝ) :=
  [{ pairGraph "a" "b" with nodes := [], edges := (pairGraph "a" "b").edges ++
      (pairGraph "a" "b").edges },
    { pairGraph "b" "a" with edges := [] }, { pairGraph "a" "b" with edges := [] }]

theorem pairGraphs_sameWindow : SameWindow [pairGraph "a" "b"] pairGraphs := by
  constructor
  · intro node
    simp [pairGraphs, pairGraph]
    tauto
  · intro edge
    simp [pairGraphs, pairGraph]

/-- The default thresholds, and the five largest eigenvalues. -/
noncomputable def defaultCalculator : GraphDriftCalculator ℝ :=
  ⟨(1 / 2 : ℚ), (1 / 10 : ℚ), 5⟩

theorem computeGraphDrift_laws_renamed :
    defaultCalculator.computeGraphDrift literalRuntime pairGraphs pairGraphs =
        defaultCalculator.computeGraphDrift literalRuntime [pairGraph "a" "b"]
          [pairGraph "a" "b"] ∧
      defaultCalculator.computeGraphDrift literalRuntime [pairGraph "node a" "node b"]
          [pairGraph "node a" "node b"] =
        defaultCalculator.computeGraphDrift literalRuntime [pairGraph "a" "b"]
          [pairGraph "a" "b"] := by
  have texts : StrOfText literalRuntime := fun _ => rfl
  have laws := computeGraphDrift_laws texts defaultCalculator [pairGraph "a" "b"]
    [pairGraph "a" "b"]
  exact ⟨laws.1 _ _ pairGraphs_sameWindow pairGraphs_sameWindow,
    laws.2.1 _ _ _ pairGraph_renamed pairGraph_renamed⟩

end PairGraph

end RagDrift.Drift
