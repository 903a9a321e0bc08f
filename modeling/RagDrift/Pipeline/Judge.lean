import RagDrift.Json.Decimals
import RagDrift.Pipeline.Detected
import RagDrift.Temporal.Falls

set_option autoImplicit false

/- The scores that a language model gives to runs, and what the drift detector makes of a model
that gives none. -/
namespace RagDrift.Pipeline

open Ingestion (RAGRun)
open Json (Decimal loads)
open Storage (Disk EvaluationRecord Holds PyErr)
open Temporal (Point detectDriftEvents detectDriftFromStore getMetricSeriesWithRuns
  recordPoints)

/-- How an attempt of `litellm.completion` ends. -/
inductive Attempt where
  /-- `response.choices[0].message.content` -/
  | content (text : Option String)
  /-- One of `_RETRYABLE_EXCEPTIONS`. -/
  | retryable
  | raised
  deriving DecidableEq

/-- How the attempts of a call end, and how many seconds after its start. -/
structure Attempts where
  attempt : Nat → Attempt
  seconds : Nat → ℚ

def retryFrom (attempts : Attempts) : Nat → Nat → Attempt
  | 0, number => attempts.attempt number
  | left + 1, number =>
      match attempts.attempt number with
      | .retryable =>
          if 30 ≤ attempts.seconds number then .retryable
          else retryFrom attempts left (number + 1)
      | ended => ended

/-- Three attempts at most, and none behind 30 seconds. -/
def callWithRetry (attempts : Attempts) : Attempt := retryFrom attempts 2 0

def mockScore : ℚ := 85 / 100

def isMockKey : Option String → Bool
  | none => true
  | some key => "sk-your-".toList <+: key.toList ∨ "sk-mock-key".toList <+: key.toList

/-- What ends the `try` block of a score early. -/
inductive Failure where
  /-- `json.JSONDecodeError`, `KeyError`, `TypeError` or `ValueError`. -/
  | malformed
  | other
  deriving DecidableEq

/-- `config.OPENAI_API_KEY`, and `float` of a text. -/
structure Judge where
  openaiApiKey : Option String
  float : String → Option Number

/-- `float(value)` -/
def Judge.floatOf (judge : Judge) : Json Decimal → Option Number
  | .num number => some number.value
  | .bool flag => some (.finite (if flag then 1 else 0))
  | .str text => judge.float text
  | _ => none

/-- `float(json.loads(content).get("score", 0.0))` -/
def Judge.parsed (judge : Judge) : Attempt → Except Failure Number
  | .content none => .error .malformed
  | .content (some text) =>
      match (loads text.toList : Option (Json Decimal)) with
      | none => .error .malformed
      | some (.obj members) =>
          match judge.floatOf ((members.lookup "score").getD (.num (.scaled 0 0))) with
          | some score => .ok score
          | none => .error .malformed
      -- Only a dictionary has a `get`.
      | some _ => .error .other
  | .retryable => .error .other
  | .raised => .error .other

/-- The `try` block of both scores: `service` is how the attempts with a prompt end. -/
def Judge.tried (judge : Judge) (service : String → Attempts) (prompt : String) :
    Except Failure Number :=
  if isMockKey judge.openaiApiKey then .ok (.finite mockScore)
  else judge.parsed (callWithRetry (service prompt))

/-- The block with its two `except` clauses. -/
def Judge.score (judge : Judge) (service : String → Attempts) (prompt : String) :
    Except Failure Number :=
  match judge.tried service prompt with
  | .ok score => .ok score
  | .error .malformed => .ok (.finite 0)
  | .error .other => .ok (.finite 0)

def faithfulnessPrompt (contexts : List String) (answer : String) : String :=
  "You are an objective scoring judge.\n" ++
    "Given the Context and the Answer below, determine if the Answer contains ANY " ++
    "hallucinations or claims not directly supported by the Context.\n" ++
    "Context: " ++ "\n".intercalate contexts ++ "\n" ++
    "Answer: " ++ answer ++ "\n" ++
    "Output ONLY a valid JSON object with a single key 'score' containing a float between 0.0 " ++
    "(contains hallucinations) and 1.0 (strictly faithful)."

def contextPrecisionPrompt (query : String) (contexts : List String) : String :=
  "You are an objective scoring judge.\n" ++
    "Evaluate the following retrieved Context for its relevance to the Query.\n" ++
    "Query: " ++ query ++ "\n" ++
    "Context: " ++ "\n".intercalate contexts ++ "\n" ++
    "Output ONLY a valid JSON object with a single key 'score' containing a float between 0.0 " ++
    "(completely irrelevant) and 1.0 (highly relevant and precise)."

/-- The query is not part of the prompt. -/
def evaluateFaithfulness (judge : Judge) (service : String → Attempts) (_query : String)
    (contexts : List String) (answer : String) : Except Failure Number :=
  judge.score service (faithfulnessPrompt contexts answer)

def evaluateContextPrecision (judge : Judge) (service : String → Attempts) (query : String)
    (contexts : List String) : Except Failure Number :=
  judge.score service (contextPrecisionPrompt query contexts)

/-- A call of `evaluate`, and the service while it runs. -/
structure JudgedCall extends EvaluateCall ℚ where
  service : String → Attempts

/-- The two scores of a run. -/
inductive Quality where
  | faithfulness
  | contextPrecision

def Quality.name : Quality → String
  | .faithfulness => "faithfulness"
  | .contextPrecision => "context_precision"

def Quality.prompt (run : RAGRun ℚ) : Quality → String
  | .faithfulness => faithfulnessPrompt run.retrievedDocs (run.answer.getD "")
  | .contextPrecision => contextPrecisionPrompt run.query run.retrievedDocs

/-- A judge, and the comparison of two runs. -/
structure Evaluator extends Judge where
  computeJensenShannonDrift : RAGRun ℚ → RAGRun ℚ → Except PyErr (ℚ × Bool)

/-- The number that is kept of a score; a history over rational numbers has no others. -/
def finiteScore : Except Failure Number → ℚ
  | .ok (.finite value) => value
  | _ => 0

def Evaluator.judges (evaluator : Evaluator) (item : JudgedCall) : Judges where
  computeJensenShannonDrift := evaluator.computeJensenShannonDrift
  faithfulness run := finiteScore
    (evaluateFaithfulness evaluator.toJudge item.service run.query run.retrievedDocs
      (run.answer.getD ""))
  contextPrecision run := finiteScore
    (evaluateContextPrecision evaluator.toJudge item.service run.query run.retrievedDocs)

/-- The store behind calls of one evaluator. -/
def Evaluator.evaluateEach (evaluator : Evaluator) (store : Option Disk)
    (calls : List JudgedCall) : Option Disk :=
  Pipeline.evaluateEach evaluator.judges JudgedCall.toEvaluateCall store calls

/-- Both runs are valid and can be compared. -/
def Evaluator.completes (evaluator : Evaluator) (call : EvaluateCall ℚ) : Bool :=
  (validated call.baselineRun).isOk && (validated call.currentRun).isOk &&
    (evaluator.computeJensenShannonDrift call.baselineRun call.currentRun).isOk

/-- The score of the run of a call. -/
def Evaluator.scoreOf (evaluator : Evaluator) (quality : Quality) (item : JudgedCall) :
    Except Failure Number :=
  evaluator.score item.service (quality.prompt item.currentRun)

def Evaluator.point (evaluator : Evaluator) (quality : Quality) (item : JudgedCall) : Point :=
  ⟨item.timestamp, finiteScore (evaluator.scoreOf quality item), item.currentRun.runId⟩

variable (evaluator : Evaluator)

/-- The records that calls leave behind. -/
def Evaluator.kept (evaluator : Evaluator) (calls : List JudgedCall) :
    List (EvaluationRecord ℚ) :=
  keptRecords evaluator.judges JudgedCall.toEvaluateCall calls

/-- A call that ends adds the score of its run. -/
theorem Evaluator.point?_eq (quality : Quality) (item : JudgedCall) :
    item.toEvaluateCall.point? (evaluator.judges item) quality.name =
      if evaluator.completes item.toEvaluateCall then some (evaluator.point quality item)
      else none := by
  cases base : validated item.baselineRun with
  | error reason =>
      simp [EvaluateCall.point?, EvaluateCall.results, Judges.metrics, completes, base, Except.isOk,
        Except.toBool, bind, Except.bind]
  | ok _ =>
      cases current : validated item.currentRun with
      | error reason =>
          simp [EvaluateCall.point?, EvaluateCall.results, Judges.metrics, completes, base, current,
            Except.isOk, Except.toBool, bind, Except.bind]
      | ok _ =>
          cases compared : evaluator.computeJensenShannonDrift item.baselineRun
              item.currentRun with
          | error reason =>
              simp [EvaluateCall.point?, EvaluateCall.results, Judges.metrics, completes, judges,
                base, current, compared, Except.isOk, Except.toBool, bind, Except.bind]
          | ok score =>
              cases quality <;>
                simp [EvaluateCall.point?, EvaluateCall.results, Judges.metrics, completes, judges,
                  base, current, compared, Except.isOk, Except.toBool, bind, Except.bind, pure,
                  Except.pure, driftResult, scored, Quality.name, point, scoreOf, Quality.prompt,
                  evaluateFaithfulness, evaluateContextPrecision]

/-- The record of a call that ends has the score of its run. -/
theorem Evaluator.record?_of_completes {item : JudgedCall}
    (ended : evaluator.completes item.toEvaluateCall = true) :
    ∃ record, item.toEvaluateCall.record? (evaluator.judges item).metrics = some record ∧
      ∀ quality : Quality, recordPoints quality.name record = [evaluator.point quality item] := by
  have points : ∀ quality : Quality,
      (item.toEvaluateCall.record? (evaluator.judges item).metrics).toList.flatMap
          (recordPoints quality.name) = [evaluator.point quality item] := by
    intro quality
    rw [record?_points, evaluator.point?_eq, if_pos ended, Option.toList_some]
  cases made : item.toEvaluateCall.record? (evaluator.judges item).metrics with
  | none =>
      rw [made] at points
      cases points .faithfulness
  | some record =>
      rw [made] at points
      simp only [Option.toList_some, List.flatMap_singleton] at points
      exact ⟨record, rfl, points⟩

theorem Evaluator.points_eq (quality : Quality) (calls : List JudgedCall) :
    (calls.filterMap fun item =>
        item.toEvaluateCall.point? (evaluator.judges item) quality.name) =
      (calls.filter fun item => evaluator.completes item.toEvaluateCall).map
        (evaluator.point quality) := by
  simp only [point?_eq]
  induction calls with
  | nil => rfl
  | cons item rest ih =>
      rw [List.filterMap_cons, List.filter_cons]
      cases evaluator.completes item.toEvaluateCall with
      | false => exact ih
      | true => exact congrArg (evaluator.point quality item :: ·) ih

/-- The calls that end. -/
def Evaluator.completed (evaluator : Evaluator) (calls : List JudgedCall) : List JudgedCall :=
  calls.filter fun item => evaluator.completes item.toEvaluateCall

/-- What the detector reads behind calls that came in the order of their times. -/
theorem Evaluator.detects_scores {calls : List JudgedCall} {disk : Disk}
    {before : List (EvaluationRecord ℚ)} (holds : Holds disk before) (clean : disk.tmp = none)
    (later : ∀ old ∈ before, ∀ item ∈ calls, old.timestamp ≤ item.timestamp)
    (ordered : calls.Pairwise fun first second => first.timestamp ≤ second.timestamp) :
    ∃ after, evaluator.evaluateEach (some disk) calls = some after ∧
      Storage.loadAll after = .ok ((before ++ evaluator.kept calls).map EvaluationRecord.loaded) ∧
      ∀ uuid4 (quality : Quality) windowSize threshold,
        detectDriftFromStore uuid4 (before ++ evaluator.kept calls) quality.name windowSize
            threshold =
          detectDriftEvents uuid4 (getMetricSeriesWithRuns before quality.name ++
            (evaluator.completed calls).map (evaluator.point quality)) windowSize threshold
              quality.name := by
  obtain ⟨after, ran, kept⟩ := evaluateEach_holds evaluator.judges JudgedCall.toEvaluateCall
    calls holds clean
  refine ⟨after, ran, kept.loadAll, ?_⟩
  intro uuid4 quality windowSize threshold
  have series := series_points evaluator.judges JudgedCall.toEvaluateCall later ordered quality.name
  rw [evaluator.points_eq quality calls] at series
  exact congrArg (detectDriftEvents uuid4 · windowSize threshold quality.name) series

/-- A call ends as one of the attempts that are left. -/
theorem retryFrom_attempt (attempts : Attempts) (left number : Nat) :
    ∃ later ≤ number + left, retryFrom attempts left number = attempts.attempt later := by
  induction left generalizing number with
  | zero => exact ⟨number, le_rfl, rfl⟩
  | succ left ih =>
      rw [retryFrom]
      cases outcome : attempts.attempt number with
      | retryable =>
          dsimp only
          split
          · exact ⟨number, Nat.le_add_right _ _, outcome.symm⟩
          · obtain ⟨later, below, same⟩ := ih (number + 1)
            exact ⟨later, by omega, same⟩
      | content text => exact ⟨number, Nat.le_add_right _ _, outcome.symm⟩
      | raised => exact ⟨number, Nat.le_add_right _ _, outcome.symm⟩

/-- The service is asked, and none of the three attempts gets a score that can be read. -/
def Judge.Unreadable (judge : Judge) (service : String → Attempts) (prompt : String) : Prop :=
  isMockKey judge.openaiApiKey = false ∧
    ∀ number < 3, ∀ score, judge.parsed ((service prompt).attempt number) ≠ .ok score

theorem Judge.score_unreadable {judge : Judge} {service : String → Attempts} {prompt : String}
    (unreadable : judge.Unreadable service prompt) :
    judge.score service prompt = .ok (.finite 0) := by
  obtain ⟨real, failing⟩ := unreadable
  obtain ⟨last, below, ended⟩ := retryFrom_attempt (service prompt) 2 0
  have none := failing last (by omega)
  rw [score, tried, real, if_neg Bool.false_ne_true, callWithRetry, ended]
  cases outcome : judge.parsed ((service prompt).attempt last) with
  | ok value => exact absurd outcome (none value)
  | error reason => cases reason <;> rfl

theorem Judge.score_returns (judge : Judge) (service : String → Attempts) (prompt : String) :
    ∃ value, judge.score service prompt = .ok value := by
  rw [score]
  cases judge.tried service prompt with
  | ok value => exact ⟨value, rfl⟩
  | error reason => cases reason <;> exact ⟨_, rfl⟩

/-- Two windows of runs that scored at least `bound`, and two of runs whose score could not be
read. -/
structure Outage (quality : Quality) (size : Nat) (bound : ℚ) (healthy silent : List JudgedCall) :
    Prop where
  positive : 1 ≤ size
  long : 2 * size ≤ (evaluator.completed healthy).length
  lasting : 2 * size ≤ (evaluator.completed silent).length
  scored : ∀ item ∈ evaluator.completed healthy,
    ∃ value, evaluator.scoreOf quality item = .ok (.finite value) ∧ bound ≤ value
  missing : ∀ item ∈ evaluator.completed silent,
    evaluator.Unreadable item.service (quality.prompt item.currentRun)

/-- A score is a number whatever the service answers, and 0 where none can be read. -/
theorem Judge.both_return (judge : Judge) (service : String → Attempts) (query : String)
    (contexts : List String) (answer : String) :
    ∃ faithfulness precision,
      evaluateFaithfulness judge service query contexts answer = .ok faithfulness ∧
      evaluateContextPrecision judge service query contexts = .ok precision ∧
      (judge.Unreadable service (faithfulnessPrompt contexts answer) →
        faithfulness = .finite 0) ∧
      (judge.Unreadable service (contextPrecisionPrompt query contexts) →
        precision = .finite 0) := by
  obtain ⟨faithfulness, first⟩ := judge.score_returns service (faithfulnessPrompt contexts answer)
  obtain ⟨precision, second⟩ := judge.score_returns service (contextPrecisionPrompt query contexts)
  refine ⟨faithfulness, precision, first, second, ?_, ?_⟩
  · intro unreadable
    exact Except.ok.inj (first.symm.trans (Judge.score_unreadable unreadable))
  · intro unreadable
    exact Except.ok.inj (second.symm.trans (Judge.score_unreadable unreadable))

/-- The record of a call that ends has its two scores, where they are finite. -/
theorem Evaluator.mem_kept {calls : List JudgedCall} {item : JudgedCall} (called : item ∈ calls)
    (numbers : ∀ quality, ∃ value, evaluator.scoreOf quality item = .ok (.finite value))
    (ended : evaluator.completes item.toEvaluateCall = true) :
    ∃ record ∈ evaluator.kept calls,
      item.toEvaluateCall.record? (evaluator.judges item).metrics = some record ∧
        ∀ quality : Quality, ∃ value, evaluator.scoreOf quality item = .ok (.finite value) ∧
          recordPoints quality.name record =
            [⟨item.timestamp, value, item.currentRun.runId⟩] := by
  obtain ⟨record, made, points⟩ := evaluator.record?_of_completes ended
  refine ⟨record, List.mem_filterMap.mpr ⟨item, called, made⟩, made, ?_⟩
  intro quality
  obtain ⟨value, number⟩ := numbers quality
  refine ⟨value, number, ?_⟩
  rw [points quality, Evaluator.point, number]
  rfl

section Outages

variable {evaluator} {quality : Quality} {size : Nat} {bound : ℚ}
  {healthy silent : List JudgedCall}

/-- The two windows in front of an outage have no point of an older history. -/
theorem Outage.front (outage : Outage evaluator quality size bound healthy silent)
    (older : List Point) :
    ∀ point ∈ (older ++ (evaluator.completed healthy).map (evaluator.point quality)).drop
        ((older ++ (evaluator.completed healthy).map (evaluator.point quality)).length -
          2 * size), bound ≤ point.value := by
  intro point inside
  have long := outage.long
  have behind : older.length ≤
      (older ++ (evaluator.completed healthy).map (evaluator.point quality)).length -
        2 * size := by
    rw [List.length_append, List.length_map]
    omega
  rw [List.drop_append, List.drop_of_length_le behind, List.nil_append] at inside
  obtain ⟨item, member, rfl⟩ := List.mem_map.mp (List.mem_of_mem_drop inside)
  obtain ⟨value, number, above⟩ := outage.scored item member
  rw [Evaluator.point, number]
  exact above

theorem Outage.back (outage : Outage evaluator quality size bound healthy silent) :
    ∀ point ∈ (evaluator.completed silent).map (evaluator.point quality), point.value = 0 := by
  intro point inside
  obtain ⟨item, member, rfl⟩ := List.mem_map.mp inside
  show finiteScore (evaluator.score item.service (quality.prompt item.currentRun)) = 0
  rw [Judge.score_unreadable (outage.missing item member)]
  rfl

/-- Behind any older history, an outage is a fall of the series. -/
theorem Outage.detected (outage : Outage evaluator quality size bound healthy silent)
    (uuid4 : Nat → String) (older : List Point) {threshold : ℚ} (high : 2 * threshold < bound) :
    ∃ events, detectDriftEvents uuid4
        (older ++ (evaluator.completed (healthy ++ silent)).map (evaluator.point quality)) size
          threshold quality.name = .ok events ∧
      events ≠ [] := by
  have front : ∀ point ∈ (older ++
      (evaluator.completed healthy).map (evaluator.point quality)).drop
        ((older ++ (evaluator.completed healthy).map (evaluator.point quality)).length -
          2 * size), 0 + bound ≤ point.value := by
    intro point inside
    rw [zero_add]
    exact outage.front older point inside
  rw [Evaluator.completed, List.filter_append, List.map_append, ← List.append_assoc]
  apply Temporal.detect_fall uuid4 quality.name outage.positive _ _ front outage.back high
  · have long := outage.long
    rw [List.length_append, List.length_map]
    exact le_add_left (by omega)
  · rw [List.length_map]
    exact outage.lasting

end Outages

/-- Whatever the service answers, both functions return a number, which is 0 if no score can be
read. The run is kept with it, so an outage of the service is a drift event wherever the scores
before it are above twice the threshold. -/
theorem outage_detected {disk : Disk} {before : List (EvaluationRecord ℚ)}
    {healthy silent : List JudgedCall} (holds : Holds disk before) (clean : disk.tmp = none)
    (later : ∀ old ∈ before, ∀ item ∈ healthy ++ silent, old.timestamp ≤ item.timestamp)
    (ordered : (healthy ++ silent).Pairwise fun first second =>
      first.timestamp ≤ second.timestamp)
    (numbers : ∀ item ∈ healthy ++ silent, ∀ quality, ∃ value,
      evaluator.scoreOf quality item = .ok (.finite value)) :
    (∀ service query contexts answer, ∃ faithfulness precision,
        evaluateFaithfulness evaluator.toJudge service query contexts answer = .ok faithfulness ∧
        evaluateContextPrecision evaluator.toJudge service query contexts = .ok precision ∧
        (evaluator.Unreadable service (faithfulnessPrompt contexts answer) →
          faithfulness = .finite 0) ∧
        (evaluator.Unreadable service (contextPrecisionPrompt query contexts) →
          precision = .finite 0)) ∧
      ∃ after records, evaluator.evaluateEach (some disk) (healthy ++ silent) = some after ∧
        Storage.loadAll after = .ok (records.map EvaluationRecord.loaded) ∧
        (∀ item ∈ healthy ++ silent, evaluator.completes item.toEvaluateCall →
          ∃ record ∈ records, item.toEvaluateCall.record? (evaluator.judges item).metrics =
              some record ∧
            ∀ quality : Quality, ∃ value, evaluator.scoreOf quality item = .ok (.finite value) ∧
              recordPoints quality.name record =
                [⟨item.timestamp, value, item.currentRun.runId⟩]) ∧
        ∀ uuid4 quality (size : Nat) bound threshold,
          Outage evaluator quality size bound healthy silent → 2 * threshold < bound →
            ∃ events, detectDriftFromStore uuid4 records quality.name size threshold =
                .ok events ∧
              events ≠ [] := by
  refine ⟨evaluator.both_return, ?_⟩
  obtain ⟨after, ran, loaded, read⟩ := evaluator.detects_scores holds clean later ordered
  refine ⟨after, _, ran, loaded, ?_, ?_⟩
  · intro item called ended
    obtain ⟨record, inside, kept⟩ := evaluator.mem_kept called (numbers item called) ended
    exact ⟨record, List.mem_append_right _ inside, kept⟩
  · intro uuid4 quality size bound threshold outage high
    rw [read]
    exact outage.detected uuid4 _ high

def answering (content : String) : String → Attempts := fun _ =>
  ⟨fun _ => .content (some content), fun _ => 1⟩

/-- The third attempt ends behind 15 seconds. -/
def unavailable : String → Attempts := fun _ =>
  ⟨fun _ => .retryable, fun number => 5 * (number + 1)⟩

def liveEvaluator : Evaluator where
  openaiApiKey := some "sk-live"
  float _ := none
  computeJensenShannonDrift _ _ := .ok (0, false)

def judgedCall (runId : String) (timestamp : ℚ) (service : String → Attempts) : JudgedCall :=
  ⟨⟨askedRun "b" "q", askedRun runId "q", runId, timestamp⟩, service⟩

def answeredCalls : List JudgedCall :=
  [judgedCall "r1" 1 (answering "\x7b\"score\": 0.9\x7d"),
    judgedCall "r2" 2 (answering "\x7b\"score\": 1\x7d")]

def silentCalls : List JudgedCall :=
  [judgedCall "r3" 3 unavailable, judgedCall "r4" 4 (answering "no score")]

theorem answered_scores (quality : Quality) :
    ∀ item ∈ answeredCalls, ∃ value, liveEvaluator.scoreOf quality item = .ok (.finite value) ∧
      9 / 10 ≤ value := by
  intro item inside
  simp only [answeredCalls, List.mem_cons, List.not_mem_nil, or_false] at inside
  rcases inside with rfl | rfl
  · refine ⟨9 / 10, ?_, le_rfl⟩
    show liveEvaluator.score (answering "\x7b\"score\": 0.9\x7d") "" = _
    decide +kernel
  · refine ⟨1, ?_, by norm_num⟩
    show liveEvaluator.score (answering "\x7b\"score\": 1\x7d") "" = _
    decide +kernel

theorem silent_unreadable :
    ∀ item ∈ silentCalls, ∀ prompt, liveEvaluator.Unreadable item.service prompt := by
  intro item inside prompt
  have real : isMockKey liveEvaluator.openaiApiKey = false := by decide
  have none : (loads "no score".toList : Option (Json Decimal)) = none := by decide +kernel
  simp only [silentCalls, List.mem_cons, List.not_mem_nil, or_false] at inside
  rcases inside with rfl | rfl
  · refine ⟨real, ?_⟩
    intro number _ score
    show Except.error Failure.other ≠ .ok score
    simp
  · refine ⟨real, ?_⟩
    intro number _ score
    show liveEvaluator.parsed (.content (some "no score")) ≠ .ok score
    rw [Judge.parsed, none]
    simp

theorem silentCalls_outage :
    Outage liveEvaluator .faithfulness 1 (9 / 10) answeredCalls silentCalls where
  positive := le_rfl
  long := le_of_eq rfl
  lasting := le_of_eq rfl
  scored := answered_scores .faithfulness
  missing item inside := silent_unreadable item inside _

theorem calls_numbers : ∀ item ∈ answeredCalls ++ silentCalls, ∀ quality, ∃ value,
    liveEvaluator.scoreOf quality item = .ok (.finite value) := by
  intro item inside quality
  rcases List.mem_append.mp inside with answered | silent
  · obtain ⟨value, number, _⟩ := answered_scores quality item answered
    exact ⟨value, number⟩
  · exact ⟨0, Judge.score_unreadable (silent_unreadable item silent _)⟩

theorem silentCalls_ordered : (answeredCalls ++ silentCalls).Pairwise fun first second =>
    first.timestamp ≤ second.timestamp := by
  simp only [answeredCalls, silentCalls, judgedCall, List.cons_append, List.nil_append]
  norm_num

theorem outage_detected_silent :
    ∃ after records, liveEvaluator.evaluateEach (some Disk.fresh) (answeredCalls ++ silentCalls) =
        some after ∧
      Storage.loadAll after = .ok (records.map EvaluationRecord.loaded) ∧
      ∃ events, detectDriftFromStore toString records "faithfulness" 1 (1 / 4) = .ok events ∧
        events ≠ [] := by
  obtain ⟨_, after, records, ran, loaded, _, detected⟩ :=
    outage_detected liveEvaluator Storage.holds_fresh rfl (List.forall_mem_nil _)
      silentCalls_ordered calls_numbers
  exact ⟨after, records, ran, loaded, detected toString .faithfulness 1 (9 / 10) (1 / 4)
    silentCalls_outage (by norm_num)⟩

/-- With a mock key every run scores the same, and the scores never drift. -/
theorem mock_scores_undetected {disk : Disk} {calls : List JudgedCall}
    (holds : Holds disk ([] : List (EvaluationRecord ℚ))) (clean : disk.tmp = none)
    (ordered : calls.Pairwise fun first second => first.timestamp ≤ second.timestamp)
    (mock : isMockKey evaluator.openaiApiKey = true) :
    ∃ after records, evaluator.evaluateEach (some disk) calls = some after ∧
      Storage.loadAll after = .ok (records.map EvaluationRecord.loaded) ∧
      ∀ uuid4 (quality : Quality) windowSize threshold events, 0 ≤ threshold →
        detectDriftFromStore uuid4 records quality.name windowSize threshold = .ok events →
          events = [] := by
  obtain ⟨after, ran, loaded, read⟩ :=
    evaluator.detects_scores holds clean (List.forall_mem_nil _) ordered
  refine ⟨after, _, ran, loaded, ?_⟩
  intro uuid4 quality windowSize threshold events nonneg detected
  have level : ∀ point ∈ getMetricSeriesWithRuns [] quality.name ++
      (evaluator.completed calls).map (evaluator.point quality), point.value = mockScore := by
    intro point inside
    obtain ⟨item, member, rfl⟩ := List.mem_map.mp inside
    show finiteScore (evaluator.score item.service (quality.prompt item.currentRun)) = mockScore
    rw [Judge.score, Judge.tried, if_pos mock]
    rfl
  rw [read] at detected
  exact Temporal.detect_level level nonneg detected

def mockEvaluator : Evaluator := { liveEvaluator with openaiApiKey := some "sk-your-key" }

theorem mock_scores_undetected_silent :
    ∃ after records, mockEvaluator.evaluateEach (some Disk.fresh) (answeredCalls ++ silentCalls) =
        some after ∧
      Storage.loadAll after = .ok (records.map EvaluationRecord.loaded) ∧
      ∀ uuid4 (quality : Quality) windowSize threshold events, 0 ≤ threshold →
        detectDriftFromStore uuid4 records quality.name windowSize threshold = .ok events →
          events = [] :=
  mock_scores_undetected mockEvaluator Storage.holds_fresh rfl silentCalls_ordered (by decide)

end RagDrift.Pipeline
