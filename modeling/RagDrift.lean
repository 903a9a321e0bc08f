import RagDrift.Json.Decimals
import RagDrift.Json.Dict
import RagDrift.Json.WholeNumbers
import RagDrift.Json.Document
import RagDrift.Text.Lines
import RagDrift.Storage.SaveHistory
import RagDrift.Counterfactual.CombinedScenario
import RagDrift.Counterfactual.Frame
import RagDrift.Pipeline.Evaluator
import RagDrift.Python.Round
import RagDrift.Optimization.Noninterference
import RagDrift.Optimization.Selectors
import RagDrift.Optimization.TargetRuns
import RagDrift.Optimization.Recommendations
import RagDrift.Guardrails.AnyNumber
import RagDrift.Counterfactual.StepDrift
import RagDrift.Optimization.Guarded
import RagDrift.Ingestion.AtLeastOnce
import RagDrift.Ingestion.Startup
import RagDrift.Ingestion.Acknowledged
import RagDrift.Ingestion.Draining
import RagDrift.Ingestion.Survival
import RagDrift.Ingestion.DepthGauge
import RagDrift.Ingestion.StopDrain
import RagDrift.Monitor.Reordered
import RagDrift.Api.Remediate
import RagDrift.Causal.FusionMonotone
import RagDrift.Causal.Scores
import RagDrift.Temporal.StepDetection
import RagDrift.Counterfactual.TrendLine
import RagDrift.Counterfactual.DoubleEstimates
import RagDrift.Counterfactual.UnmovedEstimate
import RagDrift.Counterfactual.RepeatedRuns
import RagDrift.LatentDrift.AcceptedBuffers
import RagDrift.LatentDrift.FifoContent
import RagDrift.LatentDrift.ReservoirCounts
import RagDrift.LatentDrift.AdaptiveVerdict
import RagDrift.LatentDrift.UnchangedTrack
import RagDrift.Drift.EdgeCount
import RagDrift.Drift.SameGraph
import RagDrift.Drift.SwarmEntropy
import RagDrift.Monitor.Reflections
import RagDrift.Monitor.RuntimeStatistics
import RagDrift.Monitor.UsableThresholds
import RagDrift.Storage.Tolerance
import RagDrift.Storage.Copies
import RagDrift.Storage.ConcurrentSaves
import RagDrift.Api.Gateway
import RagDrift.Api.Pipeline
import RagDrift.Api.RetryAfter
import RagDrift.Api.Optimize
import RagDrift.Drift.LaplacianBounds
import RagDrift.Monitor.RaggedWindows
import RagDrift.Monitor.Saturation
import RagDrift.RagPipelines.Bridge
import RagDrift.RagPipelines.ReportedConfidence
import RagDrift.Cache.Caches
import RagDrift.Storage.BatchIngestion
import RagDrift.Storage.ConsumedInput
import RagDrift.Ingestion.FrameCodec
import RagDrift.Db.PoolSafety
import RagDrift.Monitor.Records
import RagDrift.DriftStore.Anomaly
import RagDrift.Api.Histories
import RagDrift.RagPipelines.CachedReplies
import RagDrift.Api.Streaming
import RagDrift.Pipeline.Detected
import RagDrift.Pipeline.Judge
import RagDrift.Api.KeyedGate
import RagDrift.Monitor.LegacyFrames
import RagDrift.Monitor.Comprehensive
import RagDrift.Monitor.Bootstrap
import RagDrift.Alerting.AlertManager
import RagDrift.Monitor.ScoreRanges
import RagDrift.Ingestion.RunCodec
import RagDrift.Ingestion.FailedWrites
import RagDrift.LatentDrift.Events
