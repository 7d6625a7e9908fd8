import Benchplane.Run.RunError
import Benchplane.Schema.Comparison

/-!
# JSON of the reports

The results that a command prints as one JSON object: the outcome of a run and the
comparison of two bundles.  A path is printed as text, with replacement characters.
-/

namespace Benchplane

open Library

/-- A signed integer. -/
def Library.Json.int (value : Int) : Json := .number (toString value)

def ProcessResources.toJson (r : ProcessResources) : Json :=
  .record [("cpuTimeMicros", .u64 r.cpuTimeMicros), ("peakRssBytes", .u64 r.peakRssBytes)]

def RunResult.toJson (r : RunResult) : Json :=
  .record [("runId", .string r.runId), ("runState", r.runState.toJson),
    ("validityStatus", r.validityStatus.toJson), ("attemptCount", .u32 r.attemptCount),
    ("sampleCount", .u32 r.sampleCount), ("latency", .option LatencySummary.toJson r.latency),
    ("meanThroughputMilliRequestsPerSecond",
      .option .u64 r.meanThroughputMilliRequestsPerSecond),
    ("resources", .option ProcessResources.toJson r.resources),
    ("bundlePath", .string (lossyText r.bundlePath)),
    ("experimentDigest", .string r.experimentDigest),
    ("resolvedPlanDigest", .string r.resolvedPlanDigest),
    ("evidenceDigest", .string r.evidenceDigest),
    ("failure", .option FailureRecord.toJson r.failure)]

def BundleIdentity.toJson (r : BundleIdentity) : Json :=
  .record [("bundlePath", .string (lossyText r.bundlePath)), ("runId", .string r.runId),
    ("experimentDigest", .string r.experimentDigest),
    ("resolvedPlanDigest", .string r.resolvedPlanDigest)]

def LlamaCppTarget.toJson : LlamaCppTarget → Json
  | .cpu => .string "cpu"
  | .nvidiaCuda => .string "nvidiaCuda"

def LlamaMeasurementContract.toJson (r : LlamaMeasurementContract) : Json :=
  .record [("provider", .string r.provider), ("runtime", .string r.runtime),
    ("target", r.target.toJson), ("generator", .string r.generator), ("model", .string r.model),
    ("modelSha256", .string r.modelSha256), ("engineName", .string r.engineName),
    ("engineVersion", .string r.engineVersion), ("backend", .string r.backend),
    ("deviceClass", r.deviceClass.toJson), ("workloadProfile", .string r.workloadProfile),
    ("outputTokens", .u32 r.outputTokens),
    ("requestsPerRepetition", .u32 r.requestsPerRepetition), ("concurrency", .u32 r.concurrency),
    ("warmupRuns", .u32 r.warmupRuns), ("measuredRepetitions", .u32 r.measuredRepetitions)]

def EnvironmentRelationship.toJson : EnvironmentRelationship → Json
  | .same => .string "same"
  | .different => .string "different"
  | .unknown => .string "unknown"

def EnvironmentComparison.toJson (r : EnvironmentComparison) : Json :=
  .record [("field", .string r.field), ("baseline", .option .string r.baseline),
    ("candidate", .option .string r.candidate), ("relationship", r.relationship.toJson)]

def IntegerDelta.toJson (r : IntegerDelta) : Json :=
  .record [("absoluteDelta", .int r.absoluteDelta),
    ("percentageDeltaMilliPercent", .option .int r.percentageDeltaMilliPercent)]

def MetricComparison.toJson (r : MetricComparison) : Json :=
  .record [("baseline", .u64 r.baseline), ("candidate", .u64 r.candidate),
    ("delta", r.delta.toJson)]

def DistributionComparison.toJson (r : DistributionComparison) : Json :=
  .record [("baseline", r.baseline.toJson), ("candidate", r.candidate.toJson),
    ("mean", r.mean.toJson), ("p50", r.p50.toJson), ("p95", r.p95.toJson)]

def RequestScopeComparison.toJson (r : RequestScopeComparison) : Json :=
  .record [("unit", .string r.unit), ("baselineCount", .u64 r.baselineCount),
    ("candidateCount", .u64 r.candidateCount), ("latencyMicros", r.latencyMicros.toJson),
    ("timeToFirstTokenMicros", r.timeToFirstTokenMicros.toJson)]

def RepetitionScopeComparison.toJson (r : RepetitionScopeComparison) : Json :=
  .record [("unit", .string r.unit), ("baselineCount", .u64 r.baselineCount),
    ("candidateCount", .u64 r.candidateCount),
    ("aggregateLatencyMicros", r.aggregateLatencyMicros.toJson),
    ("aggregateTimeToFirstTokenMicros", r.aggregateTimeToFirstTokenMicros.toJson),
    ("meanThroughputMilliRequestsPerSecond", r.meanThroughputMilliRequestsPerSecond.toJson)]

def AttemptResourceValues.toJson (r : AttemptResourceValues) : Json :=
  .record [("scope", r.scope.toJson), ("cpuTimeMicros", .u64 r.cpuTimeMicros),
    ("peakRssBytes", .u64 r.peakRssBytes)]

def AttemptResourceComparison.toJson (r : AttemptResourceComparison) : Json :=
  .record [("unit", .string r.unit), ("baseline", .option AttemptResourceValues.toJson r.baseline),
    ("candidate", .option AttemptResourceValues.toJson r.candidate),
    ("cpuTimeMicros", .option MetricComparison.toJson r.cpuTimeMicros),
    ("peakRssBytes", .option MetricComparison.toJson r.peakRssBytes)]

def EvidenceComparison.toJson (r : EvidenceComparison) : Json :=
  .record [("format", .string r.format), ("baseline", r.baseline.toJson),
    ("candidate", r.candidate.toJson), ("compatible", .bool r.compatible),
    ("incompatibilities", .list (r.incompatibilities.map .string)),
    ("measurementContract",
      .option LlamaMeasurementContract.toJson r.measurementContract),
    ("environment", .list (r.environment.map EnvironmentComparison.toJson)),
    ("requests", .option RequestScopeComparison.toJson r.requests),
    ("repetitions", .option RepetitionScopeComparison.toJson r.repetitions),
    ("attemptResources", .option AttemptResourceComparison.toJson r.attemptResources),
    ("interpretation", .string r.interpretation)]

end Benchplane
