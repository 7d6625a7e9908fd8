import Benchplane.Library.Bytes
import Benchplane.Schema.Evidence

/-!
# Comparison records

What a comparison of two bundles reports, as the schema crate declares it.  A delta
is an `i128`; the path of a bundle is kept as bytes.
-/

namespace Benchplane

open Library

def Schema.evidenceComparisonFormatV1 : String := "benchplane-evidence-comparison/v1"

structure BundleIdentity where
  bundlePath : Bytes
  runId : String
  experimentDigest : String
  resolvedPlanDigest : String
  deriving DecidableEq

structure LlamaMeasurementContract where
  provider : String
  runtime : String
  target : LlamaCppTarget
  generator : String
  model : String
  modelSha256 : String
  engineName : String
  engineVersion : String
  backend : String
  deviceClass : DeviceClass
  workloadProfile : String
  outputTokens : UInt32
  requestsPerRepetition : UInt32
  concurrency : UInt32
  warmupRuns : UInt32
  measuredRepetitions : UInt32
  deriving DecidableEq

inductive EnvironmentRelationship where
  | same
  | different
  | unknown
  deriving DecidableEq

structure EnvironmentComparison where
  field : String
  baseline : Option String
  candidate : Option String
  relationship : EnvironmentRelationship
  deriving DecidableEq

/-- The percentage is in thousandths of one percent, and absent when the baseline is
zero. -/
structure IntegerDelta where
  absoluteDelta : Int
  percentageDeltaMilliPercent : Option Int
  deriving DecidableEq

structure MetricComparison where
  baseline : UInt64
  candidate : UInt64
  delta : IntegerDelta
  deriving DecidableEq

structure DistributionComparison where
  baseline : LatencySummary
  candidate : LatencySummary
  mean : MetricComparison
  p50 : MetricComparison
  p95 : MetricComparison
  deriving DecidableEq

structure RequestScopeComparison where
  unit : String
  baselineCount : UInt64
  candidateCount : UInt64
  latencyMicros : DistributionComparison
  timeToFirstTokenMicros : DistributionComparison
  deriving DecidableEq

structure RepetitionScopeComparison where
  unit : String
  baselineCount : UInt64
  candidateCount : UInt64
  aggregateLatencyMicros : DistributionComparison
  aggregateTimeToFirstTokenMicros : DistributionComparison
  meanThroughputMilliRequestsPerSecond : MetricComparison
  deriving DecidableEq

structure AttemptResourceValues where
  scope : ResourceScope
  cpuTimeMicros : UInt64
  peakRssBytes : UInt64
  deriving DecidableEq

structure AttemptResourceComparison where
  unit : String
  baseline : Option AttemptResourceValues
  candidate : Option AttemptResourceValues
  cpuTimeMicros : Option MetricComparison
  peakRssBytes : Option MetricComparison
  deriving DecidableEq

structure EvidenceComparison where
  format : String
  baseline : BundleIdentity
  candidate : BundleIdentity
  compatible : Bool
  incompatibilities : List String
  measurementContract : Option LlamaMeasurementContract
  environment : List EnvironmentComparison
  requests : Option RequestScopeComparison
  repetitions : Option RepetitionScopeComparison
  attemptResources : Option AttemptResourceComparison
  interpretation : String
  deriving DecidableEq

end Benchplane
