import Benchplane.Library.Json
import Benchplane.Schema.Evidence

/-!
# JSON encodings

What the derived serializers write for each record, field by field, and the two
byte encodings the program uses: `toVec` for digests and JSON lines, `jsonBytes`
for files.  How a finite binary64 number is printed is a parameter.
-/

namespace Benchplane

open Library

/-- The text of a finite `f64`. -/
abbrev FormatFloat := Float64 → String

def RunState.asStr : RunState → String
  | .created => "created"
  | .preparing => "preparing"
  | .running => "running"
  | .collecting => "collecting"
  | .finalizing => "finalizing"
  | .succeeded => "succeeded"
  | .failed => "failed"
  | .interrupted => "interrupted"

def RunState.toJson (state : RunState) : Json := .string state.asStr

def AttemptStatus.toJson : AttemptStatus → Json
  | .created => .string "created"
  | .preparing => .string "preparing"
  | .running => .string "running"
  | .succeeded => .string "succeeded"
  | .failed => .string "failed"
  | .interrupted => .string "interrupted"

def ValidityStatus.toJson : ValidityStatus → Json
  | .valid => .string "valid"
  | .invalid => .string "invalid"
  | .indeterminate => .string "indeterminate"

def FailureRecord.toJson (r : FailureRecord) : Json :=
  .record [("phase", .string r.phase), ("code", .string r.code), ("message", .string r.message),
    ("retryable", .bool r.retryable), ("attemptNumber", .u32 r.attemptNumber)]

def RunRecord.toJson (r : RunRecord) : Json :=
  .record [("runId", .string r.runId), ("runStatus", r.runStatus.toJson),
    ("createdAt", .string r.createdAt), ("updatedAt", .string r.updatedAt),
    ("completedAt", .option .string r.completedAt),
    ("experimentDigest", .string r.experimentDigest),
    ("resolvedPlanDigest", .string r.resolvedPlanDigest),
    ("attemptCount", .u32 r.attemptCount), ("failure", .option FailureRecord.toJson r.failure)]

def AttemptRecord.toJson (r : AttemptRecord) : Json :=
  .record [("runId", .string r.runId), ("attemptNumber", .u32 r.attemptNumber),
    ("status", r.status.toJson), ("startedAt", .string r.startedAt),
    ("updatedAt", .string r.updatedAt), ("completedAt", .option .string r.completedAt),
    ("failure", .option FailureRecord.toJson r.failure)]

def ResourceScope.toJson : ResourceScope → Json
  | .helperProcessLifetime => .string "helperProcessLifetime"

def AttemptResources.toJson (r : AttemptResources) : Json :=
  .record [("format", .string r.format), ("runId", .string r.runId),
    ("attemptNumber", .u32 r.attemptNumber), ("scope", r.scope.toJson),
    ("cpuTimeMicros", .u64 r.cpuTimeMicros), ("peakRssBytes", .u64 r.peakRssBytes)]

def OperatingSystemProvenance.toJson (r : OperatingSystemProvenance) : Json :=
  .record [("family", .string r.family), ("distribution", .option .string r.distribution),
    ("version", .option .string r.version)]

def KernelProvenance.toJson (r : KernelProvenance) : Json :=
  .record [("name", .string r.name), ("release", .option .string r.release)]

def CpuProvenance.toJson (r : CpuProvenance) : Json :=
  .record [("model", .option .string r.model), ("logicalCpuCount", .option .u32 r.logicalCpuCount)]

def PlatformProvenance.toJson (r : PlatformProvenance) : Json :=
  .record [("operatingSystem", r.operatingSystem.toJson), ("kernel", r.kernel.toJson),
    ("architecture", .string r.architecture), ("cpu", r.cpu.toJson)]

def SoftwareComponentProvenance.toJson (r : SoftwareComponentProvenance) : Json :=
  .record [("name", .string r.name), ("version", .string r.version),
    ("nixStorePath", .option .string r.nixStorePath)]

def ModelProvenance.toJson (r : ModelProvenance) : Json :=
  .record [("identity", .string r.identity), ("sha256", .string r.sha256),
    ("nixStorePath", .option .string r.nixStorePath)]

def DeviceClass.toJson : DeviceClass → Json
  | .cpu => .string "cpu"
  | .nvidiaCuda => .string "nvidiaCuda"

def NvidiaOffloadProvenance.toJson (r : NvidiaOffloadProvenance) : Json :=
  .record [("policy", .string r.policy), ("offloadedLayers", .u32 r.offloadedLayers),
    ("totalLayers", .u32 r.totalLayers)]

def NvidiaGpuProvenance.toJson (r : NvidiaGpuProvenance) : Json :=
  .record [("vendor", .string r.vendor), ("deviceName", .string r.deviceName),
    ("logicalDeviceIndex", .u32 r.logicalDeviceIndex), ("totalVramBytes", .u64 r.totalVramBytes),
    ("nvidiaDriverVersion", .string r.nvidiaDriverVersion),
    ("cudaDriverVersion", .string r.cudaDriverVersion),
    ("cudaRuntimeVersion", .string r.cudaRuntimeVersion),
    ("cudaToolkitVersion", .string r.cudaToolkitVersion),
    ("computeCapability", .string r.computeCapability), ("offload", r.offload.toJson)]

/-- `nvidia` is left out when there is none. -/
def BackendProvenance.toJson (r : BackendProvenance) : Json :=
  .record ([("identity", .string r.identity), ("deviceClass", r.deviceClass.toJson),
    ("nixStorePath", .option .string r.nixStorePath)] ++
    match r.nvidia with
    | none => []
    | some gpu => [("nvidia", gpu.toJson)])

def RuntimeProvenance.toJson : RuntimeProvenance → Json
  | .localFake generator =>
      .record [("kind", .string "localFake"), ("generator", .string generator)]
  | .cpuProbe generator =>
      .record [("kind", .string "cpuProbe"), ("generator", .string generator)]
  | .llamaCpp generator engine model backend =>
      .record [("kind", .string "llamaCpp"), ("generator", .string generator),
        ("engine", engine.toJson), ("model", model.toJson), ("backend", backend.toJson)]

def SoftwareProvenance.toJson (r : SoftwareProvenance) : Json :=
  .record [("benchplane", r.benchplane.toJson), ("runtime", r.runtime.toJson)]

def AttemptProvenance.toJson (r : AttemptProvenance) : Json :=
  .record [("format", .string r.format), ("runId", .string r.runId),
    ("attemptNumber", .u32 r.attemptNumber), ("platform", r.platform.toJson),
    ("software", r.software.toJson)]

def LifecycleEvent.toJson (r : LifecycleEvent) : Json :=
  .record [("runId", .string r.runId), ("sequence", .u64 r.sequence),
    ("recordedAt", .string r.recordedAt), ("fromState", .option RunState.toJson r.fromState),
    ("toState", r.toState.toJson), ("attemptNumber", .u32 r.attemptNumber),
    ("failure", .option FailureRecord.toJson r.failure)]

def MeasurementPhase.toJson : MeasurementPhase → Json
  | .warmup => .string "warmup"
  | .measured => .string "measured"

def RequestObservation.toJson (r : RequestObservation) : Json :=
  .record [("requestIndex", .u32 r.requestIndex), ("latencyMicros", .u64 r.latencyMicros),
    ("timeToFirstTokenMicros", .u64 r.timeToFirstTokenMicros)]

/-- `requestObservations` is left out when it is empty. -/
def MeasurementRecord.toJson (r : MeasurementRecord) : Json :=
  .record ([("generator", .string r.generator), ("attemptNumber", .u32 r.attemptNumber),
    ("phase", r.phase.toJson), ("repetitionIndex", .u32 r.repetitionIndex),
    ("sampleIndex", .u32 r.sampleIndex), ("latencyMicros", .u64 r.latencyMicros),
    ("timeToFirstTokenMicros", .u64 r.timeToFirstTokenMicros),
    ("throughputMilliRequestsPerSecond", .u64 r.throughputMilliRequestsPerSecond),
    ("successfulRequests", .u32 r.successfulRequests),
    ("failedRequests", .u32 r.failedRequests)] ++
    if r.requestObservations = [] then []
    else [("requestObservations", .list (r.requestObservations.map RequestObservation.toJson))])

def ValidityReason.toJson (r : ValidityReason) : Json :=
  .record [("code", .string r.code), ("message", .string r.message)]

def ValidityResult.toJson (r : ValidityResult) : Json :=
  .record [("runId", .string r.runId), ("status", r.status.toJson),
    ("requiredSamples", .u32 r.requiredSamples), ("observedSamples", .u32 r.observedSamples),
    ("reasons", .list (r.reasons.map ValidityReason.toJson))]

def LatencySummary.toJson (r : LatencySummary) : Json :=
  .record [("meanMicros", .u64 r.meanMicros), ("p50Micros", .u64 r.p50Micros),
    ("p95Micros", .u64 r.p95Micros)]

def RunSummary.toJson (r : RunSummary) : Json :=
  .record [("runId", .string r.runId), ("runStatus", r.runStatus.toJson),
    ("attemptCount", .u32 r.attemptCount), ("sampleCount", .u32 r.sampleCount),
    ("validityStatus", r.validityStatus.toJson),
    ("latency", .option LatencySummary.toJson r.latency),
    ("meanThroughputMilliRequestsPerSecond",
      .option .u64 r.meanThroughputMilliRequestsPerSecond),
    ("experimentDigest", .string r.experimentDigest),
    ("resolvedPlanDigest", .string r.resolvedPlanDigest)]

def EvidenceManifest.toJson (r : EvidenceManifest) : Json :=
  .record [("format", .string r.format), ("runId", .string r.runId),
    ("runStatus", r.runStatus.toJson), ("validityStatus", r.validityStatus.toJson),
    ("experimentDigest", .string r.experimentDigest),
    ("resolvedPlanDigest", .string r.resolvedPlanDigest),
    ("attemptCount", .u32 r.attemptCount)]

/-! ## The plan -/

def Metadata.toJson (m : Metadata) : Json :=
  .record [("name", .string m.name),
    ("labels", .record (m.labels.entries.map fun label => (label.1, .string label.2)))]

def AwsCapacity.toJson : AwsCapacity → Json
  | .spot => .string "spot"
  | .onDemand => .string "onDemand"

def ProviderSpec.toJson : ProviderSpec → Json
  | .localFake => .record [("kind", .string "localFake")]
  | .local => .record [("kind", .string "local")]
  | .aws region capacity instanceTypes =>
      .record [("kind", .string "aws"), ("region", .string region),
        ("capacity", capacity.toJson), ("instanceTypes", .list (instanceTypes.map .string))]

def LocalFakeScenario.toJson : LocalFakeScenario → Json
  | .success => .string "success"
  | .runtimeFailure => .string "runtimeFailure"
  | .interrupted => .string "interrupted"
  | .insufficientMeasurements => .string "insufficientMeasurements"

/-- `target` is left out when it is `cpu`. -/
def RuntimeSpec.toJson : RuntimeSpec → Json
  | .localFake seed scenario =>
      .record [("kind", .string "localFake"), ("seed", .u64 seed), ("scenario", scenario.toJson)]
  | .cpuProbe outputTokens workUnitsPerToken =>
      .record [("kind", .string "cpuProbe"), ("outputTokens", .u32 outputTokens),
        ("workUnitsPerToken", .u32 workUnitsPerToken)]
  | .llamaCpp target model outputTokens =>
      .record ([("kind", .string "llamaCpp")] ++
        (match target with
          | .cpu => []
          | .nvidiaCuda => [("target", .string "nvidiaCuda")]) ++
        [("model", .string model), ("outputTokens", .u32 outputTokens)])
  | .vllm model revision arguments =>
      .record [("kind", .string "vllm"), ("model", .string model), ("revision", .string revision),
        ("arguments", .list (arguments.map .string))]

def WorkloadSpec.toJson (w : WorkloadSpec) : Json :=
  .record [("profile", .string w.profile), ("requests", .u32 w.requests),
    ("concurrency", .u32 w.concurrency)]

def MeasurementSpec.toJson (m : MeasurementSpec) : Json :=
  .record [("warmupRuns", .u32 m.warmupRuns), ("repetitions", .u32 m.repetitions)]

/-- A number that is not finite is written as `null`. -/
def BudgetSpec.toJson (formatFloat : FormatFloat) (b : BudgetSpec) : Json :=
  .record [("maximumCostUsd",
    if b.maximumCostUsd.isFinite then .number (formatFloat b.maximumCostUsd) else .null)]

def LifecycleSpec.toJson (l : LifecycleSpec) : Json :=
  .record [("maximumRuntimeSeconds", .u64 l.maximumRuntimeSeconds),
    ("destroyOnCompletion", .bool l.destroyOnCompletion)]

def ArtifactSpec.toJson (a : ArtifactSpec) : Json :=
  .record [("public", .bool a.isPublic), ("format", .string a.format)]

def ExperimentSpec.toJson (formatFloat : FormatFloat) (s : ExperimentSpec) : Json :=
  .record [("provider", s.provider.toJson), ("runtime", s.runtime.toJson),
    ("workload", s.workload.toJson), ("measurement", s.measurement.toJson),
    ("budget", s.budget.toJson formatFloat), ("lifecycle", s.lifecycle.toJson),
    ("artifacts", s.artifacts.toJson)]

def Experiment.toJson (formatFloat : FormatFloat) (e : Experiment) : Json :=
  .record [("apiVersion", .string e.apiVersion), ("kind", .string e.kind),
    ("metadata", e.metadata.toJson), ("spec", e.spec.toJson formatFloat)]

def ResolvedExperiment.toJson (formatFloat : FormatFloat) (p : ResolvedExperiment) : Json :=
  .record [("apiVersion", .string p.apiVersion), ("kind", .string p.kind),
    ("experiment", p.experiment.toJson formatFloat),
    ("experimentDigest", .string p.experimentDigest),
    ("resolvedPlanDigest", .string p.resolvedPlanDigest)]

/-! ## Bytes -/

/-- `serde_json::to_vec`. -/
def toVec (value : Json) : Bytes := utf8 value.compact

/-- `json_bytes`: the pretty text and a newline. -/
def jsonBytes (value : Json) : Bytes := utf8 (value.pretty 0 ++ "\n")

/-- What `append_json_line` adds to a file. -/
def jsonLine (value : Json) : Bytes := toVec value ++ utf8 "\n"

end Benchplane
