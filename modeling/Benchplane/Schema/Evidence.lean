import Benchplane.Schema.Experiment

/-!
# Evidence records

The records of an evidence bundle, as the schema crate declares them.
-/

namespace Benchplane

namespace Schema

def attemptProvenanceFormatV1 : String := "benchplane-attempt-provenance/v1"
def attemptResourcesFormatV1 : String := "benchplane-attempt-resources/v1"
def benchplaneSoftwareName : String := "benchplane"
def llamaCppEngineName : String := "llama.cpp"
def llamaCppEngineVersion : String := "b10133"
def llamaCppModelSha256 : String :=
  "sha256:55aa88ddac43adce6af0e9be8d6cdff2337a3835cd9b50bbcd7a894eb66dfc75"
def llamaCppBackendIdentity : String := "nixpkgs-llama-cpp-cpu-only-dynamic/v1"
def llamaCppCudaBackendIdentity : String := "nixpkgs-llama-cpp-nvidia-cuda-dynamic/v1"

def errorLocalFakeRuntimeFailure : String := "localFake.runtimeFailure"
def errorLocalFakeInterrupted : String := "localFake.interrupted"
def errorEvidenceFinalizationFailed : String := "evidence.finalizationFailed"
def errorIoOperationFailed : String := "io.operationFailed"
def errorExecutionUnsupportedCombination : String := "execution.unsupportedCombination"
def errorCpuProbeSpawnFailed : String := "cpuProbe.spawnFailed"
def errorCpuProbeExitFailed : String := "cpuProbe.exitFailed"
def errorCpuProbeOutputInvalid : String := "cpuProbe.outputInvalid"
def errorCpuProbeDeadlineExceeded : String := "cpuProbe.deadlineExceeded"
def errorCpuProbeResourceAccountingFailed : String := "cpuProbe.resourceAccountingFailed"
def errorLlamaCppSpawnFailed : String := "llamaCpp.spawnFailed"
def errorLlamaCppModelInitFailed : String := "llamaCpp.modelInitFailed"
def errorLlamaCppExitFailed : String := "llamaCpp.exitFailed"
def errorLlamaCppOutputInvalid : String := "llamaCpp.outputInvalid"
def errorLlamaCppDeadlineExceeded : String := "llamaCpp.deadlineExceeded"
def errorLlamaCppResourceAccountingFailed : String := "llamaCpp.resourceAccountingFailed"

end Schema

inductive RunState where
  | created
  | preparing
  | running
  | collecting
  | finalizing
  | succeeded
  | failed
  | interrupted
  deriving DecidableEq

def RunState.isTerminal : RunState → Bool
  | .succeeded | .failed | .interrupted => true
  | .created | .preparing | .running | .collecting | .finalizing => false

inductive AttemptStatus where
  | created
  | preparing
  | running
  | succeeded
  | failed
  | interrupted
  deriving DecidableEq

inductive ValidityStatus where
  | valid
  | invalid
  | indeterminate
  deriving DecidableEq

structure FailureRecord where
  phase : String
  code : String
  message : String
  retryable : Bool
  attemptNumber : UInt32
  deriving DecidableEq

structure RunRecord where
  runId : String
  runStatus : RunState
  createdAt : String
  updatedAt : String
  completedAt : Option String
  experimentDigest : String
  resolvedPlanDigest : String
  attemptCount : UInt32
  failure : Option FailureRecord
  deriving DecidableEq

structure AttemptRecord where
  runId : String
  attemptNumber : UInt32
  status : AttemptStatus
  startedAt : String
  updatedAt : String
  completedAt : Option String
  failure : Option FailureRecord
  deriving DecidableEq

inductive ResourceScope where
  | helperProcessLifetime
  deriving DecidableEq

structure ProcessResources where
  cpuTimeMicros : UInt64
  peakRssBytes : UInt64
  deriving DecidableEq

structure AttemptResources where
  format : String
  runId : String
  attemptNumber : UInt32
  scope : ResourceScope
  cpuTimeMicros : UInt64
  peakRssBytes : UInt64
  deriving DecidableEq

structure OperatingSystemProvenance where
  family : String
  distribution : Option String
  version : Option String
  deriving DecidableEq

structure KernelProvenance where
  name : String
  release : Option String
  deriving DecidableEq

structure CpuProvenance where
  model : Option String
  logicalCpuCount : Option UInt32
  deriving DecidableEq

structure PlatformProvenance where
  operatingSystem : OperatingSystemProvenance
  kernel : KernelProvenance
  architecture : String
  cpu : CpuProvenance
  deriving DecidableEq

structure SoftwareComponentProvenance where
  name : String
  version : String
  nixStorePath : Option String
  deriving DecidableEq

structure ModelProvenance where
  identity : String
  sha256 : String
  nixStorePath : Option String
  deriving DecidableEq

inductive DeviceClass where
  | cpu
  | nvidiaCuda
  deriving DecidableEq

structure NvidiaOffloadProvenance where
  policy : String
  offloadedLayers : UInt32
  totalLayers : UInt32
  deriving DecidableEq

structure NvidiaGpuProvenance where
  vendor : String
  deviceName : String
  logicalDeviceIndex : UInt32
  totalVramBytes : UInt64
  nvidiaDriverVersion : String
  cudaDriverVersion : String
  cudaRuntimeVersion : String
  cudaToolkitVersion : String
  computeCapability : String
  offload : NvidiaOffloadProvenance
  deriving DecidableEq

structure BackendProvenance where
  identity : String
  deviceClass : DeviceClass
  nixStorePath : Option String
  nvidia : Option NvidiaGpuProvenance
  deriving DecidableEq

inductive RuntimeProvenance where
  | localFake (generator : String)
  | cpuProbe (generator : String)
  | llamaCpp (generator : String) (engine : SoftwareComponentProvenance)
      (model : ModelProvenance) (backend : BackendProvenance)
  deriving DecidableEq

structure SoftwareProvenance where
  benchplane : SoftwareComponentProvenance
  runtime : RuntimeProvenance
  deriving DecidableEq

structure AttemptProvenance where
  format : String
  runId : String
  attemptNumber : UInt32
  platform : PlatformProvenance
  software : SoftwareProvenance
  deriving DecidableEq

structure LifecycleEvent where
  runId : String
  sequence : UInt64
  recordedAt : String
  fromState : Option RunState
  toState : RunState
  attemptNumber : UInt32
  failure : Option FailureRecord
  deriving DecidableEq

inductive MeasurementPhase where
  | warmup
  | measured
  deriving DecidableEq

structure RequestObservation where
  requestIndex : UInt32
  latencyMicros : UInt64
  timeToFirstTokenMicros : UInt64
  deriving DecidableEq

structure MeasurementRecord where
  generator : String
  attemptNumber : UInt32
  phase : MeasurementPhase
  repetitionIndex : UInt32
  sampleIndex : UInt32
  latencyMicros : UInt64
  timeToFirstTokenMicros : UInt64
  throughputMilliRequestsPerSecond : UInt64
  successfulRequests : UInt32
  failedRequests : UInt32
  requestObservations : List RequestObservation
  deriving DecidableEq

/-- A measured record of one request. -/
def MeasurementRecord.sample (generator : String) (latencyMicros : UInt64)
    (observations : List RequestObservation) : MeasurementRecord where
  generator := generator
  attemptNumber := 1
  phase := .measured
  repetitionIndex := 1
  sampleIndex := 1
  latencyMicros := latencyMicros
  timeToFirstTokenMicros := 1
  throughputMilliRequestsPerSecond := 1
  successfulRequests := 1
  failedRequests := 0
  requestObservations := observations

/-- The records of a warm-up and two repetitions of two requests: latencies, first tokens and
observations. -/
def MeasurementRecord.repeated (generator : String)
    (aggregates : List (UInt64 × UInt64 × List RequestObservation)) : List MeasurementRecord :=
  (aggregates.zip [(MeasurementPhase.warmup, 1), (.measured, 1), (.measured, 2)]).map
    fun ((latency, firstToken, observations), phase, repetitionIndex) =>
      ⟨generator, 1, phase, repetitionIndex, 1, latency, firstToken, 1, 2, 0, observations⟩

structure ValidityReason where
  code : String
  message : String
  deriving DecidableEq

structure ValidityResult where
  runId : String
  status : ValidityStatus
  requiredSamples : UInt32
  observedSamples : UInt32
  reasons : List ValidityReason
  deriving DecidableEq

structure LatencySummary where
  meanMicros : UInt64
  p50Micros : UInt64
  p95Micros : UInt64
  deriving DecidableEq

structure RunSummary where
  runId : String
  runStatus : RunState
  attemptCount : UInt32
  sampleCount : UInt32
  validityStatus : ValidityStatus
  latency : Option LatencySummary
  meanThroughputMilliRequestsPerSecond : Option UInt64
  experimentDigest : String
  resolvedPlanDigest : String
  deriving DecidableEq

structure EvidenceManifest where
  format : String
  runId : String
  runStatus : RunState
  validityStatus : ValidityStatus
  experimentDigest : String
  resolvedPlanDigest : String
  attemptCount : UInt32
  deriving DecidableEq

/-- What `run` returns.  The bundle path is kept as bytes. -/
structure RunResult where
  runId : String
  runState : RunState
  validityStatus : ValidityStatus
  attemptCount : UInt32
  sampleCount : UInt32
  latency : Option LatencySummary
  meanThroughputMilliRequestsPerSecond : Option UInt64
  resources : Option ProcessResources
  bundlePath : Library.Bytes
  experimentDigest : String
  resolvedPlanDigest : String
  evidenceDigest : String
  failure : Option FailureRecord
  deriving DecidableEq

end Benchplane
