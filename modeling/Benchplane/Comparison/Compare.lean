import Benchplane.Evidence.PanicSites
import Benchplane.Run.RunError
import Benchplane.Schema.Comparison

/-!
# Comparison of two bundles

`compare_evidence_bundles`: two bundles are verified, each must be eligible, and what
they measure must agree.  The statistics of compatible bundles are compared as
integers.  An `expect` of the source and an operation that has no result are panics.
-/

namespace Benchplane

open Library Library.Panicking

inductive ComparisonError where
  | invalidEvidence (role : String) (source : EvidenceError)
  | ineligible (role reason : String)
  | sameRun

def ComparisonError.text : ComparisonError → String
  | .invalidEvidence role source => role ++ " evidence bundle is invalid: " ++ source.text
  | .ineligible role reason =>
      role ++ " evidence bundle is not comparison-eligible: " ++ reason
  | .sameRun => "baseline and candidate must be distinct Benchplane runs"

def descriptiveNote : String :=
  "Descriptive only: requests and repetitions within each run share one initialized " ++
    "helper/model lifetime; no significance, independence, causality, or cross-host " ++
    "equivalence is claimed."

/-! ## The contract -/

/-- `ineligible`. -/
def ineligible {α : Type} (role reason : String) : Except ComparisonError α :=
  .error (.ineligible role reason)

/-- `eligible_contract`. -/
def eligibleContract (role : String) (bundle : VerifiedEvidenceBundle) :
    Except ComparisonError LlamaMeasurementContract := do
  let spec := bundle.plan.experiment.spec
  rejectIf (bundle.manifest.runStatus ≠ .succeeded ∨ bundle.manifest.validityStatus ≠ .valid)
    (.ineligible role "requires a successful run with valid measurements")
  match spec.provider, spec.runtime with
  | .local, .llamaCpp target model outputTokens => do
      rejectIf (bundle.measurements.any fun record =>
          record.generator ≠ Schema.llamaCppGeneratorVersion)
        (.ineligible role
          "requires current request-level benchplane-llama-cpp-smollm2/v2 measurements")
      match bundle.provenance with
      | none => ineligible role "requires attempt provenance"
      | some provenance =>
          match provenance.software.runtime with
          | .llamaCpp generator engine provenanceModel backend => do
              rejectIf (generator ≠ Schema.llamaCppGeneratorVersion)
                (.ineligible role "requires current llamaCpp v2 provenance")
              pure
                { provider := "local"
                  runtime := "llamaCpp"
                  target := target
                  generator := generator
                  model := model
                  modelSha256 := provenanceModel.sha256
                  engineName := engine.name
                  engineVersion := engine.version
                  backend := backend.identity
                  deviceClass := backend.deviceClass
                  workloadProfile := spec.workload.profile
                  outputTokens := outputTokens
                  requestsPerRepetition := spec.workload.requests
                  concurrency := spec.workload.concurrency
                  warmupRuns := spec.measurement.warmupRuns
                  measuredRepetitions := spec.measurement.repetitions }
          | .localFake _ | .cpuProbe _ => ineligible role "requires llamaCpp attempt provenance"
  | _, _ => ineligible role "requires the local llamaCpp runtime"

/-- Name a field that differs. -/
def reportDifference {α : Type} [DecidableEq α] (name : String) (baseline candidate : α) :
    List String :=
  if baseline ≠ candidate then [name] else []

/-- `contract_differences`. -/
def contractDifferences (baseline candidate : LlamaMeasurementContract) : List String :=
  reportDifference "provider" baseline.provider candidate.provider ++
  reportDifference "runtime" baseline.runtime candidate.runtime ++
  reportDifference "target" baseline.target candidate.target ++
  reportDifference "generator" baseline.generator candidate.generator ++
  reportDifference "model" baseline.model candidate.model ++
  reportDifference "modelSha256" baseline.modelSha256 candidate.modelSha256 ++
  reportDifference "engineName" baseline.engineName candidate.engineName ++
  reportDifference "engineVersion" baseline.engineVersion candidate.engineVersion ++
  reportDifference "backend" baseline.backend candidate.backend ++
  reportDifference "deviceClass" baseline.deviceClass candidate.deviceClass ++
  reportDifference "workloadProfile" baseline.workloadProfile candidate.workloadProfile ++
  reportDifference "outputTokens" baseline.outputTokens candidate.outputTokens ++
  reportDifference "requestsPerRepetition" baseline.requestsPerRepetition
    candidate.requestsPerRepetition ++
  reportDifference "concurrency" baseline.concurrency candidate.concurrency ++
  reportDifference "warmupRuns" baseline.warmupRuns candidate.warmupRuns ++
  reportDifference "measuredRepetitions" baseline.measuredRepetitions
    candidate.measuredRepetitions

/-- `bundle_identity`. -/
def bundleIdentity (bundle : VerifiedEvidenceBundle) : BundleIdentity where
  bundlePath := displayPath bundle.root.path
  runId := bundle.manifest.runId
  experimentDigest := bundle.manifest.experimentDigest
  resolvedPlanDigest := bundle.manifest.resolvedPlanDigest

/-! ## Metrics -/

/-- `compare_metric`.  The quotient is cut towards zero. -/
def compareMetric (baseline candidate : UInt64) : Option MetricComparison := do
  let absoluteDelta ← signed 128 (candidate.toNat - baseline.toNat)
  let percentage ←
    if baseline = 0 then pure none
    else do
      let scaled ← signed 128 (absoluteDelta * 100000)
      let percentage ← signedQuotient 128 scaled baseline.toNat
      pure (some percentage)
  pure ⟨baseline, candidate, ⟨absoluteDelta, percentage⟩⟩

/-- `compare_distribution`. -/
def compareDistribution (baseline candidate : List UInt64) : Option DistributionComparison := do
  let baseline ← (Machine.describeMicros baseline).join
  let candidate ← (Machine.describeMicros candidate).join
  let mean ← compareMetric baseline.meanMicros candidate.meanMicros
  let p50 ← compareMetric baseline.p50Micros candidate.p50Micros
  let p95 ← compareMetric baseline.p95Micros candidate.p95Micros
  pure ⟨baseline, candidate, mean, p50, p95⟩

/-- `request_values`: latencies and times to the first token. -/
def requestValues (bundle : VerifiedEvidenceBundle) : List UInt64 × List UInt64 :=
  let observations := (measuredRecords bundle.measurements).flatMap (·.requestObservations)
  (observations.map (·.latencyMicros), observations.map (·.timeToFirstTokenMicros))

/-- `compare_requests`. -/
def compareRequests (baseline candidate : VerifiedEvidenceBundle) :
    Option RequestScopeComparison := do
  let (baselineLatency, baselineTtft) := requestValues baseline
  let (candidateLatency, candidateTtft) := requestValues candidate
  let latencyMicros ← compareDistribution baselineLatency candidateLatency
  let timeToFirstTokenMicros ← compareDistribution baselineTtft candidateTtft
  pure
    { unit := "measuredRequest"
      baselineCount := UInt64.ofNat baselineLatency.length
      candidateCount := UInt64.ofNat candidateLatency.length
      latencyMicros := latencyMicros
      timeToFirstTokenMicros := timeToFirstTokenMicros }

/-- `repetition_values`: latencies, times to the first token and throughputs. -/
def repetitionValues (bundle : VerifiedEvidenceBundle) :
    List UInt64 × List UInt64 × List UInt64 :=
  let records := measuredRecords bundle.measurements
  (records.map (·.latencyMicros), records.map (·.timeToFirstTokenMicros),
    records.map (·.throughputMilliRequestsPerSecond))

/-- `compare_repetitions`. -/
def compareRepetitions (baseline candidate : VerifiedEvidenceBundle) :
    Option RepetitionScopeComparison := do
  let (baselineLatency, baselineTtft, baselineThroughput) := repetitionValues baseline
  let (candidateLatency, candidateTtft, candidateThroughput) := repetitionValues candidate
  let aggregateLatencyMicros ← compareDistribution baselineLatency candidateLatency
  let aggregateTimeToFirstTokenMicros ← compareDistribution baselineTtft candidateTtft
  let baselineMean ← (Machine.meanU64 baselineThroughput).join
  let candidateMean ← (Machine.meanU64 candidateThroughput).join
  let meanThroughput ← compareMetric baselineMean candidateMean
  pure
    { unit := "measuredRepetitionAggregate"
      baselineCount := UInt64.ofNat baselineLatency.length
      candidateCount := UInt64.ofNat candidateLatency.length
      aggregateLatencyMicros := aggregateLatencyMicros
      aggregateTimeToFirstTokenMicros := aggregateTimeToFirstTokenMicros
      meanThroughputMilliRequestsPerSecond := meanThroughput }

/-- `resource_values`. -/
def resourceValues (resources : AttemptResources) : AttemptResourceValues :=
  ⟨resources.scope, resources.cpuTimeMicros, resources.peakRssBytes⟩

/-- The metrics of two resource records, when there are two. -/
def compareResourceMetrics (baseline candidate : Option AttemptResources) :
    Option (Option MetricComparison × Option MetricComparison) :=
  match baseline, candidate with
  | some baseline, some candidate => do
      let cpuTimeMicros ← compareMetric baseline.cpuTimeMicros candidate.cpuTimeMicros
      let peakRssBytes ← compareMetric baseline.peakRssBytes candidate.peakRssBytes
      pure (some cpuTimeMicros, some peakRssBytes)
  | none, _ | _, none => pure (none, none)

/-- `compare_resources`. -/
def compareResources (baseline candidate : Option AttemptResources) :
    Option (Option AttemptResourceComparison) :=
  if baseline = none ∧ candidate = none then pure none
  else do
    let (cpuTimeMicros, peakRssBytes) ← compareResourceMetrics baseline candidate
    pure (some
      { unit := "helperProcessLifetime"
        baseline := baseline.map resourceValues
        candidate := candidate.map resourceValues
        cpuTimeMicros := cpuTimeMicros
        peakRssBytes := peakRssBytes })

/-! ## Environment -/

/-- `environment_field`. -/
def environmentField (field : String) (baseline candidate : Option String) :
    EnvironmentComparison where
  field := field
  baseline := baseline
  candidate := candidate
  relationship :=
    match baseline, candidate with
    | some baseline, some candidate => if baseline = candidate then .same else .different
    | none, _ | _, none => .unknown

/-- The fields of the platform and of the program itself. -/
def compareHosts (baseline candidate : AttemptProvenance) : List EnvironmentComparison :=
  let count (provenance : AttemptProvenance) : Option String :=
    provenance.platform.cpu.logicalCpuCount.map fun value => value.toNat.repr
  [environmentField "platform.architecture" (some baseline.platform.architecture)
      (some candidate.platform.architecture),
    environmentField "platform.cpu.model" baseline.platform.cpu.model candidate.platform.cpu.model,
    environmentField "platform.cpu.logicalCpuCount" (count baseline) (count candidate),
    environmentField "platform.operatingSystem.family"
      (some baseline.platform.operatingSystem.family)
      (some candidate.platform.operatingSystem.family),
    environmentField "platform.operatingSystem.distribution"
      baseline.platform.operatingSystem.distribution
      candidate.platform.operatingSystem.distribution,
    environmentField "platform.operatingSystem.version" baseline.platform.operatingSystem.version
      candidate.platform.operatingSystem.version,
    environmentField "platform.kernel.name" (some baseline.platform.kernel.name)
      (some candidate.platform.kernel.name),
    environmentField "platform.kernel.release" baseline.platform.kernel.release
      candidate.platform.kernel.release,
    environmentField "software.benchplane.version" (some baseline.software.benchplane.version)
      (some candidate.software.benchplane.version),
    environmentField "software.benchplane.nixStorePath" baseline.software.benchplane.nixStorePath
      candidate.software.benchplane.nixStorePath]

/-- The text of an offload. -/
def offloadText (offload : NvidiaOffloadProvenance) : String :=
  offload.policy ++ ":" ++ offload.offloadedLayers.toNat.repr ++ "/" ++
    offload.totalLayers.toNat.repr

/-- The fields of two devices. -/
def compareDevices (baseline candidate : NvidiaGpuProvenance) : List EnvironmentComparison :=
  [environmentField "software.runtime.backend.nvidia.deviceName" (some baseline.deviceName)
      (some candidate.deviceName),
    environmentField "software.runtime.backend.nvidia.totalVramBytes"
      (some baseline.totalVramBytes.toNat.repr) (some candidate.totalVramBytes.toNat.repr),
    environmentField "software.runtime.backend.nvidia.nvidiaDriverVersion"
      (some baseline.nvidiaDriverVersion) (some candidate.nvidiaDriverVersion),
    environmentField "software.runtime.backend.nvidia.cudaDriverVersion"
      (some baseline.cudaDriverVersion) (some candidate.cudaDriverVersion),
    environmentField "software.runtime.backend.nvidia.cudaRuntimeVersion"
      (some baseline.cudaRuntimeVersion) (some candidate.cudaRuntimeVersion),
    environmentField "software.runtime.backend.nvidia.cudaToolkitVersion"
      (some baseline.cudaToolkitVersion) (some candidate.cudaToolkitVersion),
    environmentField "software.runtime.backend.nvidia.computeCapability"
      (some baseline.computeCapability) (some candidate.computeCapability),
    environmentField "software.runtime.backend.nvidia.offload"
      (some (offloadText baseline.offload)) (some (offloadText candidate.offload))]

/-- The devices of two backends, when either names one. -/
def compareBackendDevices (baseline candidate : Option NvidiaGpuProvenance) :
    List EnvironmentComparison :=
  match baseline, candidate with
  | some baseline, some candidate => compareDevices baseline candidate
  | none, none => []
  | some _, none | none, some _ =>
      [{ field := "software.runtime.backend.nvidia"
         baseline := baseline.map fun _ => "present"
         candidate := candidate.map fun _ => "present"
         relationship := .unknown }]

/-- `compare_environment`. -/
def compareEnvironment (baseline candidate : AttemptProvenance) : List EnvironmentComparison :=
  compareHosts baseline candidate ++
    match baseline.software.runtime, candidate.software.runtime with
    | .llamaCpp _ baselineEngine baselineModel baselineBackend,
      .llamaCpp _ candidateEngine candidateModel candidateBackend =>
        [environmentField "software.runtime.engine.nixStorePath" baselineEngine.nixStorePath
            candidateEngine.nixStorePath,
          environmentField "software.runtime.model.nixStorePath" baselineModel.nixStorePath
            candidateModel.nixStorePath,
          environmentField "software.runtime.backend.nixStorePath" baselineBackend.nixStorePath
            candidateBackend.nixStorePath] ++
          compareBackendDevices baselineBackend.nvidia candidateBackend.nvidia
    | _, _ => []

/-! ## The comparison -/

/-- The sections that only compatible bundles have. -/
def compareSections (compatible : Bool) (baseline candidate : VerifiedEvidenceBundle) :
    Option (Option RequestScopeComparison × Option RepetitionScopeComparison ×
      Option AttemptResourceComparison) :=
  if compatible then do
    let requests ← compareRequests baseline candidate
    let repetitions ← compareRepetitions baseline candidate
    let attemptResources ← compareResources baseline.resources candidate.resources
    pure (some requests, some repetitions, attemptResources)
  else pure (none, none, none)

/-- `compare_evidence_bundles` after both bundles are verified. -/
def compareVerified (baseline candidate : VerifiedEvidenceBundle) :
    Panicking ComparisonError EvidenceComparison := do
  returns (rejectIf (baseline.manifest.runId = candidate.manifest.runId) .sameRun)
  let baselineContract ← returns (eligibleContract "baseline" baseline)
  let candidateContract ← returns (eligibleContract "candidate" candidate)
  let incompatibilities := contractDifferences baselineContract candidateContract
  let compatible := incompatibilities.isEmpty
  let baselineProvenance ← demand baseline.provenance
  let candidateProvenance ← demand candidate.provenance
  let (requests, repetitions, attemptResources) ←
    demand (compareSections compatible baseline candidate)
  pure
    { format := Schema.evidenceComparisonFormatV1
      baseline := bundleIdentity baseline
      candidate := bundleIdentity candidate
      compatible := compatible
      incompatibilities := incompatibilities
      measurementContract := if compatible then some baselineContract else none
      environment := compareEnvironment baselineProvenance candidateProvenance
      requests := requests
      repetitions := repetitions
      attemptResources := attemptResources
      interpretation := descriptiveNote }

/-- `compare_evidence_bundles`. -/
def compareEvidenceBundles (codec : Codec) (disk : FileTree)
    (baselinePath candidatePath : List FileName) :
    Panicking ComparisonError EvidenceComparison := do
  let baseline ← rewriteFailure (.invalidEvidence "baseline")
    (Machine.verifyEvidenceBundleAt codec baselinePath disk)
  let candidate ← rewriteFailure (.invalidEvidence "candidate")
    (Machine.verifyEvidenceBundleAt codec candidatePath disk)
  compareVerified baseline candidate

end Benchplane
