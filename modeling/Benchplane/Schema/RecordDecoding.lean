import Benchplane.Disk
import Benchplane.Evidence.RecordFiles
import Benchplane.PlanIdentity

/-!
# JSON decodings of the records

What the derived deserializers read for the records of a bundle: camel case names, no
unknown fields, enumerations by name, the runtime by its `kind`, and `None` for an
optional field that is absent or `null`.  Every record that has been written is read back.
-/

namespace Benchplane

open Library Library.Json

/-! ## Decoders -/

def RunState.ofJson (value : Json) : Option RunState :=
  match variantName value with
  | some "created" => some .created
  | some "preparing" => some .preparing
  | some "running" => some .running
  | some "collecting" => some .collecting
  | some "finalizing" => some .finalizing
  | some "succeeded" => some .succeeded
  | some "failed" => some .failed
  | some "interrupted" => some .interrupted
  | _ => none

def AttemptStatus.ofJson (value : Json) : Option AttemptStatus :=
  match variantName value with
  | some "created" => some .created
  | some "preparing" => some .preparing
  | some "running" => some .running
  | some "succeeded" => some .succeeded
  | some "failed" => some .failed
  | some "interrupted" => some .interrupted
  | _ => none

def ValidityStatus.ofJson (value : Json) : Option ValidityStatus :=
  match variantName value with
  | some "valid" => some .valid
  | some "invalid" => some .invalid
  | some "indeterminate" => some .indeterminate
  | _ => none

def MeasurementPhase.ofJson (value : Json) : Option MeasurementPhase :=
  match variantName value with
  | some "warmup" => some .warmup
  | some "measured" => some .measured
  | _ => none

def ResourceScope.ofJson (value : Json) : Option ResourceScope :=
  match variantName value with
  | some "helperProcessLifetime" => some .helperProcessLifetime
  | _ => none

def DeviceClass.ofJson (value : Json) : Option DeviceClass :=
  match variantName value with
  | some "cpu" => some .cpu
  | some "nvidiaCuda" => some .nvidiaCuda
  | _ => none

def FailureRecord.ofJson (value : Json) : Option FailureRecord := do
  let fields ← recordFields ["phase", "code", "message", "retryable", "attemptNumber"] value
  let phase ← required fields "phase" decodeString
  let code ← required fields "code" decodeString
  let message ← required fields "message" decodeString
  let retryable ← required fields "retryable" decodeBool
  let attemptNumber ← required fields "attemptNumber" decodeU32
  pure ⟨phase, code, message, retryable, attemptNumber⟩

def RunRecord.ofJson (value : Json) : Option RunRecord := do
  let fields ← recordFields ["runId", "runStatus", "createdAt", "updatedAt", "completedAt",
    "experimentDigest", "resolvedPlanDigest", "attemptCount", "failure"] value
  let runId ← required fields "runId" decodeString
  let runStatus ← required fields "runStatus" RunState.ofJson
  let createdAt ← required fields "createdAt" decodeString
  let updatedAt ← required fields "updatedAt" decodeString
  let completedAt ← nullable fields "completedAt" decodeString
  let experimentDigest ← required fields "experimentDigest" decodeString
  let resolvedPlanDigest ← required fields "resolvedPlanDigest" decodeString
  let attemptCount ← required fields "attemptCount" decodeU32
  let failure ← nullable fields "failure" FailureRecord.ofJson
  pure ⟨runId, runStatus, createdAt, updatedAt, completedAt, experimentDigest, resolvedPlanDigest,
    attemptCount, failure⟩

def AttemptRecord.ofJson (value : Json) : Option AttemptRecord := do
  let fields ← recordFields ["runId", "attemptNumber", "status", "startedAt", "updatedAt",
    "completedAt", "failure"] value
  let runId ← required fields "runId" decodeString
  let attemptNumber ← required fields "attemptNumber" decodeU32
  let status ← required fields "status" AttemptStatus.ofJson
  let startedAt ← required fields "startedAt" decodeString
  let updatedAt ← required fields "updatedAt" decodeString
  let completedAt ← nullable fields "completedAt" decodeString
  let failure ← nullable fields "failure" FailureRecord.ofJson
  pure ⟨runId, attemptNumber, status, startedAt, updatedAt, completedAt, failure⟩

def AttemptResources.ofJson (value : Json) : Option AttemptResources := do
  let fields ← recordFields ["format", "runId", "attemptNumber", "scope", "cpuTimeMicros",
    "peakRssBytes"] value
  let format ← required fields "format" decodeString
  let runId ← required fields "runId" decodeString
  let attemptNumber ← required fields "attemptNumber" decodeU32
  let scope ← required fields "scope" ResourceScope.ofJson
  let cpuTimeMicros ← required fields "cpuTimeMicros" decodeU64
  let peakRssBytes ← required fields "peakRssBytes" decodeU64
  pure ⟨format, runId, attemptNumber, scope, cpuTimeMicros, peakRssBytes⟩

def OperatingSystemProvenance.ofJson (value : Json) : Option OperatingSystemProvenance := do
  let fields ← recordFields ["family", "distribution", "version"] value
  let family ← required fields "family" decodeString
  let distribution ← nullable fields "distribution" decodeString
  let version ← nullable fields "version" decodeString
  pure ⟨family, distribution, version⟩

def KernelProvenance.ofJson (value : Json) : Option KernelProvenance := do
  let fields ← recordFields ["name", "release"] value
  let name ← required fields "name" decodeString
  let release ← nullable fields "release" decodeString
  pure ⟨name, release⟩

def CpuProvenance.ofJson (value : Json) : Option CpuProvenance := do
  let fields ← recordFields ["model", "logicalCpuCount"] value
  let model ← nullable fields "model" decodeString
  let logicalCpuCount ← nullable fields "logicalCpuCount" decodeU32
  pure ⟨model, logicalCpuCount⟩

def PlatformProvenance.ofJson (value : Json) : Option PlatformProvenance := do
  let fields ← recordFields ["operatingSystem", "kernel", "architecture", "cpu"] value
  let operatingSystem ← required fields "operatingSystem" OperatingSystemProvenance.ofJson
  let kernel ← required fields "kernel" KernelProvenance.ofJson
  let architecture ← required fields "architecture" decodeString
  let cpu ← required fields "cpu" CpuProvenance.ofJson
  pure ⟨operatingSystem, kernel, architecture, cpu⟩

def SoftwareComponentProvenance.ofJson (value : Json) : Option SoftwareComponentProvenance := do
  let fields ← recordFields ["name", "version", "nixStorePath"] value
  let name ← required fields "name" decodeString
  let version ← required fields "version" decodeString
  let nixStorePath ← nullable fields "nixStorePath" decodeString
  pure ⟨name, version, nixStorePath⟩

def ModelProvenance.ofJson (value : Json) : Option ModelProvenance := do
  let fields ← recordFields ["identity", "sha256", "nixStorePath"] value
  let identity ← required fields "identity" decodeString
  let sha256 ← required fields "sha256" decodeString
  let nixStorePath ← nullable fields "nixStorePath" decodeString
  pure ⟨identity, sha256, nixStorePath⟩

def NvidiaOffloadProvenance.ofJson (value : Json) : Option NvidiaOffloadProvenance := do
  let fields ← recordFields ["policy", "offloadedLayers", "totalLayers"] value
  let policy ← required fields "policy" decodeString
  let offloadedLayers ← required fields "offloadedLayers" decodeU32
  let totalLayers ← required fields "totalLayers" decodeU32
  pure ⟨policy, offloadedLayers, totalLayers⟩

def NvidiaGpuProvenance.ofJson (value : Json) : Option NvidiaGpuProvenance := do
  let fields ← recordFields ["vendor", "deviceName", "logicalDeviceIndex", "totalVramBytes",
    "nvidiaDriverVersion", "cudaDriverVersion", "cudaRuntimeVersion", "cudaToolkitVersion",
    "computeCapability", "offload"] value
  let vendor ← required fields "vendor" decodeString
  let deviceName ← required fields "deviceName" decodeString
  let logicalDeviceIndex ← required fields "logicalDeviceIndex" decodeU32
  let totalVramBytes ← required fields "totalVramBytes" decodeU64
  let nvidiaDriverVersion ← required fields "nvidiaDriverVersion" decodeString
  let cudaDriverVersion ← required fields "cudaDriverVersion" decodeString
  let cudaRuntimeVersion ← required fields "cudaRuntimeVersion" decodeString
  let cudaToolkitVersion ← required fields "cudaToolkitVersion" decodeString
  let computeCapability ← required fields "computeCapability" decodeString
  let offload ← required fields "offload" NvidiaOffloadProvenance.ofJson
  pure ⟨vendor, deviceName, logicalDeviceIndex, totalVramBytes, nvidiaDriverVersion,
    cudaDriverVersion, cudaRuntimeVersion, cudaToolkitVersion, computeCapability, offload⟩

def BackendProvenance.ofJson (value : Json) : Option BackendProvenance := do
  let fields ← recordFieldsOr ["nvidia"] ["identity", "deviceClass", "nixStorePath", "nvidia"] value
  let identity ← required fields "identity" decodeString
  let deviceClass ← required fields "deviceClass" DeviceClass.ofJson
  let nixStorePath ← nullable fields "nixStorePath" decodeString
  let nvidia ← nullable fields "nvidia" NvidiaGpuProvenance.ofJson
  pure ⟨identity, deviceClass, nixStorePath, nvidia⟩

def RuntimeProvenance.ofJson (value : Json) : Option RuntimeProvenance := do
  let (kind, content) ← taggedContent "kind" value
  match kind with
  | "localFake" => do
      let fields ← recordFields ["generator"] content
      let generator ← required fields "generator" decodeString
      pure (.localFake generator)
  | "cpuProbe" => do
      let fields ← recordFields ["generator"] content
      let generator ← required fields "generator" decodeString
      pure (.cpuProbe generator)
  | "llamaCpp" => do
      let fields ← recordFields ["generator", "engine", "model", "backend"] content
      let generator ← required fields "generator" decodeString
      let engine ← required fields "engine" SoftwareComponentProvenance.ofJson
      let model ← required fields "model" ModelProvenance.ofJson
      let backend ← required fields "backend" BackendProvenance.ofJson
      pure (.llamaCpp generator engine model backend)
  | _ => none

def SoftwareProvenance.ofJson (value : Json) : Option SoftwareProvenance := do
  let fields ← recordFields ["benchplane", "runtime"] value
  let benchplane ← required fields "benchplane" SoftwareComponentProvenance.ofJson
  let runtime ← required fields "runtime" RuntimeProvenance.ofJson
  pure ⟨benchplane, runtime⟩

def AttemptProvenance.ofJson (value : Json) : Option AttemptProvenance := do
  let fields ← recordFields ["format", "runId", "attemptNumber", "platform", "software"] value
  let format ← required fields "format" decodeString
  let runId ← required fields "runId" decodeString
  let attemptNumber ← required fields "attemptNumber" decodeU32
  let platform ← required fields "platform" PlatformProvenance.ofJson
  let software ← required fields "software" SoftwareProvenance.ofJson
  pure ⟨format, runId, attemptNumber, platform, software⟩

def LifecycleEvent.ofJson (value : Json) : Option LifecycleEvent := do
  let fields ← recordFields ["runId", "sequence", "recordedAt", "fromState", "toState",
    "attemptNumber", "failure"] value
  let runId ← required fields "runId" decodeString
  let sequence ← required fields "sequence" decodeU64
  let recordedAt ← required fields "recordedAt" decodeString
  let fromState ← nullable fields "fromState" RunState.ofJson
  let toState ← required fields "toState" RunState.ofJson
  let attemptNumber ← required fields "attemptNumber" decodeU32
  let failure ← nullable fields "failure" FailureRecord.ofJson
  pure ⟨runId, sequence, recordedAt, fromState, toState, attemptNumber, failure⟩

def RequestObservation.ofJson (value : Json) : Option RequestObservation := do
  let fields ← recordFields ["requestIndex", "latencyMicros", "timeToFirstTokenMicros"] value
  let requestIndex ← required fields "requestIndex" decodeU32
  let latencyMicros ← required fields "latencyMicros" decodeU64
  let timeToFirstTokenMicros ← required fields "timeToFirstTokenMicros" decodeU64
  pure ⟨requestIndex, latencyMicros, timeToFirstTokenMicros⟩

def MeasurementRecord.ofJson (value : Json) : Option MeasurementRecord := do
  let fields ← recordFieldsOr ["requestObservations"] ["generator", "attemptNumber", "phase",
    "repetitionIndex", "sampleIndex", "latencyMicros", "timeToFirstTokenMicros",
    "throughputMilliRequestsPerSecond", "successfulRequests", "failedRequests",
    "requestObservations"] value
  let generator ← required fields "generator" decodeString
  let attemptNumber ← required fields "attemptNumber" decodeU32
  let phase ← required fields "phase" MeasurementPhase.ofJson
  let repetitionIndex ← required fields "repetitionIndex" decodeU32
  let sampleIndex ← required fields "sampleIndex" decodeU32
  let latencyMicros ← required fields "latencyMicros" decodeU64
  let timeToFirstTokenMicros ← required fields "timeToFirstTokenMicros" decodeU64
  let throughput ← required fields "throughputMilliRequestsPerSecond" decodeU64
  let successfulRequests ← required fields "successfulRequests" decodeU32
  let failedRequests ← required fields "failedRequests" decodeU32
  let requestObservations ← defaulted fields "requestObservations"
    (decodeList RequestObservation.ofJson) []
  pure ⟨generator, attemptNumber, phase, repetitionIndex, sampleIndex, latencyMicros,
    timeToFirstTokenMicros, throughput, successfulRequests, failedRequests, requestObservations⟩

def ValidityReason.ofJson (value : Json) : Option ValidityReason := do
  let fields ← recordFields ["code", "message"] value
  let code ← required fields "code" decodeString
  let message ← required fields "message" decodeString
  pure ⟨code, message⟩

def ValidityResult.ofJson (value : Json) : Option ValidityResult := do
  let fields ← recordFields ["runId", "status", "requiredSamples", "observedSamples",
    "reasons"] value
  let runId ← required fields "runId" decodeString
  let status ← required fields "status" ValidityStatus.ofJson
  let requiredSamples ← required fields "requiredSamples" decodeU32
  let observedSamples ← required fields "observedSamples" decodeU32
  let reasons ← required fields "reasons" (decodeList ValidityReason.ofJson)
  pure ⟨runId, status, requiredSamples, observedSamples, reasons⟩

def LatencySummary.ofJson (value : Json) : Option LatencySummary := do
  let fields ← recordFields ["meanMicros", "p50Micros", "p95Micros"] value
  let meanMicros ← required fields "meanMicros" decodeU64
  let p50Micros ← required fields "p50Micros" decodeU64
  let p95Micros ← required fields "p95Micros" decodeU64
  pure ⟨meanMicros, p50Micros, p95Micros⟩

def RunSummary.ofJson (value : Json) : Option RunSummary := do
  let fields ← recordFields ["runId", "runStatus", "attemptCount", "sampleCount",
    "validityStatus", "latency", "meanThroughputMilliRequestsPerSecond", "experimentDigest",
    "resolvedPlanDigest"] value
  let runId ← required fields "runId" decodeString
  let runStatus ← required fields "runStatus" RunState.ofJson
  let attemptCount ← required fields "attemptCount" decodeU32
  let sampleCount ← required fields "sampleCount" decodeU32
  let validityStatus ← required fields "validityStatus" ValidityStatus.ofJson
  let latency ← nullable fields "latency" LatencySummary.ofJson
  let meanThroughput ← nullable fields "meanThroughputMilliRequestsPerSecond" decodeU64
  let experimentDigest ← required fields "experimentDigest" decodeString
  let resolvedPlanDigest ← required fields "resolvedPlanDigest" decodeString
  pure ⟨runId, runStatus, attemptCount, sampleCount, validityStatus, latency, meanThroughput,
    experimentDigest, resolvedPlanDigest⟩

def EvidenceManifest.ofJson (value : Json) : Option EvidenceManifest := do
  let fields ← recordFields ["format", "runId", "runStatus", "validityStatus",
    "experimentDigest", "resolvedPlanDigest", "attemptCount"] value
  let format ← required fields "format" decodeString
  let runId ← required fields "runId" decodeString
  let runStatus ← required fields "runStatus" RunState.ofJson
  let validityStatus ← required fields "validityStatus" ValidityStatus.ofJson
  let experimentDigest ← required fields "experimentDigest" decodeString
  let resolvedPlanDigest ← required fields "resolvedPlanDigest" decodeString
  let attemptCount ← required fields "attemptCount" decodeU32
  pure ⟨format, runId, runStatus, validityStatus, experimentDigest, resolvedPlanDigest,
    attemptCount⟩

/-! ## What has been written is read back -/

@[simp] theorem RunState.ofJson_toJson (state : RunState) : ofJson state.toJson = some state := by
  cases state <;> rfl

@[simp] theorem AttemptStatus.ofJson_toJson (status : AttemptStatus) :
    ofJson status.toJson = some status := by
  cases status <;> rfl

@[simp] theorem ValidityStatus.ofJson_toJson (status : ValidityStatus) :
    ofJson status.toJson = some status := by
  cases status <;> rfl

@[simp] theorem MeasurementPhase.ofJson_toJson (phase : MeasurementPhase) :
    ofJson phase.toJson = some phase := by
  cases phase <;> rfl

@[simp] theorem ResourceScope.ofJson_toJson (scope : ResourceScope) :
    ofJson scope.toJson = some scope := by
  cases scope
  rfl

@[simp] theorem DeviceClass.ofJson_toJson (deviceClass : DeviceClass) :
    ofJson deviceClass.toJson = some deviceClass := by
  cases deviceClass <;> rfl

theorem FailureRecord.ofJson_toJson (r : FailureRecord) : ofJson r.toJson = some r := by
  rw [ofJson, toJson, recordFields_record (by simp) (by simp)]
  simp

@[simp] theorem FailureRecord.nullable_cons {fields : List (String × Json)} {name : String}
    (failure : Option FailureRecord) :
    nullable ((name, option FailureRecord.toJson failure) :: fields) name FailureRecord.ofJson =
      some failure :=
  nullable_cons_option FailureRecord.ofJson_toJson
    (fun r => by simp [FailureRecord.toJson, record]) failure

theorem RunRecord.ofJson_toJson (r : RunRecord) : ofJson r.toJson = some r := by
  rw [ofJson, toJson, recordFields_record (by simp) (by simp)]
  simp

theorem AttemptRecord.ofJson_toJson (r : AttemptRecord) : ofJson r.toJson = some r := by
  rw [ofJson, toJson, recordFields_record (by simp) (by simp)]
  simp

theorem AttemptResources.ofJson_toJson (r : AttemptResources) : ofJson r.toJson = some r := by
  rw [ofJson, toJson, recordFields_record (by simp) (by simp)]
  simp

theorem LifecycleEvent.ofJson_toJson (r : LifecycleEvent) : ofJson r.toJson = some r := by
  have hfrom : ∀ fields : List (String × Json),
      nullable (("fromState", option RunState.toJson r.fromState) :: fields) "fromState"
        RunState.ofJson = some r.fromState := fun fields =>
    nullable_cons_option RunState.ofJson_toJson (fun state => by simp [RunState.toJson]) _
  rw [ofJson, toJson, recordFields_record (by simp) (by simp)]
  simp [hfrom]

theorem RequestObservation.ofJson_toJson (r : RequestObservation) :
    ofJson r.toJson = some r := by
  rw [ofJson, toJson, recordFields_record (by simp) (by simp)]
  simp

/-- The observations that are left out are the default of their field. -/
theorem MeasurementRecord.ofJson_toJson (r : MeasurementRecord) : ofJson r.toJson = some r := by
  have hobservations := decodeList_list RequestObservation.ofJson_toJson r.requestObservations
  obtain ⟨generator, attemptNumber, phase, repetitionIndex, sampleIndex, latencyMicros,
    timeToFirstTokenMicros, throughput, successfulRequests, failedRequests, observations⟩ := r
  rw [ofJson, toJson]
  by_cases hnone : observations = []
  · rw [if_pos hnone, List.append_nil, recordFieldsOr_record (by simp) (by simp)]
    simp [hnone]
  · rw [if_neg hnone]
    simp only [List.cons_append, List.nil_append]
    rw [recordFieldsOr_record (by simp) (by simp)]
    simp [hobservations]

theorem ValidityReason.ofJson_toJson (r : ValidityReason) : ofJson r.toJson = some r := by
  rw [ofJson, toJson, recordFields_record (by simp) (by simp)]
  simp

theorem ValidityResult.ofJson_toJson (r : ValidityResult) : ofJson r.toJson = some r := by
  have hreasons := decodeList_list ValidityReason.ofJson_toJson r.reasons
  rw [ofJson, toJson, recordFields_record (by simp) (by simp)]
  simp [hreasons]

theorem LatencySummary.ofJson_toJson (r : LatencySummary) : ofJson r.toJson = some r := by
  rw [ofJson, toJson, recordFields_record (by simp) (by simp)]
  simp

theorem RunSummary.ofJson_toJson (r : RunSummary) : ofJson r.toJson = some r := by
  have hlatency : ∀ fields : List (String × Json),
      nullable (("latency", option LatencySummary.toJson r.latency) :: fields) "latency"
        LatencySummary.ofJson = some r.latency := fun fields =>
    nullable_cons_option LatencySummary.ofJson_toJson
      (fun latency => by simp [LatencySummary.toJson, record]) _
  rw [ofJson, toJson, recordFields_record (by simp) (by simp)]
  simp [hlatency]

theorem EvidenceManifest.ofJson_toJson (r : EvidenceManifest) : ofJson r.toJson = some r := by
  rw [ofJson, toJson, recordFields_record (by simp) (by simp)]
  simp

/-! ## Provenance -/

@[simp] theorem OperatingSystemProvenance.ofJson_toJson (r : OperatingSystemProvenance) :
    ofJson r.toJson = some r := by
  rw [ofJson, toJson, recordFields_record (by simp) (by simp)]
  simp

@[simp] theorem KernelProvenance.ofJson_toJson (r : KernelProvenance) :
    ofJson r.toJson = some r := by
  rw [ofJson, toJson, recordFields_record (by simp) (by simp)]
  simp

@[simp] theorem CpuProvenance.ofJson_toJson (r : CpuProvenance) : ofJson r.toJson = some r := by
  rw [ofJson, toJson, recordFields_record (by simp) (by simp)]
  simp

@[simp] theorem PlatformProvenance.ofJson_toJson (r : PlatformProvenance) :
    ofJson r.toJson = some r := by
  rw [ofJson, toJson, recordFields_record (by simp) (by simp)]
  simp

@[simp] theorem SoftwareComponentProvenance.ofJson_toJson (r : SoftwareComponentProvenance) :
    ofJson r.toJson = some r := by
  rw [ofJson, toJson, recordFields_record (by simp) (by simp)]
  simp

@[simp] theorem ModelProvenance.ofJson_toJson (r : ModelProvenance) :
    ofJson r.toJson = some r := by
  rw [ofJson, toJson, recordFields_record (by simp) (by simp)]
  simp

@[simp] theorem NvidiaOffloadProvenance.ofJson_toJson (r : NvidiaOffloadProvenance) :
    ofJson r.toJson = some r := by
  rw [ofJson, toJson, recordFields_record (by simp) (by simp)]
  simp

theorem NvidiaGpuProvenance.ofJson_toJson (r : NvidiaGpuProvenance) :
    ofJson r.toJson = some r := by
  rw [ofJson, toJson, recordFields_record (by simp) (by simp)]
  simp

/-- The NVIDIA record that is left out is read as none. -/
@[simp] theorem BackendProvenance.ofJson_toJson (r : BackendProvenance) :
    ofJson r.toJson = some r := by
  obtain ⟨identity, deviceClass, nixStorePath, nvidia⟩ := r
  rw [ofJson, toJson]
  cases nvidia with
  | none =>
      rw [List.append_nil, recordFieldsOr_record (by simp) (by simp)]
      simp
  | some gpu =>
      have hgpu : ∀ fields : List (String × Json),
          nullable (("nvidia", gpu.toJson) :: fields) "nvidia" NvidiaGpuProvenance.ofJson =
            some (some gpu) := fun fields =>
        nullable_cons_option NvidiaGpuProvenance.ofJson_toJson
          (fun r => by simp [NvidiaGpuProvenance.toJson, record]) (some gpu)
      simp only [List.cons_append, List.nil_append]
      rw [recordFieldsOr_record (by simp) (by simp)]
      simp [hgpu]

@[simp] theorem RuntimeProvenance.ofJson_toJson (r : RuntimeProvenance) :
    ofJson r.toJson = some r := by
  cases r with
  | localFake generator =>
      rw [ofJson, toJson, taggedContent_record (by simp)]
      simp only [Option.bind_eq_bind, Option.bind_some]
      rw [recordFields_record (by simp) (by simp)]
      simp
  | cpuProbe generator =>
      rw [ofJson, toJson, taggedContent_record (by simp)]
      simp only [Option.bind_eq_bind, Option.bind_some]
      rw [recordFields_record (by simp) (by simp)]
      simp
  | llamaCpp generator engine model backend =>
      rw [ofJson, toJson, taggedContent_record (by simp)]
      simp only [Option.bind_eq_bind, Option.bind_some]
      rw [recordFields_record (by simp) (by simp)]
      simp

theorem AttemptProvenance.ofJson_toJson (r : AttemptProvenance) : ofJson r.toJson = some r := by
  have hsoftware : SoftwareProvenance.ofJson r.software.toJson = some r.software := by
    rw [SoftwareProvenance.ofJson, SoftwareProvenance.toJson,
      recordFields_record (by simp) (by simp)]
    simp
  rw [ofJson, toJson, recordFields_record (by simp) (by simp)]
  simp [hsoftware]

/-! ## What the records fit -/

section

variable {formatFloat : FormatFloat} {depth : Nat}

@[simp] theorem fits_option_string {value : Option String} :
    (option .string value).Fits (WrittenNumber formatFloat) depth := fits_option fun _ => trivial

@[simp] theorem fits_option_u32 {value : Option UInt32} :
    (option .u32 value).Fits (WrittenNumber formatFloat) depth := fits_option fits_u32

@[simp] theorem fits_option_u64 {value : Option UInt64} :
    (option .u64 value).Fits (WrittenNumber formatFloat) depth := fits_option fits_u64

@[simp] theorem RunState.fits_written (state : RunState) :
    state.toJson.Fits (WrittenNumber formatFloat) depth :=
  trivial

@[simp] theorem FailureRecord.fits_written {failure : Option FailureRecord} :
    (option FailureRecord.toJson failure).Fits (WrittenNumber formatFloat) (depth + 1) :=
  Json.fits_option fun _ => by simp [FailureRecord.toJson, fits_record]

theorem RunRecord.fits_written (r : RunRecord) :
    r.toJson.Fits (WrittenNumber formatFloat) (depth + 2) := by
  simp [RunRecord.toJson, fits_record]

theorem AttemptRecord.fits_written (r : AttemptRecord) :
    r.toJson.Fits (WrittenNumber formatFloat) (depth + 2) := by
  have hstatus : r.status.toJson.Fits (WrittenNumber formatFloat) (depth + 1) := by
    cases r.status <;> trivial
  simp [AttemptRecord.toJson, fits_record, hstatus]

theorem AttemptResources.fits_written (r : AttemptResources) :
    r.toJson.Fits (WrittenNumber formatFloat) (depth + 1) := by
  have hscope : r.scope.toJson.Fits (WrittenNumber formatFloat) depth := by
    cases r.scope
    trivial
  simp [AttemptResources.toJson, fits_record, hscope]

theorem LifecycleEvent.fits_written (r : LifecycleEvent) :
    r.toJson.Fits (WrittenNumber formatFloat) (depth + 2) := by
  have hfrom : (option RunState.toJson r.fromState).Fits (WrittenNumber formatFloat) (depth + 1) :=
    fits_option RunState.fits_written
  simp [LifecycleEvent.toJson, fits_record, hfrom]

theorem MeasurementRecord.fits_written (r : MeasurementRecord) :
    r.toJson.Fits (WrittenNumber formatFloat) (depth + 3) := by
  have hphase : r.phase.toJson.Fits (WrittenNumber formatFloat) (depth + 2) := by
    cases r.phase <;> trivial
  have hobservations : ∀ observation : RequestObservation,
      observation.toJson.Fits (WrittenNumber formatFloat) (depth + 1) := by
    intro observation
    simp [RequestObservation.toJson, fits_record]
  rw [MeasurementRecord.toJson]
  split <;> simp [fits_record, fits_list, hphase, hobservations]

@[simp] theorem ValidityStatus.fits_written (status : ValidityStatus) :
    status.toJson.Fits (WrittenNumber formatFloat) depth := by
  cases status <;> trivial

theorem ValidityResult.fits_written (r : ValidityResult) :
    r.toJson.Fits (WrittenNumber formatFloat) (depth + 3) := by
  simp [ValidityResult.toJson, ValidityReason.toJson, fits_record, fits_list]

theorem RunSummary.fits_written (r : RunSummary) :
    r.toJson.Fits (WrittenNumber formatFloat) (depth + 2) := by
  have hlatency : (option LatencySummary.toJson r.latency).Fits (WrittenNumber formatFloat)
      (depth + 1) :=
    fits_option fun _ => by simp [LatencySummary.toJson, fits_record]
  simp [RunSummary.toJson, fits_record, hlatency]

theorem EvidenceManifest.fits_written (r : EvidenceManifest) :
    r.toJson.Fits (WrittenNumber formatFloat) (depth + 1) := by
  simp [EvidenceManifest.toJson, fits_record]

theorem NvidiaGpuProvenance.fits_written (r : NvidiaGpuProvenance) :
    r.toJson.Fits (WrittenNumber formatFloat) (depth + 2) := by
  simp [NvidiaGpuProvenance.toJson, NvidiaOffloadProvenance.toJson, fits_record]

theorem AttemptProvenance.fits_written (r : AttemptProvenance) :
    r.toJson.Fits (WrittenNumber formatFloat) (depth + 6) := by
  have hplatform : r.platform.toJson.Fits (WrittenNumber formatFloat) (depth + 5) := by
    simp [PlatformProvenance.toJson, OperatingSystemProvenance.toJson, KernelProvenance.toJson,
      CpuProvenance.toJson, fits_record]
  have hcomponent : ∀ (component : SoftwareComponentProvenance) (depth : Nat),
      component.toJson.Fits (WrittenNumber formatFloat) (depth + 1) := by
    intro component depth
    simp [SoftwareComponentProvenance.toJson, fits_record]
  have hmodel : ∀ model : ModelProvenance,
      model.toJson.Fits (WrittenNumber formatFloat) (depth + 3) := by
    intro model
    simp [ModelProvenance.toJson, fits_record]
  -- the device is there only for a GPU
  have hbackend : ∀ backend : BackendProvenance,
      backend.toJson.Fits (WrittenNumber formatFloat) (depth + 3) := by
    intro backend
    have hclass : backend.deviceClass.toJson.Fits (WrittenNumber formatFloat) (depth + 2) := by
      cases backend.deviceClass <;> trivial
    rw [BackendProvenance.toJson]
    split <;> simp [fits_record, hclass, NvidiaGpuProvenance.fits_written]
  have hruntime : r.software.runtime.toJson.Fits (WrittenNumber formatFloat) (depth + 4) := by
    cases r.software.runtime <;>
      simp [RuntimeProvenance.toJson, fits_record, hcomponent, hmodel, hbackend]
  simp [AttemptProvenance.toJson, SoftwareProvenance.toJson, fits_record, hplatform, hcomponent,
    hruntime]

end

/-! ## The codec of the derived deserializers -/

/-- The metadata record of the NVIDIA helper, with its format. -/
def nvidiaMetadataOfJson (value : Json) : Option (String × NvidiaGpuProvenance) := do
  let fields ← recordFields ["format", "nvidia"] value
  let format ← required fields "format" decodeString
  let nvidia ← required fields "nvidia" NvidiaGpuProvenance.ofJson
  pure (format, nvidia)

/-- A record read from its bytes, with a message when it is refused. -/
def decodeRecord {α : Type} (refusal : Bytes → String) (readJson : Bytes → Option Json)
    (ofJson : Json → Option α) (bytes : Bytes) : Except String α :=
  match readDocument readJson ofJson bytes with
  | none => .error (refusal bytes)
  | some record => .ok record

/-- The codec that reads the plan and the records with the derived deserializers over a
reader of JSON. -/
def Codec.derived (base : Codec) (refusal : Bytes → String) (parseFloat : ParseFloat)
    (readJson : Bytes → Option Json) : Codec where
  hash := base.hash
  formatFloat := base.formatFloat
  utf8Error := base.utf8Error
  experiment := base.experiment
  plan := decodeRecord refusal readJson (ResolvedExperiment.ofJson parseFloat)
  manifest := decodeRecord refusal readJson EvidenceManifest.ofJson
  run := decodeRecord refusal readJson RunRecord.ofJson
  attempt := decodeRecord refusal readJson AttemptRecord.ofJson
  provenance := decodeRecord refusal readJson AttemptProvenance.ofJson
  resources := decodeRecord refusal readJson AttemptResources.ofJson
  event := decodeRecord refusal readJson LifecycleEvent.ofJson
  measurement := decodeRecord refusal readJson MeasurementRecord.ofJson
  nvidiaMetadata := decodeRecord refusal readJson nvidiaMetadataOfJson
  validity := decodeRecord refusal readJson ValidityResult.ofJson
  summary := decodeRecord refusal readJson RunSummary.ofJson

/-- The binary64 numbers that a record holds. -/
def Record.numbers : Record → List Float64
  | .plan value => [value.experiment.budget]
  | _ => []

/-- Reading back what the program writes of a record: events and measurements are lines,
the other records are files. -/
def Record.IsReadBack (codec : Codec) : Record → Prop
  | .plan value => codec.plan (jsonBytes (value.toJson codec.formatFloat)) = .ok value
  | .run value => codec.run (jsonBytes value.toJson) = .ok value
  | .attempt value => codec.attempt (jsonBytes value.toJson) = .ok value
  | .event value => codec.event (toVec value.toJson) = .ok value
  | .measurement value => codec.measurement (toVec value.toJson) = .ok value
  | .provenance value => codec.provenance (jsonBytes value.toJson) = .ok value
  | .resources value => codec.resources (jsonBytes value.toJson) = .ok value
  | .validity value => codec.validity (jsonBytes value.toJson) = .ok value
  | .summary value => codec.summary (jsonBytes value.toJson) = .ok value
  | .manifest value => codec.manifest (jsonBytes value.toJson) = .ok value

section

variable {base : Codec} {refusal : Bytes → String} {parseFloat : ParseFloat}
  {readJson : Bytes → Option Json} {α : Type} {ofJson : Json → Option α} {toJson : α → Json}

/-- A file that has been written is read back. -/
theorem decodeRecord_jsonBytes (hread : ReadsBack base.formatFloat readJson) {value : α}
    (hfits : (toJson value).Fits (WrittenNumber base.formatFloat) 127)
    (hdecode : ofJson (toJson value) = some value) :
    decodeRecord refusal readJson ofJson (jsonBytes (toJson value)) = .ok value := by
  rw [decodeRecord, readDocument, hread.pretty _ hfits, Option.bind_some, hdecode]

/-- A line that has been written is read back. -/
theorem decodeRecord_toVec (hread : ReadsBack base.formatFloat readJson) {value : α}
    (hfits : (toJson value).Fits (WrittenNumber base.formatFloat) 127)
    (hdecode : ofJson (toJson value) = some value) :
    decodeRecord refusal readJson ofJson (toVec (toJson value)) = .ok value := by
  rw [decodeRecord, readDocument, hread.compact _ hfits, Option.bind_some, hdecode]

/-- A record whose numbers are finite and read back is read back by the derived
deserializers. -/
theorem Codec.derived_isReadBack (hread : ReadsBack base.formatFloat readJson) (record : Record)
    (hnumbers : ∀ x ∈ record.numbers,
      x.isFinite = true ∧ RoundTrips base.formatFloat parseFloat x) :
    record.IsReadBack (base.derived refusal parseFloat readJson) := by
  cases record with
  | plan value =>
      obtain ⟨hfinite, hfloat⟩ := hnumbers _ List.mem_cons_self
      exact decodeRecord_jsonBytes hread (ResolvedExperiment.fits_toJson hfinite 122)
        (ResolvedExperiment.ofJson_toJson hfinite hfloat)
  | run value => exact decodeRecord_jsonBytes hread value.fits_written value.ofJson_toJson
  | attempt value => exact decodeRecord_jsonBytes hread value.fits_written value.ofJson_toJson
  | event value => exact decodeRecord_toVec hread value.fits_written value.ofJson_toJson
  | measurement value => exact decodeRecord_toVec hread value.fits_written value.ofJson_toJson
  | provenance value => exact decodeRecord_jsonBytes hread value.fits_written value.ofJson_toJson
  | resources value => exact decodeRecord_jsonBytes hread value.fits_written value.ofJson_toJson
  | validity value => exact decodeRecord_jsonBytes hread value.fits_written value.ofJson_toJson
  | summary value => exact decodeRecord_jsonBytes hread value.fits_written value.ofJson_toJson
  | manifest value => exact decodeRecord_jsonBytes hread value.fits_written value.ofJson_toJson

end

/-- The derived deserializers read back every record that is written, a plan as long as its
budget is read back as a number, a journal line by line as its events, and a measurement
file as its records. -/
theorem derived_reads_written (base : Codec) (refusal : Bytes → String) (parseFloat : ParseFloat)
    (readJson : Bytes → Option Json) (hread : ReadsBack base.formatFloat readJson) :
    (∀ record : Record,
      (∀ x ∈ record.numbers, x.isFinite = true ∧ RoundTrips base.formatFloat parseFloat x) →
      record.IsReadBack (base.derived refusal parseFloat readJson)) ∧
    (∀ events : List LifecycleEvent,
      (eventLines (events.flatMap fun event => jsonLine event.toJson)).mapM
        (base.derived refusal parseFloat readJson).event = .ok events) ∧
    ∀ records : List MeasurementRecord,
      parseMeasurements (base.derived refusal parseFloat readJson) (measurementLines records) =
        .ok records := by
  have hrecords := @Codec.derived_isReadBack base refusal parseFloat readJson hread
  refine ⟨hrecords, ?_, ?_⟩
  · intro events
    rw [eventLines_flatMap]
    exact mapM_map_eq_ok (fun event => hrecords (.event event) (by simp [Record.numbers])) events
  · intro records
    have hline : ∀ record : MeasurementRecord,
        (base.derived refusal parseFloat readJson).measurement
          (recordBytes (jsonLine record.toJson)) = .ok record := by
      intro record
      rw [recordBytes_jsonLine]
      exact hrecords (.measurement record) (by simp [Record.numbers])
    rw [parseMeasurements, splitInclusive_measurementLines]
    exact @mapM_map_eq_ok _ _ _ _
      (fun line => (base.derived refusal parseFloat readJson).measurement (recordBytes line))
      hline records

/-- The reader of the sample plan reads the records, too. -/
theorem derived_reads_written_sample :
    (∀ record : Record,
      (∀ x ∈ record.numbers, x.isFinite = true ∧
        RoundTrips SampleIdentity.codec.formatFloat SampleIdentity.parseFloat x) →
      record.IsReadBack (SampleIdentity.codec.derived
        (fun _ => "malformed record") SampleIdentity.parseFloat SampleIdentity.readJson)) ∧
    (∀ events : List LifecycleEvent,
      (eventLines (events.flatMap fun event => jsonLine event.toJson)).mapM
        (SampleIdentity.codec.derived (fun _ => "malformed record") SampleIdentity.parseFloat
          SampleIdentity.readJson).event = .ok events) ∧
    ∀ records : List MeasurementRecord,
      parseMeasurements (SampleIdentity.codec.derived (fun _ => "malformed record")
        SampleIdentity.parseFloat SampleIdentity.readJson) (measurementLines records) =
          .ok records :=
  derived_reads_written SampleIdentity.codec _ SampleIdentity.parseFloat
    SampleIdentity.readJson SampleIdentity.readsBack

end Benchplane
