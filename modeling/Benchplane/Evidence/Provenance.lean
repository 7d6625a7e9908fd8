import Benchplane.Evidence.Inventory
import Benchplane.Library.Checks
import Benchplane.Provenance

/-!
# Checks on provenance and resources

What the verifier asks of an attempt's provenance and resources, both of which a
bundle may leave out.
-/

namespace Benchplane

open Library

def maxProvenanceValueBytes : Nat := 256

/-- `invalid_provenance`. -/
def invalidProvenance {α : Type} (message : String) : Except EvidenceError α :=
  .error (.invalidAttemptProvenance message)

/-- A manifest whose status is terminal, as the checks after its own rely on. -/
structure TerminalManifest extends EvidenceManifest where
  terminal : runStatus.isTerminal = true

/-! ## Values -/

/-- `require_provenance_value`. -/
def requireProvenanceValue (value field : String) : Except EvidenceError Unit :=
  rejectIf (value = "" ∨ trim value ≠ value ∨ (utf8 value).length > maxProvenanceValueBytes ∨
      value.toList.any isControl)
    (.invalidAttemptProvenance (field ++ " is empty, oversized, or contains controls"))

/-- `optional_provenance_value`. -/
def optionalProvenanceValue (value : Option String) (field : String) :
    Except EvidenceError Unit :=
  match value with
  | none => .ok ()
  | some value => requireProvenanceValue value field

def nixBase32 : String := "0123456789abcdfghijklmnpqrsvwxyz"

/-- `optional_nix_store_path`. -/
def optionalNixStorePath (value : Option String) (field : String) : Except EvidenceError Unit :=
  match value with
  | none => .ok ()
  | some value => do
      let entry ← orReject (.invalidAttemptProvenance (field ++ " is not a Nix store object path"))
        (stripPrefix "/nix/store/" value)
      let (hash, name) := (splitOnceAt '-' entry).getD ("", "")
      rejectIf ((utf8 value).length > maxNixStorePathBytes ∨ '/' ∈ entry.toList ∨
          (utf8 hash).length ≠ 32 ∨ ¬ hash.toList.all (· ∈ nixBase32.toList) ∨ name = "" ∨
          ¬ name.toList.all fun c => c.isAlphanum || c ∈ "+-._?=".toList)
        (.invalidAttemptProvenance (field ++ " is not a bounded Nix store object path"))

/-- `require_matching_generator`. -/
def requireMatchingGenerator (provenanceGenerator : String)
    (measurementGenerator : Option String) : Except EvidenceError Unit :=
  rejectIf (¬ measurementGenerator.all (· = provenanceGenerator))
    (.invalidAttemptProvenance "runtime generator does not match measurements")

/-! ## NVIDIA -/

/-- `major.minor`, both made of digits. -/
def isComputeCapability (value : String) : Bool :=
  match splitOnceAt '.' value with
  | none => false
  | some (major, minor) =>
      major ≠ "" && minor ≠ "" && major.toList.all Char.isDigit && minor.toList.all Char.isDigit

/-- The fixed device and offload policy. -/
def provesOffload (nvidia : NvidiaGpuProvenance) : Bool :=
  nvidia.vendor = "NVIDIA" && nvidia.logicalDeviceIndex = 0 && nvidia.totalVramBytes ≠ 0 &&
    nvidiaDriverVersionSupported nvidia.nvidiaDriverVersion &&
    nvidia.offload.policy = "singleDeviceAllLayers" && nvidia.offload.totalLayers ≠ 0 &&
    nvidia.offload.offloadedLayers = nvidia.offload.totalLayers

/-- `validate_nvidia_provenance`. -/
def validateNvidiaProvenance (nvidia : NvidiaGpuProvenance) : Except EvidenceError Unit := do
  rejectIf (¬ provesOffload nvidia)
    (.invalidAttemptProvenance "NVIDIA device or offload proof is not supported")
  checkAll (fun entry => requireProvenanceValue entry.1 entry.2)
    [(nvidia.deviceName, "runtime.backend.nvidia.deviceName"),
      (nvidia.nvidiaDriverVersion, "runtime.backend.nvidia.nvidiaDriverVersion"),
      (nvidia.cudaDriverVersion, "runtime.backend.nvidia.cudaDriverVersion"),
      (nvidia.cudaRuntimeVersion, "runtime.backend.nvidia.cudaRuntimeVersion"),
      (nvidia.cudaToolkitVersion, "runtime.backend.nvidia.cudaToolkitVersion"),
      (nvidia.computeCapability, "runtime.backend.nvidia.computeCapability")]
  rejectIf (¬ isComputeCapability nvidia.computeCapability)
    (.invalidAttemptProvenance "NVIDIA compute capability is malformed")

/-! ## Runtimes -/

/-- The software a llama.cpp bundle may name. -/
def isSupportedLineage (generator : String) (engine : SoftwareComponentProvenance)
    (model : ModelProvenance) (target : LlamaCppTarget) (resolvedModel : String) : Bool :=
  (generator = Schema.llamaCppGeneratorVersionV1 || generator = Schema.llamaCppGeneratorVersion) &&
    engine.name = Schema.llamaCppEngineName && engine.version = Schema.llamaCppEngineVersion &&
    model.identity = Schema.llamaCppModelIdentity && model.identity = resolvedModel &&
    model.sha256 = Schema.llamaCppModelSha256 &&
    !(target = .nvidiaCuda && generator ≠ Schema.llamaCppGeneratorVersion)

/-- The backend of each target. -/
def validateBackend (backend : BackendProvenance) (target : LlamaCppTarget)
    (runStatus : RunState) : Except EvidenceError Unit :=
  let mismatch : Except EvidenceError Unit :=
    invalidProvenance "llamaCpp backend does not match the resolved execution target"
  match target with
  | .cpu =>
      if backend.identity = Schema.llamaCppBackendIdentity ∧ backend.deviceClass = .cpu ∧
          backend.nvidia = none then .ok ()
      else mismatch
  | .nvidiaCuda =>
      if backend.identity = Schema.llamaCppCudaBackendIdentity ∧
          backend.deviceClass = .nvidiaCuda then
        match backend.nvidia with
        | some nvidia => validateNvidiaProvenance nvidia
        | none => rejectIf (runStatus = .succeeded) (.invalidAttemptProvenance
            "successful nvidiaCuda execution requires NVIDIA provenance")
      else mismatch

/-- The store paths of a llama.cpp lineage. -/
def validateStorePaths (engine : SoftwareComponentProvenance) (model : ModelProvenance)
    (backend : BackendProvenance) : Except EvidenceError Unit := do
  optionalNixStorePath engine.nixStorePath "runtime.engine.nixStorePath"
  optionalNixStorePath model.nixStorePath "runtime.model.nixStorePath"
  optionalNixStorePath backend.nixStorePath "runtime.backend.nixStorePath"
  let present :=
    [engine.nixStorePath.isSome, model.nixStorePath.isSome, backend.nixStorePath.isSome]
  rejectIf (present.any id ∧ ¬ present.all id) (.invalidAttemptProvenance
    "llamaCpp Nix store lineage must be wholly present or absent")
  rejectIf (engine.nixStorePath ≠ backend.nixStorePath) (.invalidAttemptProvenance
    "llamaCpp engine and backend must identify the same Nix store object")

/-- The match of `validate_attempt_provenance` on the two runtimes. -/
def validateRuntimeProvenance (runtime : RuntimeProvenance) (spec : RuntimeSpec)
    (runStatus : RunState) (measurementGenerator : Option String) :
    Except EvidenceError Unit :=
  match runtime, spec with
  | .localFake generator, .localFake _ _ => do
      rejectIf (generator ≠ Schema.localFakeGeneratorVersion)
        (.invalidAttemptProvenance "localFake generator identity is not supported")
      requireMatchingGenerator generator measurementGenerator
  | .cpuProbe generator, .cpuProbe _ _ => do
      rejectIf (generator ≠ Schema.cpuProbeGeneratorVersion)
        (.invalidAttemptProvenance "cpuProbe generator identity is not supported")
      requireMatchingGenerator generator measurementGenerator
  | .llamaCpp generator engine model backend, .llamaCpp target resolvedModel _ => do
      rejectIf (¬ isSupportedLineage generator engine model target resolvedModel)
        (.invalidAttemptProvenance "llamaCpp software lineage is not supported")
      validateBackend backend target runStatus
      requireMatchingGenerator generator measurementGenerator
      validateStorePaths engine model backend
  | _, _ => invalidProvenance "runtime kind does not match the resolved plan"

/-! ## Records -/

/-- What `validate_attempt_provenance` asks of the platform. -/
def validatePlatform (platform : PlatformProvenance) : Except EvidenceError Unit := do
  requireProvenanceValue platform.operatingSystem.family "operatingSystem.family"
  optionalProvenanceValue platform.operatingSystem.distribution "operatingSystem.distribution"
  optionalProvenanceValue platform.operatingSystem.version "operatingSystem.version"
  requireProvenanceValue platform.kernel.name "kernel.name"
  optionalProvenanceValue platform.kernel.release "kernel.release"
  requireProvenanceValue platform.architecture "architecture"
  optionalProvenanceValue platform.cpu.model "cpu.model"
  rejectIf (platform.cpu.logicalCpuCount = some 0)
    (.invalidAttemptProvenance "cpu.logicalCpuCount must be positive when present")

/-- `validate_attempt_provenance`. -/
def validateAttemptProvenance (provenance : AttemptProvenance) (manifest : TerminalManifest)
    (plan : ResolvedExperiment) (measurementGenerator : Option String) :
    Except EvidenceError Unit := do
  rejectIf (provenance.format ≠ Schema.attemptProvenanceFormatV1)
    (.invalidAttemptProvenance "unsupported format")
  rejectIf (provenance.runId ≠ manifest.runId ∨ provenance.attemptNumber ≠ 1)
    (.invalidAttemptProvenance "runId or attemptNumber does not match the bundle")
  validatePlatform provenance.platform
  let benchplane := provenance.software.benchplane
  rejectIf (benchplane.name ≠ Schema.benchplaneSoftwareName)
    (.invalidAttemptProvenance "software.benchplane.name is not supported")
  requireProvenanceValue benchplane.version "software.benchplane.version"
  optionalNixStorePath benchplane.nixStorePath "software.benchplane.nixStorePath"
  validateRuntimeProvenance provenance.software.runtime plan.experiment.spec.runtime
    manifest.runStatus measurementGenerator

/-- The plans whose helper processes are accounted for. -/
def hasHelperProcess (plan : ResolvedExperiment) : Bool :=
  match plan.experiment.spec.provider, plan.experiment.spec.runtime with
  | .local, .cpuProbe _ _ | .local, .llamaCpp _ _ _ => true
  | _, _ => false

/-- `validate_attempt_resources`. -/
def validateAttemptResources (resources : AttemptResources) (manifest : TerminalManifest)
    (plan : ResolvedExperiment) : Except EvidenceError Unit := do
  rejectIf (resources.format ≠ Schema.attemptResourcesFormatV1)
    (.invalidAttemptResources "unsupported format")
  rejectIf (resources.runId ≠ manifest.runId ∨ resources.attemptNumber ≠ 1)
    (.invalidAttemptResources "runId or attemptNumber does not match the bundle")
  rejectIf (resources.peakRssBytes.toNat % 1024 ≠ 0)
    (.invalidAttemptResources "peakRssBytes is not an exact Linux KiB-to-byte conversion")
  rejectIf (resources.scope ≠ .helperProcessLifetime ∨ ¬ hasHelperProcess plan)
    (.invalidAttemptResources "resource scope does not apply to the resolved runtime")

/-! ## What an accepted record shows -/

/-- An accepted provenance belongs to the run and to the plan's runtime. -/
theorem validateAttemptProvenance_eq_ok {provenance : AttemptProvenance}
    {manifest : TerminalManifest} {plan : ResolvedExperiment} {generator : Option String}
    (h : validateAttemptProvenance provenance manifest plan generator = .ok ()) :
    provenance.runId = manifest.runId ∧ provenance.attemptNumber = 1 ∧
      validateRuntimeProvenance provenance.software.runtime plan.experiment.spec.runtime
        manifest.runStatus generator = .ok () := by
  simp only [validateAttemptProvenance, bind_eq_ok_iff, rejectIf_eq_ok, not_or,
    Decidable.not_not] at h
  obtain ⟨-, -, -, ⟨hrun, hattempt⟩, -, -, -, -, -, -, -, -, hruntime⟩ := h
  exact ⟨hrun, hattempt, hruntime⟩

/-- Accepted resources belong to the run. -/
theorem validateAttemptResources_eq_ok {resources : AttemptResources}
    {manifest : TerminalManifest} {plan : ResolvedExperiment}
    (h : validateAttemptResources resources manifest plan = .ok ()) :
    resources.runId = manifest.runId ∧ resources.attemptNumber = 1 := by
  simp only [validateAttemptResources, bind_eq_ok_iff, rejectIf_eq_ok, not_or,
    Decidable.not_not] at h
  obtain ⟨-, -, -, hidentity, -⟩ := h
  exact hidentity

/-- An accepted NVIDIA record meets the device and offload policy. -/
theorem provesOffload_of_validate {nvidia : NvidiaGpuProvenance}
    (h : validateNvidiaProvenance nvidia = .ok ()) : provesOffload nvidia = true := by
  simp only [validateNvidiaProvenance, bind_eq_ok_iff, rejectIf_eq_ok, Decidable.not_not] at h
  obtain ⟨-, hproof, -⟩ := h
  exact hproof

end Benchplane
