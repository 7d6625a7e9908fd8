import Benchplane.Evidence.Measurements
import Benchplane.Evidence.Provenance
import Benchplane.Runtime.CpuProbe

/-!
# The llama.cpp adapter
-/

namespace Benchplane

open Library

structure LlamaCppConfig where
  target : LlamaCppTarget
  requests : UInt32
  warmupRuns : UInt32
  repetitions : UInt32
  outputTokens : UInt32
  maximumRuntimeSeconds : UInt64

namespace LlamaCpp

def maxSerializedRecordBytes : Nat := 16 * 1024
def maxStdoutBytes : Nat := 17 * maxSerializedRecordBytes
def modelInitExitCode : Int := 20
def nvidiaMetadataFormat : String := "benchplane-llama-cpp-nvidia/v1"

def specialExitCodes : List ExitCodeFailure :=
  [⟨modelInitExitCode, Schema.errorLlamaCppModelInitFailed,
    "packaged llama.cpp helper could not initialize its fixed model"⟩]

/-- `protocol_failure`. -/
def protocolFailure (message : String) : FailureRecord :=
  ⟨"running", Schema.errorLlamaCppOutputInvalid, message, false, 1⟩

/-- `expected_record_count`. -/
def expectedRecordCount (config : LlamaCppConfig) : Except FailureRecord Nat := do
  let count ← orReject (protocolFailure "llama.cpp requested excessive measurement records")
    ((checkedAdd32 config.warmupRuns config.repetitions).filter (· ≤ Schema.maxLlamaCppRecords))
  rejectIf (count * config.requests.toNat > Schema.maxLlamaCppRequestObservations)
    (protocolFailure "llama.cpp requested excessive request observations")
  rejectIf (count * maxSerializedRecordBytes > maxStdoutBytes)
    (protocolFailure "llama.cpp requested output exceeds its transport bound")
  pure count

/-- `validate_record`. -/
def validateRecord (config : LlamaCppConfig) (record : MeasurementRecord) (position : Nat) :
    Except String Unit :=
  if isAdapterRecord Schema.llamaCppGeneratorVersion config.requests config.warmupRuns record
        position ∧
      record.requestObservations.length = config.requests.toNat ∧
      (record.requestObservations.zipIdx.all fun entry => isObservationAt entry.2 entry.1) = true
  then .ok ()
  else .error ("llama.cpp record " ++ (position + 1).repr ++
    " does not match the requested execution")

/-- The protocol of the llama.cpp helper. -/
def protocol (config : LlamaCppConfig) (expectedRecords : Nat) : ChildProtocol where
  runtimeName := "llama.cpp SmolLM2"
  expectedMetadataRecords := if config.target = .nvidiaCuda then 1 else 0
  expectedRecords := expectedRecords
  maxRecordBytes := maxSerializedRecordBytes
  maxStdoutBytes := maxStdoutBytes
  maximumRuntimeSeconds := config.maximumRuntimeSeconds
  spawnFailureCode := Schema.errorLlamaCppSpawnFailed
  exitFailureCode := Schema.errorLlamaCppExitFailed
  outputFailureCode := Schema.errorLlamaCppOutputInvalid
  deadlineFailureCode := Schema.errorLlamaCppDeadlineExceeded
  resourceFailureCode := Schema.errorLlamaCppResourceAccountingFailed
  specialExitCodes := specialExitCodes

/-- `execute_command`. -/
def executeCommand (codec : Codec) (config : LlamaCppConfig) (helper : HelperBehaviour) :
    ChildExecution :=
  match expectedRecordCount config with
  | .error failure => .failed failure none
  | .ok count =>
      (ChildSupervisor.execute codec (protocol config count) (validateRecord config) helper).1

/-! ## NVIDIA metadata -/

/-- A value that metadata may carry. -/
def isBoundedText (value : String) : Bool :=
  value ≠ "" && trim value = value && (utf8 value).length ≤ 256 && !value.toList.any isControl

/-- `parse_nvidia_metadata`. -/
def parseNvidiaMetadata (codec : Codec) (bytes : Bytes) : Except String NvidiaGpuProvenance := do
  let (format, gpu) ← mapFailure
    (fun error => "llama.cpp helper emitted malformed NVIDIA metadata: " ++ error)
    (codec.nvidiaMetadata bytes)
  rejectIf (format ≠ nvidiaMetadataFormat ∨ gpu.vendor ≠ "NVIDIA" ∨
      ¬ isBoundedText gpu.deviceName ∨ gpu.logicalDeviceIndex ≠ 0 ∨ gpu.totalVramBytes = 0 ∨
      ¬ isBoundedText gpu.nvidiaDriverVersion ∨
      ¬ nvidiaDriverVersionSupported gpu.nvidiaDriverVersion ∨
      ¬ isBoundedText gpu.cudaDriverVersion ∨ ¬ isBoundedText gpu.cudaRuntimeVersion ∨
      ¬ isBoundedText gpu.cudaToolkitVersion ∨ ¬ isComputeCapability gpu.computeCapability ∨
      gpu.offload.policy ≠ "singleDeviceAllLayers" ∨ gpu.offload.totalLayers = 0 ∨
      gpu.offload.offloadedLayers ≠ gpu.offload.totalLayers)
    "llama.cpp helper NVIDIA metadata is inconsistent with the fixed target"
  pure gpu

/-- A helper that succeeded with metadata that cannot be accepted. -/
def refusedMetadata (result : ChildExecution) (message : String) : ExecutionOutput :=
  ⟨[], result.resources, none, .failed, some (protocolFailure message)⟩

/-- `into_execution_output`. -/
def intoExecutionOutput (codec : Codec) (config : LlamaCppConfig) (result : ChildExecution) :
    ExecutionOutput :=
  match result.failure with
  | some failure => ⟨result.measurements, result.resources, none, .failed, some failure⟩
  | none =>
      match config.target, result.metadata with
      | .cpu, [] => ⟨result.measurements, result.resources, none, .succeeded, none⟩
      | .nvidiaCuda, [metadata] =>
          match parseNvidiaMetadata codec metadata with
          | .ok nvidia => ⟨result.measurements, result.resources, some nvidia, .succeeded, none⟩
          | .error message => refusedMetadata result message
      | _, _ => refusedMetadata result
          "llama.cpp helper metadata does not match the requested target"

/-- `execute`. -/
def execute (codec : Codec) (config : LlamaCppConfig) (helper : HelperBehaviour) :
    ExecutionOutput :=
  intoExecutionOutput codec config (executeCommand codec config helper)

theorem validateRecord_eq_ok {config : LlamaCppConfig} {record : MeasurementRecord}
    {position : Nat} :
    validateRecord config record position = .ok () ↔
      isAdapterRecord Schema.llamaCppGeneratorVersion config.requests config.warmupRuns record
        position = true ∧
      record.requestObservations.length = config.requests.toNat ∧
      (record.requestObservations.zipIdx.all fun entry =>
        isObservationAt entry.2 entry.1) = true := by
  unfold validateRecord
  split <;> simp_all

/-- The command fails before the helper is started, with a short text, or with a failure of
the supervisor. -/
theorem executeCommand_fails {P : FailureRecord → Prop} {codec : Codec} {config : LlamaCppConfig}
    {helper : HelperBehaviour} {failure : FailureRecord}
    (hprotocol : ∀ message : String, message.toList.length ≤ maxDiagnosticChars →
      P (protocolFailure message))
    (hsupervisor : ∀ count, (ChildSupervisor.execute codec (protocol config count)
      (validateRecord config) helper).1.failure = some failure → P failure)
    (h : (executeCommand codec config helper).failure = some failure) : P failure := by
  have hcount : FailsWith P (expectedRecordCount config) := by
    unfold expectedRecordCount
    apply FailsWith.bind (.orReject (hprotocol _ (by decide)))
    intro count _
    apply FailsWith.bind (.rejectIf (hprotocol _ (by decide)))
    intro _ _
    apply FailsWith.bind (.rejectIf (hprotocol _ (by decide)))
    intro _ _
    exact failsWith_ok
  unfold executeCommand at h
  split at h
  · rename_i refused hrefused
    rw [← Option.some.inj h]
    exact hcount refused hrefused
  · exact hsupervisor _ h

/-- A failed execution has no records and the state failed. -/
theorem execute_of_failed {codec : Codec} {config : LlamaCppConfig} {helper : HelperBehaviour}
    (h : (execute codec config helper).terminalState ≠ .succeeded) :
    (execute codec config helper).measurements = [] ∧
      (execute codec config helper).terminalState = .failed := by
  have hclean : (executeCommand codec config helper).IsClean := by
    unfold executeCommand
    split
    · exact isClean_failed _ _
    · exact isClean_execute _
  unfold execute at h ⊢
  generalize executeCommand codec config helper = result at h hclean
  unfold intoExecutionOutput at h ⊢
  cases hfailure : result.failure with
  | some failure =>
      rw [ChildExecution.IsClean, hfailure] at hclean
      exact ⟨(hclean rfl).2, rfl⟩
  | none =>
      simp only [hfailure] at h ⊢
      revert h
      split
      · exact fun h => absurd rfl h
      · split
        · exact fun h => absurd rfl h
        · exact fun _ => ⟨rfl, rfl⟩
      · exact fun _ => ⟨rfl, rfl⟩

/-- Only an execution for the CUDA target carries NVIDIA facts. -/
theorem target_of_nvidiaGpu {codec : Codec} {config : LlamaCppConfig} {helper : HelperBehaviour}
    (h : (execute codec config helper).nvidiaGpu ≠ none) : config.target = .nvidiaCuda := by
  unfold execute intoExecutionOutput at h
  split at h
  · simp at h
  · split at h
    · simp at h
    · assumption
    · simp [refusedMetadata] at h

end LlamaCpp

end Benchplane
