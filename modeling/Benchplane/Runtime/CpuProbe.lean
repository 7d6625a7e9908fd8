import Benchplane.Runtime.ChildSupervisor

/-!
# The CPU probe adapter
-/

namespace Benchplane

open Library

structure CpuProbeConfig where
  requests : UInt32
  warmupRuns : UInt32
  repetitions : UInt32
  outputTokens : UInt32
  workUnitsPerToken : UInt32
  maximumRuntimeSeconds : UInt64

/-- Phase and repetition of a position in the adapters, where the position is cast
to a `u32`. -/
def adapterPlace (warmupRuns : UInt32) (position : Nat) : MeasurementPhase × UInt32 :=
  if position < warmupRuns.toNat then (.warmup, UInt32.ofNat position + 1)
  else (.measured, UInt32.ofNat position - warmupRuns + 1)

/-- The phases and repetitions of a helper's records, in the order of its two loops. -/
def repetitionsOf (warmupRuns repetitions : UInt32) : List (MeasurementPhase × UInt32) :=
  (List.range warmupRuns.toNat).map (fun index => (.warmup, UInt32.ofNat index + 1)) ++
  (List.range repetitions.toNat).map (fun index => (.measured, UInt32.ofNat index + 1))

@[simp] theorem length_repetitionsOf (warmupRuns repetitions : UInt32) :
    (repetitionsOf warmupRuns repetitions).length = warmupRuns.toNat + repetitions.toNat := by
  simp [repetitionsOf]

/-- The helpers go through the places of the adapters in order. -/
theorem getElem?_repetitionsOf {warmupRuns repetitions : UInt32} {position : Nat}
    {place : MeasurementPhase × UInt32}
    (h : (repetitionsOf warmupRuns repetitions)[position]? = some place) :
    position < warmupRuns.toNat + repetitions.toNat ∧
      place = adapterPlace warmupRuns position := by
  obtain ⟨hposition, -⟩ := List.getElem?_eq_some_iff.mp h
  rw [length_repetitionsOf] at hposition
  refine ⟨hposition, ?_⟩
  rw [repetitionsOf, List.getElem?_append, List.length_map, List.length_range] at h
  unfold adapterPlace
  by_cases hwarmup : position < warmupRuns.toNat
  · rw [if_pos hwarmup, List.getElem?_map, List.getElem?_range hwarmup] at h
    rw [if_pos hwarmup]
    exact (Option.some.inj h).symm
  · rw [if_neg hwarmup, List.getElem?_map, List.getElem?_range (by omega)] at h
    rw [if_neg hwarmup]
    -- the subtraction of the adapter does not wrap, since the position is above the warm-ups
    have hindex : UInt32.ofNat (position - warmupRuns.toNat) =
        UInt32.ofNat position - warmupRuns := by
      rw [UInt32.ofNat_sub (by omega), UInt32.ofNat_toNat]
    rw [← hindex]
    exact (Option.some.inj h).symm

/-- The conditions that both adapters put on a record. -/
def isAdapterRecord (generator : String) (requests warmupRuns : UInt32)
    (record : MeasurementRecord) (position : Nat) : Bool :=
  let (phase, repetitionIndex) := adapterPlace warmupRuns position
  record.generator = generator && record.attemptNumber = 1 && record.phase = phase &&
    record.repetitionIndex = repetitionIndex && record.sampleIndex = 1 &&
    record.latencyMicros ≠ 0 && record.timeToFirstTokenMicros ≠ 0 &&
    record.timeToFirstTokenMicros ≤ record.latencyMicros &&
    record.throughputMilliRequestsPerSecond ≠ 0 && record.successfulRequests = requests &&
    record.failedRequests = 0

namespace CpuProbe

def maxStdoutBytes : Nat := 1024 * 1024
def maxSerializedRecordBytes : Nat := 512

/-- `protocol_failure`. -/
def protocolFailure (message : String) : FailureRecord :=
  ⟨"running", Schema.errorCpuProbeOutputInvalid, takeChars 1024 message, false, 1⟩

/-- `expected_record_count`. -/
def expectedRecordCount (config : CpuProbeConfig) : Except FailureRecord Nat := do
  let count ← orReject (protocolFailure "CPU probe requested excessive measurement records")
    ((checkedAdd32 config.warmupRuns config.repetitions).filter (· ≤ Schema.maxCpuProbeRecords))
  rejectIf (count * maxSerializedRecordBytes > maxStdoutBytes)
    (protocolFailure "CPU probe requested output exceeds its transport bound")
  pure count

/-- `validate_record`. -/
def validateRecord (config : CpuProbeConfig) (record : MeasurementRecord) (position : Nat) :
    Except String Unit :=
  if isAdapterRecord Schema.cpuProbeGeneratorVersion config.requests config.warmupRuns record
      position then .ok ()
  else .error ("CPU probe record " ++ (position + 1).repr ++
    " does not match the requested execution")

/-- The protocol of the probe. -/
def protocol (config : CpuProbeConfig) (expectedRecords : Nat) : ChildProtocol where
  runtimeName := "CPU probe"
  expectedMetadataRecords := 0
  expectedRecords := expectedRecords
  maxRecordBytes := maxSerializedRecordBytes
  maxStdoutBytes := maxStdoutBytes
  maximumRuntimeSeconds := config.maximumRuntimeSeconds
  spawnFailureCode := Schema.errorCpuProbeSpawnFailed
  exitFailureCode := Schema.errorCpuProbeExitFailed
  outputFailureCode := Schema.errorCpuProbeOutputInvalid
  deadlineFailureCode := Schema.errorCpuProbeDeadlineExceeded
  resourceFailureCode := Schema.errorCpuProbeResourceAccountingFailed
  specialExitCodes := []

/-- `execute_command`. -/
def executeCommand (codec : Codec) (config : CpuProbeConfig) (helper : HelperBehaviour) :
    ChildExecution :=
  match expectedRecordCount config with
  | .error failure => .failed failure none
  | .ok count =>
      (ChildSupervisor.execute codec (protocol config count) (validateRecord config) helper).1

/-- `into_execution_output`. -/
def intoExecutionOutput (result : ChildExecution) : ExecutionOutput where
  measurements := result.measurements
  resources := result.resources
  nvidiaGpu := none
  terminalState := if result.failure = none then .succeeded else .failed
  failure := result.failure

/-- `execute`. -/
def execute (codec : Codec) (config : CpuProbeConfig) (helper : HelperBehaviour) :
    ExecutionOutput :=
  intoExecutionOutput (executeCommand codec config helper)

theorem validateRecord_eq_ok {config : CpuProbeConfig} {record : MeasurementRecord}
    {position : Nat} :
    validateRecord config record position = .ok () ↔
      isAdapterRecord Schema.cpuProbeGeneratorVersion config.requests config.warmupRuns record
        position = true := by
  unfold validateRecord
  split <;> simp_all

/-- The command fails before the helper is started, or with a failure of the supervisor. -/
theorem executeCommand_fails {P : FailureRecord → Prop} {codec : Codec} {config : CpuProbeConfig}
    {helper : HelperBehaviour} {failure : FailureRecord}
    (hprotocol : ∀ message, P (protocolFailure message))
    (hsupervisor : ∀ count, (ChildSupervisor.execute codec (protocol config count)
      (validateRecord config) helper).1.failure = some failure → P failure)
    (h : (executeCommand codec config helper).failure = some failure) : P failure := by
  have hcount : FailsWith P (expectedRecordCount config) := by
    unfold expectedRecordCount
    apply FailsWith.bind (.orReject (hprotocol _))
    intro count _
    apply FailsWith.bind (.rejectIf (hprotocol _))
    intro _ _
    exact failsWith_ok
  unfold executeCommand at h
  split at h
  · rename_i refused hrefused
    rw [← Option.some.inj h]
    exact hcount refused hrefused
  · exact hsupervisor _ h

/-- A failed execution has no records and the state failed. -/
theorem execute_of_failed {codec : Codec} {config : CpuProbeConfig} {helper : HelperBehaviour}
    (h : (execute codec config helper).terminalState ≠ .succeeded) :
    (execute codec config helper).measurements = [] ∧
      (execute codec config helper).terminalState = .failed := by
  have hclean : (executeCommand codec config helper).IsClean := by
    unfold executeCommand
    split
    · exact isClean_failed _ _
    · exact isClean_execute _
  have hfailure : (executeCommand codec config helper).failure ≠ none := by
    intro hnone
    exact h (by simp [execute, intoExecutionOutput, hnone])
  exact ⟨(hclean (Option.isSome_iff_ne_none.mpr hfailure)).2,
    by simp [execute, intoExecutionOutput, hfailure]⟩

end CpuProbe

end Benchplane
