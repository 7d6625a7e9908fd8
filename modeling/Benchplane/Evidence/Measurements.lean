import Benchplane.Evidence.Inventory
import Benchplane.Library.Rounding
import Benchplane.Resolution

/-!
# Checks on measurements

The verifier's reading of `measurements.jsonl`: how many records a plan and a
status call for, what each of them must be at its position, and how the
aggregates of a llama.cpp record relate to its observations.
-/

namespace Benchplane

open Library

def maxMeasurementsBytes : Nat := 8 * 1024 * 1024
def maxMeasurementLineBytes : Nat := 64 * 1024

/-- `invalid_measurements`. -/
def invalidMeasurements {α : Type} (message : String) : Except EvidenceError α :=
  .error (.invalidMeasurements message)

/-! ## Counts -/

/-- `expected_measurement_counts`: warm-ups and measured records. -/
def expectedMeasurementCounts (plan : ResolvedExperiment) (runStatus : RunState) :
    Except EvidenceError (UInt32 × UInt32) :=
  let measurement := plan.experiment.spec.measurement
  let oneOfSeveral := min (saturatingSub32 measurement.repetitions 1) 1
  match plan.experiment.spec.provider, plan.experiment.spec.runtime with
  | .localFake, .localFake _ scenario =>
      let (expectedStatus, measured) :=
        match scenario with
        | .success => (RunState.succeeded, measurement.repetitions)
        | .insufficientMeasurements => (.succeeded, saturatingSub32 measurement.repetitions 1)
        | .runtimeFailure => (.failed, oneOfSeveral)
        | .interrupted => (.interrupted, oneOfSeveral)
      if runStatus ≠ expectedStatus then
        invalidMeasurements "localFake scenario does not match run status"
      else .ok (measurement.warmupRuns, measured)
  | .local, .cpuProbe _ _ | .local, .llamaCpp _ _ _ =>
      match runStatus with
      | .succeeded => .ok (measurement.warmupRuns, measurement.repetitions)
      | .failed => .ok (0, 0)
      | .created | .preparing | .running | .collecting | .finalizing | .interrupted =>
          invalidMeasurements "helper-backed run has an unsupported terminal status"
  | _, _ => invalidMeasurements "resolved provider/runtime combination is not executable"

/-! ## Aggregates -/

/-- `ceil_div_u128`. -/
def ceilDivU128 (dividend divisor : Nat) : Nat :=
  dividend / divisor + if dividend % divisor = 0 then 0 else 1

/-- A result that must fit a `u128`. -/
def checkedU128 (value : Nat) : Option Nat := if value < 2 ^ 128 then some value else none

/-- `u64::try_from`. -/
def tryU64 (value : Nat) : Option UInt64 :=
  if value < 2 ^ 64 then some (UInt64.ofNat value) else none

/-- Count and add up, both checked. -/
def addRounded (sum : Nat × Nat) (value : UInt64) : Option (Nat × Nat) := do
  let count ← checkedU128 (sum.1 + 1)
  let total ← checkedU128 (sum.2 + value.toNat)
  pure (count, total)

/-- `rounded_request_mean_bounds`. -/
def roundedRequestMeanBounds (values : List UInt64) : Option (UInt64 × UInt64) := do
  let (count, roundedMicros) ← values.foldlM addRounded (0, 0)
  if count = 0 ∨ roundedMicros < count then none
  else
    let scaled ← checkedU128 ((roundedMicros - count) * 1000)
    let minimumRawNanos ← checkedU128 (scaled + count)
    let maximumRawNanos ← checkedU128 (roundedMicros * 1000)
    let divisor ← checkedU128 (count * 1000)
    let minimum ← tryU64 (ceilDivU128 minimumRawNanos divisor)
    let maximum ← tryU64 (ceilDivU128 maximumRawNanos divisor)
    pure (minimum, maximum)

/-- `validate_llama_v2_aggregate_consistency`. -/
def validateLlamaV2AggregateConsistency (record : MeasurementRecord) :
    Except EvidenceError Unit := do
  let latencyBounds ← orReject
    (.invalidMeasurements "llamaCpp v2 latency aggregate bounds are not representable")
    (roundedRequestMeanBounds (record.requestObservations.map (·.latencyMicros)))
  let ttftBounds ← orReject
    (.invalidMeasurements "llamaCpp v2 TTFT aggregate bounds are not representable")
    (roundedRequestMeanBounds (record.requestObservations.map (·.timeToFirstTokenMicros)))
  rejectIf (¬ (latencyBounds.1 ≤ record.latencyMicros ∧ record.latencyMicros ≤ latencyBounds.2) ∨
      ¬ (ttftBounds.1 ≤ record.timeToFirstTokenMicros ∧
        record.timeToFirstTokenMicros ≤ ttftBounds.2))
    (.invalidMeasurements
      "llamaCpp v2 aggregate latency or TTFT contradicts its request observations")

/-! ## Records -/

/-- What an observation must be at its index, here and in the llama.cpp adapter. -/
def isObservationAt (index : Nat) (observation : RequestObservation) : Bool :=
  observation.requestIndex = UInt32.ofNat index + 1 && observation.latencyMicros ≠ 0 &&
    observation.timeToFirstTokenMicros ≠ 0 &&
    observation.timeToFirstTokenMicros ≤ observation.latencyMicros

/-- Phase and repetition of a position.  The position is below a `u32`, so adding
one to it does not wrap. -/
def expectedPlace (warmupCount : UInt32) (position : Nat) : MeasurementPhase × Nat :=
  if position < warmupCount.toNat then (.warmup, position + 1)
  else (.measured, position - warmupCount.toNat + 1)

/-- The checks that every runtime's records have in common. -/
def matchesExecution (record : MeasurementRecord) (position : Nat) (warmupCount : UInt32)
    (plan : ResolvedExperiment) (priorGenerator : Option String) : Bool :=
  let (phase, repetitionIndex) := expectedPlace warmupCount position
  record.attemptNumber = 1 && record.phase = phase &&
    record.repetitionIndex.toNat = repetitionIndex && record.sampleIndex = 1 &&
    record.latencyMicros ≠ 0 && record.timeToFirstTokenMicros ≠ 0 &&
    record.timeToFirstTokenMicros ≤ record.latencyMicros &&
    record.throughputMilliRequestsPerSecond ≠ 0 &&
    record.successfulRequests = plan.experiment.spec.workload.requests &&
    record.failedRequests = 0 && priorGenerator.all (· = record.generator)

/-- The contract of a llama.cpp record. -/
def validateLlamaCppRecord (record : MeasurementRecord) (target : LlamaCppTarget)
    (requests : UInt32) : Except EvidenceError Unit :=
  if record.generator = Schema.llamaCppGeneratorVersionV1 ∧ target = .cpu ∧
      record.requestObservations = [] then .ok ()
  else if record.generator = Schema.llamaCppGeneratorVersion then do
    rejectIf (record.requestObservations.length ≠ requests.toNat) (.invalidMeasurements
      "llamaCpp v2 request-observation cardinality does not match workload.requests")
    rejectIf (¬ record.requestObservations.zipIdx.all fun entry => isObservationAt entry.2 entry.1)
      (.invalidMeasurements "llamaCpp v2 request observation is out of order or invalid")
    validateLlamaV2AggregateConsistency record
  else invalidMeasurements "llamaCpp measurement generator is not supported"

/-- `validate_measurement_record`. -/
def validateMeasurementRecord (record : MeasurementRecord) (position : Nat)
    (warmupCount : UInt32) (plan : ResolvedExperiment) (priorGenerator : Option String) :
    Except EvidenceError Unit := do
  rejectIf (¬ matchesExecution record position warmupCount plan priorGenerator)
    (.invalidMeasurements
      ("aggregate record " ++ (position + 1).repr ++ " does not match the resolved execution"))
  match plan.experiment.spec.runtime with
  | .localFake _ _ =>
      rejectIf (record.generator ≠ Schema.localFakeGeneratorVersion ∨
          record.requestObservations ≠ [])
        (.invalidMeasurements "localFake measurement contract is not supported")
  | .cpuProbe _ _ =>
      rejectIf (record.generator ≠ Schema.cpuProbeGeneratorVersion ∨
          record.requestObservations ≠ [])
        (.invalidMeasurements "cpuProbe measurement contract is not supported")
  | .llamaCpp target _ _ =>
      validateLlamaCppRecord record target plan.experiment.spec.workload.requests
  | .vllm _ _ _ => invalidMeasurements "vLLM execution evidence is not supported"

/-! ## The file -/

/-- What the lines read so far have given. -/
structure MeasurementProgress where
  totalBytes : Nat
  generator : Option String
  records : List MeasurementRecord

def MeasurementProgress.start : MeasurementProgress := ⟨0, none, []⟩

/-- The position of the next record. -/
def MeasurementProgress.position (progress : MeasurementProgress) : Nat :=
  progress.records.length

/-- Validate the next record and keep it. -/
def acceptRecord (plan : ResolvedExperiment) (warmupCount : UInt32)
    (progress : MeasurementProgress) (record : MeasurementRecord) :
    Except EvidenceError MeasurementProgress := do
  validateMeasurementRecord record progress.position warmupCount plan progress.generator
  pure { progress with
    generator := progress.generator.or (some record.generator)
    records := progress.records ++ [record] }

/-- A line without its newline and without a carriage return before it. -/
def recordBytes (line : Bytes) : Bytes :=
  if line.dropLast.getLast? = some 13 then line.dropLast.dropLast else line.dropLast

/-- One turn of the loop of `validate_measurements`. -/
def checkMeasurementLine (codec : Codec) (plan : ResolvedExperiment) (warmupCount : UInt32)
    (expectedTotal : Nat) (progress : MeasurementProgress) (line : Bytes) :
    Except EvidenceError MeasurementProgress := do
  let progress := { progress with totalBytes := progress.totalBytes + line.length }
  rejectIf (progress.totalBytes > maxMeasurementsBytes)
    (.invalidMeasurements "measurement payload exceeds its parsing limit")
  rejectIf (line.length > maxMeasurementLineBytes)
    (.invalidMeasurements "measurement record exceeds its line bound")
  rejectIf (line.getLast? ≠ some 10)
    (.invalidMeasurements "measurement JSONL ends with a truncated record")
  rejectIf (recordBytes line = [] ∨ progress.position ≥ expectedTotal)
    (.invalidMeasurements "measurement sequence has an empty or extra record")
  let record ← mapFailure (.invalidRecord "attempts/0001/measurements.jsonl")
    (codec.measurement (recordBytes line))
  acceptRecord plan warmupCount progress record

structure MeasurementValidation where
  measuredRecords : UInt32
  generator : Option String
  records : List MeasurementRecord

/-- `validate_measurements`. -/
def validateMeasurements (codec : Codec) (root : BundleRoot) (expectedDigest : String)
    (plan : ResolvedExperiment) (runStatus : RunState) :
    Except EvidenceError MeasurementValidation := do
  let display := "attempts/0001/measurements.jsonl"
  let names ← checkedRegularPath root (utf8 display) display
  let content ← readFile root names
  rejectIf (content.length > maxMeasurementsBytes) (.invalidMeasurements
    (display ++ " exceeds the " ++ maxMeasurementsBytes.repr ++ "-byte parsing limit"))
  let (expectedWarmups, expectedMeasured) ← expectedMeasurementCounts plan runStatus
  let expectedTotal ← orReject (.invalidMeasurements "record count overflowed")
    (checkedAdd32 expectedWarmups expectedMeasured)
  let progress ← (splitInclusive 10 content).foldlM
    (checkMeasurementLine codec plan expectedWarmups expectedTotal) MeasurementProgress.start
  rejectIf ((codec.hash content).hex ≠ expectedDigest) (.checksumMismatch display)
  rejectIf (progress.position ≠ expectedTotal) (.invalidMeasurements
    ("measurement sequence has " ++ progress.position.repr ++ " records; expected " ++
      expectedTotal.repr))
  pure ⟨expectedMeasured, progress.generator, progress.records⟩

end Benchplane
