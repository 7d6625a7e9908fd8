import Benchplane.Schema.Evidence
import Mathlib.Algebra.Order.BigOperators.Group.List
import Mathlib.Data.List.GetD
import Mathlib.Data.List.Sort

/-!
# Results of an execution

What a runtime adapter returns, and the validity and the summary that are
computed from it.
-/

namespace Benchplane

structure ExecutionOutput where
  measurements : List MeasurementRecord
  resources : Option ProcessResources
  nvidiaGpu : Option NvidiaGpuProvenance
  terminalState : RunState
  failure : Option FailureRecord
  deriving DecidableEq

/-- The attempt status of a terminal state.  There is none for other states, where the
source has an `unreachable!`. -/
def attemptTerminal : RunState → Option AttemptStatus
  | .succeeded => some .succeeded
  | .failed => some .failed
  | .interrupted => some .interrupted
  | .created | .preparing | .running | .collecting | .finalizing => none

/-- `measured_records`. -/
def measuredRecords (records : List MeasurementRecord) : List MeasurementRecord :=
  records.filter (·.phase = .measured)

/-- `evaluate_validity`.  There is no result for a state that is not terminal, where
the source has an `unreachable!`. -/
def evaluateValidity (plan : ResolvedExperiment) (output : ExecutionOutput) (runId : String) :
    Option ValidityResult :=
  let observed := UInt32.ofNat (measuredRecords output.measurements).length
  let required := plan.experiment.spec.measurement.repetitions
  let result (status : ValidityStatus) (reasons : List ValidityReason) : ValidityResult :=
    ⟨runId, status, required, observed, reasons⟩
  match output.terminalState with
  | .succeeded =>
      if observed ≥ required then some (result .valid [])
      else some (result .invalid [⟨"insufficientSamples", "required " ++ required.toNat.repr ++
        " measured samples but observed " ++ observed.toNat.repr⟩])
  | .failed => some (result .indeterminate [⟨"runtimeFailure",
      "measurement validity is indeterminate after runtime failure"⟩])
  | .interrupted => some (result .indeterminate [⟨"interrupted",
      "measurement validity is indeterminate after interruption"⟩])
  | .created | .preparing | .running | .collecting | .finalizing => none

/-! ## Statistics -/

/-- `mean_u64`.  Fewer than 2^64 values have a sum of at most 128 bits. -/
def meanU64 (values : List UInt64) : Option UInt64 :=
  if values = [] then none
  else
    let mean := (values.map UInt64.toNat).sum / values.length
    if mean < 2 ^ 64 then some (UInt64.ofNat mean) else none

/-- `nearest_rank`.  The rank of a nonempty list is inside it. -/
def nearestRank (sorted : List UInt64) (percentile : Nat) : UInt64 :=
  let rank := (percentile * sorted.length + 99) / 100
  sorted.getD (rank - 1) 0

/-- `describe_micros`. -/
def describeMicros (values : List UInt64) : Option LatencySummary :=
  if values = [] then none
  else
    let sorted := values.mergeSort (fun a b => decide (a ≤ b))
    (meanU64 sorted).map fun mean => ⟨mean, nearestRank sorted 50, nearestRank sorted 95⟩

/-- `summarize`. -/
def summarize (plan : ResolvedExperiment) (output : ExecutionOutput) (validity : ValidityResult)
    (runId : String) : RunSummary :=
  let measured := measuredRecords output.measurements
  let described := measured ≠ [] ∧ validity.status ≠ .indeterminate
  { runId := runId
    runStatus := output.terminalState
    attemptCount := 1
    sampleCount := UInt32.ofNat measured.length
    validityStatus := validity.status
    latency := if described then describeMicros (measured.map (·.latencyMicros)) else none
    meanThroughputMilliRequestsPerSecond :=
      if described then meanU64 (measured.map (·.throughputMilliRequestsPerSecond)) else none
    experimentDigest := plan.experimentDigest
    resolvedPlanDigest := plan.resolvedPlanDigest }

/-- The mean of values fits where the values do. -/
theorem meanU64_isSome {values : List UInt64} (h : values ≠ []) : (meanU64 values).isSome := by
  have hsum : (values.map UInt64.toNat).sum ≤ values.length * (2 ^ 64 - 1) := by
    have hbound := List.sum_le_card_nsmul (values.map UInt64.toNat) (2 ^ 64 - 1) (by
      intro value hvalue
      obtain ⟨x, -, rfl⟩ := List.mem_map.mp hvalue
      have hlt := x.toNat_lt
      omega)
    simpa using hbound
  have hlength : 0 < values.length := List.length_pos_of_ne_nil h
  have hmean : (values.map UInt64.toNat).sum / values.length < 2 ^ 64 := by
    refine lt_of_le_of_lt (Nat.div_le_of_le_mul hsum) (by norm_num)
  simp only [meanU64, if_neg h, if_pos hmean, Option.isSome_some]

end Benchplane
