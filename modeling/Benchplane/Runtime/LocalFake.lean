import Benchplane.Execution
import Benchplane.Resolution

/-!
# The local fake runtime

An execution without a process: every number in it is derived from the plan, the
seed and the place of the record by a digest.
-/

namespace Benchplane

open Library

/-- `to_be_bytes` of an integer of `width` bytes. -/
def bigEndian (width value : Nat) : Bytes :=
  (List.range width).reverse.map fun place => UInt8.ofNat (value / 256 ^ place)

/-- `u64::from_be_bytes` of the first eight bytes. -/
def fromBigEndian (bytes : Bytes) : Nat :=
  bytes.foldl (fun value b => value * 256 + b.toNat) 0

namespace LocalFake

variable (hash : Bytes → Digest)

/-- `derive_value`: a value from `minimum` on, in a range of `span` values. -/
def deriveValue (planDigest : String) (seed : UInt64) (phase : String)
    (repetitionIndex sampleIndex : UInt32) (metricTag : String) (minimum span : Nat) : UInt64 :=
  let components :=
    [utf8 Schema.localFakeGeneratorVersion, utf8 planDigest, bigEndian 8 seed.toNat, utf8 phase,
      bigEndian 4 repetitionIndex.toNat, bigEndian 4 sampleIndex.toNat, utf8 metricTag]
  let absorbed := components.flatMap fun component =>
    bigEndian 8 component.length ++ component
  let value := fromBigEndian ((hash absorbed).bytes.take 8)
  UInt64.ofNat (minimum + value % span)

/-- The tag of a phase. -/
def phaseTag : MeasurementPhase → String
  | .warmup => "warmup"
  | .measured => "measured"

/-- `measurement`. -/
def measurement (plan : ResolvedExperiment) (seed : UInt64) (phase : MeasurementPhase)
    (repetitionIndex sampleIndex : UInt32) : MeasurementRecord :=
  let metric (tag : String) (minimum span : Nat) : UInt64 :=
    deriveValue hash plan.resolvedPlanDigest seed (phaseTag phase) repetitionIndex sampleIndex tag
      minimum span
  { generator := Schema.localFakeGeneratorVersion
    attemptNumber := 1
    phase := phase
    repetitionIndex := repetitionIndex
    sampleIndex := sampleIndex
    latencyMicros := metric "latencyMicros" 10000 40001
    timeToFirstTokenMicros := metric "timeToFirstTokenMicros" 1000 9001
    throughputMilliRequestsPerSecond := metric "throughputMilliRequestsPerSecond" 10000 90001
    successfulRequests := plan.experiment.spec.workload.requests
    failedRequests := 0
    requestObservations := [] }

/-- The records of one phase, for the indices from 1 to `count`. -/
def measurements (plan : ResolvedExperiment) (seed : UInt64) (phase : MeasurementPhase)
    (count : UInt32) : List MeasurementRecord :=
  (List.range count.toNat).map fun index =>
    measurement hash plan seed phase (UInt32.ofNat (index + 1)) 1

/-- The number of measured records of a scenario. -/
def measuredCount (repetitions : UInt32) : LocalFakeScenario → UInt32
  | .success => repetitions
  | .insufficientMeasurements => saturatingSub32 repetitions 1
  | .runtimeFailure | .interrupted => min (saturatingSub32 repetitions 1) 1

/-- The failure of a scenario that fails. -/
def failure (code message : String) : FailureRecord := ⟨"running", code, message, false, 1⟩

/-- `execute`. -/
def execute (plan : ResolvedExperiment) (seed : UInt64) (scenario : LocalFakeScenario) :
    ExecutionOutput :=
  let spec := plan.experiment.spec.measurement
  let records := measurements hash plan seed .warmup spec.warmupRuns ++
    measurements hash plan seed .measured (measuredCount spec.repetitions scenario)
  let output (terminalState : RunState) (failure : Option FailureRecord) : ExecutionOutput :=
    ⟨records, none, none, terminalState, failure⟩
  match scenario with
  | .success | .insufficientMeasurements => output .succeeded none
  | .runtimeFailure => output .failed (some (failure Schema.errorLocalFakeRuntimeFailure
      "deterministic local-fake runtime failure"))
  | .interrupted => output .interrupted (some (failure Schema.errorLocalFakeInterrupted
      "deterministic local-fake interruption"))

end LocalFake

/-! ## The values -/

namespace LocalFake

/-- No scenario has more measured records than repetitions. -/
theorem measuredCount_le (repetitions : UInt32) (scenario : LocalFakeScenario) :
    (measuredCount repetitions scenario).toNat ≤ repetitions.toNat := by
  have hless : (saturatingSub32 repetitions 1).toNat ≤ repetitions.toNat := by
    unfold saturatingSub32
    split
    · rename_i hle
      rw [UInt32.toNat_sub_of_le _ _ hle]
      exact Nat.sub_le _ _
    · exact Nat.zero_le _
  cases scenario with
  | success => exact Nat.le_refl _
  | insufficientMeasurements => exact hless
  | runtimeFailure | interrupted =>
      show (if saturatingSub32 repetitions 1 ≤ 1 then saturatingSub32 repetitions 1 else 1).toNat ≤
        repetitions.toNat
      split
      · exact hless
      · rename_i hmore
        rw [UInt32.le_iff_toNat_le] at hmore
        have hone : (1 : UInt32).toNat = 1 := rfl
        omega

variable {hash : Bytes → Digest}

/-- A derived value lies in its range. -/
theorem deriveValue_mem {planDigest phase metricTag : String} {seed : UInt64}
    {repetitionIndex sampleIndex : UInt32} {minimum span : Nat} (hspan : 0 < span)
    (hfits : minimum + span ≤ 2 ^ 64) :
    minimum ≤ (deriveValue hash planDigest seed phase repetitionIndex sampleIndex metricTag
        minimum span).toNat ∧
      (deriveValue hash planDigest seed phase repetitionIndex sampleIndex metricTag
        minimum span).toNat < minimum + span := by
  simp only [deriveValue]
  generalize fromBigEndian _ = value
  have hmod : value % span < span := Nat.mod_lt _ hspan
  have hrange : minimum + value % span < 2 ^ 64 := by omega
  rw [UInt64.toNat_ofNat_of_lt' hrange]
  omega

/-- The ranges of the timings of a record meet at 10000. -/
theorem measurement_timings (plan : ResolvedExperiment) (seed : UInt64)
    (phase : MeasurementPhase) (repetitionIndex sampleIndex : UInt32) :
    let record := measurement hash plan seed phase repetitionIndex sampleIndex
    (1000 ≤ record.timeToFirstTokenMicros.toNat ∧ record.timeToFirstTokenMicros.toNat ≤ 10000) ∧
      (10000 ≤ record.latencyMicros.toNat ∧ record.latencyMicros.toNat ≤ 50000) ∧
      (10000 ≤ record.throughputMilliRequestsPerSecond.toNat ∧
        record.throughputMilliRequestsPerSecond.toNat ≤ 100000) := by
  have hbounds : ∀ tag minimum span, 0 < span → minimum + span ≤ 2 ^ 64 →
      minimum ≤ (deriveValue hash plan.resolvedPlanDigest seed (phaseTag phase) repetitionIndex
        sampleIndex tag minimum span).toNat ∧ (deriveValue hash plan.resolvedPlanDigest seed
        (phaseTag phase) repetitionIndex sampleIndex tag minimum span).toNat < minimum + span :=
    fun tag minimum span hspan hfits => deriveValue_mem hspan hfits
  have hlatency := hbounds "latencyMicros" 10000 40001 (by norm_num) (by norm_num)
  have httft := hbounds "timeToFirstTokenMicros" 1000 9001 (by norm_num) (by norm_num)
  have hthroughput :=
    hbounds "throughputMilliRequestsPerSecond" 10000 90001 (by norm_num) (by norm_num)
  simp only [measurement]
  omega

@[simp] theorem length_measurements (plan : ResolvedExperiment) (seed : UInt64)
    (phase : MeasurementPhase) (count : UInt32) :
    (measurements hash plan seed phase count).length = count.toNat := by
  simp [measurements]

theorem getElem_measurements {plan : ResolvedExperiment} {seed : UInt64}
    {phase : MeasurementPhase} {count : UInt32} {position : Nat}
    (h : position < (measurements hash plan seed phase count).length) :
    (measurements hash plan seed phase count)[position] =
      measurement hash plan seed phase (UInt32.ofNat (position + 1)) 1 := by
  simp [measurements]

end LocalFake

end Benchplane
