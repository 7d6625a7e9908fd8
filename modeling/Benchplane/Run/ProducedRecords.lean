import Benchplane.Evidence.Acceptance
import Benchplane.Run.Run
import Mathlib.Tactic.Linarith

/-!
# The records a run produces

What the producer computes from an execution is what the verifier expects: the counts
and the places of the measurements, the validity and the summary, and the manifest.
-/

namespace Benchplane

open Library

/-! ## Counts -/

section

variable {hash : Bytes → Digest} {plan : ResolvedExperiment} {seed : UInt64}
  {scenario : LocalFakeScenario}

theorem LocalFake.measurements_execute :
    (LocalFake.execute hash plan seed scenario).measurements =
      LocalFake.measurements hash plan seed .warmup plan.experiment.spec.measurement.warmupRuns ++
        LocalFake.measurements hash plan seed .measured
          (LocalFake.measuredCount plan.experiment.spec.measurement.repetitions scenario) := by
  cases scenario <;> rfl

/-- The verifier derives the counts that the runtime goes by. -/
theorem expectedMeasurementCounts_localFake
    (hprovider : plan.experiment.spec.provider = .localFake)
    (hruntime : plan.experiment.spec.runtime = .localFake seed scenario) :
    expectedMeasurementCounts plan (LocalFake.execute hash plan seed scenario).terminalState =
      .ok (plan.experiment.spec.measurement.warmupRuns,
        LocalFake.measuredCount plan.experiment.spec.measurement.repetitions scenario) := by
  unfold expectedMeasurementCounts
  rw [hprovider, hruntime]
  cases scenario <;> rfl

/-! ## Places -/

/-- A record of the runtime is valid at its place. -/
theorem validate_measurement (hruntime : plan.experiment.spec.runtime = .localFake seed scenario)
    {warmups index : UInt32} {phase : MeasurementPhase} {position : Nat}
    (hplace : expectedPlace warmups position = (phase, index.toNat)) :
    validateMeasurementRecord (LocalFake.measurement hash plan seed phase index 1) position
      warmups plan (some Schema.localFakeGeneratorVersion) = .ok () := by
  have hmatches : matchesExecution (LocalFake.measurement hash plan seed phase index 1) position
      warmups plan (some Schema.localFakeGeneratorVersion) = true := by
    obtain ⟨⟨httft, hmost⟩, ⟨hleast, -⟩, hthroughput, -⟩ :=
      @LocalFake.measurement_timings hash plan seed phase index 1
    have hne : ∀ value : UInt64, 1 ≤ value.toNat → value ≠ 0 := by
      rintro value hvalue rfl
      contradiction
    simp only [matchesExecution, hplace, Bool.and_eq_true, decide_eq_true_eq]
    refine ⟨⟨⟨⟨⟨⟨⟨⟨⟨⟨rfl, rfl⟩, rfl⟩, rfl⟩, hne _ ?_⟩, hne _ ?_⟩, ?_⟩, hne _ ?_⟩, rfl⟩, rfl⟩, ?_⟩
    · omega
    · omega
    · -- the ranges of the two timings meet in one value
      rw [UInt64.le_iff_toNat_le]
      omega
    · omega
    · show decide (Schema.localFakeGeneratorVersion = Schema.localFakeGeneratorVersion) = true
      exact decide_eq_true rfl
  simp only [validateMeasurementRecord, bind_eq_ok_iff, rejectIf_eq_ok, Decidable.not_not,
    hruntime]
  exact ⟨(), hmatches, fun hcontract => hcontract.elim (fun h => h rfl) fun h => h rfl⟩

theorem validate_execute (hruntime : plan.experiment.spec.runtime = .localFake seed scenario)
    {position : Nat} {record : MeasurementRecord}
    (hrecord : (LocalFake.execute hash plan seed scenario).measurements[position]? =
      some record) :
    validateMeasurementRecord record position plan.experiment.spec.measurement.warmupRuns plan
      (some Schema.localFakeGeneratorVersion) = .ok () := by
  rw [LocalFake.measurements_execute] at hrecord
  generalize plan.experiment.spec.measurement.warmupRuns = warmups at hrecord ⊢
  generalize LocalFake.measuredCount _ scenario = measured at hrecord
  obtain ⟨hposition, rfl⟩ := List.getElem?_eq_some_iff.mp hrecord
  have hwarmups := warmups.toNat_lt
  have hmeasured := measured.toNat_lt
  have hsize : UInt32.size = 2 ^ 32 := rfl
  by_cases hphase : position < warmups.toNat
  · rw [List.getElem_append_left (by simpa using hphase), LocalFake.getElem_measurements]
    apply validate_measurement hruntime
    rw [expectedPlace, if_pos hphase, UInt32.toNat_ofNat_of_lt' (by omega)]
  · have hlast : position - warmups.toNat < measured.toNat := by
      simp only [List.length_append, LocalFake.length_measurements] at hposition
      omega
    rw [List.getElem_append_right (by simpa using hphase), LocalFake.getElem_measurements]
    apply validate_measurement hruntime
    rw [expectedPlace, if_neg hphase, LocalFake.length_measurements,
      UInt32.toNat_ofNat_of_lt' (by omega)]

end

/-! ## Measurements -/

section

variable {codec : Codec} {services : Services} {plan : ResolvedExperiment}

/-- The measurements of the local fake are what the verifier expects. -/
theorem fit_localFake {seed : UInt64} {scenario : LocalFakeScenario}
    (hvalid : plan.experiment.validate = .ok ())
    (hprovider : plan.experiment.spec.provider = .localFake)
    (hruntime : plan.experiment.spec.runtime = .localFake seed scenario)
    (hdecoded : ∀ record ∈ (LocalFake.execute codec.hash plan seed scenario).measurements,
      codec.measurement (toVec record.toJson) = .ok record) :
    MeasurementsFit codec plan (LocalFake.execute codec.hash plan seed scenario).terminalState
      plan.experiment.spec.measurement.warmupRuns
      (LocalFake.measuredCount plan.experiment.spec.measurement.repetitions scenario)
      Schema.localFakeGeneratorVersion
      (LocalFake.execute codec.hash plan seed scenario).measurements := by
  have hcount : (LocalFake.execute codec.hash plan seed scenario).measurements.length =
      plan.experiment.spec.measurement.warmupRuns.toNat +
        (LocalFake.measuredCount plan.experiment.spec.measurement.repetitions scenario).toNat := by
    rw [LocalFake.measurements_execute, List.length_append, LocalFake.length_measurements,
      LocalFake.length_measurements]
  have hlimit := Experiment.recordCount_le_of_localFake hvalid hruntime
  have hmeasured :=
    LocalFake.measuredCount_le plan.experiment.spec.measurement.repetitions scenario
  -- every record is one of the runtime's
  have hrecord : ∀ record ∈ (LocalFake.execute codec.hash plan seed scenario).measurements,
      record.generator = Schema.localFakeGeneratorVersion ∧ record.requestObservations = [] := by
    intro record hmem
    rw [LocalFake.measurements_execute, List.mem_append] at hmem
    rcases hmem with hwarmup | hmeasure
    · obtain ⟨index, -, rfl⟩ := List.mem_map.mp hwarmup
      exact ⟨rfl, rfl⟩
    · obtain ⟨index, -, rfl⟩ := List.mem_map.mp hmeasure
      exact ⟨rfl, rfl⟩
  have hversion : Json.quoteSize Schema.localFakeGeneratorVersion = 26 := rfl
  have hline : ∀ record ∈ (LocalFake.execute codec.hash plan seed scenario).measurements,
      (jsonLine record.toJson).length ≤ 341 := by
    intro record hmem
    have hlength := length_jsonLine_measurement_le record
    rw [(hrecord record hmem).1, (hrecord record hmem).2, hversion] at hlength
    simpa using hlength
  constructor
  case counts => exact expectedMeasurementCounts_localFake hprovider hruntime
  case length => exact hcount
  case representable => omega
  case generated => exact fun record hmem => (hrecord record hmem).1
  case valid => exact fun position record hposition => validate_execute hruntime hposition
  case decoded => exact hdecoded
  case lineBytes =>
    intro record hmem
    exact le_trans (hline record hmem) (by decide)
  case totalBytes =>
    have htotal := length_measurementLines_le hline
    have hbytes : maxMeasurementsBytes = 8388608 := rfl
    omega

/-- A failed helper run has no measurements, and none are expected. -/
theorem fit_of_failed (hcounts : expectedMeasurementCounts plan .failed = .ok (0, 0))
    (generator : String) :
    MeasurementsFit codec plan .failed 0 0 generator [] where
  counts := hcounts
  length := rfl
  representable := by decide
  generated := by simp
  valid := by simp
  decoded := by simp
  lineBytes := by simp
  totalBytes := Nat.zero_le _

/-- The execution is the local fake's, or one that failed. -/
def IsInProcessOrFailed (kind : ExecutionKind) (execution : ExecutionOutput) : Prop :=
  (∃ seed scenario, kind = .localFake seed scenario) ∨ execution.terminalState = .failed

/-- What such an execution leaves is what the verifier expects. -/
theorem exists_fit {kind : ExecutionKind} (hvalid : plan.experiment.validate = .ok ())
    (hkind : IsExecutable plan kind)
    (hexecution : IsInProcessOrFailed kind (executeRuntime codec services plan kind))
    (hdecoded : ∀ record ∈ (executeRuntime codec services plan kind).measurements,
      codec.measurement (toVec record.toJson) = .ok record) :
    ∃ warmups measured generator, MeasurementsFit codec plan
      (executeRuntime codec services plan kind).terminalState warmups measured generator
      (executeRuntime codec services plan kind).measurements := by
  cases hkind with
  | localFake provider runtime =>
      exact ⟨_, _, _, fit_localFake hvalid provider runtime hdecoded⟩
  | cpuProbe provider runtime =>
      -- an adapter that failed has given no records
      rcases hexecution with ⟨seed, scenario, hfake⟩ | hfailed
      · contradiction
      · have hnotSucceeded := ne_of_eq_of_ne hfailed (by decide : RunState.failed ≠ .succeeded)
        obtain ⟨hempty, -⟩ := CpuProbe.execute_of_failed hnotSucceeded
        have hcounts : expectedMeasurementCounts plan .failed = .ok (0, 0) := by
          simp only [expectedMeasurementCounts, provider, runtime]
        rw [hfailed]
        simp only [executeRuntime, hempty]
        exact ⟨0, 0, "", fit_of_failed hcounts ""⟩
  | llamaCpp provider runtime =>
      rcases hexecution with ⟨seed, scenario, hfake⟩ | hfailed
      · contradiction
      · have hnotSucceeded := ne_of_eq_of_ne hfailed (by decide : RunState.failed ≠ .succeeded)
        obtain ⟨hempty, -⟩ := LlamaCpp.execute_of_failed hnotSucceeded
        have hcounts : expectedMeasurementCounts plan .failed = .ok (0, 0) := by
          simp only [expectedMeasurementCounts, provider, runtime]
        rw [hfailed]
        simp only [executeRuntime, hempty]
        exact ⟨0, 0, "", fit_of_failed hcounts ""⟩

end

/-! ## The records of a run -/

/-- A run ID names something. -/
theorem isBlank_of_isRunId {text : String} (h : isRunId text = true) : isBlank text = false := by
  obtain ⟨rest, htext, -⟩ := toList_of_isRunId h
  rw [isBlank, htext]
  rfl

section

variable {codec : Codec} {layout : Layout} {plan : ResolvedExperiment} {e : Experiment}
  {execution : ExecutionOutput} {validity : ValidityResult}

/-- The manifest of a run with a terminal state. -/
def terminalManifest (layout : Layout) (plan : ResolvedExperiment) (execution : ExecutionOutput)
    (validity : ValidityResult) (hterminal : execution.terminalState.isTerminal = true) :
    TerminalManifest :=
  ⟨evidenceManifest plan layout.runId.text execution.terminalState validity.status, hterminal⟩

theorem validateManifest_produced (hplan : resolveExperiment codec e = .ok plan)
    (hterminal : execution.terminalState.isTerminal = true) :
    validateManifest (evidenceManifest plan layout.runId.text execution.terminalState
      validity.status) = .ok (terminalManifest layout plan execution validity hterminal) := by
  have hdigests : isSha256Digest plan.experimentDigest = true ∧
      isSha256Digest plan.resolvedPlanDigest = true := by
    simp only [resolveExperiment, bind_eq_ok_iff, mapFailure_eq_ok, pure_eq_ok_iff] at hplan
    obtain ⟨⟨⟩, -, rfl⟩ := hplan
    exact ⟨isSha256Digest_sha256Digest _ _, isSha256Digest_sha256Digest _ _⟩
  have hrequired : requireTerminal (evidenceManifest plan layout.runId.text
      execution.terminalState validity.status) =
      .ok (terminalManifest layout plan execution validity hterminal) := dif_pos hterminal
  simp only [validateManifest, bind_eq_ok_iff, rejectIf_eq_ok, pure_eq_ok_iff,
    Decidable.not_not]
  refine ⟨(), rfl, (), ?_, (), layout.runId.canonical, _, hrequired, (), rfl, (), hdigests.1, (),
    hdigests.2, rfl⟩
  show ¬ isBlank layout.runId.text = true
  simp [isBlank_of_isRunId layout.runId.canonical]

/-- The validity of the producer is the one that the verifier derives. -/
theorem matchesValidity_produced (hterminal : execution.terminalState.isTerminal = true)
    {measured : UInt32}
    (hcount : UInt32.ofNat (measuredRecords execution.measurements).length = measured)
    (h : evaluateValidity plan execution layout.runId.text = some validity) :
    matchesValidity validity (terminalManifest layout plan execution validity hterminal) plan
      measured = true := by
  obtain ⟨records, resources, nvidia, state, failure⟩ := execution
  unfold evaluateValidity at h
  simp only [hcount] at h
  cases state with
  | succeeded =>
      simp only at h
      split at h
      · rename_i hmet
        obtain rfl := Option.some.inj h
        simp [matchesValidity, terminalManifest, evidenceManifest, expectedValidity, hmet]
      · rename_i hmissed
        obtain rfl := Option.some.inj h
        simp [matchesValidity, terminalManifest, evidenceManifest, expectedValidity, hmissed]
  | failed | interrupted =>
      obtain rfl := Option.some.inj h
      simp [matchesValidity, terminalManifest, evidenceManifest, expectedValidity]
  | created | preparing | running | collecting | finalizing => contradiction

/-- The summary of the producer is the one that the verifier derives. -/
theorem matchesSummary_produced (hterminal : execution.terminalState.isTerminal = true)
    {validation : MeasurementValidation} (hrecords : validation.records = execution.measurements)
    (hcount : UInt32.ofNat (measuredRecords execution.measurements).length =
      validation.measuredRecords) :
    matchesSummary (summarize plan execution validity layout.runId.text)
      (terminalManifest layout plan execution validity hterminal) validation = true := by
  have hstatistics := @expectedStatistics_eq
    (terminalManifest layout plan execution validity hterminal) execution.measurements
    validity.status rfl
  simp only [matchesSummary, hrecords, hstatistics, summarize, hcount, Bool.and_eq_true,
    decide_eq_true_eq]
  refine ⟨⟨⟨⟨⟨⟨⟨⟨?_, ?_⟩, ?_⟩, ?_⟩, ?_⟩, ?_⟩, ?_⟩, ?_⟩, ?_⟩ <;> trivial

end

end Benchplane
