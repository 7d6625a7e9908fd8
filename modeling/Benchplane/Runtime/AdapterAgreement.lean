import Benchplane.Run.ExecutionKind

/-!
# Adapters against the verifier

The adapters and the verifier check the same records with separately written
lists of conditions.  Record by record the two agree up to one condition each:
the verifier asks a CPU probe record to have no observations, and it asks the
aggregates of a llama.cpp record to be the rounded means of its observations.
-/

namespace Benchplane

open Library

/-! ## Rounded means -/

theorem checkedU128_eq_some {value : Nat} (h : value < 2 ^ 128) :
    checkedU128 value = some value := if_pos h

/-- The durations in an observation list are summed without leaving a `u128`. -/
theorem foldlM_addRounded {values : List UInt64} {count total : Nat}
    (hcount : count + values.length < 2 ^ 128)
    (htotal : total + (values.map UInt64.toNat).sum < 2 ^ 128) :
    values.foldlM addRounded (count, total) =
      some (count + values.length, total + (values.map UInt64.toNat).sum) := by
  induction values generalizing count total with
  | nil => rfl
  | cons value rest ih =>
      simp only [List.length_cons, List.map_cons, List.sum_cons] at hcount htotal ⊢
      have hstep : addRounded (count, total) value = some (count + 1, total + value.toNat) := by
        simp only [addRounded]
        rw [checkedU128_eq_some (by omega), checkedU128_eq_some (by omega)]
        rfl
      rw [List.foldlM_cons, hstep, Option.bind_eq_bind, Option.bind_some,
        ih (by omega) (by omega)]
      simp only [Option.some.injEq, Prod.mk.injEq]
      omega

/-- The bounds of a list of positive durations, as the library's interval. -/
theorem roundedRequestMeanBounds_eq_some {values : List UInt64} (hne : values ≠ [])
    (hlength : values.length < 2 ^ 53) (hpos : ∀ value ∈ values, 0 < value.toNat) :
    ∃ minimum maximum, roundedRequestMeanBounds values = some (minimum, maximum) ∧
      ∀ a : UInt64, (minimum ≤ a ∧ a ≤ maximum) ↔
        IsReportedMean 1000 (values.map UInt64.toNat) a.toNat := by
  set numbers := values.map UInt64.toNat with hnumbers
  have hcount : numbers.length = values.length := by simp [hnumbers]
  have hpositive : 0 < values.length := List.length_pos_of_ne_nil hne
  have hnumbersNe : numbers ≠ [] := by simpa [hnumbers] using hne
  have hnumbersPos : ∀ value ∈ numbers, 0 < value := by
    intro value hvalue
    obtain ⟨x, hx, rfl⟩ := List.mem_map.mp hvalue
    exact hpos x hx
  have hleast : numbers.length ≤ numbers.sum := length_le_sum hnumbersPos
  have hgreatest : numbers.sum ≤ values.length * (2 ^ 64 - 1) := by
    have hbound := List.sum_le_card_nsmul numbers (2 ^ 64 - 1) (by
      intro value hvalue
      obtain ⟨x, -, rfl⟩ := List.mem_map.mp hvalue
      have hlt := x.toNat_lt
      omega)
    simpa [hcount] using hbound
  have hsum : numbers.sum < 2 ^ 117 := by
    refine lt_of_le_of_lt hgreatest ?_
    calc values.length * (2 ^ 64 - 1) ≤ 2 ^ 53 * (2 ^ 64 - 1) :=
          Nat.mul_le_mul_right _ (le_of_lt hlength)
      _ < 2 ^ 117 := by norm_num
  have hfold : values.foldlM addRounded (0, 0) = some (values.length, numbers.sum) := by
    have hcountFits : 0 + values.length < 2 ^ 128 := by omega
    have htotalFits : 0 + (values.map UInt64.toNat).sum < 2 ^ 128 := by
      rw [← hnumbers]
      omega
    simpa [← hnumbers] using foldlM_addRounded hcountFits htotalFits
  have hdivisor : 0 < values.length * 1000 := by omega
  -- both bounds are at most the greatest duration
  have hbelow : ∀ raw, raw ≤ 1000 * numbers.sum → raw ⌈/⌉ (values.length * 1000) < 2 ^ 64 := by
    intro raw hraw
    have hle : raw ⌈/⌉ (values.length * 1000) ≤ 2 ^ 64 - 1 := by
      rw [ceilDiv_le_iff_le_mul hdivisor]
      calc raw ≤ 1000 * numbers.sum := hraw
        _ ≤ 1000 * (values.length * (2 ^ 64 - 1)) := Nat.mul_le_mul_left _ hgreatest
        _ = values.length * 1000 * (2 ^ 64 - 1) := by ring
    omega
  have hminimum := hbelow _ (least_le_greatest (by norm_num : 0 < 1000) hleast)
  have hmaximum := hbelow _ (le_refl (1000 * numbers.sum))
  rw [hcount] at hminimum
  refine ⟨UInt64.ofNat ((1000 * (numbers.sum - values.length) + values.length) ⌈/⌉
      (values.length * 1000)),
    UInt64.ofNat ((1000 * numbers.sum) ⌈/⌉ (values.length * 1000)), ?_, fun a => ?_⟩
  · have hguard : ¬ (values.length = 0 ∨ numbers.sum < values.length) := by omega
    simp only [roundedRequestMeanBounds, hfold, Option.bind_eq_bind, Option.bind_some,
      if_neg hguard, Nat.mul_comm _ 1000, ceilDivU128]
    rw [checkedU128_eq_some (by omega), Option.bind_some, checkedU128_eq_some (by omega),
      Option.bind_some, checkedU128_eq_some (by omega), Option.bind_some,
      checkedU128_eq_some (by omega), Option.bind_some,
      div_add_one_unless_dvd_eq_ceilDiv _ (by omega), div_add_one_unless_dvd_eq_ceilDiv _ (by omega)]
    rw [Nat.mul_comm values.length 1000] at hminimum hmaximum
    rw [tryU64, if_pos hminimum, Option.bind_some, tryU64, if_pos hmaximum]
    rfl
  · rw [isReportedMean_iff (by norm_num) hnumbersNe hnumbersPos, hcount, UInt64.le_iff_toNat_le,
      UInt64.le_iff_toNat_le, UInt64.toNat_ofNat_of_lt' hminimum, UInt64.toNat_ofNat_of_lt' hmaximum,
      Nat.mul_comm values.length 1000]

/-! ## One record -/

/-- The adapters' place of a position is the verifier's. -/
theorem adapterPlace_eq {warmups : UInt32} {position : Nat} (h : position + 1 < 2 ^ 32) :
    (adapterPlace warmups position).1 = (expectedPlace warmups position).1 ∧
      (adapterPlace warmups position).2.toNat = (expectedPlace warmups position).2 := by
  have hwarmups := warmups.toNat_lt
  have hposition : (UInt32.ofNat position).toNat = position :=
    UInt32.toNat_ofNat_of_lt' (show position < 2 ^ 32 by omega)
  unfold adapterPlace expectedPlace
  split
  · refine ⟨rfl, ?_⟩
    rw [UInt32.toNat_add, hposition, UInt32.toNat_one]
    omega
  · rename_i hmeasured
    refine ⟨rfl, ?_⟩
    rw [UInt32.toNat_add, UInt32.toNat_sub_of_le _ _ (by
      rw [UInt32.le_iff_toNat_le, hposition]
      omega), hposition,
      UInt32.toNat_one]
    omega

/-- What an adapter accepts satisfies the checks common to all runtimes. -/
theorem matchesExecution_of_isAdapterRecord {generator : String} {warmups : UInt32}
    {plan : ResolvedExperiment} {record : MeasurementRecord} {position : Nat}
    {prior : Option String} (hposition : position + 1 < 2 ^ 32)
    (hprior : prior.all (· = generator) = true)
    (h : isAdapterRecord generator plan.experiment.spec.workload.requests warmups record position =
      true) :
    record.generator = generator ∧ matchesExecution record position warmups plan prior = true := by
  obtain ⟨hphase, hindex⟩ := @adapterPlace_eq warmups position hposition
  simp only [isAdapterRecord, Bool.and_eq_true, decide_eq_true_eq] at h
  obtain ⟨⟨⟨⟨⟨⟨⟨⟨⟨⟨hgenerator, hattempt⟩, hrecordPhase⟩, hrepetition⟩, hsample⟩, hlatency⟩, httft⟩,
    horder⟩, hthroughput⟩, hrequests⟩, hfailed⟩ := h
  refine ⟨hgenerator, ?_⟩
  rw [hphase] at hrecordPhase
  rw [← hgenerator] at hprior
  have hrepetitionNat : record.repetitionIndex.toNat = (expectedPlace warmups position).2 := by
    rw [hrepetition, hindex]
  simp only [matchesExecution, Bool.and_eq_true, decide_eq_true_eq]
  exact ⟨⟨⟨⟨⟨⟨⟨⟨⟨⟨hattempt, hrecordPhase⟩, hrepetitionNat⟩, hsample⟩, hlatency⟩, httft⟩, horder⟩,
    hthroughput⟩, hrequests⟩, hfailed⟩, hprior⟩

/-- The aggregates of a record are the rounded means of its observations, in
nanoseconds behind microseconds. -/
def AggregatesMatch (record : MeasurementRecord) : Prop :=
  IsReportedMean 1000 (record.requestObservations.map (·.latencyMicros.toNat))
      record.latencyMicros.toNat ∧
    IsReportedMean 1000 (record.requestObservations.map (·.timeToFirstTokenMicros.toNat))
      record.timeToFirstTokenMicros.toNat

/-- The observations of an accepted record are positive. -/
theorem pos_of_isObservationAt {observations : List RequestObservation}
    (h : (observations.zipIdx.all fun entry => isObservationAt entry.2 entry.1) = true) :
    ∀ observation ∈ observations,
      0 < observation.latencyMicros.toNat ∧ 0 < observation.timeToFirstTokenMicros.toNat := by
  intro observation hmem
  obtain ⟨index, hindex, rfl⟩ := List.getElem_of_mem hmem
  have hentry := List.all_eq_true.mp h (observations[index], index)
    (List.mk_mem_zipIdx_iff_getElem?.mpr (List.getElem?_eq_getElem hindex))
  simp only [isObservationAt, Bool.and_eq_true, decide_eq_true_eq] at hentry
  obtain ⟨⟨⟨-, hlatency⟩, httft⟩, -⟩ := hentry
  have hne : ∀ value : UInt64, value ≠ 0 → 0 < value.toNat := fun value hvalue =>
    Nat.pos_of_ne_zero fun hzero => hvalue (UInt64.toNat_inj.mp hzero)
  exact ⟨hne _ hlatency, hne _ httft⟩

/-- The aggregate check of the verifier. -/
theorem validateLlamaV2AggregateConsistency_eq_ok {record : MeasurementRecord}
    (hne : record.requestObservations ≠ []) (hlength : record.requestObservations.length < 2 ^ 53)
    (hobservations : (record.requestObservations.zipIdx.all fun entry =>
      isObservationAt entry.2 entry.1) = true) :
    validateLlamaV2AggregateConsistency record = .ok () ↔ AggregatesMatch record := by
  have hpos := pos_of_isObservationAt hobservations
  -- either aggregate is judged by the bounds of its own metric
  have hbounds : ∀ metric : RequestObservation → UInt64,
      (∀ observation ∈ record.requestObservations, 0 < (metric observation).toNat) →
      ∃ minimum maximum,
        roundedRequestMeanBounds (record.requestObservations.map metric) = some (minimum, maximum) ∧
        ∀ a : UInt64, (minimum ≤ a ∧ a ≤ maximum) ↔
          IsReportedMean 1000 (record.requestObservations.map fun o => (metric o).toNat)
            a.toNat := by
    intro metric hmetric
    have hmetrics : ∀ value ∈ record.requestObservations.map metric, 0 < value.toNat := by
      intro value hvalue
      obtain ⟨observation, hobservation, rfl⟩ := List.mem_map.mp hvalue
      exact hmetric observation hobservation
    have hspec := roundedRequestMeanBounds_eq_some (by simpa using hne) (by simpa using hlength)
      hmetrics
    rw [List.map_map] at hspec
    exact hspec
  obtain ⟨latencyMin, latencyMax, hlatency, hlatencyIff⟩ :=
    hbounds (·.latencyMicros) fun o ho => (hpos o ho).1
  obtain ⟨ttftMin, ttftMax, httft, httftIff⟩ :=
    hbounds (·.timeToFirstTokenMicros) fun o ho => (hpos o ho).2
  simp only [validateLlamaV2AggregateConsistency, bind_eq_ok_iff, orReject_eq_ok, hlatency, httft,
    rejectIf_eq_ok, Option.some.injEq]
  unfold AggregatesMatch
  rw [← hlatencyIff, ← httftIff]
  constructor
  · rintro ⟨_, rfl, _, rfl, hwithin⟩
    exact ⟨not_not.mp fun h => hwithin (.inl h), not_not.mp fun h => hwithin (.inr h)⟩
  · rintro ⟨hwithin, hwithin'⟩
    exact ⟨_, rfl, _, rfl, fun h => h.elim (fun h => h hwithin) fun h => h hwithin'⟩

/-! ## Sequences -/

/-- The loop of the verifier over records that an adapter has accepted, where the
verifier asks for one condition more. -/
theorem foldlM_acceptRecord_iff {plan : ResolvedExperiment} {warmups : UInt32}
    {records : List MeasurementRecord} {good : MeasurementRecord → Prop} (generator : String)
    (hlength : records.length < 2 ^ 32)
    (hadapter : ∀ position (h : position < records.length), isAdapterRecord generator
      plan.experiment.spec.workload.requests warmups records[position] position = true)
    (hgood : ∀ record ∈ records, ∀ position prior, record.generator = generator →
      matchesExecution record position warmups plan prior = true →
      (validateMeasurementRecord record position warmups plan prior = .ok () ↔ good record)) :
    (records.foldlM (acceptRecord plan warmups) .start).isOk = true ↔
      ∀ record ∈ records, good record := by
  have hok : (records.foldlM (acceptRecord plan warmups) .start).isOk = true ↔
      ∃ progress, records.foldlM (acceptRecord plan warmups) .start = .ok progress := by
    refine ⟨exists_of_isOk, ?_⟩
    rintro ⟨progress, hprogress⟩
    rw [hprogress]
    rfl
  rw [hok]
  -- the invariant: the records behind are kept, and their generator is the adapter's
  refine exists_foldlM_iff (fun done progress => progress.records = done ∧
    progress.generator.all (· = generator) = true) ?_ ?_ ⟨rfl, rfl⟩
  · rintro done record rest progress hitems ⟨rfl, hprior⟩
    have hposition : progress.records.length < records.length := by simp [hitems]
    have hrecord : records[progress.records.length] = record := by simp [hitems]
    have haccepted := hadapter _ hposition
    rw [hrecord] at haccepted
    obtain ⟨hgenerator, hmatches⟩ :=
      matchesExecution_of_isAdapterRecord (by omega) hprior haccepted
    rw [← hgood record (by simp [hitems]) _ _ hgenerator hmatches]
    simp only [acceptRecord, bind_eq_ok_iff, pure_eq_ok_iff]
    constructor
    · rintro ⟨progress', accepted, hvalid, -⟩
      exact hvalid
    · intro hvalid
      exact ⟨_, (), hvalid, rfl⟩
  · rintro done record rest progress progress' hitems ⟨rfl, hprior⟩ hstep
    simp only [acceptRecord, bind_eq_ok_iff, pure_eq_ok_iff] at hstep
    obtain ⟨-, -, rfl⟩ := hstep
    refine ⟨rfl, ?_⟩
    cases hcurrent : progress.generator with
    | some current => simpa [hcurrent] using hprior
    | none =>
        have hposition : progress.records.length < records.length := by simp [hitems]
        have hrecord : records[progress.records.length] = record := by simp [hitems]
        have haccepted := hadapter _ hposition
        rw [hrecord] at haccepted
        simpa using (matchesExecution_of_isAdapterRecord (by omega) hprior haccepted).1

/-- A helper-backed run that succeeded has its full counts. -/
theorem expectedMeasurementCounts_succeeded {plan : ResolvedExperiment} {runtime : RuntimeSpec}
    (hprovider : plan.experiment.spec.provider = .local)
    (hruntime : plan.experiment.spec.runtime = runtime)
    (hhelper : (∃ tokens units, runtime = .cpuProbe tokens units) ∨
      ∃ target model tokens, runtime = .llamaCpp target model tokens) :
    expectedMeasurementCounts plan .succeeded =
      .ok (plan.experiment.spec.measurement.warmupRuns,
        plan.experiment.spec.measurement.repetitions) := by
  obtain ⟨tokens, units, rfl⟩ | ⟨target, model, tokens, rfl⟩ := hhelper <;>
    simp [expectedMeasurementCounts, hprovider, hruntime]

/-- The plan of the small experiment on a runtime. -/
def ResolvedExperiment.sample (runtime : RuntimeSpec) (profile : String) : ResolvedExperiment :=
  ⟨Schema.apiVersion, "ResolvedExperiment", Experiment.sample .local runtime profile, "", ""⟩

/-- The plan of the experiment with a warm-up and repetitions. -/
def ResolvedExperiment.repeated (runtime : RuntimeSpec) (profile : String) : ResolvedExperiment :=
  ⟨Schema.apiVersion, "ResolvedExperiment", Experiment.repeated .local runtime profile, "", ""⟩

/-- Records that the CPU probe adapter accepts at their positions pass the verifier
for a succeeded run exactly when none of them has observations. -/
theorem cpuProbe_records_verified_iff (plan : ResolvedExperiment)
    (outputTokens workUnitsPerToken : UInt32) (records : List MeasurementRecord)
    (hvalid : plan.experiment.validate = .ok ())
    (hprovider : plan.experiment.spec.provider = .local)
    (hruntime : plan.experiment.spec.runtime = .cpuProbe outputTokens workUnitsPerToken)
    (hlength : records.length = plan.experiment.spec.measurement.warmupRuns.toNat +
      plan.experiment.spec.measurement.repetitions.toNat)
    (hadapter : ∀ position (h : position < records.length),
      CpuProbe.validateRecord (cpuProbeConfig plan outputTokens workUnitsPerToken)
        records[position] position = .ok ()) :
    ∃ warmups measured, expectedMeasurementCounts plan .succeeded = .ok (warmups, measured) ∧
      ((records.foldlM (acceptRecord plan warmups) .start).isOk = true ↔
        ∀ record ∈ records, record.requestObservations = []) := by
  refine ⟨_, _, expectedMeasurementCounts_succeeded hprovider hruntime (.inl ⟨_, _, rfl⟩), ?_⟩
  have hcount := Experiment.recordCount_le_of_cpuProbe hvalid hruntime
  refine foldlM_acceptRecord_iff Schema.cpuProbeGeneratorVersion (by omega)
    (fun position h => ?_) ?_
  · have haccepted := CpuProbe.validateRecord_eq_ok.mp (hadapter position h)
    simpa only [cpuProbeConfig] using haccepted
  · intro record _ position prior hgenerator hmatches
    simp [validateMeasurementRecord, hmatches, hruntime, hgenerator, rejectIf]

/-- On a warm-up and two repetitions without observations. -/
theorem cpuProbe_records_verified_iff_repeated :
    ∃ warmups measured, expectedMeasurementCounts
        (.repeated (.cpuProbe 4 100) Schema.cpuProbeWorkloadProfile) .succeeded =
          .ok (warmups, measured) ∧
      (((MeasurementRecord.repeated Schema.cpuProbeGeneratorVersion
          [(31, 12, []), (29, 10, []), (30, 10, [])]).foldlM
          (acceptRecord (.repeated (.cpuProbe 4 100) Schema.cpuProbeWorkloadProfile) warmups)
          .start).isOk = true ↔
        ∀ record ∈ MeasurementRecord.repeated Schema.cpuProbeGeneratorVersion
          [(31, 12, []), (29, 10, []), (30, 10, [])], record.requestObservations = []) := by
  refine cpuProbe_records_verified_iff (.repeated (.cpuProbe 4 100) Schema.cpuProbeWorkloadProfile)
    4 100 _ rfl rfl rfl rfl ?_
  intro position h
  have hplace : position = 0 ∨ position = 1 ∨ position = 2 := by
    simp [MeasurementRecord.repeated] at h
    omega
  rcases hplace with rfl | rfl | rfl <;> rfl

/-- The adapter accepts a record with an observation, which the verifier refuses. -/
theorem cpuProbe_records_not_verified :
    ¬ ∀ (plan : ResolvedExperiment) (outputTokens workUnitsPerToken : UInt32)
      (records : List MeasurementRecord),
      plan.experiment.validate = .ok () → plan.experiment.spec.provider = .local →
      plan.experiment.spec.runtime = .cpuProbe outputTokens workUnitsPerToken →
      records.length = plan.experiment.spec.measurement.warmupRuns.toNat +
        plan.experiment.spec.measurement.repetitions.toNat →
      (∀ position (h : position < records.length),
        CpuProbe.validateRecord (cpuProbeConfig plan outputTokens workUnitsPerToken)
          records[position] position = .ok ()) →
      ∃ warmups measured, expectedMeasurementCounts plan .succeeded = .ok (warmups, measured) ∧
        (records.foldlM (acceptRecord plan warmups) .start).isOk = true := by
  intro h
  obtain ⟨warmups, measured, hcounts, haccepted⟩ :=
    h (.sample (.cpuProbe 1 1) Schema.cpuProbeWorkloadProfile) 1 1
      [.sample Schema.cpuProbeGeneratorVersion 10 [⟨1, 10, 1⟩]] rfl rfl rfl rfl
      (fun position hposition => by
        obtain rfl : position = 0 := by simpa using hposition
        rw [List.getElem_cons_zero]
        rfl)
  obtain rfl : 0 = warmups := congrArg Prod.fst (Except.ok.inj hcounts)
  -- the adapter takes the observations of the record, the verifier refuses them
  have hrefused : ([MeasurementRecord.sample Schema.cpuProbeGeneratorVersion 10
      [⟨1, 10, 1⟩]].foldlM (acceptRecord (.sample (.cpuProbe 1 1) Schema.cpuProbeWorkloadProfile) 0)
      .start).isOk = false := rfl
  rw [hrefused] at haccepted
  contradiction

/-- Records that the llama.cpp adapter accepts at their positions pass the verifier
for a succeeded run exactly when the aggregates of each are rounded means of its
observations. -/
theorem llamaCpp_records_verified_iff (plan : ResolvedExperiment) (target : LlamaCppTarget)
    (model : String) (outputTokens : UInt32) (records : List MeasurementRecord)
    (hvalid : plan.experiment.validate = .ok ())
    (hprovider : plan.experiment.spec.provider = .local)
    (hruntime : plan.experiment.spec.runtime = .llamaCpp target model outputTokens)
    (hlength : records.length = plan.experiment.spec.measurement.warmupRuns.toNat +
      plan.experiment.spec.measurement.repetitions.toNat)
    (hadapter : ∀ position (h : position < records.length),
      LlamaCpp.validateRecord (llamaCppConfig plan target outputTokens) records[position] position =
        .ok ()) :
    ∃ warmups measured, expectedMeasurementCounts plan .succeeded = .ok (warmups, measured) ∧
      ((records.foldlM (acceptRecord plan warmups) .start).isOk = true ↔
        ∀ record ∈ records, AggregatesMatch record) := by
  refine ⟨_, _, expectedMeasurementCounts_succeeded hprovider hruntime
    (.inr ⟨_, _, _, rfl⟩), ?_⟩
  have hcount := Experiment.recordCount_le_of_llamaCpp hvalid hruntime
  refine foldlM_acceptRecord_iff Schema.llamaCppGeneratorVersion (by omega)
    (fun position h => ?_) ?_
  · have haccepted := (LlamaCpp.validateRecord_eq_ok.mp (hadapter position h)).1
    simpa only [llamaCppConfig] using haccepted
  · intro record hrecord position prior hgenerator hmatches
    obtain ⟨index, hindex, rfl⟩ := List.getElem_of_mem hrecord
    obtain ⟨-, hobservationCount, hobservations⟩ :=
      LlamaCpp.validateRecord_eq_ok.mp (hadapter index hindex)
    have hrequests := Experiment.requests_pos_of_validate hvalid
    have hbound := plan.experiment.spec.workload.requests.toNat_lt
    have hconfig : (llamaCppConfig plan target outputTokens).requests =
        plan.experiment.spec.workload.requests := rfl
    rw [hconfig] at hobservationCount
    -- every record has an observation for each request, and there are requests
    have hne : records[index].requestObservations ≠ [] := by
      intro hnil
      rw [hnil] at hobservationCount
      simp at hobservationCount
      omega
    have hversion : Schema.llamaCppGeneratorVersion ≠ Schema.llamaCppGeneratorVersionV1 := by decide
    rw [← validateLlamaV2AggregateConsistency_eq_ok hne (by omega) hobservations]
    simp [validateMeasurementRecord, validateLlamaCppRecord, hmatches, hruntime, hgenerator,
      hversion, hobservationCount, hobservations, rejectIf, bind, Except.bind]

/-- On a warm-up and two repetitions, the last of which reports a latency that is no mean of
its observations. -/
theorem llamaCpp_records_verified_iff_repeated :
    ∃ warmups measured, expectedMeasurementCounts
        (.repeated (.llamaCpp .cpu Schema.llamaCppModelIdentity 16) Schema.llamaCppWorkloadProfile)
          .succeeded = .ok (warmups, measured) ∧
      (((MeasurementRecord.repeated Schema.llamaCppGeneratorVersion
          [(16, 6, [⟨1, 20, 8⟩, ⟨2, 11, 3⟩]), (15, 5, [⟨1, 19, 7⟩, ⟨2, 10, 3⟩]),
            (40, 5, [⟨1, 19, 7⟩, ⟨2, 10, 3⟩])]).foldlM
          (acceptRecord (.repeated (.llamaCpp .cpu Schema.llamaCppModelIdentity 16)
            Schema.llamaCppWorkloadProfile) warmups) .start).isOk = true ↔
        ∀ record ∈ MeasurementRecord.repeated Schema.llamaCppGeneratorVersion
          [(16, 6, [⟨1, 20, 8⟩, ⟨2, 11, 3⟩]), (15, 5, [⟨1, 19, 7⟩, ⟨2, 10, 3⟩]),
            (40, 5, [⟨1, 19, 7⟩, ⟨2, 10, 3⟩])], AggregatesMatch record) := by
  refine llamaCpp_records_verified_iff
    (.repeated (.llamaCpp .cpu Schema.llamaCppModelIdentity 16) Schema.llamaCppWorkloadProfile)
    .cpu Schema.llamaCppModelIdentity 16 _ rfl rfl rfl rfl ?_
  intro position h
  have hplace : position = 0 ∨ position = 1 ∨ position = 2 := by
    simp [MeasurementRecord.repeated] at h
    omega
  rcases hplace with rfl | rfl | rfl <;> rfl

/-- The adapter accepts a latency of one second over an observation of ten
microseconds, which the verifier refuses. -/
theorem llamaCpp_records_not_verified :
    ¬ ∀ (plan : ResolvedExperiment) (target : LlamaCppTarget) (model : String)
      (outputTokens : UInt32) (records : List MeasurementRecord),
      plan.experiment.validate = .ok () → plan.experiment.spec.provider = .local →
      plan.experiment.spec.runtime = .llamaCpp target model outputTokens →
      records.length = plan.experiment.spec.measurement.warmupRuns.toNat +
        plan.experiment.spec.measurement.repetitions.toNat →
      (∀ position (h : position < records.length),
        LlamaCpp.validateRecord (llamaCppConfig plan target outputTokens)
          records[position] position = .ok ()) →
      ∃ warmups measured, expectedMeasurementCounts plan .succeeded = .ok (warmups, measured) ∧
        (records.foldlM (acceptRecord plan warmups) .start).isOk = true := by
  intro h
  obtain ⟨warmups, measured, hcounts, haccepted⟩ :=
    h (.sample (.llamaCpp .cpu Schema.llamaCppModelIdentity 1) Schema.llamaCppWorkloadProfile)
      .cpu Schema.llamaCppModelIdentity 1
      [.sample Schema.llamaCppGeneratorVersion 1000000 [⟨1, 10, 1⟩]] rfl rfl rfl rfl
      (fun position hposition => by
        obtain rfl : position = 0 := by simpa using hposition
        rw [List.getElem_cons_zero]
        rfl)
  obtain rfl : 0 = warmups := congrArg Prod.fst (Except.ok.inj hcounts)
  -- a mean of a second over a single request of ten microseconds
  have hrefused : ([MeasurementRecord.sample Schema.llamaCppGeneratorVersion 1000000
      [⟨1, 10, 1⟩]].foldlM (acceptRecord (.sample (.llamaCpp .cpu Schema.llamaCppModelIdentity 1)
      Schema.llamaCppWorkloadProfile) 0) .start).isOk = false := rfl
  rw [hrefused] at haccepted
  contradiction

end Benchplane
