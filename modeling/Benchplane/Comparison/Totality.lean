import Benchplane.Comparison.Eligible

/-!
# The comparison does not panic

Every `expect` of the comparison asks for something that verification and eligibility
have established: the provenance, a measured record, an observation.  The deltas of
64-bit numbers fit an `i128` with room for the percentage.
-/

namespace Benchplane

open Library Library.Panicking

/-! ## Metrics -/

/-- A delta and its percentage, as integers without bounds. -/
def metricOf (baseline candidate : UInt64) : MetricComparison where
  baseline := baseline
  candidate := candidate
  delta :=
    { absoluteDelta := candidate.toNat - baseline.toNat
      percentageDeltaMilliPercent :=
        if baseline = 0 then none
        else some ((((candidate.toNat : Int) - baseline.toNat) * 100000).tdiv baseline.toNat) }

/-- A quotient is not larger than what is divided. -/
theorem natAbs_tdiv_le (a b : Int) : (a.tdiv b).natAbs ≤ a.natAbs := by
  rw [Int.natAbs_tdiv]
  exact Nat.div_le_self _ _

theorem compareMetric_eq (baseline candidate : UInt64) :
    compareMetric baseline candidate = some (metricOf baseline candidate) := by
  have hbaseline := baseline.toNat_lt
  have hcandidate := candidate.toNat_lt
  have hdelta : signed 128 ((candidate.toNat : Int) - baseline.toNat) =
      some ((candidate.toNat : Int) - baseline.toNat) := by
    apply signed_eq
    · omega
    · omega
  simp only [compareMetric, metricOf, hdelta]
  by_cases hzero : baseline = 0
  · simp [hzero]
  · have hne : (baseline.toNat : Int) ≠ 0 := by
      intro heq
      apply hzero
      apply UInt64.toNat_inj.mp
      exact Int.natCast_eq_zero.mp heq
    have hscaled : signed 128 (((candidate.toNat : Int) - baseline.toNat) * 100000) =
        some (((candidate.toNat : Int) - baseline.toNat) * 100000) := by
      apply signed_eq
      · omega
      · omega
    have hquotient := natAbs_tdiv_le (((candidate.toNat : Int) - baseline.toNat) * 100000)
      baseline.toNat
    have hpercentage : signedQuotient 128 (((candidate.toNat : Int) - baseline.toNat) * 100000)
        baseline.toNat =
        some ((((candidate.toNat : Int) - baseline.toNat) * 100000).tdiv baseline.toNat) := by
      rw [signedQuotient, if_neg hne]
      apply signed_eq
      · omega
      · omega
    simp [hzero, hscaled, hpercentage]

/-- A summary of values that there are. -/
theorem describeMicros_isSome {values : List UInt64} (h : values ≠ []) :
    (describeMicros values).isSome := by
  have hsorted : values.mergeSort (fun a b => decide (a ≤ b)) ≠ [] := by
    intro hnil
    have hlength := congrArg List.length hnil
    rw [List.length_mergeSort, List.length_nil] at hlength
    exact h (List.length_eq_zero_iff.mp hlength)
  rw [describeMicros, if_neg h, Option.isSome_map]
  exact meanU64_isSome hsorted

/-- Values that a comparison can describe. -/
structure Describable (values : List UInt64) : Prop where
  nonempty : values ≠ []
  length_le : values.length ≤ 2 ^ 32

theorem Describable.exists_describe {values : List UInt64} (h : Describable values) :
    ∃ summary, (Machine.describeMicros values).join = some summary := by
  have hlength := h.length_le
  rw [Machine.describeMicros_eq (by omega)]
  exact Option.isSome_iff_exists.mp (describeMicros_isSome h.nonempty)

theorem Describable.exists_mean {values : List UInt64} (h : Describable values) :
    ∃ mean, (Machine.meanU64 values).join = some mean := by
  have hlength := h.length_le
  rw [Machine.meanU64_eq (by omega)]
  exact Option.isSome_iff_exists.mp (meanU64_isSome h.nonempty)

theorem exists_compareDistribution {baseline candidate : List UInt64}
    (hbaseline : Describable baseline) (hcandidate : Describable candidate) :
    ∃ distribution, compareDistribution baseline candidate = some distribution := by
  obtain ⟨baselineSummary, hbaselineSummary⟩ := hbaseline.exists_describe
  obtain ⟨candidateSummary, hcandidateSummary⟩ := hcandidate.exists_describe
  simp [compareDistribution, hbaselineSummary, hcandidateSummary, compareMetric_eq]

/-! ## Sections -/

/-- The number of measured repetitions that a plan calls for. -/
def VerifiedEvidenceBundle.repetitionCount (bundle : VerifiedEvidenceBundle) : Nat :=
  bundle.plan.experiment.spec.measurement.repetitions.toNat

/-- The number of measured requests that a plan calls for. -/
def VerifiedEvidenceBundle.requestCount (bundle : VerifiedEvidenceBundle) : Nat :=
  bundle.repetitionCount * bundle.plan.experiment.spec.workload.requests.toNat

/-- The observations of the measured records. -/
def VerifiedEvidenceBundle.observations (bundle : VerifiedEvidenceBundle) :
    List RequestObservation :=
  (measuredRecords bundle.measurements).flatMap (·.requestObservations)

section

variable {bundle : VerifiedEvidenceBundle} (h : HasAllObservations bundle)

include h

theorem HasAllObservations.requestCount_le : 1 ≤ bundle.requestCount ∧ bundle.requestCount ≤ 84 := by
  have hbounds := h.bounds
  have hproduct := Nat.mul_pos h.repetitions_pos h.requests_pos
  have hle := Nat.mul_le_mul_right bundle.plan.experiment.spec.workload.requests.toNat
    (Nat.le_add_left bundle.plan.experiment.spec.measurement.repetitions.toNat
      bundle.plan.experiment.spec.measurement.warmupRuns.toNat)
  unfold VerifiedEvidenceBundle.requestCount VerifiedEvidenceBundle.repetitionCount
  omega

theorem HasAllObservations.length_observations :
    bundle.observations.length = bundle.requestCount := by
  have hconstant : (measuredRecords bundle.measurements).map (·.requestObservations.length) =
      (measuredRecords bundle.measurements).map fun _ =>
        bundle.plan.experiment.spec.workload.requests.toNat := by
    apply List.map_congr_left
    intro record hrecord
    exact h.observations record (List.mem_of_mem_filter hrecord)
  rw [VerifiedEvidenceBundle.observations, List.length_flatMap, hconstant, List.map_const',
    List.sum_replicate, h.measured]
  rfl

/-- The values of the requests can be described. -/
theorem HasAllObservations.requestValues (value : RequestObservation → UInt64) :
    Describable (bundle.observations.map value) := by
  obtain ⟨hpos, hle⟩ := h.requestCount_le
  have hlength : (bundle.observations.map value).length = bundle.requestCount := by
    rw [List.length_map, h.length_observations]
  constructor
  · intro hnil
    rw [hnil, List.length_nil] at hlength
    omega
  · omega

/-- The values of the repetitions can be described. -/
theorem HasAllObservations.repetitionValues (value : MeasurementRecord → UInt64) :
    Describable ((measuredRecords bundle.measurements).map value) := by
  have hpos := h.repetitions_pos
  have hword := bundle.plan.experiment.spec.measurement.repetitions.toNat_lt
  have hlength : ((measuredRecords bundle.measurements).map value).length =
      bundle.plan.experiment.spec.measurement.repetitions.toNat := by
    rw [List.length_map, h.measured]
  constructor
  · intro hnil
    rw [hnil, List.length_nil] at hlength
    omega
  · omega

/-- The count of the requests in a section. -/
theorem HasAllObservations.toNat_requests (value : RequestObservation → UInt64) :
    (UInt64.ofNat (bundle.observations.map value).length).toNat = bundle.requestCount := by
  obtain ⟨-, hle⟩ := h.requestCount_le
  have hfits : bundle.requestCount < UInt64.size := by
    show bundle.requestCount < 18446744073709551616
    omega
  rw [List.length_map, h.length_observations]
  exact UInt64.toNat_ofNat_of_lt' hfits

/-- The count of the repetitions in a section. -/
theorem HasAllObservations.toNat_repetitions (value : MeasurementRecord → UInt64) :
    (UInt64.ofNat ((measuredRecords bundle.measurements).map value).length).toNat =
      bundle.repetitionCount := by
  have hword := bundle.plan.experiment.spec.measurement.repetitions.toNat_lt
  have hfits : bundle.repetitionCount < UInt64.size := by
    show bundle.plan.experiment.spec.measurement.repetitions.toNat < 18446744073709551616
    omega
  rw [List.length_map, h.measured]
  exact UInt64.toNat_ofNat_of_lt' hfits

end

section

variable {baseline candidate : VerifiedEvidenceBundle}

theorem exists_compareRequests (hbaseline : HasAllObservations baseline)
    (hcandidate : HasAllObservations candidate) :
    ∃ requests, compareRequests baseline candidate = some requests ∧
      requests.baselineCount.toNat = baseline.requestCount ∧
      requests.candidateCount.toNat = candidate.requestCount := by
  obtain ⟨latency, hlatency⟩ := exists_compareDistribution
    (hbaseline.requestValues (·.latencyMicros)) (hcandidate.requestValues (·.latencyMicros))
  obtain ⟨ttft, httft⟩ := exists_compareDistribution
    (hbaseline.requestValues (·.timeToFirstTokenMicros))
    (hcandidate.requestValues (·.timeToFirstTokenMicros))
  have hcompared : compareRequests baseline candidate = some
      { unit := "measuredRequest"
        baselineCount := UInt64.ofNat (baseline.observations.map (·.latencyMicros)).length
        candidateCount := UInt64.ofNat (candidate.observations.map (·.latencyMicros)).length
        latencyMicros := latency
        timeToFirstTokenMicros := ttft } := by
    show (compareDistribution (baseline.observations.map _) (candidate.observations.map _)).bind _ =
      _
    rw [hlatency]
    show (compareDistribution (baseline.observations.map _) (candidate.observations.map _)).bind _ =
      _
    rw [httft]
    rfl
  exact ⟨_, hcompared, hbaseline.toNat_requests _, hcandidate.toNat_requests _⟩

theorem exists_compareRepetitions (hbaseline : HasAllObservations baseline)
    (hcandidate : HasAllObservations candidate) :
    ∃ repetitions, compareRepetitions baseline candidate = some repetitions ∧
      repetitions.baselineCount.toNat = baseline.repetitionCount ∧
      repetitions.candidateCount.toNat = candidate.repetitionCount := by
  obtain ⟨latency, hlatency⟩ := exists_compareDistribution
    (hbaseline.repetitionValues (·.latencyMicros)) (hcandidate.repetitionValues (·.latencyMicros))
  obtain ⟨ttft, httft⟩ := exists_compareDistribution
    (hbaseline.repetitionValues (·.timeToFirstTokenMicros))
    (hcandidate.repetitionValues (·.timeToFirstTokenMicros))
  obtain ⟨mean, hmean⟩ :=
    (hbaseline.repetitionValues (·.throughputMilliRequestsPerSecond)).exists_mean
  obtain ⟨mean', hmean'⟩ :=
    (hcandidate.repetitionValues (·.throughputMilliRequestsPerSecond)).exists_mean
  -- there are measured records on both sides, so no division is by zero
  have hcompared : compareRepetitions baseline candidate = some
      { unit := "measuredRepetitionAggregate"
        baselineCount :=
          UInt64.ofNat ((measuredRecords baseline.measurements).map (·.latencyMicros)).length
        candidateCount :=
          UInt64.ofNat ((measuredRecords candidate.measurements).map (·.latencyMicros)).length
        aggregateLatencyMicros := latency
        aggregateTimeToFirstTokenMicros := ttft
        meanThroughputMilliRequestsPerSecond := metricOf mean mean' } := by
    simp only [compareRepetitions, repetitionValues, hlatency, httft, hmean, hmean',
      compareMetric_eq, Option.bind_eq_bind, Option.bind_some]
    rfl
  exact ⟨_, hcompared, hbaseline.toNat_repetitions _, hcandidate.toNat_repetitions _⟩

/-- Resources are compared when there are some. -/
theorem exists_compareResources (baseline candidate : Option AttemptResources) :
    ∃ resources, compareResources baseline candidate = some resources ∧
      (resources.isSome ↔ baseline.isSome ∨ candidate.isSome) := by
  cases baseline with
  | none =>
      cases candidate with
      | none => exact ⟨none, rfl, by simp⟩
      | some candidate => exact ⟨_, rfl, by simp⟩
  | some baseline =>
      cases candidate with
      | none => exact ⟨_, rfl, by simp⟩
      | some candidate => simp [compareResources, compareResourceMetrics, compareMetric_eq]

end

/-! ## Comparisons -/

section

variable {codec : Codec} {baseline candidate : VerifiedEvidenceBundle}
  {baselineContract candidateContract : LlamaMeasurementContract}

/-- The result for two eligible bundles of distinct runs. -/
theorem compareVerified_of_contracts {baselineProvenance candidateProvenance : AttemptProvenance}
    {differences : List String} {requests : Option RequestScopeComparison}
    {repetitions : Option RepetitionScopeComparison} {resources : Option AttemptResourceComparison}
    (hdistinct : baseline.manifest.runId ≠ candidate.manifest.runId)
    (hbaseline : baseline.HasContract baselineContract)
    (hcandidate : candidate.HasContract candidateContract)
    (hkept : baseline.provenance = some baselineProvenance)
    (hkept' : candidate.provenance = some candidateProvenance)
    (hdifferences : contractDifferences baselineContract candidateContract = differences)
    (hsections : compareSections differences.isEmpty baseline candidate =
      some (requests, repetitions, resources)) :
    compareVerified baseline candidate = returns (.ok
      { format := Schema.evidenceComparisonFormatV1
        baseline := bundleIdentity baseline
        candidate := bundleIdentity candidate
        compatible := differences.isEmpty
        incompatibilities := differences
        measurementContract := if differences.isEmpty = true then some baselineContract else none
        environment := compareEnvironment baselineProvenance candidateProvenance
        requests := requests
        repetitions := repetitions
        attemptResources := resources
        interpretation := descriptiveNote }) := by
  have hrun : rejectIf (baseline.manifest.runId = candidate.manifest.runId)
      ComparisonError.sameRun = .ok () := rejectIf_eq_ok.mpr hdistinct
  simp only [compareVerified, hrun, hbaseline "baseline", hcandidate "candidate", hkept, hkept',
    hdifferences, hsections, returns_ok_bind, demand_some_bind]
  rfl

/-- The sections that compatible bundles have, with the counts that their plans call
for.  Resources are optional in a bundle, and in the comparison of two without any. -/
structure HasSections (comparison : EvidenceComparison)
    (baseline candidate : VerifiedEvidenceBundle) : Prop where
  requests : ∃ requests, comparison.requests = some requests ∧
    requests.baselineCount.toNat = baseline.requestCount ∧
    requests.candidateCount.toNat = candidate.requestCount
  repetitions : ∃ repetitions, comparison.repetitions = some repetitions ∧
    repetitions.baselineCount.toNat = baseline.repetitionCount ∧
    repetitions.candidateCount.toNat = candidate.repetitionCount
  resources : comparison.attemptResources.isSome ↔
    baseline.resources.isSome ∨ candidate.resources.isSome

/-- The comparison of two eligible bundles of distinct runs. -/
theorem exists_compareVerified_of_contracts {differences : List String}
    (hbaseline : Established codec baseline) (hcandidate : Established codec candidate)
    (hdistinct : baseline.manifest.runId ≠ candidate.manifest.runId)
    (hbaselineContract : baseline.HasContract baselineContract)
    (hcandidateContract : candidate.HasContract candidateContract)
    (hdifferences : contractDifferences baselineContract candidateContract = differences) :
    ∃ comparison, compareVerified baseline candidate = returns (.ok comparison) ∧
      comparison.compatible = differences.isEmpty ∧
      comparison.incompatibilities = differences ∧
      compareSections comparison.compatible baseline candidate =
        some (comparison.requests, comparison.repetitions, comparison.attemptResources) ∧
      (comparison.compatible = true → HasSections comparison baseline candidate) := by
  obtain ⟨baselineProvenance, hkept⟩ := exists_provenance_of_hasContract hbaselineContract
  obtain ⟨candidateProvenance, hkept'⟩ := exists_provenance_of_hasContract hcandidateContract
  have hall := hbaseline.hasAllObservations hbaselineContract
  have hall' := hcandidate.hasAllObservations hcandidateContract
  -- with a difference there are no sections, without one there are all of them
  cases differences with
  | cons name rest =>
      have hsections : compareSections (name :: rest).isEmpty baseline candidate =
          some (none, none, none) := rfl
      refine ⟨_, compareVerified_of_contracts hdistinct hbaselineContract hcandidateContract
        hkept hkept' hdifferences hsections, rfl, rfl, hsections, ?_⟩
      intro hcompatible
      simp at hcompatible
  | nil =>
      obtain ⟨requests, hrequests, hrequestCounts⟩ := exists_compareRequests hall hall'
      obtain ⟨repetitions, hrepetitions, hrepetitionCounts⟩ := exists_compareRepetitions hall hall'
      obtain ⟨resources, hresources, hresourcesSome⟩ :=
        exists_compareResources baseline.resources candidate.resources
      have hsections : compareSections ([] : List String).isEmpty baseline candidate =
          some (some requests, some repetitions, resources) := by
        simp [compareSections, hrequests, hrepetitions, hresources]
      refine ⟨_, compareVerified_of_contracts hdistinct hbaselineContract hcandidateContract
        hkept hkept' hdifferences hsections, rfl, rfl, hsections, ?_⟩
      intro _
      exact ⟨⟨requests, rfl, hrequestCounts⟩, ⟨repetitions, rfl, hrepetitionCounts⟩,
        hresourcesSome⟩

/-- Verified bundles are compared without a panic. -/
theorem exists_compareVerified (hbaseline : Established codec baseline)
    (hcandidate : Established codec candidate) :
    ∃ result, compareVerified baseline candidate = returns result ∧
      ∀ comparison, result = .ok comparison → comparison.compatible = true →
        HasSections comparison baseline candidate := by
  by_cases hrun : baseline.manifest.runId = candidate.manifest.runId
  · refine ⟨.error .sameRun, ?_, by simp⟩
    simp [compareVerified, rejectIf, hrun]
  have hpassed : rejectIf (baseline.manifest.runId = candidate.manifest.runId)
      ComparisonError.sameRun = .ok () := rejectIf_eq_ok.mpr hrun
  cases hbaselineContract : eligibleContract "baseline" baseline with
  | error failure =>
      refine ⟨.error failure, ?_, by simp⟩
      simp [compareVerified, hpassed, hbaselineContract]
  | ok baselineContract =>
      cases hcandidateContract : eligibleContract "candidate" candidate with
      | error failure =>
          refine ⟨.error failure, ?_, by simp⟩
          simp [compareVerified, hpassed, hbaselineContract, hcandidateContract]
      | ok candidateContract =>
          obtain ⟨comparison, hcompared, -, -, -, hsections⟩ :=
            exists_compareVerified_of_contracts hbaseline hcandidate hrun
              (hasContract_of_eligible hbaselineContract)
              (hasContract_of_eligible hcandidateContract) rfl
          refine ⟨.ok comparison, hcompared, ?_⟩
          rintro _ ⟨⟩
          exact hsections

end

/-- The comparison of two paths, once both are verified. -/
theorem compareEvidenceBundles_eq {codec : Codec} {disk : FileTree}
    {baselinePath candidatePath : List FileName} {baseline candidate : VerifiedEvidenceBundle}
    (hbaseline : VerifiesAs codec disk baselinePath baseline)
    (hcandidate : VerifiesAs codec disk candidatePath candidate) :
    compareEvidenceBundles codec disk baselinePath candidatePath =
      compareVerified baseline candidate := by
  obtain ⟨root, hroot, hverified⟩ := hbaseline
  obtain ⟨root', hroot', hverified'⟩ := hcandidate
  have hread : (canonicalBundleRoot baselinePath disk >>= verifyEvidenceBundleData codec) =
      .ok baseline := bind_eq_ok_iff.mpr ⟨root, hroot, hverified⟩
  have hread' : (canonicalBundleRoot candidatePath disk >>= verifyEvidenceBundleData codec) =
      .ok candidate := bind_eq_ok_iff.mpr ⟨root', hroot', hverified'⟩
  rw [compareEvidenceBundles, Machine.verifyEvidenceBundleAt_eq, Machine.verifyEvidenceBundleAt_eq,
    hread, hread']
  rfl

/-- Whatever is on the disk, verification and comparison end with a result, and the
comparison of compatible bundles has all its sections. -/
theorem compareEvidenceBundles_total (codec : Codec) (disk : FileTree)
    (baselinePath candidatePath : List FileName) :
    (∀ path, ∃ result, Machine.verifyEvidenceBundleAt codec path disk = returns result) ∧
      ∃ result, compareEvidenceBundles codec disk baselinePath candidatePath = returns result ∧
        ∀ comparison, result = .ok comparison → comparison.compatible = true →
          ∃ baseline candidate, VerifiesAs codec disk baselinePath baseline ∧
            VerifiesAs codec disk candidatePath candidate ∧
            HasSections comparison baseline candidate := by
  constructor
  · intro path
    exact ⟨_, Machine.verifyEvidenceBundleAt_eq codec path disk⟩
  -- the baseline is verified first; a candidate is only looked at behind it
  cases hbaseline : canonicalBundleRoot baselinePath disk >>= verifyEvidenceBundleData codec with
  | error failure =>
      refine ⟨.error (.invalidEvidence "baseline" failure), ?_, by simp⟩
      rw [compareEvidenceBundles, Machine.verifyEvidenceBundleAt_eq, hbaseline]
      rfl
  | ok baseline =>
      cases hcandidate : canonicalBundleRoot candidatePath disk >>=
          verifyEvidenceBundleData codec with
      | error failure =>
          refine ⟨.error (.invalidEvidence "candidate" failure), ?_, by simp⟩
          rw [compareEvidenceBundles, Machine.verifyEvidenceBundleAt_eq,
            Machine.verifyEvidenceBundleAt_eq, hbaseline, hcandidate]
          rfl
      | ok candidate =>
          have hverified : VerifiesAs codec disk baselinePath baseline :=
            bind_eq_ok_iff.mp hbaseline
          have hverified' : VerifiesAs codec disk candidatePath candidate :=
            bind_eq_ok_iff.mp hcandidate
          obtain ⟨result, hcompared, hsections⟩ :=
            exists_compareVerified hverified.established hverified'.established
          refine ⟨result, (compareEvidenceBundles_eq hverified hverified').trans hcompared, ?_⟩
          intro comparison hcomparison hcompatible
          exact ⟨baseline, candidate, hverified, hverified',
            hsections comparison hcomparison hcompatible⟩

end Benchplane
