import Benchplane.Comparison.Totality
import Mathlib.Data.Option.Defs

/-!
# Exchanging the sides of a comparison

The comparison of two bundles in the other order succeeds exactly when the first one
does, and is its mirror image.  Every section is mirrored by itself: the metrics, the
distributions over them, the environment field by field, and the contract, which two
compatible bundles share.
-/

namespace Benchplane

open Library Library.Panicking

/-! ## Mirror images -/

/-- A metric with its sides exchanged and its delta negated; each percentage is there
exactly when the baseline of its own side is not zero. -/
structure MetricComparison.Mirrors (metric mirrored : MetricComparison) : Prop where
  baseline : mirrored.baseline = metric.candidate
  candidate : mirrored.candidate = metric.baseline
  absoluteDelta : mirrored.delta.absoluteDelta = -metric.delta.absoluteDelta
  percentage : metric.delta.percentageDeltaMilliPercent.isSome ↔ metric.baseline ≠ 0
  mirroredPercentage :
    mirrored.delta.percentageDeltaMilliPercent.isSome ↔ mirrored.baseline ≠ 0

structure DistributionComparison.Mirrors (distribution mirrored : DistributionComparison) :
    Prop where
  baseline : mirrored.baseline = distribution.candidate
  candidate : mirrored.candidate = distribution.baseline
  mean : distribution.mean.Mirrors mirrored.mean
  p50 : distribution.p50.Mirrors mirrored.p50
  p95 : distribution.p95.Mirrors mirrored.p95

structure RequestScopeComparison.Mirrors (requests mirrored : RequestScopeComparison) :
    Prop where
  unit : mirrored.unit = requests.unit
  baselineCount : mirrored.baselineCount = requests.candidateCount
  candidateCount : mirrored.candidateCount = requests.baselineCount
  latency : requests.latencyMicros.Mirrors mirrored.latencyMicros
  timeToFirstToken : requests.timeToFirstTokenMicros.Mirrors mirrored.timeToFirstTokenMicros

structure RepetitionScopeComparison.Mirrors (repetitions mirrored : RepetitionScopeComparison) :
    Prop where
  unit : mirrored.unit = repetitions.unit
  baselineCount : mirrored.baselineCount = repetitions.candidateCount
  candidateCount : mirrored.candidateCount = repetitions.baselineCount
  latency : repetitions.aggregateLatencyMicros.Mirrors mirrored.aggregateLatencyMicros
  timeToFirstToken : repetitions.aggregateTimeToFirstTokenMicros.Mirrors
    mirrored.aggregateTimeToFirstTokenMicros
  throughput : repetitions.meanThroughputMilliRequestsPerSecond.Mirrors
    mirrored.meanThroughputMilliRequestsPerSecond

structure AttemptResourceComparison.Mirrors (resources mirrored : AttemptResourceComparison) :
    Prop where
  unit : mirrored.unit = resources.unit
  baseline : mirrored.baseline = resources.candidate
  candidate : mirrored.candidate = resources.baseline
  cpuTime : Option.Rel MetricComparison.Mirrors resources.cpuTimeMicros mirrored.cpuTimeMicros
  peakRss : Option.Rel MetricComparison.Mirrors resources.peakRssBytes mirrored.peakRssBytes

/-- A field of the environment with its sides exchanged. -/
def EnvironmentComparison.swap (field : EnvironmentComparison) : EnvironmentComparison :=
  ⟨field.field, field.candidate, field.baseline, field.relationship⟩

/-- A comparison and the one in the other order. -/
structure EvidenceComparison.Mirrors (comparison mirrored : EvidenceComparison) : Prop where
  format : mirrored.format = comparison.format
  baseline : mirrored.baseline = comparison.candidate
  candidate : mirrored.candidate = comparison.baseline
  compatible : mirrored.compatible = comparison.compatible
  incompatibilities : mirrored.incompatibilities = comparison.incompatibilities
  measurementContract : mirrored.measurementContract = comparison.measurementContract
  environment : mirrored.environment = comparison.environment.map EnvironmentComparison.swap
  requests : Option.Rel RequestScopeComparison.Mirrors comparison.requests mirrored.requests
  repetitions : Option.Rel RepetitionScopeComparison.Mirrors comparison.repetitions
    mirrored.repetitions
  attemptResources : Option.Rel AttemptResourceComparison.Mirrors comparison.attemptResources
    mirrored.attemptResources
  interpretation : mirrored.interpretation = comparison.interpretation

/-- Two comparisons that succeed with mirror images, or both fail. -/
inductive MirrorResults : Panicking ComparisonError EvidenceComparison →
    Panicking ComparisonError EvidenceComparison → Prop where
  | succeed {comparison mirrored : EvidenceComparison} (mirrors : comparison.Mirrors mirrored) :
      MirrorResults (returns (.ok comparison)) (returns (.ok mirrored))
  | fail (failure failure' : ComparisonError) :
      MirrorResults (returns (.error failure)) (returns (.error failure'))

/-! ## The contract -/

theorem reportDifference_comm {α : Type} [DecidableEq α] (name : String) (a b : α) :
    reportDifference name a b = reportDifference name b a := by
  simp only [reportDifference, ne_comm]

@[simp] theorem reportDifference_eq_nil {α : Type} [DecidableEq α] {name : String} {a b : α} :
    reportDifference name a b = [] ↔ a = b := by
  unfold reportDifference
  split <;> simp_all

/-- The list of the differences names fields, not sides. -/
theorem contractDifferences_comm (a b : LlamaMeasurementContract) :
    contractDifferences a b = contractDifferences b a := by
  unfold contractDifferences
  rw [reportDifference_comm _ a.provider, reportDifference_comm _ a.runtime,
    reportDifference_comm _ a.target, reportDifference_comm _ a.generator,
    reportDifference_comm _ a.model, reportDifference_comm _ a.modelSha256,
    reportDifference_comm _ a.engineName, reportDifference_comm _ a.engineVersion,
    reportDifference_comm _ a.backend, reportDifference_comm _ a.deviceClass,
    reportDifference_comm _ a.workloadProfile, reportDifference_comm _ a.outputTokens,
    reportDifference_comm _ a.requestsPerRepetition, reportDifference_comm _ a.concurrency,
    reportDifference_comm _ a.warmupRuns, reportDifference_comm _ a.measuredRepetitions]

/-- The list covers the whole contract. -/
theorem eq_of_contractDifferences {a b : LlamaMeasurementContract}
    (h : contractDifferences a b = []) : a = b := by
  cases a with
  | mk => cases b with
    | mk =>
        simp only [contractDifferences, List.append_eq_nil_iff, reportDifference_eq_nil] at h
        simp only [LlamaMeasurementContract.mk.injEq]
        exact ⟨h.1.1.1.1.1.1.1.1.1.1.1.1.1.1.1, h.1.1.1.1.1.1.1.1.1.1.1.1.1.1.2,
          h.1.1.1.1.1.1.1.1.1.1.1.1.1.2, h.1.1.1.1.1.1.1.1.1.1.1.1.2,
          h.1.1.1.1.1.1.1.1.1.1.1.2, h.1.1.1.1.1.1.1.1.1.1.2, h.1.1.1.1.1.1.1.1.1.2,
          h.1.1.1.1.1.1.1.1.2, h.1.1.1.1.1.1.1.2, h.1.1.1.1.1.1.2, h.1.1.1.1.1.2, h.1.1.1.1.2,
          h.1.1.1.2, h.1.1.2, h.1.2, h.2⟩

/-! ## Metrics -/

theorem isSome_percentage_metricOf (baseline candidate : UInt64) :
    (metricOf baseline candidate).delta.percentageDeltaMilliPercent.isSome ↔
      (metricOf baseline candidate).baseline ≠ 0 := by
  by_cases hzero : baseline = 0
  · simp [metricOf, hzero]
  · simp [metricOf, hzero]

theorem mirrors_metricOf (baseline candidate : UInt64) :
    (metricOf baseline candidate).Mirrors (metricOf candidate baseline) := by
  constructor
  case baseline => rfl
  case candidate => rfl
  case absoluteDelta =>
    show (baseline.toNat : Int) - candidate.toNat = -((candidate.toNat : Int) - baseline.toNat)
    omega
  case percentage => exact isSome_percentage_metricOf baseline candidate
  case mirroredPercentage => exact isSome_percentage_metricOf candidate baseline

/-- The distribution of two lists of values, through their summaries. -/
theorem compareDistribution_eq_some {baseline candidate : List UInt64}
    {distribution : DistributionComparison} :
    compareDistribution baseline candidate = some distribution ↔
      ∃ baselineSummary candidateSummary,
        (Machine.describeMicros baseline).join = some baselineSummary ∧
        (Machine.describeMicros candidate).join = some candidateSummary ∧
        distribution = ⟨baselineSummary, candidateSummary,
          metricOf baselineSummary.meanMicros candidateSummary.meanMicros,
          metricOf baselineSummary.p50Micros candidateSummary.p50Micros,
          metricOf baselineSummary.p95Micros candidateSummary.p95Micros⟩ := by
  simp only [compareDistribution, compareMetric_eq, Option.bind_eq_bind, Option.bind_some,
    Option.bind_eq_some_iff, Option.pure_def, Option.some.injEq]
  constructor
  · intro h
    obtain ⟨baselineSummary, hbaseline, candidateSummary, hcandidate, hdistribution⟩ := h
    exact ⟨baselineSummary, candidateSummary, hbaseline, hcandidate, hdistribution.symm⟩
  · intro h
    obtain ⟨baselineSummary, candidateSummary, hbaseline, hcandidate, hdistribution⟩ := h
    exact ⟨baselineSummary, hbaseline, candidateSummary, hcandidate, hdistribution.symm⟩

theorem compareDistribution_mirrors {baseline candidate : List UInt64}
    {distribution : DistributionComparison}
    (h : compareDistribution baseline candidate = some distribution) :
    ∃ mirrored, compareDistribution candidate baseline = some mirrored ∧
      distribution.Mirrors mirrored := by
  obtain ⟨baselineSummary, candidateSummary, hbaseline, hcandidate, rfl⟩ :=
    compareDistribution_eq_some.mp h
  refine ⟨_, compareDistribution_eq_some.mpr ⟨candidateSummary, baselineSummary, hcandidate,
    hbaseline, rfl⟩, ?_⟩
  exact ⟨rfl, rfl, mirrors_metricOf _ _, mirrors_metricOf _ _, mirrors_metricOf _ _⟩

/-! ## Sections -/

section

variable {baseline candidate : VerifiedEvidenceBundle}

theorem compareRequests_mirrors {requests : RequestScopeComparison}
    (h : compareRequests baseline candidate = some requests) :
    ∃ mirrored, compareRequests candidate baseline = some mirrored ∧
      requests.Mirrors mirrored := by
  simp only [compareRequests, Option.bind_eq_bind, Option.bind_eq_some_iff, Option.pure_def,
    Option.some.injEq] at h ⊢
  obtain ⟨latency, hlatency, ttft, httft, rfl⟩ := h
  obtain ⟨latency', hlatency', hlatencyMirrors⟩ := compareDistribution_mirrors hlatency
  obtain ⟨ttft', httft', httftMirrors⟩ := compareDistribution_mirrors httft
  refine ⟨_, ⟨latency', hlatency', ttft', httft', rfl⟩, ?_⟩
  exact ⟨rfl, rfl, rfl, hlatencyMirrors, httftMirrors⟩

theorem compareRepetitions_mirrors {repetitions : RepetitionScopeComparison}
    (h : compareRepetitions baseline candidate = some repetitions) :
    ∃ mirrored, compareRepetitions candidate baseline = some mirrored ∧
      repetitions.Mirrors mirrored := by
  simp only [compareRepetitions, compareMetric_eq, Option.bind_eq_bind, Option.bind_eq_some_iff,
    Option.bind_some, Option.pure_def, Option.some.injEq] at h ⊢
  obtain ⟨latency, hlatency, ttft, httft, baselineMean, hbaseline, candidateMean, hcandidate,
    rfl⟩ := h
  obtain ⟨latency', hlatency', hlatencyMirrors⟩ := compareDistribution_mirrors hlatency
  obtain ⟨ttft', httft', httftMirrors⟩ := compareDistribution_mirrors httft
  refine ⟨_, ⟨latency', hlatency', ttft', httft', candidateMean, hcandidate, baselineMean,
    hbaseline, rfl⟩, ?_⟩
  exact ⟨rfl, rfl, rfl, hlatencyMirrors, httftMirrors, mirrors_metricOf _ _⟩

end

/-- Resources are compared on both sides, or named on the side that has them. -/
theorem compareResources_mirrors {baseline candidate : Option AttemptResources}
    {resources : Option AttemptResourceComparison}
    (h : compareResources baseline candidate = some resources) :
    ∃ mirrored, compareResources candidate baseline = some mirrored ∧
      Option.Rel AttemptResourceComparison.Mirrors resources mirrored := by
  -- metrics are compared only where both sides have them
  cases baseline with
  | none =>
      cases candidate with
      | none =>
          obtain rfl := Option.some.inj h
          exact ⟨none, rfl, .none⟩
      | some candidate =>
          obtain rfl := Option.some.inj h
          exact ⟨_, rfl, .some ⟨rfl, rfl, rfl, .none, .none⟩⟩
  | some baseline =>
      cases candidate with
      | none =>
          obtain rfl := Option.some.inj h
          exact ⟨_, rfl, .some ⟨rfl, rfl, rfl, .none, .none⟩⟩
      | some candidate =>
          have hcompared : ∀ one other : AttemptResources,
              compareResources (some one) (some other) = some (some
                { unit := "helperProcessLifetime"
                  baseline := some (resourceValues one)
                  candidate := some (resourceValues other)
                  cpuTimeMicros := some (metricOf one.cpuTimeMicros other.cpuTimeMicros)
                  peakRssBytes := some (metricOf one.peakRssBytes other.peakRssBytes) }) := by
            intro one other
            simp [compareResources, compareResourceMetrics, compareMetric_eq]
          rw [hcompared baseline candidate] at h
          obtain rfl := Option.some.inj h
          exact ⟨_, hcompared candidate baseline, .some ⟨rfl, rfl, rfl,
            .some (mirrors_metricOf _ _), .some (mirrors_metricOf _ _)⟩⟩

/-! ## Environment -/

theorem environmentField_swap (field : String) (baseline candidate : Option String) :
    environmentField field candidate baseline =
      (environmentField field baseline candidate).swap := by
  cases baseline <;> cases candidate <;> simp [environmentField, EnvironmentComparison.swap,
    eq_comm]

theorem compareHosts_swap (baseline candidate : AttemptProvenance) :
    compareHosts candidate baseline =
      (compareHosts baseline candidate).map EnvironmentComparison.swap := by
  simp only [compareHosts, List.map_cons, List.map_nil, ← environmentField_swap]

theorem compareBackendDevices_swap (baseline candidate : Option NvidiaGpuProvenance) :
    compareBackendDevices candidate baseline =
      (compareBackendDevices baseline candidate).map EnvironmentComparison.swap := by
  cases baseline with
  | none => cases candidate <;> rfl
  | some baseline =>
      cases candidate with
      | none => rfl
      | some candidate =>
          simp only [compareBackendDevices, compareDevices, List.map_cons, List.map_nil,
            ← environmentField_swap]

theorem compareEnvironment_swap (baseline candidate : AttemptProvenance) :
    compareEnvironment candidate baseline =
      (compareEnvironment baseline candidate).map EnvironmentComparison.swap := by
  unfold compareEnvironment
  rw [List.map_append, ← compareHosts_swap]
  congr 1
  cases baseline.software.runtime with
  | localFake version => cases candidate.software.runtime <;> rfl
  | cpuProbe generator => cases candidate.software.runtime <;> rfl
  | llamaCpp generator engine model backend =>
      cases candidate.software.runtime with
      | localFake version => rfl
      | cpuProbe generator => rfl
      | llamaCpp generator' engine' model' backend' =>
          simp only [List.map_append, List.map_cons, List.map_nil, ← environmentField_swap,
            compareBackendDevices_swap backend.nvidia]

/-! ## Comparisons -/

/-- The sections of two comparisons in opposite orders. -/
theorem compareSections_mirrors {compatible : Bool} {baseline candidate : VerifiedEvidenceBundle}
    {requests : Option RequestScopeComparison} {repetitions : Option RepetitionScopeComparison}
    {resources : Option AttemptResourceComparison}
    (h : compareSections compatible baseline candidate = some (requests, repetitions, resources)) :
    ∃ requests' repetitions' resources',
      compareSections compatible candidate baseline =
        some (requests', repetitions', resources') ∧
      Option.Rel RequestScopeComparison.Mirrors requests requests' ∧
      Option.Rel RepetitionScopeComparison.Mirrors repetitions repetitions' ∧
      Option.Rel AttemptResourceComparison.Mirrors resources resources' := by
  -- the sections are there exactly for compatible bundles
  cases compatible with
  | false =>
      obtain ⟨rfl, rfl, rfl⟩ : requests = none ∧ repetitions = none ∧ resources = none := by
        simpa [compareSections, eq_comm] using h
      exact ⟨none, none, none, rfl, .none, .none, .none⟩
  | true =>
      simp only [compareSections, if_true, Option.bind_eq_bind, Option.bind_eq_some_iff,
        Option.pure_def, Option.some.injEq, Prod.mk.injEq] at h
      obtain ⟨requests, hrequests, repetitions, hrepetitions, resources, hresources, rfl, rfl,
        rfl⟩ := h
      obtain ⟨requests', hrequests', hrequestsMirror⟩ := compareRequests_mirrors hrequests
      obtain ⟨repetitions', hrepetitions', hrepetitionsMirror⟩ :=
        compareRepetitions_mirrors hrepetitions
      obtain ⟨resources', hresources', hresourcesMirror⟩ := compareResources_mirrors hresources
      refine ⟨some requests', some repetitions', resources', ?_, .some hrequestsMirror,
        .some hrepetitionsMirror, hresourcesMirror⟩
      simp [compareSections, hrequests', hrepetitions', hresources']

section

variable {codec : Codec} {baseline candidate : VerifiedEvidenceBundle}

/-- Two eligible bundles of distinct runs: both orders succeed. -/
theorem mirrorResults_of_contracts {baselineContract candidateContract : LlamaMeasurementContract}
    (hbaseline : Established codec baseline) (hcandidate : Established codec candidate)
    (hdistinct : baseline.manifest.runId ≠ candidate.manifest.runId)
    (hbaselineContract : baseline.HasContract baselineContract)
    (hcandidateContract : candidate.HasContract candidateContract) :
    MirrorResults (compareVerified baseline candidate) (compareVerified candidate baseline) := by
  obtain ⟨baselineProvenance, hkept⟩ := exists_provenance_of_hasContract hbaselineContract
  obtain ⟨candidateProvenance, hkept'⟩ := exists_provenance_of_hasContract hcandidateContract
  obtain ⟨differences, hdifferences⟩ :
      ∃ differences, contractDifferences baselineContract candidateContract = differences :=
    ⟨_, rfl⟩
  have hdifferences' : contractDifferences candidateContract baselineContract = differences := by
    rw [contractDifferences_comm, hdifferences]
  obtain ⟨comparison, -, hcompatible, -, hsections, -⟩ := exists_compareVerified_of_contracts
    hbaseline hcandidate hdistinct hbaselineContract hcandidateContract hdifferences
  rw [hcompatible] at hsections
  obtain ⟨requests', repetitions', resources', hsections', hrequests, hrepetitions, hresources⟩ :=
    compareSections_mirrors hsections
  rw [compareVerified_of_contracts hdistinct hbaselineContract hcandidateContract hkept hkept'
      hdifferences hsections,
    compareVerified_of_contracts hdistinct.symm hcandidateContract hbaselineContract hkept' hkept
      hdifferences' hsections']
  apply MirrorResults.succeed
  constructor
  case format => rfl
  case baseline => rfl
  case candidate => rfl
  case compatible => rfl
  case incompatibilities => rfl
  case measurementContract =>
    -- only a contract without a difference is shown, and that is the same on both sides
    cases differences with
    | nil => rw [eq_of_contractDifferences hdifferences]
    | cons name rest => rfl
  case environment => exact compareEnvironment_swap baselineProvenance candidateProvenance
  case requests => exact hrequests
  case repetitions => exact hrepetitions
  case attemptResources => exact hresources
  case interpretation => rfl

theorem mirrorResults_compareVerified (hbaseline : Established codec baseline)
    (hcandidate : Established codec candidate) :
    MirrorResults (compareVerified baseline candidate) (compareVerified candidate baseline) := by
  by_cases hrun : baseline.manifest.runId = candidate.manifest.runId
  · have hsame : compareVerified baseline candidate = returns (.error .sameRun) := by
      simp [compareVerified, rejectIf, hrun]
    have hsame' : compareVerified candidate baseline = returns (.error .sameRun) := by
      simp [compareVerified, rejectIf, hrun]
    rw [hsame, hsame']
    exact .fail _ _
  have hpassed : ∀ one other : VerifiedEvidenceBundle,
      one.manifest.runId ≠ other.manifest.runId →
      rejectIf (one.manifest.runId = other.manifest.runId) ComparisonError.sameRun = .ok () :=
    fun _ _ hne => rejectIf_eq_ok.mpr hne
  -- a bundle that is not eligible fails in either role, the other one in front of it or not
  have hineligible : ∀ one other : VerifiedEvidenceBundle,
      one.manifest.runId ≠ other.manifest.runId →
      (¬ ∃ contract, one.HasContract contract) ∨ (¬ ∃ contract, other.HasContract contract) →
      ∃ failure, compareVerified one other = returns (.error failure) := by
    intro one other hne hnone
    cases hone : eligibleContract "baseline" one with
    | error failure =>
        exact ⟨failure, by simp [compareVerified, hpassed one other hne, hone]⟩
    | ok contract =>
        cases hother : eligibleContract "candidate" other with
        | error failure =>
            exact ⟨failure, by simp [compareVerified, hpassed one other hne, hone, hother]⟩
        | ok contract' =>
            rcases hnone with hnone | hnone
            · exact absurd ⟨contract, hasContract_of_eligible hone⟩ hnone
            · exact absurd ⟨contract', hasContract_of_eligible hother⟩ hnone
  by_cases hcontracts : (∃ contract, baseline.HasContract contract) ∧
      ∃ contract, candidate.HasContract contract
  · obtain ⟨⟨baselineContract, hbaselineContract⟩, candidateContract, hcandidateContract⟩ :=
      hcontracts
    exact mirrorResults_of_contracts hbaseline hcandidate hrun hbaselineContract
      hcandidateContract
  · have hnone := not_and_or.mp hcontracts
    obtain ⟨failure, hfailure⟩ := hineligible baseline candidate hrun hnone
    obtain ⟨failure', hfailure'⟩ := hineligible candidate baseline (Ne.symm hrun) hnone.symm
    rw [hfailure, hfailure']
    exact .fail _ _

end

/-- Whatever the two paths hold, the comparison in the other order succeeds exactly when
the first one does, with its mirror image. -/
theorem compareEvidenceBundles_mirrors (codec : Codec) (disk : FileTree)
    (path path' : List FileName) :
    MirrorResults (compareEvidenceBundles codec disk path path')
      (compareEvidenceBundles codec disk path' path) := by
  -- a bundle that is not verified fails the comparison in either role
  have hunverified : ∀ one other : List FileName,
      (¬ ∃ bundle, VerifiesAs codec disk one bundle) ∨
        (¬ ∃ bundle, VerifiesAs codec disk other bundle) →
      ∃ failure, compareEvidenceBundles codec disk one other = returns (.error failure) := by
    intro one other hnone
    cases hone : canonicalBundleRoot one disk >>= verifyEvidenceBundleData codec with
    | error failure =>
        refine ⟨.invalidEvidence "baseline" failure, ?_⟩
        rw [compareEvidenceBundles, Machine.verifyEvidenceBundleAt_eq, hone]
        rfl
    | ok bundle =>
        cases hother : canonicalBundleRoot other disk >>= verifyEvidenceBundleData codec with
        | error failure =>
            refine ⟨.invalidEvidence "candidate" failure, ?_⟩
            rw [compareEvidenceBundles, Machine.verifyEvidenceBundleAt_eq,
              Machine.verifyEvidenceBundleAt_eq, hone, hother]
            rfl
        | ok bundle' =>
            rcases hnone with hnone | hnone
            · exact absurd ⟨bundle, bind_eq_ok_iff.mp hone⟩ hnone
            · exact absurd ⟨bundle', bind_eq_ok_iff.mp hother⟩ hnone
  by_cases hverified : (∃ bundle, VerifiesAs codec disk path bundle) ∧
      ∃ bundle, VerifiesAs codec disk path' bundle
  · obtain ⟨⟨baseline, hbaseline⟩, candidate, hcandidate⟩ := hverified
    rw [compareEvidenceBundles_eq hbaseline hcandidate,
      compareEvidenceBundles_eq hcandidate hbaseline]
    exact mirrorResults_compareVerified hbaseline.established hcandidate.established
  · have hnone := not_and_or.mp hverified
    obtain ⟨failure, hfailure⟩ := hunverified path path' hnone
    obtain ⟨failure', hfailure'⟩ := hunverified path' path hnone.symm
    rw [hfailure, hfailure']
    exact .fail _ _

end Benchplane
