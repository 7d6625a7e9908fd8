import Benchplane.Runtime.AdapterAgreement

/-!
# Reported means

The interval that the verifier computes from a record's observations is exact: a
reported mean lies in it exactly when some raw run, timed in nanoseconds, reports
the observations and that mean.
-/

namespace Benchplane

open Library

/-- The latency and the time to the first token of each request of a run, in
nanoseconds. -/
abbrev RawRun := List (Nat × Nat)

/-- A run whose durations, rounded up to microseconds, are the observations. -/
structure RawRun.Reports (run : RawRun) (observations : List RequestObservation) : Prop where
  ordered : ∀ request ∈ run, 0 < request.2 ∧ request.2 ≤ request.1
  latencies : run.map (·.1 ⌈/⌉ 1000) = observations.map (·.latencyMicros.toNat)
  ttfts : run.map (·.2 ⌈/⌉ 1000) = observations.map (·.timeToFirstTokenMicros.toNat)

/-- The mean of durations in nanoseconds, rounded up to microseconds. -/
def meanMicros (nanos : List Nat) : Nat := nanos.sum ⌈/⌉ (1000 * nanos.length)

/-- What the verifier asks of a pair of observed durations. -/
def OrderedObservations (observations : List RequestObservation) : Prop :=
  ∀ observation ∈ observations, 0 < observation.timeToFirstTokenMicros.toNat ∧
    observation.timeToFirstTokenMicros.toNat ≤ observation.latencyMicros.toNat

/-! ## Runs behind one metric -/

/-- The least duration that is reported as given microseconds. -/
theorem leastNanos_ceilDiv {micros : Nat} (hpos : 0 < micros) :
    (1000 * (micros - 1) + 1) ⌈/⌉ 1000 = micros := by
  rw [ceilDiv_eq_iff (by omega) hpos]
  omega

/-- Latencies go with first tokens as early as the observations allow. -/
theorem exists_run_of_latencies {observations : List RequestObservation} {nanos : List Nat}
    (hordered : OrderedObservations observations)
    (h : nanos.map (· ⌈/⌉ 1000) = observations.map (·.latencyMicros.toNat)) :
    ∃ run : RawRun, run.Reports observations ∧ run.map (·.1) = nanos := by
  induction observations generalizing nanos with
  | nil =>
      obtain rfl := List.map_eq_nil_iff.mp h
      exact ⟨[], ⟨by simp, rfl, rfl⟩, rfl⟩
  | cons first rest ih =>
      obtain ⟨latency, others, rfl, hlatency, hothers⟩ := List.map_eq_cons_iff.mp h
      obtain ⟨hpos, hle⟩ := hordered first List.mem_cons_self
      obtain ⟨run, hrun, rfl⟩ := ih (fun o ho => hordered o (List.mem_cons_of_mem _ ho)) hothers
      have hmicros : latency ⌈/⌉ 1000 = first.latencyMicros.toNat := hlatency
      have hbounds := (ceilDiv_eq_iff (by omega) (by omega)).mp hmicros
      refine ⟨(latency, 1000 * (first.timeToFirstTokenMicros.toNat - 1) + 1) :: run, ⟨?_, ?_, ?_⟩,
        rfl⟩
      · intro request hrequest
        rcases List.mem_cons.mp hrequest with rfl | hrequest
        · show 0 < 1000 * (first.timeToFirstTokenMicros.toNat - 1) + 1 ∧
            1000 * (first.timeToFirstTokenMicros.toNat - 1) + 1 ≤ latency
          omega
        · exact hrun.ordered request hrequest
      · rw [List.map_cons, List.map_cons, hrun.latencies, hlatency]
      · rw [List.map_cons, List.map_cons, hrun.ttfts, leastNanos_ceilDiv hpos]

/-- First tokens go with latencies as long as the observations allow. -/
theorem exists_run_of_ttfts {observations : List RequestObservation} {nanos : List Nat}
    (hordered : OrderedObservations observations) (hnanos : ∀ n ∈ nanos, 0 < n)
    (h : nanos.map (· ⌈/⌉ 1000) = observations.map (·.timeToFirstTokenMicros.toNat)) :
    ∃ run : RawRun, run.Reports observations ∧ run.map (·.2) = nanos := by
  -- on the observations, each with its own request of the run
  induction observations generalizing nanos with
  | nil =>
      obtain rfl := List.map_eq_nil_iff.mp h
      exact ⟨[], ⟨by simp, rfl, rfl⟩, rfl⟩
  | cons first rest ih =>
      obtain ⟨ttft, others, rfl, httft, hothers⟩ := List.map_eq_cons_iff.mp h
      obtain ⟨hpos, hle⟩ := hordered first List.mem_cons_self
      have hrestPos : ∀ n ∈ others, 0 < n := fun n hn => hnanos n (List.mem_cons_of_mem _ hn)
      obtain ⟨run, hrun, rfl⟩ :=
        ih (fun o ho => hordered o (List.mem_cons_of_mem _ ho)) hrestPos hothers
      have httftPos : 0 < ttft := hnanos ttft List.mem_cons_self
      have hmicros : ttft ⌈/⌉ 1000 = first.timeToFirstTokenMicros.toNat := httft
      have hbounds := (ceilDiv_eq_iff (by omega) hpos).mp hmicros
      -- the longest latency that rounds to the reported one leaves room for any first token
      have hgreatest : (1000 * first.latencyMicros.toNat) ⌈/⌉ 1000 = first.latencyMicros.toNat := by
        rw [ceilDiv_eq_iff (by omega) (by omega)]
        omega
      refine ⟨(1000 * first.latencyMicros.toNat, ttft) :: run, ⟨?_, ?_, ?_⟩, rfl⟩
      · intro request hrequest
        rcases List.mem_cons.mp hrequest with rfl | hrequest
        · show 0 < ttft ∧ ttft ≤ 1000 * first.latencyMicros.toNat
          omega
        · exact hrun.ordered request hrequest
      · rw [List.map_cons, List.map_cons, hrun.latencies, hgreatest]
      · rw [List.map_cons, List.map_cons, hrun.ttfts, httft]

/-- A latency is a reported mean when some run has it. -/
theorem isReportedMean_latency_iff {observations : List RequestObservation} {mean : Nat}
    (hordered : OrderedObservations observations) :
    IsReportedMean 1000 (observations.map (·.latencyMicros.toNat)) mean ↔
      ∃ run : RawRun, run.Reports observations ∧ meanMicros (run.map (·.1)) = mean := by
  constructor
  · rintro ⟨nanos, ⟨-, hvalues⟩, hmean⟩
    obtain ⟨run, hrun, rfl⟩ := exists_run_of_latencies hordered hvalues
    exact ⟨run, hrun, hmean⟩
  · rintro ⟨run, hrun, hmean⟩
    have hrounded : (run.map (·.1)).sum ⌈/⌉ (1000 * (run.map (·.1)).length) = mean := hmean
    refine ⟨run.map (·.1), ⟨?_, ?_⟩, hrounded⟩
    · intro n hn
      obtain ⟨request, hrequest, rfl⟩ := List.mem_map.mp hn
      have hrequestOrdered := hrun.ordered request hrequest
      omega
    · rw [← hrun.latencies, List.map_map]
      rfl

/-- A time to the first token is a reported mean when some run has it. -/
theorem isReportedMean_ttft_iff {observations : List RequestObservation} {mean : Nat}
    (hordered : OrderedObservations observations) :
    IsReportedMean 1000 (observations.map (·.timeToFirstTokenMicros.toNat)) mean ↔
      ∃ run : RawRun, run.Reports observations ∧ meanMicros (run.map (·.2)) = mean := by
  constructor
  · rintro ⟨nanos, ⟨hpos, hvalues⟩, hmean⟩
    obtain ⟨run, hrun, rfl⟩ := exists_run_of_ttfts hordered hpos hvalues
    exact ⟨run, hrun, hmean⟩
  · rintro ⟨run, hrun, hmean⟩
    have hrounded : (run.map (·.2)).sum ⌈/⌉ (1000 * (run.map (·.2)).length) = mean := hmean
    refine ⟨run.map (·.2), ⟨?_, ?_⟩, hrounded⟩
    · intro n hn
      obtain ⟨request, hrequest, rfl⟩ := List.mem_map.mp hn
      exact (hrun.ordered request hrequest).1
    · rw [← hrun.ttfts, List.map_map]
      rfl

/-- The observations that pass the verifier's own check are ordered. -/
theorem orderedObservations_of_isObservationAt {observations : List RequestObservation}
    (h : (observations.zipIdx.all fun entry => isObservationAt entry.2 entry.1) = true) :
    OrderedObservations observations := by
  intro observation hmem
  refine ⟨(pos_of_isObservationAt h observation hmem).2, ?_⟩
  obtain ⟨index, hindex, rfl⟩ := List.getElem_of_mem hmem
  have hentry := List.all_eq_true.mp h (observations[index], index)
    (List.mk_mem_zipIdx_iff_getElem?.mpr (List.getElem?_eq_getElem hindex))
  simp only [isObservationAt, Bool.and_eq_true, decide_eq_true_eq] at hentry
  exact UInt64.le_iff_toNat_le.mp hentry.2

/-! ## The interval -/

/-- The bounds of a nonempty list of positive microseconds exist and enclose exactly
the means of nanoseconds that are reported as the list.  The verifier therefore
accepts the aggregates of checked observations that raw runs can have. -/
theorem roundedRequestMeanBounds_exact {values : List UInt64} (hne : values ≠ [])
    (hlength : values.length < 2 ^ 53) (hpos : ∀ value ∈ values, 0 < value.toNat)
    {record : MeasurementRecord} (hrecord : record.requestObservations ≠ [])
    (hrecordLength : record.requestObservations.length < 2 ^ 53)
    (hobservations : (record.requestObservations.zipIdx.all fun entry =>
      isObservationAt entry.2 entry.1) = true) :
    (∃ minimum maximum, roundedRequestMeanBounds values = some (minimum, maximum) ∧
      ∀ a : UInt64, (minimum ≤ a ∧ a ≤ maximum) ↔
        ∃ nanos : List Nat, (∀ n ∈ nanos, 0 < n) ∧
          nanos.map (· ⌈/⌉ 1000) = values.map UInt64.toNat ∧ meanMicros nanos = a.toNat) ∧
    (validateLlamaV2AggregateConsistency record = .ok () ↔
      (∃ run : RawRun, run.Reports record.requestObservations ∧
        meanMicros (run.map (·.1)) = record.latencyMicros.toNat) ∧
      ∃ run : RawRun, run.Reports record.requestObservations ∧
        meanMicros (run.map (·.2)) = record.timeToFirstTokenMicros.toNat) := by
  constructor
  · obtain ⟨minimum, maximum, hbounds, hexact⟩ := roundedRequestMeanBounds_eq_some hne hlength hpos
    refine ⟨minimum, maximum, hbounds, fun a => ?_⟩
    rw [hexact a]
    constructor
    · rintro ⟨nanos, ⟨hnanos, hvalues⟩, hmean⟩
      exact ⟨nanos, hnanos, hvalues, hmean⟩
    · rintro ⟨nanos, hnanos, hvalues, hmean⟩
      exact ⟨nanos, ⟨hnanos, hvalues⟩, hmean⟩
  · have hordered := orderedObservations_of_isObservationAt hobservations
    rw [validateLlamaV2AggregateConsistency_eq_ok hrecord hrecordLength hobservations,
      AggregatesMatch, isReportedMean_latency_iff hordered, isReportedMean_ttft_iff hordered]

/-- Two requests of 2 and 3 microseconds. -/
def twoRequestsRecord : MeasurementRecord where
  generator := Schema.llamaCppGeneratorVersion
  attemptNumber := 1
  phase := .measured
  repetitionIndex := 1
  sampleIndex := 1
  latencyMicros := 3
  timeToFirstTokenMicros := 1
  throughputMilliRequestsPerSecond := 1
  successfulRequests := 2
  failedRequests := 0
  requestObservations := [⟨1, 2, 1⟩, ⟨2, 3, 1⟩]

theorem roundedRequestMeanBounds_exact_twoRequests :
    (∃ minimum maximum, roundedRequestMeanBounds [2, 3] = some (minimum, maximum) ∧
      ∀ a : UInt64, (minimum ≤ a ∧ a ≤ maximum) ↔
        ∃ nanos : List Nat, (∀ n ∈ nanos, 0 < n) ∧
          nanos.map (· ⌈/⌉ 1000) = [(2 : UInt64), 3].map UInt64.toNat ∧
          meanMicros nanos = a.toNat) ∧
    (validateLlamaV2AggregateConsistency twoRequestsRecord = .ok () ↔
      (∃ run : RawRun, run.Reports twoRequestsRecord.requestObservations ∧
        meanMicros (run.map (·.1)) = twoRequestsRecord.latencyMicros.toNat) ∧
      ∃ run : RawRun, run.Reports twoRequestsRecord.requestObservations ∧
        meanMicros (run.map (·.2)) = twoRequestsRecord.timeToFirstTokenMicros.toNat) :=
  roundedRequestMeanBounds_exact (List.cons_ne_nil _ _) (by decide)
    (by simp) (List.cons_ne_nil _ _) (by decide) rfl

/-- Three requests, of which the first two wait for their first token as long as for their
last one. -/
def threeRequestsRecord : MeasurementRecord where
  generator := Schema.llamaCppGeneratorVersion
  attemptNumber := 1
  phase := .measured
  repetitionIndex := 1
  sampleIndex := 1
  latencyMicros := 10
  timeToFirstTokenMicros := 8
  throughputMilliRequestsPerSecond := 1
  successfulRequests := 3
  failedRequests := 0
  requestObservations := [⟨1, 10, 10⟩, ⟨2, 10, 10⟩, ⟨3, 12, 2⟩]

/-- A run that reports the three requests has three of them, within a microsecond of what
is observed. -/
theorem threeRequests_of_reports {run : RawRun}
    (h : run.Reports threeRequestsRecord.requestObservations) :
    ∃ first second third : Nat × Nat, run = [first, second, third] ∧
      (9000 < first.1 ∧ first.1 ≤ 10000) ∧ (9000 < second.1 ∧ second.1 ≤ 10000) ∧
      11000 < third.1 ∧ third.2 ≤ 2000 := by
  obtain ⟨first, others, rfl, hfirst, hothers⟩ := List.map_eq_cons_iff.mp h.latencies
  obtain ⟨second, others, rfl, hsecond, hothers⟩ := List.map_eq_cons_iff.mp hothers
  obtain ⟨third, others, rfl, hthird, hothers⟩ := List.map_eq_cons_iff.mp hothers
  obtain rfl := List.map_eq_nil_iff.mp hothers
  have httfts := h.ttfts
  simp only [threeRequestsRecord, List.map_cons, List.map_nil, List.cons.injEq, and_true]
    at httfts
  have hwithin : ∀ {nanos micros : Nat}, 0 < micros → nanos ⌈/⌉ 1000 = micros →
      1000 * (micros - 1) < nanos ∧ nanos ≤ 1000 * micros := by
    intro nanos micros hpos hmicros
    have hbounds := (ceilDiv_eq_iff (by omega) hpos).mp hmicros
    omega
  exact ⟨first, second, third, rfl, hwithin (by decide) hfirst, hwithin (by decide) hsecond,
    (hwithin (by decide) hthird).1, (hwithin (by decide) httfts.2.2).2⟩

/-- The aggregates of the three requests are accepted, and no single run has both: a mean
latency of 10 microseconds leaves the first two requests too little for a mean of 8 to the
first token. -/
theorem roundedRequestMeanBounds_one_run :
    (threeRequestsRecord.requestObservations.zipIdx.all fun entry =>
      isObservationAt entry.2 entry.1) = true ∧
    validateLlamaV2AggregateConsistency threeRequestsRecord = .ok () ∧
    ¬ ∃ run : RawRun, run.Reports threeRequestsRecord.requestObservations ∧
      meanMicros (run.map (·.1)) = threeRequestsRecord.latencyMicros.toNat ∧
      meanMicros (run.map (·.2)) = threeRequestsRecord.timeToFirstTokenMicros.toNat := by
  refine ⟨rfl, rfl, ?_⟩
  rintro ⟨run, hreports, hlatency, httft⟩
  have hordered := hreports.ordered
  obtain ⟨first, second, third, rfl, hfirst, hsecond, hthird⟩ := threeRequests_of_reports hreports
  have hfirstOrdered := hordered first (by simp)
  have hsecondOrdered := hordered second (by simp)
  have hlatencies : (first.1 + (second.1 + (third.1 + 0))) ⌈/⌉ 3000 = 10 := hlatency
  have httfts : (first.2 + (second.2 + (third.2 + 0))) ⌈/⌉ 3000 = 8 := httft
  rw [ceilDiv_eq_iff (by omega) (by omega)] at hlatencies httfts
  omega

end Benchplane
