import Benchplane.Runtime.WorkBounds

/-!
# The CPU probe helper

`run` of the packaged helper: its two loops of repetitions, the sums of the
elapsed durations and the record made of them.  The token work itself leaves no
trace in a record beyond the time it took.  The adapter and the verifier accept
every record.
-/

namespace Benchplane

open Library

namespace CpuProbeHelper

/-- How a helper can stop: with an error that it returns, or with a panic. -/
inductive HelperFault where
  | error (message : String)
  | panic (message : String)

/-! ## Durations -/

/-- Nanoseconds above every `Duration`. -/
def durationLimit : Nat := 2 ^ 64 * 1000000000

/-- `Duration::add_assign`. -/
def addDuration (total duration : Nat) : Except HelperFault Nat :=
  if total + duration < durationLimit then .ok (total + duration)
  else .error (.panic "overflow when adding durations")

/-- `ceil_micros`. -/
def ceilMicros (nanos : Nat) : UInt64 :=
  (tryU64 (max 1 (nanos ⌈/⌉ 1000))).getD 18446744073709551615

/-- What the clock shows for a request: its first output and its end. -/
structure RequestClock where
  firstOutput : Nat
  elapsed : Nat

/-- What the clock shows for a repetition. -/
structure RepetitionClock where
  request : Nat → RequestClock
  elapsed : Nat

/-- The sums that the loop over the requests has gathered. -/
structure RepetitionTotals where
  latencyTotal : Nat
  firstOutputTotal : Nat

/-! ## Repetitions -/

/-- One turn of the loop over the requests; without tokens there is no first output. -/
def observeRequest (args : Args) (clock : RepetitionClock) (totals : RepetitionTotals)
    (request : Nat) : Except HelperFault RepetitionTotals := do
  let firstOutput ← orReject (.panic "positive output token count")
    (if args.outputTokens = 0 then none else some (clock.request request).firstOutput)
  let firstOutputTotal ← addDuration totals.firstOutputTotal firstOutput
  let latencyTotal ← addDuration totals.latencyTotal (clock.request request).elapsed
  pure ⟨latencyTotal, firstOutputTotal⟩

/-- A division of the helper. -/
def checkedDiv (dividend divisor : Nat) : Except HelperFault Nat :=
  if divisor = 0 then .error (.panic "attempt to divide by zero") else .ok (dividend / divisor)

/-- The throughput of a repetition, before it is converted to a `u64`. -/
def throughputOf (args : Args) (elapsed : Nat) : Except HelperFault Nat :=
  checkedDiv (args.requests.toNat * 1000 * 1000000) (ceilMicros elapsed).toNat

/-- The record of a repetition, with the last clamps to one. -/
def recordOf (args : Args) (phase : MeasurementPhase) (repetitionIndex : UInt32)
    (latencyMicros ttftMicros throughput : UInt64) : MeasurementRecord where
  generator := Schema.cpuProbeGeneratorVersion
  attemptNumber := 1
  phase := phase
  repetitionIndex := repetitionIndex
  sampleIndex := 1
  latencyMicros := max 1 latencyMicros
  timeToFirstTokenMicros := max 1 ttftMicros
  throughputMilliRequestsPerSecond := max 1 throughput
  successfulRequests := args.requests
  failedRequests := 0
  requestObservations := []

/-- `emit_repetition`: the record written. -/
def emitRepetition (args : Args) (phase : MeasurementPhase) (repetitionIndex : UInt32)
    (clock : RepetitionClock) : Except HelperFault MeasurementRecord := do
  let totals ← (List.range args.requests.toNat).foldlM (observeRequest args clock) ⟨0, 0⟩
  let requestCount := args.requests.toNat
  let latencyMicros ← checkedDiv (ceilMicros totals.latencyTotal).toNat requestCount
  let firstOutputMicros ← checkedDiv (ceilMicros totals.firstOutputTotal).toNat requestCount
  let ttftMicros := min firstOutputMicros latencyMicros
  let throughput ← throughputOf args clock.elapsed
  let throughput ← orReject (.error "CPU probe throughput overflowed") (tryU64 throughput)
  pure (recordOf args phase repetitionIndex (UInt64.ofNat latencyMicros)
    (UInt64.ofNat ttftMicros) throughput)

/-- The two loops of `run`: the records written, and how they end. -/
def emitAll (args : Args) (clocks : MeasurementPhase → UInt32 → RepetitionClock) :
    List (MeasurementPhase × UInt32) → List MeasurementRecord × Except HelperFault Unit
  | [] => ([], .ok ())
  | (phase, repetitionIndex) :: rest =>
      match emitRepetition args phase repetitionIndex (clocks phase repetitionIndex) with
      | .error fault => ([], .error fault)
      | .ok record =>
          let (records, result) := emitAll args clocks rest
          (record :: records, result)

/-- `run`: the records written, and how it ends. -/
def run (args : Args) (clocks : MeasurementPhase → UInt32 → RepetitionClock) :
    List MeasurementRecord × Except HelperFault Unit :=
  match validate args with
  | .error message => ([], .error (.error message))
  | .ok () => emitAll args clocks (repetitionsOf args.warmupRuns args.repetitions)

/-! ## Rounding -/

theorem toNat_ceilMicros (nanos : Nat) :
    (ceilMicros nanos).toNat = min (max 1 (nanos ⌈/⌉ 1000)) (2 ^ 64 - 1) := by
  unfold ceilMicros tryU64
  split
  · rename_i hfits
    rw [Option.getD_some, UInt64.toNat_ofNat_of_lt' hfits]
    omega
  · rename_i hlarge
    rw [Option.getD_none]
    show 2 ^ 64 - 1 = _
    omega

theorem ceilMicros_pos (nanos : Nat) : 0 < (ceilMicros nanos).toNat := by
  rw [toNat_ceilMicros]
  omega

/-- The throughput is defined and fits a `u64`, for every number of requests and every
wall time. -/
theorem throughputOf_eq_ok (args : Args) (elapsed : Nat) :
    ∃ throughput converted, throughputOf args elapsed = .ok throughput ∧
      tryU64 throughput = some converted := by
  have hwall := ceilMicros_pos elapsed
  have hrequests := args.requests.toNat_lt
  have hle : args.requests.toNat * 1000 * 1000000 / (ceilMicros elapsed).toNat ≤
      args.requests.toNat * 1000 * 1000000 := Nat.div_le_self _ _
  refine ⟨args.requests.toNat * 1000 * 1000000 / (ceilMicros elapsed).toNat,
    UInt64.ofNat (args.requests.toNat * 1000 * 1000000 / (ceilMicros elapsed).toNat), ?_, ?_⟩
  · rw [throughputOf, checkedDiv, if_neg (by omega)]
  · rw [tryU64, if_pos (by omega)]

/-! ## The loop over the requests -/

/-- The clock goes forward within each request, and the durations can be added up. -/
structure RepetitionClock.Representable (clock : RepetitionClock) (requests : Nat) : Prop where
  firstOutput_le : ∀ request < requests,
    (clock.request request).firstOutput ≤ (clock.request request).elapsed
  fits : ((List.range requests).map fun request => (clock.request request).elapsed).sum <
    durationLimit

/-- The latencies of some requests, added up. -/
def RepetitionClock.latencySum (clock : RepetitionClock) (requests : Nat) : Nat :=
  ((List.range requests).map fun request => (clock.request request).elapsed).sum

/-- The first outputs of some requests, added up. -/
def RepetitionClock.firstOutputSum (clock : RepetitionClock) (requests : Nat) : Nat :=
  ((List.range requests).map fun request => (clock.request request).firstOutput).sum

variable {args : Args} {clock : RepetitionClock} {requests : Nat}

theorem RepetitionClock.sums_succ (clock : RepetitionClock) (done : Nat) :
    clock.latencySum (done + 1) = clock.latencySum done + (clock.request done).elapsed ∧
      clock.firstOutputSum (done + 1) =
        clock.firstOutputSum done + (clock.request done).firstOutput := by
  constructor
  · simp [latencySum, List.range_succ]
  · simp [firstOutputSum, List.range_succ]

theorem RepetitionClock.latencySum_mono (clock : RepetitionClock) {done : Nat}
    (h : done ≤ requests) : clock.latencySum done ≤ clock.latencySum requests := by
  induction requests, h using Nat.le_induction with
  | base => exact le_refl _
  | succ next _ ih =>
      rw [(clock.sums_succ next).1]
      omega

theorem RepetitionClock.Representable.firstOutputSum_le (h : clock.Representable requests)
    {done : Nat} (hdone : done ≤ requests) :
    clock.firstOutputSum done ≤ clock.latencySum done := by
  apply List.sum_le_sum
  intro request hrequest
  have hlt := List.mem_range.mp hrequest
  exact h.firstOutput_le request (by omega)

/-- No addition of the loop panics. -/
theorem RepetitionClock.Representable.foldlM_observeRequest (h : clock.Representable requests)
    (htokens : args.outputTokens ≠ 0) {done : Nat} (hdone : done ≤ requests) :
    (List.range done).foldlM (observeRequest args clock) ⟨0, 0⟩ =
      .ok ⟨clock.latencySum done, clock.firstOutputSum done⟩ := by
  induction done with
  | zero => rfl
  | succ done ih =>
      obtain ⟨hlatency, hfirst⟩ := clock.sums_succ done
      have hmono := clock.latencySum_mono hdone
      have hle := h.firstOutputSum_le hdone
      have hfits : clock.latencySum requests < durationLimit := h.fits
      rw [List.range_succ, List.foldlM_append, ih (by omega), hlatency, hfirst]
      simp only [bind, Except.bind, List.foldlM_cons, List.foldlM_nil, observeRequest, htokens,
        if_false, orReject, addDuration]
      rw [if_pos (by omega)]
      simp only []
      rw [if_pos (by omega)]
      rfl

/-! ## The record -/

/-- The last clamps make every number positive. -/
theorem max_one_ne_zero (value : UInt64) : max 1 value ≠ 0 := by
  intro hzero
  have hnat := congrArg UInt64.toNat hzero
  rw [UInt64.toNat_max] at hnat
  have hle : 1 ≤ max (UInt64.toNat 1) value.toNat := le_max_left _ _
  rw [hnat] at hle
  contradiction

/-- The adapter accepts a record at its place when its latency is at least its time to
the first token. -/
theorem isAdapterRecord_recordOf {phase : MeasurementPhase} {repetitionIndex : UInt32}
    {latencyMicros ttftMicros throughput : UInt64} {position : Nat}
    (hplace : (phase, repetitionIndex) = adapterPlace args.warmupRuns position)
    (hle : ttftMicros.toNat ≤ latencyMicros.toNat) :
    isAdapterRecord Schema.cpuProbeGeneratorVersion args.requests args.warmupRuns
      (recordOf args phase repetitionIndex latencyMicros ttftMicros throughput) position =
        true := by
  have horder : max 1 ttftMicros ≤ max 1 latencyMicros := by
    rw [UInt64.le_iff_toNat_le, UInt64.toNat_max, UInt64.toNat_max]
    exact max_le_max_left _ hle
  rw [isAdapterRecord, ← hplace]
  simp only [Bool.and_eq_true, decide_eq_true_eq]
  exact ⟨⟨⟨⟨⟨⟨⟨⟨⟨⟨rfl, rfl⟩, rfl⟩, rfl⟩, rfl⟩, max_one_ne_zero _⟩, max_one_ne_zero _⟩, horder⟩,
    max_one_ne_zero _⟩, rfl⟩, rfl⟩

/-- A repetition gives a record that the adapter accepts at its place. -/
theorem RepetitionClock.Representable.emitRepetition_eq_ok
    (h : clock.Representable args.requests.toNat) (hrequests : 0 < args.requests.toNat)
    (htokens : args.outputTokens ≠ 0) {phase : MeasurementPhase} {repetitionIndex : UInt32}
    {position : Nat} (hplace : (phase, repetitionIndex) = adapterPlace args.warmupRuns position) :
    ∃ record, emitRepetition args phase repetitionIndex clock = .ok record ∧
      isAdapterRecord Schema.cpuProbeGeneratorVersion args.requests args.warmupRuns record
        position = true ∧ record.requestObservations = [] := by
  obtain ⟨throughput, converted, hthroughput, hconverted⟩ := throughputOf_eq_ok args clock.elapsed
  have hloop := h.foldlM_observeRequest htokens (le_refl _)
  have hdiv : ∀ dividend, checkedDiv dividend args.requests.toNat =
      .ok (dividend / args.requests.toNat) := fun dividend => if_neg (by omega)
  -- the divisions of the sums by the number of requests
  set latency := (ceilMicros (clock.latencySum args.requests.toNat)).toNat / args.requests.toNat
    with hlatency
  set firstOutput :=
    (ceilMicros (clock.firstOutputSum args.requests.toNat)).toNat / args.requests.toNat
    with hfirst
  have hlatencyLt : latency < 2 ^ 64 :=
    lt_of_le_of_lt (Nat.div_le_self _ _) (UInt64.toNat_lt _)
  refine ⟨recordOf args phase repetitionIndex (UInt64.ofNat latency)
    (UInt64.ofNat (min firstOutput latency)) converted, ?_, ?_, rfl⟩
  · rw [emitRepetition, hloop]
    simp only [bind, Except.bind, hdiv, hthroughput, hconverted, orReject, pure, Except.pure,
      ← hlatency, ← hfirst]
  · apply isAdapterRecord_recordOf hplace
    rw [UInt64.toNat_ofNat_of_lt' hlatencyLt,
      UInt64.toNat_ofNat_of_lt' (show min firstOutput latency < 2 ^ 64 by omega)]
    exact Nat.min_le_right _ _

/-! ## The run -/

/-- When every repetition gives a good record, the loops write one for each. -/
theorem emitAll_eq_ok {clocks : MeasurementPhase → UInt32 → RepetitionClock}
    {places : List (MeasurementPhase × UInt32)} {good : Nat → MeasurementRecord → Prop}
    (h : ∀ position phase repetitionIndex, places[position]? = some (phase, repetitionIndex) →
      ∃ record, emitRepetition args phase repetitionIndex (clocks phase repetitionIndex) =
        .ok record ∧ good position record) :
    ∃ records, emitAll args clocks places = (records, .ok ()) ∧
      records.length = places.length ∧
      ∀ position (hposition : position < records.length), good position records[position] := by
  induction places generalizing good with
  | nil => exact ⟨[], rfl, rfl, fun position hposition => absurd hposition (by simp)⟩
  | cons place rest ih =>
      obtain ⟨phase, repetitionIndex⟩ := place
      obtain ⟨record, hrecord, hgood⟩ := h 0 phase repetitionIndex rfl
      -- the rest starts one position later
      obtain ⟨records, hrecords, hlength, hrest⟩ := @ih (fun position => good (position + 1))
        fun position phase repetitionIndex hplace => h (position + 1) phase repetitionIndex hplace
      refine ⟨record :: records, ?_, by simp [hlength], ?_⟩
      · simp only [emitAll, hrecord, hrecords]
      · intro position hposition
        cases position with
        | zero => exact hgood
        | succ position => exact hrest position (by simpa using hposition)

/-- What the adapter and the verifier make of a record at its position: both accept
it, the verifier after any records of the same helper. -/
structure Verified (plan : ResolvedExperiment) (config : CpuProbeConfig) (position : Nat)
    (record : MeasurementRecord) : Prop where
  adapter : CpuProbe.validateRecord config record position = .ok ()
  verifier : ∀ priorGenerator : Option String,
    priorGenerator.all (· = Schema.cpuProbeGeneratorVersion) = true →
    validateMeasurementRecord record position plan.experiment.spec.measurement.warmupRuns plan
      priorGenerator = .ok ()

/-- The verifier agrees with the adapter about a record without observations. -/
theorem verified_of_isAdapterRecord {plan : ResolvedExperiment}
    {outputTokens workUnitsPerToken : UInt32} {record : MeasurementRecord} {position : Nat}
    (hruntime : plan.experiment.spec.runtime = .cpuProbe outputTokens workUnitsPerToken)
    (hposition : position + 1 < 2 ^ 32) (hobservations : record.requestObservations = [])
    (hadapter : isAdapterRecord Schema.cpuProbeGeneratorVersion
      plan.experiment.spec.workload.requests plan.experiment.spec.measurement.warmupRuns record
      position = true) :
    Verified plan (cpuProbeConfig plan outputTokens workUnitsPerToken) position record := by
  refine ⟨CpuProbe.validateRecord_eq_ok.mpr hadapter, ?_⟩
  intro priorGenerator hprior
  obtain ⟨hgenerator, hmatches⟩ := matchesExecution_of_isAdapterRecord hposition hprior hadapter
  simp [validateMeasurementRecord, hmatches, hruntime, hgenerator, hobservations, rejectIf, bind,
    Except.bind]

/-- An accepted record is of the phase and repetition of its position. -/
theorem place_of_isAdapterRecord {generator : String} {requests warmupRuns : UInt32}
    {record : MeasurementRecord} {position : Nat}
    (h : isAdapterRecord generator requests warmupRuns record position = true) :
    (record.phase, record.repetitionIndex) = adapterPlace warmupRuns position := by
  simp only [isAdapterRecord, Bool.and_eq_true, decide_eq_true_eq] at h
  obtain ⟨⟨⟨⟨⟨⟨⟨⟨⟨-, hphase⟩, hrepetition⟩, -⟩, -⟩, -⟩, -⟩, -⟩, -⟩, -⟩ := h
  exact Prod.ext hphase hrepetition

/-- On accepted arguments the helper writes one record for every warm-up and then for
every measured repetition, each passes the adapter and the verifier at its position,
and no throughput fails. -/
theorem run_verified (plan : ResolvedExperiment) (outputTokens workUnitsPerToken : UInt32)
    (args : Args) (clocks : MeasurementPhase → UInt32 → RepetitionClock)
    (hruntime : plan.experiment.spec.runtime = .cpuProbe outputTokens workUnitsPerToken)
    (hargs : args = (cpuProbeConfig plan outputTokens workUnitsPerToken).helperArgs)
    (haccepted : validate args = .ok ())
    (hclocks : ∀ place ∈ repetitionsOf args.warmupRuns args.repetitions,
      (clocks place.1 place.2).Representable args.requests.toNat) :
    (∃ records, run args clocks = (records, .ok ()) ∧
      records.map (fun record => (record.phase, record.repetitionIndex)) =
        repetitionsOf args.warmupRuns args.repetitions ∧
      ∀ position (hposition : position < records.length),
        Verified plan (cpuProbeConfig plan outputTokens workUnitsPerToken) position
          records[position]) ∧
      ∀ elapsed, ∃ throughput converted, throughputOf args elapsed = .ok throughput ∧
        tryU64 throughput = some converted := by
  subst hargs
  have hbounds := validate_eq_ok.mp haccepted
  set args := (cpuProbeConfig plan outputTokens workUnitsPerToken).helperArgs with hargs
  have hrequests : 0 < args.requests.toNat := hbounds.requests_pos
  have htokens : args.outputTokens ≠ 0 := by
    intro hzero
    have hpos := hbounds.tokens_pos
    rw [hzero] at hpos
    contradiction
  have hrecords := hbounds.records_le
  refine ⟨?_, throughputOf_eq_ok args⟩
  -- each repetition is emitted, since its clock can be represented
  have hrepetition : ∀ position phase repetitionIndex,
      (repetitionsOf args.warmupRuns args.repetitions)[position]? = some (phase, repetitionIndex) →
      ∃ record, emitRepetition args phase repetitionIndex (clocks phase repetitionIndex) =
        .ok record ∧ isAdapterRecord Schema.cpuProbeGeneratorVersion args.requests args.warmupRuns
          record position = true ∧ record.requestObservations = [] := by
    intro position phase repetitionIndex hplace
    have hclock := hclocks _ (List.mem_of_getElem? hplace)
    exact hclock.emitRepetition_eq_ok hrequests htokens (getElem?_repetitionsOf hplace).2
  obtain ⟨records, hrun, hlength, hgood⟩ := emitAll_eq_ok hrepetition
  have hbelow : ∀ position, position < records.length → position + 1 < 2 ^ 32 := by
    intro position hposition
    rw [hlength, length_repetitionsOf] at hposition
    omega
  refine ⟨records, ?_, ?_, ?_⟩
  · rw [run, haccepted]
    exact hrun
  -- the records stand in the order in which the repetitions were run
  · apply List.ext_getElem (by rw [List.length_map, hlength])
    intro position hleft hright
    rw [List.length_map] at hleft
    rw [List.getElem_map, place_of_isAdapterRecord (hgood position hleft).1]
    exact (getElem?_repetitionsOf (List.getElem?_eq_getElem hright)).2.symm
  · intro position hposition
    obtain ⟨hadapter, hobservations⟩ := hgood position hposition
    exact verified_of_isAdapterRecord hruntime (hbelow position hposition) hobservations hadapter

/-- On a warm-up that is slower than the two repetitions behind it, each of two requests with
times that are no whole microseconds. -/
theorem run_verified_repeated :
    (∃ records, run ⟨2, 1, 2, 4, 100⟩ (fun phase _ =>
          if phase = .warmup then ⟨fun request => ⟨9001, 30500 + request⟩, 62003⟩
          else ⟨fun request => ⟨7001, 19500 + request⟩, 40001⟩) = (records, .ok ()) ∧
      records.map (fun record => (record.phase, record.repetitionIndex)) = repetitionsOf 1 2 ∧
      ∀ position (hposition : position < records.length),
        Verified (.repeated (.cpuProbe 4 100) Schema.cpuProbeWorkloadProfile)
          (cpuProbeConfig (.repeated (.cpuProbe 4 100) Schema.cpuProbeWorkloadProfile) 4 100)
          position records[position]) ∧
      ∀ elapsed, ∃ throughput converted,
        throughputOf ⟨2, 1, 2, 4, 100⟩ elapsed = .ok throughput ∧
          tryU64 throughput = some converted := by
  refine run_verified (.repeated (.cpuProbe 4 100) Schema.cpuProbeWorkloadProfile) 4 100
    ⟨2, 1, 2, 4, 100⟩ _ rfl rfl (by decide) ?_
  intro place _
  split
  · refine ⟨?_, ?_⟩
    · intro request _
      show 9001 ≤ 30500 + request
      omega
    · decide
  · refine ⟨?_, ?_⟩
    · intro request _
      show 7001 ≤ 19500 + request
      omega
    · decide

end CpuProbeHelper

end Benchplane
