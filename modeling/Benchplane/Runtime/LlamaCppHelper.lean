import Benchplane.Runtime.WorkBounds
import Mathlib.Algebra.BigOperators.Ring.Finset

/-!
# The llama.cpp helper

`emit_repetition` of the packaged helper for the CPU target, in its 64-bit
arithmetic: it rounds the durations of every request and their mean up to
microseconds.  The adapter and the verifier accept whatever it prints.
-/

namespace Benchplane

open Library

namespace LlamaCppHelper

/-! ## Rounding -/

/-- `ceil_mean_micros`. -/
def ceilMeanMicros (totalNanos : UInt64) (count : UInt32) : UInt64 :=
  if count = 0 then 1
  else
    let divisor := count.toUInt64 * 1000
    let quotient := totalNanos / divisor
    let rounded := quotient + if totalNanos % divisor ≠ 0 then 1 else 0
    max 1 rounded

/-- `ceil_micros`. -/
def ceilMicros (nanos : UInt64) : UInt64 :=
  max 1 (nanos / 1000 + if nanos % 1000 ≠ 0 then 1 else 0)

/-! ## Requests -/

/-- What a request came to: whether the model ran through, and the times on the
steady clock, as signed counts of nanoseconds. -/
structure RequestRun where
  ok : Bool
  latency : Int
  ttft : Int

/-- `run_request`: the latency and the time to the first token of a good request. -/
def runRequest (run : RequestRun) : Option (Int × Int) :=
  if run.ok ∧ 0 < run.ttft ∧ run.ttft ≤ run.latency then some (run.latency, run.ttft) else none

structure RequestObservation where
  latencyMicros : UInt64
  ttftMicros : UInt64

/-- What the loop over the requests has gathered. -/
structure RepetitionTotals where
  totalLatency : Int
  totalTtft : Int
  observations : List RequestObservation

def RepetitionTotals.start : RepetitionTotals := ⟨0, 0, []⟩

/-- The observation of a request. -/
def observation (latency ttft : Int) : RequestObservation :=
  let latencyMicros := ceilMicros (UInt64.ofInt latency)
  ⟨latencyMicros, min latencyMicros (ceilMicros (UInt64.ofInt ttft))⟩

/-- One turn of the loop over the requests. -/
def observeRequest (runs : Nat → RequestRun) (totals : RepetitionTotals) (request : Nat) :
    Option RepetitionTotals := do
  let (latency, ttft) ← runRequest (runs request)
  pure ⟨totals.totalLatency + latency, totals.totalTtft + ttft,
    totals.observations ++ [observation latency ttft]⟩

/-! ## Printing -/

/-- The text of a phase. -/
def phaseText : MeasurementPhase → String
  | .warmup => "warmup"
  | .measured => "measured"

/-- One turn of the loop that prints the observations. -/
def printObservation (request : Nat) (observation : RequestObservation) : String :=
  (if request = 0 then "" else ",") ++ "\x7b\"requestIndex\":" ++
    (UInt32.ofNat request + 1).toNat.repr ++ ",\"latencyMicros\":" ++
    observation.latencyMicros.toNat.repr ++ ",\"timeToFirstTokenMicros\":" ++
    observation.ttftMicros.toNat.repr ++ "\x7d"

/-- The observations, printed one after the other. -/
def printObservations (observations : List RequestObservation) : String :=
  String.join (observations.zipIdx.map fun entry => printObservation entry.2 entry.1)

/-- What `emit_repetition` prints at its end. -/
def printRepetition (args : Args) (phase : String) (repetitionIndex : UInt32)
    (latencyMicros ttftMicros throughput : UInt64) (observations : List RequestObservation) :
    String :=
  "\x7b\"generator\":\"benchplane-llama-cpp-smollm2/v2\"," ++
    "\"attemptNumber\":1,\"phase\":\"" ++ phase ++ "\",\"repetitionIndex\":" ++
    repetitionIndex.toNat.repr ++ "," ++
    "\"sampleIndex\":1,\"latencyMicros\":" ++ latencyMicros.toNat.repr ++ "," ++
    "\"timeToFirstTokenMicros\":" ++ ttftMicros.toNat.repr ++ "," ++
    "\"throughputMilliRequestsPerSecond\":" ++ throughput.toNat.repr ++ "," ++
    "\"successfulRequests\":" ++ args.requests.toNat.repr ++ ",\"failedRequests\":0," ++
    "\"requestObservations\":[" ++ printObservations observations ++ "]\x7d\n"

/-- `emit_repetition`: the text printed, or nothing when a request failed. -/
def emitRepetition (args : Args) (phase : String) (repetitionIndex : UInt32)
    (runs : Nat → RequestRun) (repetitionElapsed : Int) : Option String := do
  let totals ← (List.range args.requests.toNat).foldlM (observeRequest runs) .start
  let latencyMicros := ceilMeanMicros (UInt64.ofInt totals.totalLatency) args.requests
  let ttftMicros :=
    min latencyMicros (ceilMeanMicros (UInt64.ofInt totals.totalTtft) args.requests)
  let elapsedNanos := max 1 (UInt64.ofInt repetitionElapsed)
  let throughput := max 1 (args.requests.toUInt64 * 1000 * 1000000000 / elapsedNanos)
  pure (printRepetition args phase repetitionIndex latencyMicros ttftMicros throughput
    totals.observations)

/-- The record behind a printed line. -/
def recordOf (args : Args) (phase : MeasurementPhase) (repetitionIndex : UInt32)
    (latencyMicros ttftMicros throughput : UInt64) (observations : List RequestObservation) :
    MeasurementRecord where
  generator := Schema.llamaCppGeneratorVersion
  attemptNumber := 1
  phase := phase
  repetitionIndex := repetitionIndex
  sampleIndex := 1
  latencyMicros := latencyMicros
  timeToFirstTokenMicros := ttftMicros
  throughputMilliRequestsPerSecond := throughput
  successfulRequests := args.requests
  failedRequests := 0
  requestObservations := observations.zipIdx.map fun entry =>
    ⟨UInt32.ofNat entry.2 + 1, entry.1.latencyMicros, entry.1.ttftMicros⟩

/-! ## The printed text -/

/-- One printed observation, without the comma before it. -/
theorem compact_observation (observation : RequestObservation) (request : Nat) :
    (RequestObservation.toJson ⟨UInt32.ofNat request + 1, observation.latencyMicros,
      observation.ttftMicros⟩).compact = "\x7b\"requestIndex\":" ++
        (UInt32.ofNat request + 1).toNat.repr ++ ",\"latencyMicros\":" ++
        observation.latencyMicros.toNat.repr ++ ",\"timeToFirstTokenMicros\":" ++
        observation.ttftMicros.toNat.repr ++ "\x7d" := by
  simp only [RequestObservation.toJson, Json.record, JsonFields.ofList, Json.compact,
    JsonFields.compact, JsonFields.isNil, Json.u32, Json.u64, Json.nat, if_true, if_false,
    Bool.false_eq_true]
  apply String.toList_inj.mp
  simp only [String.toList_append, List.append_assoc]
  rfl

/-- The observations as the items of a JSON array. -/
def observationItems (observations : List RequestObservation) (first : Nat) : JsonItems :=
  .ofList ((observations.zipIdx first).map fun entry => RequestObservation.toJson
    ⟨UInt32.ofNat entry.2 + 1, entry.1.latencyMicros, entry.1.ttftMicros⟩)

/-- The loop prints the items of a JSON array, after the first observation with a
comma before each. -/
theorem join_printObservation (observations : List RequestObservation) (first : Nat) :
    String.join ((observations.zipIdx first).map fun entry => printObservation entry.2 entry.1) =
      if observations = [] then ""
      else (if first = 0 then "" else ",") ++ (observationItems observations first).compact := by
  induction observations generalizing first with
  | nil => rfl
  | cons observation rest ih =>
      rw [List.zipIdx_cons, List.map_cons, String.join_cons, ih, if_neg (List.cons_ne_nil _ _)]
      have hhead : printObservation first observation = (if first = 0 then "" else ",") ++
          (RequestObservation.toJson ⟨UInt32.ofNat first + 1, observation.latencyMicros,
            observation.ttftMicros⟩).compact := by
        rw [compact_observation, printObservation]
        simp only [String.append_assoc]
      have hitems : observationItems (observation :: rest) first =
          .cons (RequestObservation.toJson ⟨UInt32.ofNat first + 1, observation.latencyMicros,
            observation.ttftMicros⟩) (observationItems rest (first + 1)) := rfl
      rw [hhead, hitems, JsonItems.compact, String.append_assoc]
      cases rest with
      | nil => rfl
      | cons next others =>
          rw [if_neg (List.cons_ne_nil _ _), if_neg (Nat.succ_ne_zero first)]
          rfl

/-- The printed text is the JSON of the record. -/
theorem printRepetition_eq {args : Args} {phase : MeasurementPhase} {repetitionIndex : UInt32}
    {latencyMicros ttftMicros throughput : UInt64} {observations : List RequestObservation}
    (hne : observations ≠ []) :
    printRepetition args (phaseText phase) repetitionIndex latencyMicros ttftMicros throughput
        observations =
      (recordOf args phase repetitionIndex latencyMicros ttftMicros throughput
        observations).toJson.compact ++ "\n" := by
  have hprinted : printObservations observations = (observationItems observations 0).compact := by
    have hjoin := join_printObservation observations 0
    simp only [hne, if_true, if_false, String.empty_append] at hjoin
    exact hjoin
  have hitems : JsonItems.ofList ((recordOf args phase repetitionIndex latencyMicros ttftMicros
      throughput observations).requestObservations.map RequestObservation.toJson) =
        observationItems observations 0 := by
    rw [recordOf, List.map_map]
    rfl
  have hrecordNe : (recordOf args phase repetitionIndex latencyMicros ttftMicros throughput
      observations).requestObservations ≠ [] := by
    simpa [recordOf] using hne
  have hjson : (recordOf args phase repetitionIndex latencyMicros ttftMicros throughput
      observations).toJson = .record [("generator", .string Schema.llamaCppGeneratorVersion),
        ("attemptNumber", .u32 1), ("phase", phase.toJson),
        ("repetitionIndex", .u32 repetitionIndex), ("sampleIndex", .u32 1),
        ("latencyMicros", .u64 latencyMicros), ("timeToFirstTokenMicros", .u64 ttftMicros),
        ("throughputMilliRequestsPerSecond", .u64 throughput),
        ("successfulRequests", .u32 args.requests), ("failedRequests", .u32 0),
        ("requestObservations", .array (observationItems observations 0))] := by
    rw [MeasurementRecord.toJson, if_neg hrecordNe, Json.list, hitems]
    rfl
  -- the pieces of the format, one for each conversion in it
  have hgenerator : "\x7b\"generator\":\"benchplane-llama-cpp-smollm2/v2\"," = "\x7b" ++
      (Json.quote "generator" ++ (":" ++ (Json.quote Schema.llamaCppGeneratorVersion ++ ","))) :=
    rfl
  have hphase : "\"attemptNumber\":1,\"phase\":\"" = Json.quote "attemptNumber" ++ (":" ++
      ((Json.u32 1).compact ++ ("," ++ (Json.quote "phase" ++ (":" ++ "\""))))) := rfl
  have hindex : "\",\"repetitionIndex\":" =
      "\"" ++ ("," ++ (Json.quote "repetitionIndex" ++ ":")) := rfl
  have hlatency : "\"sampleIndex\":1,\"latencyMicros\":" = Json.quote "sampleIndex" ++ (":" ++
      ((Json.u32 1).compact ++ ("," ++ (Json.quote "latencyMicros" ++ ":")))) := rfl
  have httft : "\"timeToFirstTokenMicros\":" = Json.quote "timeToFirstTokenMicros" ++ ":" := rfl
  have hthroughput : "\"throughputMilliRequestsPerSecond\":" =
      Json.quote "throughputMilliRequestsPerSecond" ++ ":" := rfl
  have hrequests : "\"successfulRequests\":" = Json.quote "successfulRequests" ++ ":" := rfl
  have hfailed : ",\"failedRequests\":0," = "," ++ (Json.quote "failedRequests" ++ (":" ++
      ((Json.u32 0).compact ++ ","))) := rfl
  have hobservations : "\"requestObservations\":[" =
      Json.quote "requestObservations" ++ (":" ++ "[") := rfl
  have hend : "]\x7d\n" = "]" ++ ("\x7d" ++ "\n") := rfl
  have hquoted : phase.toJson.compact = "\"" ++ (phaseText phase ++ "\"") := by
    cases phase <;> rfl
  have hnumber : ∀ n : Nat, (Json.nat n).compact = n.repr := fun _ => by
    rw [Json.nat, Json.compact]
  rw [hjson]
  unfold printRepetition
  rw [hprinted, hgenerator, hphase, hindex, hlatency, httft, hthroughput, hrequests, hfailed,
    hobservations, hend]
  generalize observationItems observations 0 = items
  simp only [Json.record, JsonFields.ofList, Json.compact, JsonFields.compact, JsonFields.isNil,
    hquoted, Json.u32, Json.u64, hnumber, if_true, if_false, Bool.false_eq_true,
    String.append_assoc, String.empty_append]

/-! ## Rounding, as numbers -/

/-- A count of nanoseconds that fits its signed type keeps its value in the cast. -/
theorem toNat_ofInt {n : Nat} (h : n < 2 ^ 64) : (UInt64.ofInt n).toNat = n := by
  simp only [UInt64.ofInt, UInt64.toNat_ofNat']
  omega

/-- The rounding of both functions: up, and at least to one. -/
theorem toNat_roundUp {n d : UInt64} (hd : 2 ≤ d.toNat) (hn : 0 < n.toNat) :
    (max 1 (n / d + if n % d ≠ 0 then 1 else 0)).toNat = n.toNat ⌈/⌉ d.toNat := by
  have hquotient : n.toNat / d.toNat ≤ n.toNat / 2 := Nat.div_le_div_left hd (by norm_num)
  have hbound := n.toNat_lt
  have hrest : n % d ≠ 0 ↔ n.toNat % d.toNat ≠ 0 := by
    rw [← UInt64.toNat_mod, ne_eq, ne_eq, ← UInt64.toNat_inj]
    rfl
  have hrounded : (n / d + if n % d ≠ 0 then 1 else 0).toNat = n.toNat ⌈/⌉ d.toNat := by
    rw [← div_add_one_unless_dvd_eq_ceilDiv n.toNat (by omega)]
    by_cases hexact : n.toNat % d.toNat = 0
    · rw [if_neg (mt hrest.mp (not_not.mpr hexact)), if_pos hexact, UInt64.toNat_add,
        UInt64.toNat_div]
      exact Nat.mod_eq_of_lt (show n.toNat / d.toNat + 0 < 2 ^ 64 by omega)
    · rw [if_pos (hrest.mpr hexact), if_neg hexact, UInt64.toNat_add, UInt64.toNat_div]
      exact Nat.mod_eq_of_lt (show n.toNat / d.toNat + 1 < 2 ^ 64 by omega)
  rw [UInt64.toNat_max, hrounded]
  exact max_eq_right (ceilDiv_pos (by omega) hn)

theorem toNat_ceilMicros {nanos : UInt64} (hpos : 0 < nanos.toNat) :
    (ceilMicros nanos).toNat = nanos.toNat ⌈/⌉ 1000 :=
  toNat_roundUp (by decide) hpos

/-- The divisor of the mean does not wrap. -/
theorem toNat_divisor (count : UInt32) :
    (count.toUInt64 * 1000).toNat = 1000 * count.toNat := by
  have hcount := count.toNat_lt
  rw [UInt64.toNat_mul, UInt32.toNat_toUInt64]
  show count.toNat * 1000 % 2 ^ 64 = 1000 * count.toNat
  omega

theorem toNat_ceilMeanMicros {totalNanos : UInt64} {count : UInt32} (hcount : 0 < count.toNat)
    (hpos : 0 < totalNanos.toNat) :
    (ceilMeanMicros totalNanos count).toNat = totalNanos.toNat ⌈/⌉ (1000 * count.toNat) := by
  have hne : count ≠ 0 := fun h => by simp [h] at hcount
  rw [ceilMeanMicros, if_neg hne, toNat_roundUp (by rw [toNat_divisor]; omega) hpos, toNat_divisor]

/-! ## The loop over the requests -/

/-- All requests of a repetition went through, and their latencies together fit the
signed count of nanoseconds. -/
structure GoodRuns (requests : Nat) (runs : Nat → RequestRun) : Prop where
  ok : ∀ request < requests, (runs request).ok = true
  ttft_pos : ∀ request < requests, 0 < (runs request).ttft
  ttft_le : ∀ request < requests, (runs request).ttft ≤ (runs request).latency
  fits : ((List.range requests).map fun request => (runs request).latency).sum < 2 ^ 63

/-- The latency of a request in nanoseconds. -/
def latencyNanos (runs : Nat → RequestRun) (request : Nat) : Nat := (runs request).latency.toNat

/-- The time to the first token of a request in nanoseconds. -/
def ttftNanos (runs : Nat → RequestRun) (request : Nat) : Nat := (runs request).ttft.toNat

variable {requests : Nat} {runs : Nat → RequestRun}

theorem GoodRuns.runRequest_eq (h : GoodRuns requests runs) {request : Nat}
    (hrequest : request < requests) :
    runRequest (runs request) =
      some ((latencyNanos runs request : Int), (ttftNanos runs request : Int)) := by
  have hpos := h.ttft_pos request hrequest
  have hle := h.ttft_le request hrequest
  rw [runRequest, if_pos ⟨h.ok request hrequest, hpos, hle⟩, latencyNanos, ttftNanos,
    Int.toNat_of_nonneg (by omega), Int.toNat_of_nonneg (by omega)]

theorem GoodRuns.ttftNanos_pos (h : GoodRuns requests runs) {request : Nat}
    (hrequest : request < requests) : 0 < ttftNanos runs request := by
  have hpos := h.ttft_pos request hrequest
  unfold ttftNanos
  omega

theorem GoodRuns.ttftNanos_le (h : GoodRuns requests runs) {request : Nat}
    (hrequest : request < requests) : ttftNanos runs request ≤ latencyNanos runs request := by
  have hle := h.ttft_le request hrequest
  unfold ttftNanos latencyNanos
  omega

/-- The latencies fit together. -/
theorem GoodRuns.sum_latencyNanos_lt (h : GoodRuns requests runs) :
    ((List.range requests).map (latencyNanos runs)).sum < 2 ^ 63 := by
  have hcast : (((List.range requests).map (latencyNanos runs)).sum : Int) =
      ((List.range requests).map fun request => (runs request).latency).sum := by
    rw [Nat.cast_list_sum, List.map_map]
    congr 1
    apply List.map_congr_left
    intro request hrequest
    have hpos := h.ttft_pos request (List.mem_range.mp hrequest)
    have hle := h.ttft_le request (List.mem_range.mp hrequest)
    exact Int.toNat_of_nonneg (by omega)
  have hfits := h.fits
  omega

/-- The observations of some requests. -/
def observationsOf (runs : Nat → RequestRun) (requests : Nat) : List RequestObservation :=
  (List.range requests).map fun request =>
    observation (latencyNanos runs request) (ttftNanos runs request)

/-- What the loop has gathered after some of the requests. -/
theorem GoodRuns.foldlM_observeRequest (h : GoodRuns requests runs) {done : Nat}
    (hdone : done ≤ requests) :
    (List.range done).foldlM (observeRequest runs) .start = some
      { totalLatency := ((List.range done).map (latencyNanos runs)).sum
        totalTtft := ((List.range done).map (ttftNanos runs)).sum
        observations := observationsOf runs done } := by
  induction done with
  | zero => rfl
  | succ done ih =>
      have hstep := h.runRequest_eq (show done < requests by omega)
      rw [observationsOf, List.range_succ, List.foldlM_append, ih (by omega), observationsOf]
      simp only [List.foldlM_cons, List.foldlM_nil, observeRequest, hstep, Option.bind_eq_bind,
        Option.bind_some, Option.pure_def, List.map_append, List.map_cons, List.map_nil,
        List.sum_append, List.sum_cons, List.sum_nil, Nat.cast_add, add_zero]

/-! ## Observations -/

theorem toNat_observation {latency ttft : Nat} (hpos : 0 < ttft) (hle : ttft ≤ latency)
    (hfits : latency < 2 ^ 63) :
    (observation latency ttft).latencyMicros.toNat = latency ⌈/⌉ 1000 ∧
      (observation latency ttft).ttftMicros.toNat = ttft ⌈/⌉ 1000 := by
  have hlatency : (UInt64.ofInt latency).toNat = latency := toNat_ofInt (by omega)
  have httft : (UInt64.ofInt ttft).toNat = ttft := toNat_ofInt (by omega)
  have hlatencyMicros := @toNat_ceilMicros (UInt64.ofInt latency) (by omega)
  have httftMicros := @toNat_ceilMicros (UInt64.ofInt ttft) (by omega)
  rw [hlatency] at hlatencyMicros
  rw [httft] at httftMicros
  refine ⟨hlatencyMicros, ?_⟩
  show (min (ceilMicros (UInt64.ofInt latency)) (ceilMicros (UInt64.ofInt ttft))).toNat = _
  rw [UInt64.toNat_min, hlatencyMicros, httftMicros]
  exact min_eq_right ((gc_mul_ceilDiv (by norm_num)).monotone_l hle)

variable {requests : Nat} {runs : Nat → RequestRun}

/-- Every observation is the rounded latency and first token of its request. -/
theorem GoodRuns.toNat_observation (h : GoodRuns requests runs) {request : Nat}
    (hrequest : request < requests) :
    (observation (latencyNanos runs request) (ttftNanos runs request)).latencyMicros.toNat =
        latencyNanos runs request ⌈/⌉ 1000 ∧
      (observation (latencyNanos runs request) (ttftNanos runs request)).ttftMicros.toNat =
        ttftNanos runs request ⌈/⌉ 1000 := by
  have hmem : latencyNanos runs request ∈ (List.range requests).map (latencyNanos runs) :=
    List.mem_map.mpr ⟨request, List.mem_range.mpr hrequest, rfl⟩
  have hsum := List.le_sum_of_mem hmem
  have hfits := h.sum_latencyNanos_lt
  exact LlamaCppHelper.toNat_observation (h.ttftNanos_pos hrequest) (h.ttftNanos_le hrequest)
    (by omega)

/-! ## The record -/

/-- The record that `emit_repetition` prints for good runs. -/
def emittedRecord (args : Args) (phase : MeasurementPhase) (repetitionIndex : UInt32)
    (runs : Nat → RequestRun) (repetitionElapsed : Int) : MeasurementRecord :=
  let requests := args.requests.toNat
  let latencyMicros := ceilMeanMicros
    (UInt64.ofInt ((List.range requests).map (latencyNanos runs)).sum) args.requests
  let ttftMicros := ceilMeanMicros
    (UInt64.ofInt ((List.range requests).map (ttftNanos runs)).sum) args.requests
  let elapsedNanos := max 1 (UInt64.ofInt repetitionElapsed)
  recordOf args phase repetitionIndex latencyMicros (min latencyMicros ttftMicros)
    (max 1 (args.requests.toUInt64 * 1000 * 1000000000 / elapsedNanos))
    (observationsOf runs requests)

variable {args : Args} {phase : MeasurementPhase} {repetitionIndex : UInt32} {elapsed : Int}

/-- What is printed is the JSON of that record. -/
theorem GoodRuns.emitRepetition_eq (h : GoodRuns args.requests.toNat runs)
    (hrequests : 0 < args.requests.toNat) :
    emitRepetition args (phaseText phase) repetitionIndex runs elapsed =
      some ((emittedRecord args phase repetitionIndex runs elapsed).toJson.compact ++ "\n") := by
  have hne : observationsOf runs args.requests.toNat ≠ [] := by
    apply List.ne_nil_of_length_pos
    simpa [observationsOf] using hrequests
  rw [emitRepetition, h.foldlM_observeRequest (le_refl _), Option.bind_eq_bind, Option.bind_some,
    Option.pure_def]
  exact congrArg some (printRepetition_eq hne)

/-- The observations of the record in order. -/
theorem requestObservations_eq :
    (emittedRecord args phase repetitionIndex runs elapsed).requestObservations =
      (List.range args.requests.toNat).map fun request =>
        ⟨UInt32.ofNat request + 1,
          (observation (latencyNanos runs request) (ttftNanos runs request)).latencyMicros,
          (observation (latencyNanos runs request) (ttftNanos runs request)).ttftMicros⟩ := by
  apply List.ext_getElem?
  intro request
  simp only [emittedRecord, recordOf, observationsOf, List.getElem?_map, List.getElem?_zipIdx,
    Nat.zero_add]
  by_cases hrequest : request < args.requests.toNat
  · rw [List.getElem?_range hrequest]
    rfl
  · rw [List.getElem?_eq_none (by simpa using hrequest)]
    rfl

/-- The verifier and the adapter find every observation in order. -/
theorem GoodRuns.isObservationAt (h : GoodRuns args.requests.toNat runs) :
    ((emittedRecord args phase repetitionIndex runs elapsed).requestObservations.zipIdx.all
      fun entry => Benchplane.isObservationAt entry.2 entry.1) = true := by
  rw [List.all_eq_true]
  rintro ⟨observed, request⟩ hmem
  have hobserved := List.mk_mem_zipIdx_iff_getElem?.mp hmem
  rw [requestObservations_eq, List.getElem?_map, Option.map_eq_some_iff] at hobserved
  obtain ⟨other, hother, rfl⟩ := hobserved
  obtain ⟨hrequest, rfl⟩ := List.getElem?_eq_some_iff.mp hother
  rw [List.length_range] at hrequest
  rw [List.getElem_range]
  -- both metrics are rounded up, so neither can have become zero
  obtain ⟨hlatency, httft⟩ := h.toNat_observation hrequest
  have httftPos := h.ttftNanos_pos hrequest
  have hle := h.ttftNanos_le hrequest
  have hlatencyPos := ceilDiv_pos (show 0 < 1000 by norm_num)
    (show 0 < latencyNanos runs request by omega)
  have httftMicrosPos := ceilDiv_pos (show 0 < 1000 by norm_num) httftPos
  simp only [Benchplane.isObservationAt, Bool.and_eq_true, decide_eq_true_eq, true_and]
  refine ⟨⟨?_, ?_⟩, ?_⟩
  · intro hzero
    rw [hzero] at hlatency
    simp at hlatency
    omega
  · intro hzero
    rw [hzero] at httft
    simp at httft
    omega
  · rw [UInt64.le_iff_toNat_le, hlatency, httft]
    exact (gc_mul_ceilDiv (by norm_num)).monotone_l hle

/-- The sums of the first tokens are at most those of the latencies, and positive. -/
theorem GoodRuns.sum_ttftNanos (h : GoodRuns requests runs) (hrequests : 0 < requests) :
    0 < ((List.range requests).map (ttftNanos runs)).sum ∧
      ((List.range requests).map (ttftNanos runs)).sum ≤
        ((List.range requests).map (latencyNanos runs)).sum := by
  constructor
  · have hmem : ttftNanos runs 0 ∈ (List.range requests).map (ttftNanos runs) :=
      List.mem_map.mpr ⟨0, List.mem_range.mpr hrequests, rfl⟩
    have hsum := List.le_sum_of_mem hmem
    have hpos := h.ttftNanos_pos hrequests
    omega
  · apply List.sum_le_sum
    intro request hrequest
    exact h.ttftNanos_le (List.mem_range.mp hrequest)

/-- The aggregates are the means of the raw durations, rounded up. -/
theorem GoodRuns.toNat_aggregates (h : GoodRuns args.requests.toNat runs)
    (hrequests : 0 < args.requests.toNat) :
    (emittedRecord args phase repetitionIndex runs elapsed).latencyMicros.toNat =
        ((List.range args.requests.toNat).map (latencyNanos runs)).sum ⌈/⌉
          (1000 * args.requests.toNat) ∧
      (emittedRecord args phase repetitionIndex runs elapsed).timeToFirstTokenMicros.toNat =
        ((List.range args.requests.toNat).map (ttftNanos runs)).sum ⌈/⌉
          (1000 * args.requests.toNat) := by
  obtain ⟨hpos, hle⟩ := h.sum_ttftNanos hrequests
  have hfits := h.sum_latencyNanos_lt
  set latency := ((List.range args.requests.toNat).map (latencyNanos runs)).sum with hlatency
  set ttft := ((List.range args.requests.toNat).map (ttftNanos runs)).sum with httft
  have hlatencyNanos : (UInt64.ofInt latency).toNat = latency := toNat_ofInt (by omega)
  have httftNanos : (UInt64.ofInt ttft).toNat = ttft := toNat_ofInt (by omega)
  have hlatencyMean := toNat_ceilMeanMicros hrequests
    (show 0 < (UInt64.ofInt latency).toNat by omega)
  have httftMean := toNat_ceilMeanMicros hrequests (show 0 < (UInt64.ofInt ttft).toNat by omega)
  rw [hlatencyNanos] at hlatencyMean
  rw [httftNanos] at httftMean
  refine ⟨hlatencyMean, ?_⟩
  show (min (ceilMeanMicros (UInt64.ofInt latency) args.requests)
    (ceilMeanMicros (UInt64.ofInt ttft) args.requests)).toNat = _
  rw [UInt64.toNat_min, hlatencyMean, httftMean]
  exact min_eq_right ((gc_mul_ceilDiv (by omega)).monotone_l hle)

/-- The rounded mean of raw durations that are reported one by one. -/
theorem isReportedMean_of_range {nanos : Nat → Nat}
    (hpos : ∀ request < requests, 0 < nanos request) :
    IsReportedMean 1000 ((List.range requests).map fun request => nanos request ⌈/⌉ 1000)
      (((List.range requests).map nanos).sum ⌈/⌉ (1000 * requests)) := by
  refine ⟨(List.range requests).map nanos, ⟨?_, ?_⟩, ?_⟩
  · intro n hn
    obtain ⟨request, hrequest, rfl⟩ := List.mem_map.mp hn
    exact hpos request (List.mem_range.mp hrequest)
  · rw [List.map_map]
    rfl
  · rw [List.length_map, List.length_range]

/-- The verifier finds the aggregates consistent with the observations. -/
theorem GoodRuns.aggregatesMatch (h : GoodRuns args.requests.toNat runs)
    (hrequests : 0 < args.requests.toNat) :
    AggregatesMatch (emittedRecord args phase repetitionIndex runs elapsed) := by
  obtain ⟨hlatency, httft⟩ := @toNat_aggregates _ args phase repetitionIndex elapsed h hrequests
  have hlatencies : (emittedRecord args phase repetitionIndex runs
      elapsed).requestObservations.map (·.latencyMicros.toNat) =
        (List.range args.requests.toNat).map fun request => latencyNanos runs request ⌈/⌉ 1000 := by
    rw [requestObservations_eq, List.map_map]
    exact List.map_congr_left fun request hrequest =>
      (h.toNat_observation (List.mem_range.mp hrequest)).1
  have httfts : (emittedRecord args phase repetitionIndex runs
      elapsed).requestObservations.map (·.timeToFirstTokenMicros.toNat) =
        (List.range args.requests.toNat).map fun request => ttftNanos runs request ⌈/⌉ 1000 := by
    rw [requestObservations_eq, List.map_map]
    exact List.map_congr_left fun request hrequest =>
      (h.toNat_observation (List.mem_range.mp hrequest)).2
  have hlatencyPos : ∀ request < args.requests.toNat, 0 < latencyNanos runs request :=
    fun request hrequest => (h.ttftNanos_pos hrequest).trans_le (h.ttftNanos_le hrequest)
  constructor
  · rw [hlatencies, hlatency]
    exact isReportedMean_of_range hlatencyPos
  · rw [httfts, httft]
    exact isReportedMean_of_range fun request hrequest => h.ttftNanos_pos hrequest

/-- The adapter's conditions hold at the record's place. -/
theorem GoodRuns.isAdapterRecord (h : GoodRuns args.requests.toNat runs)
    (hrequests : 0 < args.requests.toNat) {position : Nat}
    (hplace : (phase, repetitionIndex) = adapterPlace args.warmupRuns position) :
    Benchplane.isAdapterRecord Schema.llamaCppGeneratorVersion args.requests args.warmupRuns
      (emittedRecord args phase repetitionIndex runs elapsed) position = true := by
  obtain ⟨hlatency, httft⟩ := @toNat_aggregates _ args phase repetitionIndex elapsed h hrequests
  obtain ⟨hpos, hle⟩ := h.sum_ttftNanos hrequests
  have hdivisor : 0 < 1000 * args.requests.toNat := by omega
  have httftPos := ceilDiv_pos hdivisor hpos
  -- rounding up keeps the order of the two sums
  have horder := (gc_mul_ceilDiv hdivisor).monotone_l hle
  rw [← httft] at httftPos
  rw [← httft, ← hlatency] at horder
  rw [Benchplane.isAdapterRecord, ← hplace]
  simp only [Bool.and_eq_true, decide_eq_true_eq]
  have hne : ∀ value : UInt64, 0 < value.toNat → value ≠ 0 := by
    rintro value hvalue rfl
    exact absurd hvalue (lt_irrefl 0)
  refine ⟨⟨⟨⟨⟨⟨⟨⟨⟨⟨rfl, rfl⟩, rfl⟩, rfl⟩, rfl⟩, ?_⟩, ?_⟩, ?_⟩, ?_⟩, rfl⟩, rfl⟩
  · exact hne _ (httftPos.trans_le horder)
  · exact hne _ httftPos
  · rw [UInt64.le_iff_toNat_le]
    exact horder
  · apply hne
    show 0 < (max 1 (_ : UInt64)).toNat
    rw [UInt64.toNat_max]
    exact lt_of_lt_of_le Nat.zero_lt_one (le_max_left _ _)

/-! ## Against the adapter and the verifier -/

/-- The products of the helper, none of which wraps. -/
structure ProductsFit (args : Args) : Prop where
  records : ((args.warmupRuns + args.repetitions).toUInt64 * args.requests.toUInt64).toNat =
    (args.warmupRuns.toNat + args.repetitions.toNat) * args.requests.toNat
  work : ((args.warmupRuns + args.repetitions).toUInt64 * args.requests.toUInt64 *
      (maxPromptTokens + args.outputTokens).toUInt64).toNat =
    (args.warmupRuns.toNat + args.repetitions.toNat) * args.requests.toNat *
      (96 + args.outputTokens.toNat)
  divisor : (args.requests.toUInt64 * 1000).toNat = args.requests.toNat * 1000
  throughput : (args.requests.toUInt64 * 1000 * 1000000000).toNat =
    args.requests.toNat * 1000 * 1000000000

theorem productsFit_of_bounds (h : LlamaCppBounds args.requests.toNat args.warmupRuns.toNat
    args.repetitions.toNat args.outputTokens.toNat) : ProductsFit args := by
  have hrecordsLe := h.records_le
  have hobservations := h.observations_le
  have hrepetitions := h.repetitions_pos
  have htokensLe := h.tokens_le
  have hwork := h.work_le
  -- at most 84 requests in all, so every product is far below its type's bound
  have hrequests : args.requests.toNat ≤ 84 :=
    (Nat.le_mul_of_pos_left _ (by omega)).trans hobservations
  have hrecords : (args.warmupRuns + args.repetitions).toNat =
      args.warmupRuns.toNat + args.repetitions.toNat := by
    rw [UInt32.toNat_add]
    exact Nat.mod_eq_of_lt (by omega)
  have htokens : (maxPromptTokens + args.outputTokens).toNat = 96 + args.outputTokens.toNat := by
    rw [UInt32.toNat_add]
    exact Nat.mod_eq_of_lt (show 96 + args.outputTokens.toNat < 2 ^ 32 by omega)
  have hfirst : ((args.warmupRuns + args.repetitions).toUInt64 * args.requests.toUInt64).toNat =
      (args.warmupRuns.toNat + args.repetitions.toNat) * args.requests.toNat := by
    rw [UInt64.toNat_mul, UInt32.toNat_toUInt64, UInt32.toNat_toUInt64, hrecords]
    exact Nat.mod_eq_of_lt (by omega)
  have hdivisor : (args.requests.toUInt64 * 1000).toNat = args.requests.toNat * 1000 := by
    rw [toNat_divisor, Nat.mul_comm]
  refine ⟨hfirst, ?_, hdivisor, ?_⟩
  · rw [UInt64.toNat_mul, hfirst, UInt32.toNat_toUInt64, htokens]
    exact Nat.mod_eq_of_lt (by omega)
  · rw [UInt64.toNat_mul, hdivisor]
    exact Nat.mod_eq_of_lt (show args.requests.toNat * 1000 * 1000000000 < 2 ^ 64 by omega)

/-- Whatever the durations of the requests and of the repetition are, the record that
the helper prints for a repetition passes the adapter and the verifier. -/
theorem emitRepetition_verified (plan : ResolvedExperiment) (model : String)
    (outputTokens : UInt32) (args : Args) (position : Nat) (phase : MeasurementPhase)
    (repetitionIndex : UInt32) (runs : Nat → RequestRun) (repetitionElapsed : Int)
    (priorGenerator : Option String)
    (hruntime : plan.experiment.spec.runtime = .llamaCpp .cpu model outputTokens)
    (hargs : args = (llamaCppConfig plan .cpu outputTokens).helperArgs)
    (haccepted : validateArgs args = true)
    (hplace : (repetitionsOf args.warmupRuns args.repetitions)[position]? =
      some (phase, repetitionIndex))
    (hruns : GoodRuns args.requests.toNat runs)
    (hprior : priorGenerator.all (· = Schema.llamaCppGeneratorVersion) = true) :
    ∃ record : MeasurementRecord,
      emitRepetition args (phaseText phase) repetitionIndex runs repetitionElapsed =
        some (record.toJson.compact ++ "\n") ∧
      LlamaCpp.validateRecord (llamaCppConfig plan .cpu outputTokens) record position = .ok () ∧
      validateMeasurementRecord record position plan.experiment.spec.measurement.warmupRuns plan
        priorGenerator = .ok () ∧
      validateLlamaV2AggregateConsistency record = .ok () ∧ ProductsFit args := by
  subst hargs
  have hbounds := validateArgs_iff.mp haccepted
  set args := (llamaCppConfig plan .cpu outputTokens).helperArgs
  have hrequests : 0 < args.requests.toNat := hbounds.requests_pos
  have hrecords := hbounds.records_le
  obtain ⟨hposition, hadapterPlace⟩ := getElem?_repetitionsOf hplace
  set record := emittedRecord args phase repetitionIndex runs repetitionElapsed with hrecord
  have hadapter : Benchplane.isAdapterRecord Schema.llamaCppGeneratorVersion
      plan.experiment.spec.workload.requests plan.experiment.spec.measurement.warmupRuns record
      position = true :=
    hruns.isAdapterRecord hrequests hadapterPlace
  have hcount : record.requestObservations.length =
      plan.experiment.spec.workload.requests.toNat := by
    rw [hrecord, requestObservations_eq, List.length_map, List.length_range]
    rfl
  have hobservations : (record.requestObservations.zipIdx.all fun entry =>
      Benchplane.isObservationAt entry.2 entry.1) = true := hruns.isObservationAt
  have hobservationsNe : record.requestObservations ≠ [] := by
    apply List.ne_nil_of_length_pos
    rw [hcount]
    exact hrequests
  have hrequestsLt := plan.experiment.spec.workload.requests.toNat_lt
  -- the means are taken over the run that the observations report
  have haggregates : validateLlamaV2AggregateConsistency record = .ok () :=
    (validateLlamaV2AggregateConsistency_eq_ok hobservationsNe (by omega) hobservations).mpr
      (hruns.aggregatesMatch hrequests)
  refine ⟨record, hruns.emitRepetition_eq hrequests, ?_, ?_, haggregates,
    productsFit_of_bounds hbounds⟩
  · exact LlamaCpp.validateRecord_eq_ok.mpr ⟨hadapter, hcount, hobservations⟩
  · obtain ⟨hgenerator, hmatches⟩ :=
      matchesExecution_of_isAdapterRecord (by omega) hprior hadapter
    have hversion : Schema.llamaCppGeneratorVersion ≠ Schema.llamaCppGeneratorVersionV1 := by
      decide
    simp [validateMeasurementRecord, validateLlamaCppRecord, hmatches, hruntime, hgenerator,
      hversion, hcount, hobservations, haggregates, rejectIf, bind, Except.bind]

/-- The second of two repetitions, with two requests whose times are no whole microseconds. -/
theorem emitRepetition_verified_repeated :
    ∃ record : MeasurementRecord,
      emitRepetition ⟨2, 1, 2, 16⟩ (phaseText .measured) 2
          (fun request => if request = 0 then ⟨true, 19500, 7001⟩ else ⟨true, 10001, 2999⟩) 31003 =
        some (record.toJson.compact ++ "\n") ∧
      LlamaCpp.validateRecord (llamaCppConfig (.repeated
        (.llamaCpp .cpu Schema.llamaCppModelIdentity 16) Schema.llamaCppWorkloadProfile)
          .cpu 16) record 2 = .ok () ∧
      validateMeasurementRecord record 2 1 (.repeated
        (.llamaCpp .cpu Schema.llamaCppModelIdentity 16) Schema.llamaCppWorkloadProfile)
          (some Schema.llamaCppGeneratorVersion) = .ok () ∧
      validateLlamaV2AggregateConsistency record = .ok () ∧ ProductsFit ⟨2, 1, 2, 16⟩ := by
  refine emitRepetition_verified
    (.repeated (.llamaCpp .cpu Schema.llamaCppModelIdentity 16) Schema.llamaCppWorkloadProfile)
    Schema.llamaCppModelIdentity 16 ⟨2, 1, 2, 16⟩ 2 .measured 2
    (fun request => if request = 0 then ⟨true, 19500, 7001⟩ else ⟨true, 10001, 2999⟩) 31003
    (some Schema.llamaCppGeneratorVersion) rfl rfl (by decide) rfl ⟨?_, ?_, ?_, ?_⟩ rfl
  · intro request _
    split <;> rfl
  · intro request _
    split <;> decide
  · intro request _
    split <;> decide
  · decide

end LlamaCppHelper

end Benchplane
