import Benchplane.Run.Account
import Benchplane.Run.CapturedProvenance

/-!
# The sizes of a run's records

Every record that a run writes about itself is below the limit that the verifier has for
it, as long as its times and the texts of its failure are short.
-/

namespace Benchplane

open Library

/-! ## Values -/

/-- A time as short as the clock writes it. -/
def IsShortTime (time : String) : Prop := Json.quoteSize time ≤ 64

/-- A failure whose texts are short. -/
def FailureRecord.IsShort (failure : FailureRecord) : Prop :=
  Json.quoteSize failure.phase ≤ 64 ∧ Json.quoteSize failure.code ≤ 64 ∧
    Json.quoteSize failure.message ≤ 120000

theorem prettySize_u64_le (count : UInt64) (depth : Nat) :
    (Json.u64 count).prettySize depth ≤ 20 := by
  have hlt := count.toNat_lt
  show count.toNat.repr.utf8ByteSize ≤ 20
  rw [utf8ByteSize_repr]
  exact (Nat.length_repr_le_iff (by decide)).mpr (by omega)

theorem prettySize_runState_le (state : RunState) (depth : Nat) :
    state.toJson.prettySize depth ≤ 13 := by
  cases state <;> exact Nat.le_of_ble_eq_true rfl

theorem prettySize_attemptStatus_le (status : AttemptStatus) (depth : Nat) :
    status.toJson.prettySize depth ≤ 13 := by
  cases status <;> exact Nat.le_of_ble_eq_true rfl

theorem prettySize_validityStatus_le (status : ValidityStatus) (depth : Nat) :
    status.toJson.prettySize depth ≤ 15 := by
  cases status <;> exact Nat.le_of_ble_eq_true rfl

theorem prettySize_bool_le (value : Bool) (depth : Nat) :
    (Json.bool value).prettySize depth ≤ 5 := by
  cases value <;> exact Nat.le_of_ble_eq_true rfl

/-- The time of completion, where there is one. -/
theorem prettySize_completedAt_le {time : String} (h : IsShortTime time) (ended : Bool)
    (depth : Nat) :
    (Json.option .string (if ended then some time else none)).prettySize depth ≤ 64 := by
  cases ended with
  | true => exact h
  | false => exact (by decide : 4 ≤ 64)

theorem prettySize_failure_le {failure : FailureRecord} (h : failure.IsShort) :
    failure.toJson.prettySize 1 ≤ 121000 := by
  obtain ⟨hphase, hcode, hmessage⟩ := h
  have hretryable := prettySize_bool_le failure.retryable 2
  have hattempt := prettySize_u32_le failure.attemptNumber 2
  refine le_trans (@Json.prettySize_record_le _ 1 15 ?_) ?_
  · simp only [List.map_cons, List.map_nil]
    decide
  simp only [List.length_cons, List.length_nil, List.map_cons, List.map_nil, List.sum_cons,
    List.sum_nil, Json.prettySize_string, Nat.reduceAdd]
  omega

theorem prettySize_optionalFailure_le {failure : Option FailureRecord}
    (h : ∀ record ∈ failure, record.IsShort) :
    (Json.option FailureRecord.toJson failure).prettySize 1 ≤ 121000 := by
  cases failure with
  | none => exact (by decide : 4 ≤ 121000)
  | some record => exact prettySize_failure_le (h record rfl)

/-- A run ID is as short as its form. -/
theorem quoteSize_runId_le (layout : Layout) : Json.quoteSize layout.runId.text ≤ 242 :=
  quoteSize_of_isRunId layout.runId.canonical

/-! ## Records -/

theorem length_jsonBytes_le {value : Json} {bound : Nat} (h : value.prettySize 0 < bound) :
    (jsonBytes value).length ≤ bound := by
  have hnewline : ("\n" : String).utf8ByteSize = 1 := by decide
  rw [jsonBytes, length_utf8, String.utf8ByteSize_append, Json.utf8ByteSize_pretty, hnewline]
  omega

section

variable {layout : Layout} {plan : ResolvedExperiment}

/-- The digests of a plan are digests. -/
def ResolvedExperiment.HasDigests (plan : ResolvedExperiment) : Prop :=
  Json.quoteSize plan.experimentDigest = 73 ∧ Json.quoteSize plan.resolvedPlanDigest = 73

theorem hasDigests_of_resolved {codec : Codec} {e : Experiment}
    (h : resolveExperiment codec e = .ok plan) : plan.HasDigests := by
  simp only [resolveExperiment, bind_eq_ok_iff, mapFailure_eq_ok, pure_eq_ok_iff] at h
  obtain ⟨⟨⟩, -, rfl⟩ := h
  exact ⟨Json.quoteSize_digest _, Json.quoteSize_digest _⟩

theorem length_runRecordOf_le (hdigests : plan.HasDigests) {first last : LifecycleEvent}
    (hfirst : IsShortTime first.recordedAt) (hlast : IsShortTime last.recordedAt)
    (hfailure : ∀ failure ∈ last.failure, failure.IsShort) :
    (jsonBytes (runRecordOf layout plan first last).toJson).length ≤ maxIdentityRecordBytes := by
  apply length_jsonBytes_le
  obtain ⟨hexperiment, hresolved⟩ := hdigests
  have hid := quoteSize_runId_le layout
  have hstatus := prettySize_runState_le last.toState 1
  have hcompleted := prettySize_completedAt_le hlast last.toState.isTerminal 1
  unfold IsShortTime at hfirst hlast
  have hcount := prettySize_u32_le 1 1
  have hnone := prettySize_optionalFailure_le hfailure
  have hlimit : maxIdentityRecordBytes = 1048576 := rfl
  refine lt_of_le_of_lt (@Json.prettySize_record_le _ 0 20 ?_) ?_
  · simp only [List.map_cons, List.map_nil]
    decide
  simp only [runRecordOf, List.length_cons, List.length_nil, List.map_cons, List.map_nil,
    List.sum_cons, List.sum_nil, Json.prettySize_string, Nat.zero_add]
  omega

theorem length_attemptRecordOf_le {startedAt updatedAt : String} {status : AttemptStatus}
    {failure : Option FailureRecord} (hstarted : IsShortTime startedAt)
    (hupdated : IsShortTime updatedAt) (hfailure : ∀ record ∈ failure, record.IsShort) :
    (jsonBytes (attemptRecordOf layout startedAt updatedAt status failure).toJson).length ≤
      maxIdentityRecordBytes := by
  apply length_jsonBytes_le
  have hid := quoteSize_runId_le layout
  have hstatus := prettySize_attemptStatus_le status 1
  have hcompleted := prettySize_completedAt_le hupdated status.isTerminal 1
  unfold IsShortTime at hstarted hupdated
  have hnumber := prettySize_u32_le 1 1
  have hnone := prettySize_optionalFailure_le hfailure
  have hlimit : maxIdentityRecordBytes = 1048576 := rfl
  refine lt_of_le_of_lt (@Json.prettySize_record_le _ 0 20 ?_) ?_
  · simp only [List.map_cons, List.map_nil]
    decide
  simp only [attemptRecordOf, List.length_cons, List.length_nil, List.map_cons, List.map_nil,
    List.sum_cons, List.sum_nil, Json.prettySize_string, Nat.zero_add]
  omega

theorem length_attemptResources_le (resources : ProcessResources) :
    (jsonBytes (attemptResources layout.runId.text resources).toJson).length ≤
      maxAttemptResourcesBytes := by
  apply length_jsonBytes_le
  have hid := quoteSize_runId_le layout
  have hformat : Json.quoteSize Schema.attemptResourcesFormatV1 ≤ 64 :=
    Nat.le_of_ble_eq_true rfl
  have hnumber := prettySize_u32_le 1 1
  have hscope : ResourceScope.helperProcessLifetime.toJson.prettySize 1 ≤ 64 :=
    Nat.le_of_ble_eq_true rfl
  have hcpu := prettySize_u64_le resources.cpuTimeMicros 1
  have hpeak := prettySize_u64_le resources.peakRssBytes 1
  have hlimit : maxAttemptResourcesBytes = 4096 := rfl
  refine lt_of_le_of_lt (@Json.prettySize_record_le _ 0 20 ?_) ?_
  · simp only [List.map_cons, List.map_nil]
    decide
  simp only [attemptResources, List.length_cons, List.length_nil, List.map_cons, List.map_nil,
    List.sum_cons, List.sum_nil, Json.prettySize_string, Nat.zero_add]
  omega

theorem length_manifest_le (hdigests : plan.HasDigests) (status : RunState)
    (validity : ValidityStatus) :
    (jsonBytes (evidenceManifest plan layout.runId.text status validity).toJson).length ≤
      maxManifestBytes := by
  apply length_jsonBytes_le
  obtain ⟨hexperiment, hresolved⟩ := hdigests
  have hid := quoteSize_runId_le layout
  have hformat : Json.quoteSize Schema.evidenceFormatV1 ≤ 64 := Nat.le_of_ble_eq_true rfl
  have hstatus := prettySize_runState_le status 1
  have hvalidity := prettySize_validityStatus_le validity 1
  have hcount := prettySize_u32_le 1 1
  have hlimit : maxManifestBytes = 65536 := rfl
  refine lt_of_le_of_lt (@Json.prettySize_record_le _ 0 20 ?_) ?_
  · simp only [List.map_cons, List.map_nil]
    decide
  simp only [evidenceManifest, List.length_cons, List.length_nil, List.map_cons, List.map_nil,
    List.sum_cons, List.sum_nil, Json.prettySize_string, Nat.zero_add]
  omega

/-- The message for missing samples has two numbers in it. -/
theorem quoteSize_insufficientSamples_le (required observed : UInt32) :
    Json.quoteSize ("required " ++ required.toNat.repr ++ " measured samples but observed " ++
      observed.toNat.repr) ≤ 400 := by
  have hdigits : ∀ count : UInt32, count.toNat.repr.toList.length ≤ 10 := by
    intro count
    have hlt := count.toNat_lt
    rw [String.length_toList]
    exact (Nat.length_repr_le_iff (by decide)).mpr (by omega)
  have hrequired := hdigits required
  have hobserved := hdigits observed
  have hfirst : ("required " : String).toList.length = 9 := by decide
  have hsecond : (" measured samples but observed " : String).toList.length = 31 := by decide
  refine (Json.quoteSize_le _).trans ?_
  simp only [String.toList_append, List.length_append, hfirst, hsecond]
  omega

/-- A validity result has at most one reason, with a short text. -/
theorem prettySize_reasons_le {execution : ExecutionOutput} {validity : ValidityResult}
    (h : evaluateValidity plan execution layout.runId.text = some validity) :
    validity.runId = layout.runId.text ∧
      (Json.list (validity.reasons.map ValidityReason.toJson)).prettySize 1 ≤ 1000 := by
  have hreason : ∀ reason : ValidityReason, Json.quoteSize reason.code ≤ 64 →
      Json.quoteSize reason.message ≤ 400 → reason.toJson.prettySize 2 ≤ 600 := by
    intro reason hcode hmessage
    refine le_trans (@Json.prettySize_record_le _ 2 9 ?_) ?_
    · simp only [List.map_cons, List.map_nil]
      decide
    · simp only [List.length_cons, List.length_nil, List.map_cons, List.map_nil, List.sum_cons,
        List.sum_nil, Json.prettySize_string, Nat.reduceAdd]
      omega
  have hone : ∀ reason : ValidityReason, Json.quoteSize reason.code ≤ 64 →
      Json.quoteSize reason.message ≤ 400 →
      (Json.list ([reason].map ValidityReason.toJson)).prettySize 1 ≤ 1000 := by
    intro reason hcode hmessage
    have hitem := hreason reason hcode hmessage
    refine (@Json.prettySize_list_le _ 1 600 ?_).trans (by simp)
    simpa using hitem
  -- there is at most one reason, and its texts are fixed but for the number of samples
  unfold evaluateValidity at h
  cases hstate : execution.terminalState <;> simp only [hstate] at h
  case succeeded =>
    split at h
    · obtain rfl := Option.some.inj h
      exact ⟨rfl, (by decide : 2 ≤ 1000)⟩
    · obtain rfl := Option.some.inj h
      exact ⟨rfl, hone _ (by decide : Json.quoteSize "insufficientSamples" ≤ 64)
        (quoteSize_insufficientSamples_le _ _)⟩
  case failed =>
    obtain rfl := Option.some.inj h
    exact ⟨rfl, hone _ (Nat.le_of_ble_eq_true rfl) (Nat.le_of_ble_eq_true rfl)⟩
  case interrupted =>
    obtain rfl := Option.some.inj h
    exact ⟨rfl, hone _ (Nat.le_of_ble_eq_true rfl) (Nat.le_of_ble_eq_true rfl)⟩
  all_goals contradiction

theorem length_validity_le {execution : ExecutionOutput} {validity : ValidityResult}
    (h : evaluateValidity plan execution layout.runId.text = some validity) :
    (jsonBytes validity.toJson).length ≤ maxIdentityRecordBytes := by
  apply length_jsonBytes_le
  obtain ⟨hrunId, hreasons⟩ := prettySize_reasons_le h
  have hid := quoteSize_runId_le layout
  have hstatus := prettySize_validityStatus_le validity.status 1
  have hrequired := prettySize_u32_le validity.requiredSamples 1
  have hobserved := prettySize_u32_le validity.observedSamples 1
  have hlimit : maxIdentityRecordBytes = 1048576 := rfl
  refine lt_of_le_of_lt (@Json.prettySize_record_le _ 0 20 ?_) ?_
  · simp only [List.map_cons, List.map_nil]
    decide
  · simp only [List.length_cons, List.length_nil, List.map_cons, List.map_nil, List.sum_cons,
      List.sum_nil, Json.prettySize_string, Nat.zero_add, hrunId]
    omega

theorem length_summary_le (hdigests : plan.HasDigests) (execution : ExecutionOutput)
    (validity : ValidityResult) :
    (jsonBytes (summarize plan execution validity layout.runId.text).toJson).length ≤
      maxIdentityRecordBytes := by
  apply length_jsonBytes_le
  obtain ⟨hexperiment, hresolved⟩ := hdigests
  have hid := quoteSize_runId_le layout
  have hstatus := prettySize_runState_le execution.terminalState 1
  have hvalidity := prettySize_validityStatus_le validity.status 1
  have hcount := fun count => prettySize_u32_le count 1
  have hattempts := hcount 1
  have hsamples := hcount (UInt32.ofNat (measuredRecords execution.measurements).length)
  -- the summary has numbers and fixed texts only, apart from the digests
  have hlatency : ∀ latency, (Json.option LatencySummary.toJson latency).prettySize 1 ≤ 200 := by
    intro latency
    cases latency with
    | none => exact (by decide : 4 ≤ 200)
    | some latency =>
        have hmean := prettySize_u64_le latency.meanMicros 2
        have hmedian := prettySize_u64_le latency.p50Micros 2
        have htail := prettySize_u64_le latency.p95Micros 2
        refine le_trans (@Json.prettySize_record_le _ 1 12 ?_) ?_
        · simp only [List.map_cons, List.map_nil]
          decide
        · simp only [List.length_cons, List.length_nil, List.map_cons, List.map_nil,
            List.sum_cons, List.sum_nil, Nat.reduceAdd]
          omega
  have hthroughput : ∀ mean, (Json.option .u64 mean).prettySize 1 ≤ 20 := by
    intro mean
    cases mean with
    | none => exact (by decide : 4 ≤ 20)
    | some mean => exact prettySize_u64_le mean 1
  have hlimit : maxIdentityRecordBytes = 1048576 := rfl
  refine lt_of_le_of_lt (@Json.prettySize_record_le _ 0 40 ?_) ?_
  · simp only [List.map_cons, List.map_nil]
    decide
  · have hlatency := hlatency (summarize plan execution validity layout.runId.text).latency
    have hthroughput := hthroughput
      (summarize plan execution validity layout.runId.text).meanThroughputMilliRequestsPerSecond
    simp only [summarize, List.length_cons, List.length_nil, List.map_cons, List.map_nil,
      List.sum_cons, List.sum_nil, Json.prettySize_string, Nat.zero_add] at hlatency hthroughput ⊢
    omega

/-! ## The journal -/

theorem sizeWith_failure_le {failure : FailureRecord} (h : failure.IsShort) :
    failure.toJson.sizeWith Json.quoteSize ≤ 121000 := by
  obtain ⟨hphase, hcode, hmessage⟩ := h
  have hkeys : Json.quoteSize "phase" = 7 ∧ Json.quoteSize "code" = 6 ∧
      Json.quoteSize "message" = 9 ∧ Json.quoteSize "retryable" = 11 ∧
      Json.quoteSize "attemptNumber" = 15 := by
    and_intros <;> rfl
  have hretryable : (Json.bool failure.retryable).sizeWith Json.quoteSize ≤ 5 := by
    cases failure.retryable <;> exact Nat.le_of_ble_eq_true rfl
  have hattempt := Json.sizeWith_u32_le Json.quoteSize failure.attemptNumber
  have hstring : ∀ text, (Json.string text).sizeWith Json.quoteSize = Json.quoteSize text :=
    fun _ => rfl
  refine (Json.sizeWith_record_le _ _).trans ?_
  simp only [List.map_cons, List.map_nil, List.sum_cons, List.sum_nil, hstring, hkeys]
  omega

/-- A line of the journal. -/
theorem length_eventLine_le {event : LifecycleEvent} (hid : Json.quoteSize event.runId ≤ 242)
    (htime : IsShortTime event.recordedAt) (hfailure : ∀ failure ∈ event.failure, failure.IsShort) :
    (jsonLine event.toJson).length ≤ 122000 := by
  have hkeys : Json.quoteSize "runId" = 7 ∧ Json.quoteSize "sequence" = 10 ∧
      Json.quoteSize "recordedAt" = 12 ∧ Json.quoteSize "fromState" = 11 ∧
      Json.quoteSize "toState" = 9 ∧ Json.quoteSize "attemptNumber" = 15 ∧
      Json.quoteSize "failure" = 9 := by
    and_intros <;> rfl
  have hstring : ∀ text, (Json.string text).sizeWith Json.quoteSize = Json.quoteSize text :=
    fun _ => rfl
  have hstate : ∀ state : RunState, state.toJson.sizeWith Json.quoteSize ≤ 13 := by
    intro state
    cases state <;> exact Nat.le_of_ble_eq_true rfl
  have hfrom : (Json.option RunState.toJson event.fromState).sizeWith Json.quoteSize ≤ 13 := by
    cases event.fromState with
    | none => exact (by decide : 4 ≤ 13)
    | some state => exact hstate state
  have hto := hstate event.toState
  have hsequence := Json.sizeWith_u64_le Json.quoteSize event.sequence
  have hattempt := Json.sizeWith_u32_le Json.quoteSize event.attemptNumber
  -- the failure is the only part that is not small
  have hnone : (Json.option FailureRecord.toJson event.failure).sizeWith Json.quoteSize ≤
      121000 := by
    cases hevent : event.failure with
    | none => exact (by decide : 4 ≤ 121000)
    | some failure => exact sizeWith_failure_le (hfailure failure hevent)
  have hsize : event.toJson.compact.utf8ByteSize ≤ 121900 := by
    refine (Json.utf8ByteSize_compact_le Json.boundsQuotes_quoteSize _).trans ?_
    refine (Json.sizeWith_record_le _ _).trans ?_
    unfold IsShortTime at htime
    simp only [List.map_cons, List.map_nil, List.sum_cons, List.sum_nil, hstring, hkeys]
    omega
  have hnewline : (utf8 "\n").length = 1 := by decide
  rw [jsonLine, toVec, List.length_append, length_utf8, hnewline]
  omega

/-- A journal has at most six lines. -/
theorem length_journalBytes_le {events : List LifecycleEvent} (hjournal : IsJournal events)
    (hline : ∀ event ∈ events, (jsonLine event.toJson).length ≤ 122000) :
    (journalBytes events).length ≤ maxIdentityRecordBytes := by
  have hcount := hjournal.length_le
  have hsum : (events.map fun event => (jsonLine event.toJson).length).sum ≤
      events.length * 122000 := by
    have hall := List.sum_le_card_nsmul
      (events.map fun event => (jsonLine event.toJson).length) 122000 (by simpa using hline)
    simpa using hall
  have hlimit : maxIdentityRecordBytes = 1048576 := rfl
  rw [journalBytes, List.length_flatMap]
  omega

end

end Benchplane
