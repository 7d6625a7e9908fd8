import Benchplane.Evidence.VerifierSoundness
import Benchplane.Library.JsonSize

/-!
# Record files

A file of JSON lines is cut into the records it was written from, and a
measurement file whose records are valid at their places is accepted.
-/

namespace Benchplane

open Library

/-! ## Lines of JSON -/

/-- A JSON line ends with its only newline. -/
theorem jsonLine_eq {value : Json} (h : value.PlainNumbers) :
    jsonLine value = toVec value ++ [10] ∧ 10 ∉ toVec value :=
  ⟨rfl, fun hmem => value.newline_notMem_compact h (newline_mem_utf8.mp hmem)⟩

theorem length_jsonLine (value : Json) :
    (jsonLine value).length = value.compact.utf8ByteSize + 1 :=
  List.length_append

/-- The text of an object ends with its brace. -/
theorem getLast?_toVec_record (fields : List (String × Json)) :
    (toVec (.record fields)).getLast? = some 0x7d := by
  simp only [toVec, Json.record, Json.compact, utf8_append]
  rw [List.getLast?_append_of_ne_nil _ (by decide)]
  decide

theorem LifecycleEvent.plainNumbers_toJson (event : LifecycleEvent) :
    event.toJson.PlainNumbers := by
  have hstate : ∀ state : RunState, state.toJson.PlainNumbers := fun state => trivial
  have hfailure : ∀ failure : FailureRecord, failure.toJson.PlainNumbers := fun failure => by
    simp [FailureRecord.toJson, Json.plainNumbers_record]
  simp [LifecycleEvent.toJson, Json.plainNumbers_record, Json.plainNumbers_option hstate,
    Json.plainNumbers_option hfailure, hstate]

theorem MeasurementRecord.plainNumbers_toJson (record : MeasurementRecord) :
    record.toJson.PlainNumbers := by
  have hphase : record.phase.toJson.PlainNumbers := by cases record.phase <;> trivial
  have hobservation : ∀ observation : RequestObservation, observation.toJson.PlainNumbers :=
    fun observation => by simp [RequestObservation.toJson, Json.plainNumbers_record]
  rw [MeasurementRecord.toJson, Json.plainNumbers_record]
  split
  · simp [hphase]
  · simp [hphase, Json.plainNumbers_list, hobservation]

/-! ## Events -/

/-- Cutting at newlines gives the terminated lines and an empty rest. -/
theorem splitOn_flatMap {α : Type} (line : α → Bytes) (items : List α)
    (h : ∀ item ∈ items, 10 ∉ line item) :
    (items.flatMap fun item => line item ++ [10]).splitOn 10 = items.map line ++ [[]] := by
  induction items with
  | nil => rfl
  | cons item rest ih =>
      have hhead := h item (by simp)
      have htail := ih fun other hother => h other (List.mem_cons_of_mem _ hother)
      simp only [List.flatMap_cons, List.append_assoc, List.cons_append, List.nil_append,
        List.map_cons]
      rw [List.splitOn_append_cons_self, List.splitOn_eq_singleton hhead, htail,
        List.singleton_append]

/-- The lines that are looked at are the written ones. -/
theorem eventLines_flatMap (events : List LifecycleEvent) :
    eventLines (events.flatMap fun event => jsonLine event.toJson) =
      events.map fun event => toVec event.toJson := by
  have hcut := splitOn_flatMap (fun event : LifecycleEvent => toVec event.toJson) events
    fun event _ => (jsonLine_eq event.plainNumbers_toJson).2
  have hline : ∀ event : LifecycleEvent, toVec event.toJson ≠ [] := by
    intro event hnil
    have hlast : (toVec event.toJson).getLast? = some 0x7d := getLast?_toVec_record _
    simp [hnil] at hlast
  show ((events.flatMap fun event => toVec event.toJson ++ [10]).splitOn 10).filter _ = _
  rw [hcut, List.filter_append, List.filter_eq_self.mpr (by simp [hline])]
  simp

/-! ## Measurements -/

/-- The measurement file of a list of records. -/
def measurementLines (records : List MeasurementRecord) : Bytes :=
  records.flatMap fun record => jsonLine record.toJson

theorem splitInclusive_measurementLines (records : List MeasurementRecord) :
    splitInclusive 10 (measurementLines records) =
      records.map fun record => jsonLine record.toJson :=
  splitInclusive_flatMap (fun record : MeasurementRecord => toVec record.toJson) records
    fun record _ => (jsonLine_eq record.plainNumbers_toJson).2

/-- The text of a record is fixed but for its numbers and its observations. -/
theorem length_jsonLine_measurement_le (record : MeasurementRecord) :
    (jsonLine record.toJson).length ≤ 315 + Json.quoteSize record.generator +
      if record.requestObservations = [] then 0
      else 26 + 114 * record.requestObservations.length := by
  have hphase : record.phase.toJson.sizeWith Json.quoteSize ≤ 10 := by
    cases record.phase <;> exact Nat.le_of_ble_eq_true rfl
  have hu32 := Json.sizeWith_u32_le Json.quoteSize
  have hu64 := Json.sizeWith_u64_le Json.quoteSize
  have hobservation : ∀ observation ∈ record.requestObservations.map RequestObservation.toJson,
      observation.sizeWith Json.quoteSize ≤ 113 := by
    intro value hvalue
    obtain ⟨observation, -, rfl⟩ := List.mem_map.mp hvalue
    have hkeys : Json.quoteSize "requestIndex" = 14 ∧ Json.quoteSize "latencyMicros" = 15 ∧
        Json.quoteSize "timeToFirstTokenMicros" = 24 := by
      and_intros <;> rfl
    have hindex := hu32 observation.requestIndex
    have hlatency := hu64 observation.latencyMicros
    have httft := hu64 observation.timeToFirstTokenMicros
    refine le_trans (Json.sizeWith_record_le Json.quoteSize _) ?_
    simp only [List.map_cons, List.map_nil, List.sum_cons, List.sum_nil, hkeys]
    omega
  have hkeys : Json.quoteSize "generator" = 11 ∧ Json.quoteSize "attemptNumber" = 15 ∧
      Json.quoteSize "phase" = 7 ∧ Json.quoteSize "repetitionIndex" = 17 ∧
      Json.quoteSize "sampleIndex" = 13 ∧ Json.quoteSize "latencyMicros" = 15 ∧
      Json.quoteSize "timeToFirstTokenMicros" = 24 ∧
      Json.quoteSize "throughputMilliRequestsPerSecond" = 34 ∧
      Json.quoteSize "successfulRequests" = 20 ∧ Json.quoteSize "failedRequests" = 16 ∧
      Json.quoteSize "requestObservations" = 21 := by
    and_intros <;> rfl
  have hattempts := hu32 record.attemptNumber
  have hindexes := hu32 record.repetitionIndex
  have hsamples := hu32 record.sampleIndex
  have hlatencies := hu64 record.latencyMicros
  have httfts := hu64 record.timeToFirstTokenMicros
  have hthroughputs := hu64 record.throughputMilliRequestsPerSecond
  have hsuccesses := hu32 record.successfulRequests
  have hfailures := hu32 record.failedRequests
  have hgenerator : (Json.string record.generator).sizeWith Json.quoteSize =
      Json.quoteSize record.generator := rfl
  have hcompact := Json.utf8ByteSize_compact_le Json.boundsQuotes_quoteSize record.toJson
  have hfields := Json.sizeWith_record_le Json.quoteSize
  rw [length_jsonLine]
  rw [MeasurementRecord.toJson] at hcompact ⊢
  -- the record is its keys and values, with observations only where there are some
  refine le_trans (Nat.add_le_add_right (le_trans hcompact (hfields _)) 1) ?_
  rw [List.map_append, List.sum_append]
  simp only [List.map_cons, List.map_nil, List.sum_cons, List.sum_nil, hkeys, hgenerator]
  split
  · simp only [List.map_nil, List.sum_nil]
    omega
  · have hlist := Json.sizeWith_list_le Json.quoteSize hobservation
    rw [List.length_map] at hlist
    simp only [List.map_cons, List.map_nil, List.sum_cons, List.sum_nil, hkeys]
    omega

/-- Lines of a bounded length make a file of a bounded length. -/
theorem length_measurementLines_le {records : List MeasurementRecord} {bound : Nat}
    (h : ∀ record ∈ records, (jsonLine record.toJson).length ≤ bound) :
    (measurementLines records).length ≤ records.length * bound := by
  induction records with
  | nil => exact Nat.zero_le _
  | cons record rest ih =>
      have hhead := h record List.mem_cons_self
      have htail := ih fun other hother => h other (List.mem_cons_of_mem _ hother)
      simp only [measurementLines, List.flatMap_cons, List.length_append, List.length_cons,
        Nat.add_mul] at htail ⊢
      omega

/-- The reader takes the terminator off again. -/
theorem recordBytes_jsonLine (record : MeasurementRecord) :
    recordBytes (jsonLine record.toJson) = toVec record.toJson := by
  have hlast : (toVec record.toJson).getLast? = some 0x7d := getLast?_toVec_record _
  have hdrop : (jsonLine record.toJson).dropLast = toVec record.toJson :=
    List.dropLast_concat
  rw [recordBytes, hdrop, hlast, if_neg (by decide)]

/-- A record is valid behind none as well as behind one of its generator. -/
theorem validateMeasurementRecord_none {record : MeasurementRecord} {position : Nat}
    {warmups : UInt32} {plan : ResolvedExperiment} {prior : Option String}
    (h : validateMeasurementRecord record position warmups plan prior = .ok ()) :
    validateMeasurementRecord record position warmups plan none = .ok () := by
  simp only [validateMeasurementRecord, bind_eq_ok_iff, rejectIf_eq_ok,
    Decidable.not_not] at h ⊢
  obtain ⟨⟨⟩, hmatches, hcontract⟩ := h
  refine ⟨(), ?_, hcontract⟩
  simp only [matchesExecution, Bool.and_eq_true] at hmatches ⊢
  exact ⟨hmatches.1, rfl⟩

/-- What a measurement file must hold for a plan and a status. -/
structure MeasurementsFit (codec : Codec) (plan : ResolvedExperiment) (status : RunState)
    (warmups measured : UInt32) (generator : String) (records : List MeasurementRecord) :
    Prop where
  counts : expectedMeasurementCounts plan status = .ok (warmups, measured)
  length : records.length = warmups.toNat + measured.toNat
  representable : records.length < 2 ^ 32
  generated : ∀ record ∈ records, record.generator = generator
  valid : ∀ position record, records[position]? = some record →
    validateMeasurementRecord record position warmups plan (some generator) = .ok ()
  decoded : ∀ record ∈ records, codec.measurement (toVec record.toJson) = .ok record
  lineBytes : ∀ record ∈ records, (jsonLine record.toJson).length ≤ maxMeasurementLineBytes
  totalBytes : (measurementLines records).length ≤ maxMeasurementsBytes

/-- The progress behind some records. -/
structure HasMeasured (generator : String) (done : List MeasurementRecord)
    (progress : MeasurementProgress) : Prop where
  totalBytes : progress.totalBytes = (measurementLines done).length
  generator : progress.generator = done.head?.map fun _ => generator
  records : progress.records = done

section

variable {codec : Codec} {plan : ResolvedExperiment} {status : RunState}
  {warmups measured : UInt32} {generator : String} {records : List MeasurementRecord}

/-- The step of the loop on the next record. -/
theorem checkMeasurementLine_of_fit
    (h : MeasurementsFit codec plan status warmups measured generator records)
    {done rest : List MeasurementRecord} {record : MeasurementRecord}
    {progress : MeasurementProgress} (hrecords : records = done ++ record :: rest)
    (hdone : HasMeasured generator done progress) :
    ∃ progress', checkMeasurementLine codec plan warmups records.length progress
        (jsonLine record.toJson) = .ok progress' ∧
      HasMeasured generator (done ++ [record]) progress' := by
  have hmem : record ∈ records := by simp [hrecords]
  have hposition : progress.position = done.length := by
    rw [MeasurementProgress.position, hdone.records]
  have htotal : progress.totalBytes + (jsonLine record.toJson).length ≤ maxMeasurementsBytes := by
    have hbound := h.totalBytes
    rw [hrecords] at hbound
    simp only [measurementLines, List.flatMap_append, List.flatMap_cons,
      List.length_append] at hbound
    rw [hdone.totalBytes, measurementLines]
    omega
  have hlast : (jsonLine record.toJson).getLast? = some 10 := List.getLast?_concat
  -- a line ends with its brace, and there are no more lines than records
  have hcontent : ¬ (recordBytes (jsonLine record.toJson) = [] ∨
      progress.position ≥ records.length) := by
    rw [recordBytes_jsonLine, hposition, hrecords, List.length_append, List.length_cons]
    rintro (hnil | hextra)
    · have hbrace : (toVec record.toJson).getLast? = some 0x7d := getLast?_toVec_record _
      simp [hnil] at hbrace
    · omega
  have hvalid : validateMeasurementRecord record progress.position warmups plan
      progress.generator = .ok () := by
    have hsome := h.valid done.length record (by simp [hrecords])
    rw [hposition, hdone.generator]
    cases done with
    | nil => exact validateMeasurementRecord_none hsome
    | cons first others => exact hsome
  refine ⟨⟨progress.totalBytes + (jsonLine record.toJson).length,
    progress.generator.or (some record.generator), progress.records ++ [record]⟩, ?_, ?_⟩
  · simp only [checkMeasurementLine, acceptRecord, bind_eq_ok_iff, rejectIf_eq_ok,
      mapFailure_eq_ok, pure_eq_ok_iff]
    refine ⟨(), not_lt.mpr htotal, (), not_lt.mpr (h.lineBytes record hmem), (),
      not_not_intro hlast, (), hcontent, record, ?_, (), hvalid, rfl⟩
    rw [recordBytes_jsonLine]
    exact h.decoded record hmem
  · constructor
    · simp [hdone.totalBytes, measurementLines]
    · show progress.generator.or (some record.generator) = _
      rw [hdone.generator, h.generated record hmem]
      cases done <;> rfl
    · show progress.records ++ [record] = _
      rw [hdone.records]

/-- A file that fits is accepted with its records. -/
theorem validateMeasurements_of_fit {root : BundleRoot} {digest : String}
    (h : MeasurementsFit codec plan status warmups measured generator records)
    (hfile : root.fileAt "attempts/0001/measurements.jsonl" = some (measurementLines records))
    (hdigest : (codec.hash (measurementLines records)).hex = digest) :
    validateMeasurements codec root digest plan status =
      .ok ⟨measured, records.head?.map fun _ => generator, records⟩ := by
  obtain ⟨names, hnames, hcontent⟩ := BundleRoot.fileAt_eq_some.mp hfile
  have htotal : checkedAdd32 warmups measured = some records.length :=
    checkedAdd32_eq_some.mpr ⟨h.length.symm, h.representable⟩
  have hstart : HasMeasured generator [] MeasurementProgress.start := ⟨rfl, rfl, rfl⟩
  obtain ⟨progress, hloop, hdone⟩ :=
    exists_foldlM (fun done record rest progress hrecords hdone =>
      checkMeasurementLine_of_fit h hrecords hdone) hstart
  simp only [validateMeasurements, bind_eq_ok_iff, checkedRegularPath_eq_ok, readFile_eq_ok,
    rejectIf_eq_ok, orReject_eq_ok, pure_eq_ok_iff, Prod.exists]
  refine ⟨names, ⟨hnames, _, hcontent⟩, _, hcontent, (), not_lt.mpr h.totalBytes, warmups,
    measured, h.counts, _, htotal, progress, ?_, (), not_not_intro hdigest, (), ?_, ?_⟩
  · rw [splitInclusive_measurementLines, List.foldlM_map]
    exact hloop
  · rw [MeasurementProgress.position, hdone.records]
    exact not_not_intro rfl
  · rw [hdone.generator, hdone.records]

end

end Benchplane
