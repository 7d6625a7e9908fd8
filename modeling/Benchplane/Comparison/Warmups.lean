import Benchplane.Comparison.Compatibility
import Benchplane.Evidence.Rehashing
import Benchplane.Runtime.LocalFake
import Benchplane.Runtime.WorkBounds

/-!
# Warm-ups do not count

Producer, verifier and comparison all pick the measured records on their own.  When the
warm-up records of a verified bundle are given other timings and observations that are
valid by themselves, the bundle is still verified with the same records, and compared
with the same result; and the producer judges and summarizes both alike.
-/

namespace Benchplane

open Library Library.Panicking

/-! ## Replaced records -/

/-- The same record with other timings and observations. -/
def MeasurementRecord.SameButTimings (record replaced : MeasurementRecord) : Prop :=
  replaced =
    { record with
      latencyMicros := replaced.latencyMicros
      timeToFirstTokenMicros := replaced.timeToFirstTokenMicros
      throughputMilliRequestsPerSecond := replaced.throughputMilliRequestsPerSecond
      requestObservations := replaced.requestObservations }

/-- What may stand in the place of a record. -/
def MeasurementRecord.IsReplacedBy (record replaced : MeasurementRecord) : Prop :=
  (record.phase = .warmup ∧ record.SameButTimings replaced) ∨ replaced = record

/-- Records in which only warm-ups are replaced, by valid ones. -/
structure ReplacesWarmups (plan : ResolvedExperiment)
    (records replaced : List MeasurementRecord) : Prop where
  records : List.Forall₂ MeasurementRecord.IsReplacedBy records replaced
  valid : ∀ (position : Nat) record, replaced[position]? = some record → record.phase = .warmup →
    validateMeasurementRecord record position plan.experiment.spec.measurement.warmupRuns plan
      none = .ok ()

/-- A measurement file that is read as these records, within the limits of the reader. -/
structure ReadsAs (codec : Codec) (content : Bytes) (records : List MeasurementRecord) :
    Prop where
  size : content.length ≤ maxMeasurementsBytes
  lineCount : (splitInclusive 10 content).length = records.length
  lines : ∀ (position : Nat) (line : Bytes), (splitInclusive 10 content)[position]? = some line →
    line.length ≤ maxMeasurementLineBytes ∧ line.getLast? = some 10 ∧ recordBytes line ≠ [] ∧
      ∃ record, records[position]? = some record ∧ codec.measurement (recordBytes line) = .ok record

/-- An accepted file is read as its records. -/
theorem AcceptsFile.readsAs {codec : Codec} {plan : ResolvedExperiment} {status : RunState}
    {warmups : UInt32} {content : Bytes} {validation : MeasurementValidation}
    (h : AcceptsFile codec plan status warmups content validation) :
    ReadsAs codec content validation.records := by
  refine ⟨h.size, h.lineCount, ?_⟩
  intro position line hline
  obtain ⟨hbounded, hterminated, hnonempty, record, hrecord, hdecode, -⟩ :=
    h.lines position line hline
  exact ⟨hbounded, hterminated, hnonempty, record, hrecord, hdecode⟩

theorem MeasurementRecord.IsReplacedBy.generator {record replaced : MeasurementRecord}
    (h : record.IsReplacedBy replaced) : replaced.generator = record.generator := by
  rcases h with ⟨-, hsame⟩ | rfl
  · rw [hsame]
  · rfl

theorem MeasurementRecord.IsReplacedBy.phase {record replaced : MeasurementRecord}
    (h : record.IsReplacedBy replaced) : replaced.phase = record.phase := by
  rcases h with ⟨-, hsame⟩ | rfl
  · rw [hsame]
  · rfl

section

variable {plan : ResolvedExperiment} {records replaced : List MeasurementRecord}

theorem map_generator_of_replaced (h : List.Forall₂ MeasurementRecord.IsReplacedBy records replaced) :
    replaced.map (·.generator) = records.map (·.generator) := by
  induction h with
  | nil => rfl
  | cons hhead _ ih => simp [hhead.generator, ih]

/-- The measured records are not replaced. -/
theorem measuredRecords_of_replaced
    (h : List.Forall₂ MeasurementRecord.IsReplacedBy records replaced) :
    measuredRecords replaced = measuredRecords records := by
  induction h with
  | nil => rfl
  | @cons record other rest others hhead _ ih =>
      unfold measuredRecords at ih ⊢
      rcases hhead with ⟨hwarmup, hsame⟩ | rfl
      · have hother : other.phase = .warmup := by rw [hsame]; exact hwarmup
        simp [hwarmup, hother, ih]
      · simp [List.filter_cons, ih]

theorem priorGenerator_of_replaced
    (h : List.Forall₂ MeasurementRecord.IsReplacedBy records replaced) (position : Nat) :
    priorGenerator replaced position = priorGenerator records position := by
  have hhead : replaced.head?.map (·.generator) = records.head?.map (·.generator) := by
    rw [← List.head?_map, ← List.head?_map, map_generator_of_replaced h]
  simp only [priorGenerator, hhead]

/-! ## The verifier -/

/-- A record that is valid by itself is valid behind records of its generator. -/
theorem validateMeasurementRecord_of_none {record : MeasurementRecord} {position : Nat}
    {warmups : UInt32} {prior : Option String}
    (h : validateMeasurementRecord record position warmups plan none = .ok ())
    (hprior : prior.all (· = record.generator) = true) :
    validateMeasurementRecord record position warmups plan prior = .ok () := by
  have hmatches : matchesExecution record position warmups plan prior =
      matchesExecution record position warmups plan none := by
    simp only [matchesExecution, hprior, Option.all_none]
  simpa only [validateMeasurementRecord, hmatches] using h

theorem prior_of_validate {record : MeasurementRecord} {position : Nat} {warmups : UInt32}
    {prior : Option String}
    (h : validateMeasurementRecord record position warmups plan prior = .ok ()) :
    prior.all (· = record.generator) = true := by
  simp only [validateMeasurementRecord, bind_eq_ok_iff, rejectIf_eq_ok, Decidable.not_not] at h
  obtain ⟨-, hmatches, -⟩ := h
  simp only [matchesExecution, Bool.and_eq_true] at hmatches
  exact hmatches.2

/-- A plan calls for its own warm-ups or for none. -/
theorem warmups_of_counts {status : RunState} {warmups measured : UInt32}
    (h : expectedMeasurementCounts plan status = .ok (warmups, measured)) :
    warmups = plan.experiment.spec.measurement.warmupRuns ∨ warmups = 0 := by
  have hhelper : ∀ {a b : UInt32 × UInt32}, (Except.ok a : Except EvidenceError _) = .ok b →
      b.1 = a.1 := fun hsame => congrArg Prod.fst (Except.ok.inj hsame).symm
  unfold expectedMeasurementCounts invalidMeasurements at h
  split at h
  · dsimp only at h
    split at h
    all_goals
      split at h
      · contradiction
      · exact Or.inl (hhelper h)
  · split at h
    · exact Or.inl (hhelper h)
    · exact Or.inr (hhelper h)
    all_goals contradiction
  · split at h
    · exact Or.inl (hhelper h)
    · exact Or.inr (hhelper h)
    all_goals contradiction
  · contradiction

/-- A plan calls for its own repetitions at most. -/
theorem measured_of_counts {status : RunState} {warmups measured : UInt32}
    (h : expectedMeasurementCounts plan status = .ok (warmups, measured)) :
    measured.toNat ≤ plan.experiment.spec.measurement.repetitions.toNat := by
  have hhelper : ∀ {a b : UInt32 × UInt32}, (Except.ok a : Except EvidenceError _) = .ok b →
      b.2.toNat = a.2.toNat :=
    fun hsame => congrArg (fun counts => counts.2.toNat) (Except.ok.inj hsame).symm
  have hfewer := LocalFake.measuredCount_le plan.experiment.spec.measurement.repetitions
  -- one case for each combination that is executable, and for each scenario of the local fake
  unfold expectedMeasurementCounts invalidMeasurements at h
  split at h
  · dsimp only at h
    split at h
    · split at h
      · contradiction
      · exact (hhelper h).le
    · split at h
      · contradiction
      · exact (hhelper h).trans_le (hfewer .insufficientMeasurements)
    · split at h
      · contradiction
      · exact (hhelper h).trans_le (hfewer .runtimeFailure)
    · split at h
      · contradiction
      · exact (hhelper h).trans_le (hfewer .interrupted)
  · split at h
    · exact (hhelper h).le
    · exact (hhelper h).trans_le (Nat.zero_le _)
    all_goals contradiction
  · split at h
    · exact (hhelper h).le
    · exact (hhelper h).trans_le (Nat.zero_le _)
    all_goals contradiction
  · contradiction

/-- A replaced record is valid in the place of the old one. -/
theorem AcceptsFile.valid_of_replaced {codec : Codec} {status : RunState} {warmups : UInt32}
    {content : Bytes} {validation : MeasurementValidation}
    (h : AcceptsFile codec plan status warmups content validation)
    (hreplaces : ReplacesWarmups plan validation.records replaced) {position : Nat}
    {record : MeasurementRecord} (hrecord : replaced[position]? = some record) :
    validateMeasurementRecord record position warmups plan (priorGenerator replaced position) =
      .ok () := by
  have hlength : replaced.length = validation.records.length := hreplaces.records.length_eq.symm
  -- the record that stood in this position
  obtain ⟨hinside, hget⟩ := List.getElem?_eq_some_iff.mp hrecord
  have hold : position < validation.records.length := by omega
  have hoccupied : position < (splitInclusive 10 content).length := by
    rw [h.lineCount]
    exact hold
  obtain ⟨old, holdRecord, -, hvalid⟩ :=
    (h.lines position _ (List.getElem?_eq_getElem hoccupied)).decoded
  have hreplaced : old.IsReplacedBy record := by
    have hpair := hreplaces.records.get hold hinside
    obtain ⟨_, holdGet⟩ := List.getElem?_eq_some_iff.mp holdRecord
    simpa only [List.get_eq_getElem, hget, holdGet] using hpair
  rw [priorGenerator_of_replaced hreplaces.records]
  rcases hreplaced with ⟨hwarmup, hsame⟩ | rfl
  · have hphase : record.phase = .warmup := by
      rw [hsame]
      exact hwarmup
    -- a warm-up is only expected where the plan has some
    have hplace : (expectedPlace warmups position).1 = .warmup := by
      rw [← place_of_validate hvalid]
      exact hwarmup
    have hsome : warmups = plan.experiment.spec.measurement.warmupRuns := by
      rcases warmups_of_counts h.counts with hwarmups | rfl
      · exact hwarmups
      · simp [expectedPlace] at hplace
    have halone := hreplaces.valid position record hrecord hphase
    rw [← hsome] at halone
    apply validateMeasurementRecord_of_none halone
    have hgenerator : record.generator = old.generator := by rw [hsame]
    rw [hgenerator]
    exact prior_of_validate hvalid
  · exact hvalid

/-- The file of the replaced records is accepted. -/
theorem AcceptsFile.replace {codec : Codec} {status : RunState} {warmups : UInt32}
    {content content' : Bytes} {validation : MeasurementValidation}
    (h : AcceptsFile codec plan status warmups content validation)
    (hreads : ReadsAs codec content' replaced)
    (hreplaces : ReplacesWarmups plan validation.records replaced) :
    AcceptsFile codec plan status warmups content'
      ⟨validation.measuredRecords, validation.generator, replaced⟩ := by
  have hlength : replaced.length = validation.records.length := hreplaces.records.length_eq.symm
  constructor
  case counts => exact h.counts
  case size => exact hreads.size
  case length => exact hlength.trans h.length
  case representable => exact hlength ▸ h.representable
  case generator =>
    show validation.generator = replaced.head?.map (·.generator)
    rw [h.generator, ← List.head?_map, ← List.head?_map,
      map_generator_of_replaced hreplaces.records]
  case lineCount => exact hreads.lineCount
  case lines =>
    intro position line hline
    obtain ⟨hbounded, hterminated, hnonempty, record, hrecord, hdecode⟩ :=
      hreads.lines position line hline
    exact ⟨hbounded, hterminated, hnonempty, record, hrecord, hdecode,
      h.valid_of_replaced hreplaces hrecord⟩

/-! ## The lines of replaced records -/

/-- A plan does not call for more records than it has. -/
theorem recordCount_of_counts {status : RunState} {warmups measured : UInt32}
    (h : expectedMeasurementCounts plan status = .ok (warmups, measured)) :
    warmups.toNat + measured.toNat ≤ plan.experiment.spec.measurement.warmupRuns.toNat +
      plan.experiment.spec.measurement.repetitions.toNat := by
  have hmeasured := measured_of_counts h
  rcases warmups_of_counts h with rfl | rfl
  · omega
  · simp only [UInt32.toNat_zero]
    omega

/-- The records of a plan have lines of this length at most, and all its records fit the file. -/
structure LineBound (plan : ResolvedExperiment) (bound : Nat) : Prop where
  line : bound ≤ maxMeasurementLineBytes
  file : (plan.experiment.spec.measurement.warmupRuns.toNat +
    plan.experiment.spec.measurement.repetitions.toNat) * bound ≤ maxMeasurementsBytes
  record : ∀ {record position warmups prior},
    validateMeasurementRecord record position warmups plan prior = .ok () →
    (jsonLine record.toJson).length ≤ bound

/-- A record of a runtime that only reports its numbers. -/
theorem length_jsonLine_plain_le {record : MeasurementRecord} {version : String}
    (hversion : Json.quoteSize version ≤ 26)
    (hcontract : ¬ (record.generator ≠ version ∨ record.requestObservations ≠ [])) :
    (jsonLine record.toJson).length ≤ 341 := by
  simp only [not_or, Decidable.not_not] at hcontract
  obtain ⟨rfl, hplain⟩ := hcontract
  have hlength := length_jsonLine_measurement_le record
  rw [if_pos hplain] at hlength
  omega

theorem lineBound_localFake {seed : UInt64} {scenario : LocalFakeScenario}
    (hvalid : plan.experiment.validate = .ok ())
    (hruntime : plan.experiment.spec.runtime = .localFake seed scenario) :
    LineBound plan 341 where
  line := by decide
  file := le_trans
    (Nat.mul_le_mul_right _ (Experiment.recordCount_le_of_localFake hvalid hruntime)) (by decide)
  record := by
    intro record position warmups prior h
    simp only [validateMeasurementRecord, hruntime, bind_eq_ok_iff, rejectIf_eq_ok] at h
    obtain ⟨-, -, hcontract⟩ := h
    exact length_jsonLine_plain_le (Nat.le_of_ble_eq_true rfl) hcontract

theorem lineBound_cpuProbe {tokens units : UInt32}
    (hvalid : plan.experiment.validate = .ok ())
    (hruntime : plan.experiment.spec.runtime = .cpuProbe tokens units) :
    LineBound plan 341 where
  line := by decide
  file := le_trans
    (Nat.mul_le_mul_right _ (Experiment.recordCount_le_of_cpuProbe hvalid hruntime)) (by decide)
  record := by
    intro record position warmups prior h
    simp only [validateMeasurementRecord, hruntime, bind_eq_ok_iff, rejectIf_eq_ok] at h
    obtain ⟨-, -, hcontract⟩ := h
    exact length_jsonLine_plain_le (Nat.le_of_ble_eq_true rfl) hcontract

/-- A llama.cpp record has no more observations than its plan has requests. -/
theorem length_jsonLine_llamaCpp_le {record : MeasurementRecord} {target : LlamaCppTarget}
    {requests : UInt32} (hrequests : requests.toNat ≤ 84)
    (h : validateLlamaCppRecord record target requests = .ok ()) :
    (jsonLine record.toJson).length ≤ 16384 := by
  have hlength := length_jsonLine_measurement_le record
  unfold validateLlamaCppRecord at h
  split at h
  · rename_i hfirst
    have hversion : Json.quoteSize Schema.llamaCppGeneratorVersionV1 = 33 := rfl
    rw [hfirst.1, hversion, if_pos hfirst.2.2] at hlength
    omega
  · split at h
    · rename_i hgenerator
      have hversion : Json.quoteSize Schema.llamaCppGeneratorVersion = 33 := rfl
      simp only [bind_eq_ok_iff, rejectIf_eq_ok, Decidable.not_not] at h
      obtain ⟨-, hcount, -⟩ := h
      rw [hgenerator, hversion, hcount] at hlength
      split at hlength
      · omega
      · omega
    · simp only [invalidMeasurements, reduceCtorEq] at h

theorem lineBound_llamaCpp {target : LlamaCppTarget} {model : String} {tokens : UInt32}
    (hvalid : plan.experiment.validate = .ok ())
    (hruntime : plan.experiment.spec.runtime = .llamaCpp target model tokens) :
    LineBound plan 16384 where
  line := by decide
  file := le_trans
    (Nat.mul_le_mul_right _ (Experiment.recordCount_le_of_llamaCpp hvalid hruntime)) (by decide)
  record := by
    intro record position warmups prior h
    simp only [validateMeasurementRecord, hruntime, bind_eq_ok_iff] at h
    obtain ⟨-, -, hcontract⟩ := h
    exact length_jsonLine_llamaCpp_le (Experiment.requests_le_of_llamaCpp hvalid hruntime) hcontract

/-- The records of a valid plan have lines of a bounded length. -/
theorem exists_lineBound (hvalid : plan.experiment.validate = .ok ()) :
    ∃ bound, LineBound plan bound := by
  cases hruntime : plan.experiment.spec.runtime with
  | localFake seed scenario => exact ⟨341, lineBound_localFake hvalid hruntime⟩
  | cpuProbe tokens units => exact ⟨341, lineBound_cpuProbe hvalid hruntime⟩
  | llamaCpp target model tokens => exact ⟨16384, lineBound_llamaCpp hvalid hruntime⟩
  | vllm model revision arguments =>
      refine ⟨0, Nat.zero_le _, by rw [Nat.mul_zero]; exact Nat.zero_le _, ?_⟩
      -- no record of this runtime is valid
      intro record position warmups prior h
      simp only [validateMeasurementRecord, hruntime, bind_eq_ok_iff] at h
      obtain ⟨-, -, hcontract⟩ := h
      simp only [invalidMeasurements, reduceCtorEq] at hcontract

/-- The compact lines of replaced records are within the limits of the reader. -/
theorem AcceptsFile.readsAs_lines {codec : Codec} {status : RunState} {warmups : UInt32}
    {content : Bytes} {validation : MeasurementValidation}
    (h : AcceptsFile codec plan status warmups content validation)
    (hvalid : plan.experiment.validate = .ok ())
    (hreplaces : ReplacesWarmups plan validation.records replaced)
    (hdecoded : ∀ record ∈ replaced, codec.measurement (toVec record.toJson) = .ok record) :
    ReadsAs codec (measurementLines replaced) replaced := by
  obtain ⟨bound, hbound⟩ := exists_lineBound hvalid
  have hshort : ∀ record ∈ replaced, (jsonLine record.toJson).length ≤ bound := by
    intro record hmem
    obtain ⟨position, hposition⟩ := List.mem_iff_getElem?.mp hmem
    exact hbound.record (h.valid_of_replaced hreplaces hposition)
  -- there are no more records than the plan calls for
  have hcount : replaced.length ≤ plan.experiment.spec.measurement.warmupRuns.toNat +
      plan.experiment.spec.measurement.repetitions.toNat := by
    rw [← hreplaces.records.length_eq, h.length]
    exact recordCount_of_counts h.counts
  constructor
  case size =>
    calc (measurementLines replaced).length
        ≤ replaced.length * bound := length_measurementLines_le hshort
      _ ≤ (plan.experiment.spec.measurement.warmupRuns.toNat +
            plan.experiment.spec.measurement.repetitions.toNat) * bound :=
          Nat.mul_le_mul_right _ hcount
      _ ≤ maxMeasurementsBytes := hbound.file
  case lineCount => rw [splitInclusive_measurementLines, List.length_map]
  case lines =>
    intro position line hposition
    rw [splitInclusive_measurementLines, List.getElem?_map] at hposition
    obtain ⟨record, hrecord, rfl⟩ := Option.map_eq_some_iff.mp hposition
    have hmem : record ∈ replaced := List.mem_of_getElem? hrecord
    refine ⟨(hshort record hmem).trans hbound.line, List.getLast?_concat, ?_, record, hrecord, ?_⟩
    · intro hnil
      have hbrace : (toVec record.toJson).getLast? = some 0x7d := getLast?_toVec_record _
      rw [← recordBytes_jsonLine, hnil] at hbrace
      simp at hbrace
    · rw [recordBytes_jsonLine]
      exact hdecoded record hmem

theorem matchesSummary_of_replaced {summary : RunSummary} {manifest : TerminalManifest}
    {measured : UInt32} {generator : Option String}
    (h : measuredRecords replaced = measuredRecords records) :
    matchesSummary summary manifest ⟨measured, generator, replaced⟩ =
      matchesSummary summary manifest ⟨measured, generator, records⟩ := by
  have hstatistics : expectedStatistics manifest replaced = expectedStatistics manifest records := by
    unfold expectedStatistics
    rw [show replaced.filter (·.phase = .measured) = records.filter (·.phase = .measured) from h]
  simp only [matchesSummary, hstatistics]

end

theorem root_of_verify {codec : Codec} {root : BundleRoot} {bundle : VerifiedEvidenceBundle}
    (h : verifyEvidenceBundleData codec root = .ok bundle) : bundle.root = root := by
  obtain ⟨records, digests, manifest, -, -, hconsistent⟩ := verifyEvidenceBundleData_eq_ok h
  simp only [validateRecordConsistency, bind_eq_ok_iff, pure_eq_ok_iff] at hconsistent
  obtain ⟨-, -, plan, -, -, -, -, -, -, -, validation, -, -, -, -, -, -, -, -, -, provenance, -,
    resources, -, -, -, -, -, -, -, -, -, -, -, -, -, rfl⟩ := hconsistent
  rfl

/-- The compact lines of replaced records are within the limits of the reader, so a codec that
reads its own records reads the file. -/
theorem readsAs_measurementLines {codec : Codec} {root : BundleRoot}
    {bundle : VerifiedEvidenceBundle} (h : verifyEvidenceBundleData codec root = .ok bundle)
    {replaced : List MeasurementRecord}
    (hreplaces : ReplacesWarmups bundle.plan bundle.measurements replaced)
    (hdecoded : ∀ record ∈ replaced, codec.measurement (toVec record.toJson) = .ok record) :
    ReadsAs codec (measurementLines replaced) replaced := by
  have hestablished := established_of_verify h
  obtain ⟨content, warmups, validation, hrecords, haccepted⟩ := hestablished.measurements
  exact haccepted.readsAs_lines hestablished.plan (hrecords ▸ hreplaces) hdecoded

/-- The bundle with replaced warm-ups is verified, with the same records beside them. -/
theorem verifyEvidenceBundleData_withWarmups {codec : Codec} {root : BundleRoot}
    {bundle : VerifiedEvidenceBundle} (h : verifyEvidenceBundleData codec root = .ok bundle)
    {content : Bytes} {replaced : List MeasurementRecord} (hreads : ReadsAs codec content replaced)
    (hreplaces : ReplacesWarmups bundle.plan bundle.measurements replaced) :
    verifyEvidenceBundleData codec (root.withPayload codec.hash .measurements content) =
      .ok { bundle with
        root := root.withPayload codec.hash .measurements content
        measurements := replaced } := by
  simp only [verifyEvidenceBundleData, bind_eq_ok_iff, orReject_eq_ok, mapFailure_eq_ok,
    checkMissing, checkAll_eq_ok, rejectIf_eq_ok, Decidable.not_not, Prod.exists] at h ⊢
  obtain ⟨payloads, progress, hread, bytes, hbytes, ⟨⟩, hmissing, found, hfound, manifest,
    hmanifest, ⟨⟩, hrequired, hconsistent⟩ := h
  refine ⟨payloads, _, readInventory_withPayload rfl hread, bytes, hbytes, (), hmissing, found,
    hfound, manifest, hmanifest, (), hrequired, ?_⟩
  simp only [validateRecordConsistency, bind_eq_ok_iff, rejectIf_eq_ok, orReject_eq_ok,
    pure_eq_ok_iff] at hconsistent ⊢
  obtain ⟨⟨⟩, hname, plan, hplan, ⟨⟩, hresolved, ⟨⟩, horiginal, digest, hdigest, validation,
    hvalidation, run, hrun, ⟨⟩, hmatchesRun, attempt, hattempt, ⟨⟩, hmatchesAttempt, provenance,
    hprovenance, resources, hresources, validity, hvalidity, ⟨⟩, hmatchesValidity, summary,
    hsummary, ⟨⟩, hmatchesSummary, events, hevents, ⟨⟩, hlines, rfl⟩ := hconsistent
  -- the measurements are validated anew, the summary depends on the measured ones, and
  -- everything else has been read from other payloads
  obtain ⟨old, warmups, hold, -, haccepted⟩ := validateMeasurements_eq_ok_iff.mp hvalidation
  have hfile : (root.withPayload codec.hash .measurements content).fileAt
      "attempts/0001/measurements.jsonl" = some content :=
    @fileAt_withPayload_self codec.hash root .measurements content old hold
  have hvalidation' : validateMeasurements codec
      (root.withPayload codec.hash .measurements content) (codec.hash content).hex plan
      manifest.runStatus =
        .ok ⟨validation.measuredRecords, validation.generator, replaced⟩ :=
    validateMeasurements_eq_ok_iff.mpr ⟨content, warmups, hfile, rfl,
      haccepted.replace hreads hreplaces⟩
  have hsummary' : matchesSummary summary manifest
      ⟨validation.measuredRecords, validation.generator, replaced⟩ =
        matchesSummary summary manifest validation :=
    matchesSummary_of_replaced (measuredRecords_of_replaced hreplaces.records)
  exact ⟨(), hname, plan, hplan, (), hresolved, (), horiginal, (codec.hash content).hex,
    lookup_digests_redigest hdigest, _, hvalidation', run, hrun, (), hmatchesRun, attempt, hattempt,
    (), hmatchesAttempt, provenance, hprovenance, resources, hresources, validity, hvalidity, (),
    hmatchesValidity, summary, hsummary, (), by rw [hsummary']; exact hmatchesSummary, events,
    hevents, (), hlines, rfl⟩

/-! ## The comparison -/

/-- A bundle with another root at its path and other records. -/
abbrev VerifiedEvidenceBundle.withRecords (bundle : VerifiedEvidenceBundle) (root : BundleRoot)
    (records : List MeasurementRecord) : VerifiedEvidenceBundle :=
  { bundle with root := root, measurements := records }

section

variable {bundle : VerifiedEvidenceBundle} {root : BundleRoot} {replaced : List MeasurementRecord}

theorem eligibleContract_withRecords
    (h : List.Forall₂ MeasurementRecord.IsReplacedBy bundle.measurements replaced) (role : String) :
    eligibleContract role (bundle.withRecords root replaced) = eligibleContract role bundle := by
  have hgenerators : replaced.any (fun record =>
        decide (record.generator ≠ Schema.llamaCppGeneratorVersion)) =
      bundle.measurements.any fun record =>
        decide (record.generator ≠ Schema.llamaCppGeneratorVersion) := by
    have hmapped := congrArg
      (List.any · fun generator => decide (generator ≠ Schema.llamaCppGeneratorVersion))
      (map_generator_of_replaced h)
    simpa only [List.any_map, Function.comp_def] using hmapped
  -- whatever decides the condition, it is the same condition
  have hreject : ∀ (decidable : Decidable ((replaced.any fun record =>
      decide (record.generator ≠ Schema.llamaCppGeneratorVersion)) = true))
      (failure : ComparisonError), @rejectIf _ _ decidable failure =
        rejectIf ((bundle.measurements.any fun record =>
          decide (record.generator ≠ Schema.llamaCppGeneratorVersion)) = true) failure := by
    intro decidable failure
    simp only [rejectIf, hgenerators]
  simp only [eligibleContract, hreject]

/-- The comparison reads the measured records and the path of the root. -/
theorem compareVerified_withRecords
    (h : List.Forall₂ MeasurementRecord.IsReplacedBy bundle.measurements replaced)
    (hpath : root.path = bundle.root.path) (other : VerifiedEvidenceBundle) :
    compareVerified (bundle.withRecords root replaced) other = compareVerified bundle other ∧
      compareVerified other (bundle.withRecords root replaced) = compareVerified other bundle := by
  have hmeasured : measuredRecords (bundle.withRecords root replaced).measurements =
      measuredRecords bundle.measurements := measuredRecords_of_replaced h
  have hidentity : bundleIdentity (bundle.withRecords root replaced) = bundleIdentity bundle := by
    simp only [bundleIdentity, hpath]
  have hsections : ∀ compatible,
      compareSections compatible (bundle.withRecords root replaced) other =
          compareSections compatible bundle other ∧
        compareSections compatible other (bundle.withRecords root replaced) =
          compareSections compatible other bundle :=
    fun _ => ⟨compareSections_congr hmeasured rfl rfl, compareSections_congr rfl hmeasured rfl⟩
  constructor
  · simp only [compareVerified, eligibleContract_withRecords h, (hsections _).1, hidentity]
  · simp only [compareVerified, eligibleContract_withRecords h, (hsections _).2, hidentity]

end

/-! ## The producer -/

/-- Two outputs of an execution that differ in warm-up records alone. -/
structure ExecutionOutput.SameButWarmups (output other : ExecutionOutput) : Prop where
  measured : measuredRecords other.measurements = measuredRecords output.measurements
  resources : other.resources = output.resources
  nvidiaGpu : other.nvidiaGpu = output.nvidiaGpu
  terminalState : other.terminalState = output.terminalState
  failure : other.failure = output.failure

theorem ExecutionOutput.SameButWarmups.judged {output other : ExecutionOutput}
    (h : output.SameButWarmups other) (plan : ResolvedExperiment) (runId : String) :
    evaluateValidity plan other runId = evaluateValidity plan output runId ∧
      ∀ validity, summarize plan other validity runId = summarize plan output validity runId := by
  constructor
  · simp only [evaluateValidity, h.measured, h.terminalState]
  · intro validity
    simp only [summarize, h.measured, h.terminalState]

/-! ## The law -/

/-- Warm-ups do not count.  With other warm-up records that are valid by themselves, a
verified bundle is verified with the same other payloads, and every comparison with it on
either side has the same result; and the producer does not look at them. -/
theorem warmups_never_influence {codec : Codec} {root : BundleRoot}
    {bundle : VerifiedEvidenceBundle} (hverified : verifyEvidenceBundleData codec root = .ok bundle)
    {content : Bytes} {replaced : List MeasurementRecord} (hreads : ReadsAs codec content replaced)
    (hreplaces : ReplacesWarmups bundle.plan bundle.measurements replaced) :
    (verifyEvidenceBundleData codec (root.withPayload codec.hash .measurements content) =
        .ok (bundle.withRecords (root.withPayload codec.hash .measurements content) replaced) ∧
      ∀ file : StagedFile, file ≠ .measurements →
        (root.withPayload codec.hash .measurements content).fileAt file.display =
          root.fileAt file.display) ∧
    (∀ (disk disk' : FileTree) (path otherPath : List FileName),
      canonicalBundleRoot path disk = .ok root →
      canonicalBundleRoot path disk' = .ok (root.withPayload codec.hash .measurements content) →
      Machine.verifyEvidenceBundleAt codec otherPath disk' =
        Machine.verifyEvidenceBundleAt codec otherPath disk →
      compareEvidenceBundles codec disk' path otherPath =
          compareEvidenceBundles codec disk path otherPath ∧
        compareEvidenceBundles codec disk' otherPath path =
          compareEvidenceBundles codec disk otherPath path) ∧
    ∀ (plan : ResolvedExperiment) (output other : ExecutionOutput) (runId : String),
      output.SameButWarmups other →
      evaluateValidity plan other runId = evaluateValidity plan output runId ∧
        ∀ validity, summarize plan other validity runId = summarize plan output validity runId := by
  have hverified' := verifyEvidenceBundleData_withWarmups hverified hreads hreplaces
  refine ⟨⟨hverified', fun file hfile => fileAt_withPayload_ne hfile⟩, ?_,
    fun plan output other runId h => h.judged plan runId⟩
  intro disk disk' path otherPath hroot hroot' hother
  have hread : (canonicalBundleRoot path disk >>= verifyEvidenceBundleData codec) = .ok bundle :=
    bind_eq_ok_iff.mpr ⟨root, hroot, hverified⟩
  have hread' : (canonicalBundleRoot path disk' >>= verifyEvidenceBundleData codec) =
      .ok (bundle.withRecords (root.withPayload codec.hash .measurements content) replaced) :=
    bind_eq_ok_iff.mpr ⟨_, hroot', hverified'⟩
  have hpath : (root.withPayload codec.hash .measurements content).path = bundle.root.path := by
    rw [root_of_verify hverified]
    rfl
  have hcompared := compareVerified_withRecords hreplaces.records hpath
  rw [Machine.verifyEvidenceBundleAt_eq, Machine.verifyEvidenceBundleAt_eq] at hother
  have hsame : (canonicalBundleRoot otherPath disk' >>= verifyEvidenceBundleData codec) =
      (canonicalBundleRoot otherPath disk >>= verifyEvidenceBundleData codec) :=
    Option.some.inj hother
  simp only [compareEvidenceBundles, Machine.verifyEvidenceBundleAt_eq, hread, hread', hsame,
    rewriteFailure_returns, mapFailure, returns_ok_bind]
  -- the comparison is reached when the bundle on the other side is verified
  cases canonicalBundleRoot otherPath disk >>= verifyEvidenceBundleData codec with
  | error failure => simp only [returns_error_bind, and_self]
  | ok other =>
      simp only [returns_ok_bind]
      exact hcompared other

/-! ## A sample

The baseline of the sample pair with a warm-up that took twice as long. -/

namespace SamplePair

def slowContent : Bytes := measurementLines (records 20)

def slowRoot : BundleRoot := (root .baseline).withPayload codec.hash .measurements slowContent

theorem replacesWarmups_slow :
    ReplacesWarmups (bundle .baseline).plan (bundle .baseline).measurements (records 20) := by
  constructor
  case records =>
    -- the warm-up is replaced, the measured record is not
    exact .cons (Or.inl ⟨rfl, rfl⟩) (.cons (Or.inr rfl) .nil)
  case valid =>
    intro position record hrecord _
    exact validate_records (by simp) hrecord (by simp)

theorem readsAs_slow : ReadsAs codec slowContent (records 20) :=
  readsAs_measurementLines (accepted .baseline) replacesWarmups_slow
    (measurements_fit (by simp)).decoded

/-- The disk with the slow bundle in the place of the baseline. -/
def slowDisk : FileTree where
  root := .ofEntries [(.ofString (Side.runId .baseline) (by decide), .directory slowRoot.tree),
    (.ofString (Side.runId .candidate) (by decide), .directory (root .candidate).tree)]
  distinct := by
    simp only [Directory.ofEntries, List.foldr, Directory.Distinct, Directory.names]
    exact ⟨by decide, slowRoot.distinct, by decide, (root .candidate).distinct, trivial⟩

theorem canonicalBundleRoot_slowDisk :
    canonicalBundleRoot (root .baseline).path slowDisk = .ok slowRoot ∧
      canonicalBundleRoot (root .candidate).path slowDisk = .ok (root .candidate) := by
  constructor
  · exact @canonicalBundleRoot_of_lookup slowDisk slowRoot rfl
  · exact @canonicalBundleRoot_of_lookup slowDisk (root .candidate) rfl

end SamplePair

theorem warmups_never_influence_sample :
    verifyEvidenceBundleData SamplePair.codec SamplePair.slowRoot =
        .ok ((SamplePair.bundle .baseline).withRecords SamplePair.slowRoot
          (SamplePair.records 20)) ∧
      compareEvidenceBundles SamplePair.codec SamplePair.slowDisk (SamplePair.root .baseline).path
          (SamplePair.root .candidate).path =
        compareEvidenceBundles SamplePair.codec SamplePair.disk (SamplePair.root .baseline).path
          (SamplePair.root .candidate).path := by
  obtain ⟨⟨hverified, -⟩, hcompared, -⟩ := warmups_never_influence (SamplePair.accepted .baseline)
    SamplePair.readsAs_slow SamplePair.replacesWarmups_slow
  have hother : Machine.verifyEvidenceBundleAt SamplePair.codec (SamplePair.root .candidate).path
      SamplePair.slowDisk = Machine.verifyEvidenceBundleAt SamplePair.codec
        (SamplePair.root .candidate).path SamplePair.disk := by
    rw [Machine.verifyEvidenceBundleAt_eq, Machine.verifyEvidenceBundleAt_eq,
      SamplePair.canonicalBundleRoot_slowDisk.2, SamplePair.canonicalBundleRoot_disk]
  exact ⟨hverified, (hcompared _ _ _ _ (SamplePair.canonicalBundleRoot_disk .baseline)
    SamplePair.canonicalBundleRoot_slowDisk.1 hother).1⟩

end Benchplane
