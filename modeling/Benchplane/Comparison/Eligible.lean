import Benchplane.Comparison.Compare
import Benchplane.Evidence.MeasurementEdits
import Benchplane.Evidence.PanicFreedom
import Benchplane.Runtime.WorkBounds

/-!
# Eligible bundles

What verification and eligibility establish together: the plan was validated, the
records are the ones that it calls for, each with all its observations, and the
contract of a bundle is fixed by five fields of its plan.
-/

namespace Benchplane

open Library

/-! ## Verified bundles -/

/-- What verification has established about a bundle. -/
structure Established (codec : Codec) (bundle : VerifiedEvidenceBundle) : Prop where
  plan : bundle.plan.experiment.validate = .ok ()
  measurements : ∃ content warmups validation, validation.records = bundle.measurements ∧
    AcceptsFile codec bundle.plan bundle.manifest.runStatus warmups content validation
  provenance : ∀ provenance, bundle.provenance = some provenance → ∃ generator,
    validateRuntimeProvenance provenance.software.runtime bundle.plan.experiment.spec.runtime
      bundle.manifest.runStatus generator = .ok ()

/-- A provenance that is kept was checked. -/
theorem parseOptionalRecord_some {α : Type} {records : Records} {path : String}
    {decode : Bytes → Except String α} {check : α → Except EvidenceError Unit} {record : α}
    (h : parseOptionalRecord decode check records path = .ok (some record)) :
    check record = .ok () := by
  unfold parseOptionalRecord at h
  cases hlookup : records.lookup path with
  | none => simp [hlookup] at h
  | some bytes =>
      simp only [hlookup, bind_eq_ok_iff, pure_eq_ok_iff, Option.some.injEq] at h
      obtain ⟨decoded, -, ⟨⟩, hcheck, rfl⟩ := h
      exact hcheck

theorem established_of_verify {codec : Codec} {root : BundleRoot}
    {bundle : VerifiedEvidenceBundle} (h : verifyEvidenceBundleData codec root = .ok bundle) :
    Established codec bundle := by
  obtain ⟨records, digests, manifest, -, -, hconsistent⟩ := verifyEvidenceBundleData_eq_ok h
  simp only [validateRecordConsistency, bind_eq_ok_iff, pure_eq_ok_iff] at hconsistent
  obtain ⟨-, -, plan, -, ⟨⟩, hplan, -, -, digest, -, validation, hvalidation, -, -, -, -, -, -, -,
    -, provenance, hprovenance, resources, -, -, -, -, -, -, -, -, -, -, -, -, -, rfl⟩ :=
    hconsistent
  simp only [validateResolvedPlan, bind_eq_ok_iff, mapFailure_eq_ok] at hplan
  obtain ⟨expected, hresolved, -⟩ := hplan
  obtain ⟨content, warmups, -, -, haccepted⟩ := validateMeasurements_eq_ok_iff.mp hvalidation
  constructor
  case plan => exact (resolveExperiment_eq_ok hresolved).1
  case measurements => exact ⟨content, warmups, validation, rfl, haccepted⟩
  case provenance =>
    intro record hrecord
    change provenance = some record at hrecord
    subst hrecord
    have hcheck := parseOptionalRecord_some hprovenance
    exact ⟨validation.generator, (validateAttemptProvenance_eq_ok hcheck).2.2⟩

/-- The bundle that the verifier makes of a path of the disk. -/
def VerifiesAs (codec : Codec) (disk : FileTree) (path : List FileName)
    (bundle : VerifiedEvidenceBundle) : Prop :=
  ∃ root, canonicalBundleRoot path disk = .ok root ∧
    verifyEvidenceBundleData codec root = .ok bundle

theorem Machine.verifyEvidenceBundleAt_eq (codec : Codec) (path : List FileName)
    (disk : FileTree) :
    Machine.verifyEvidenceBundleAt codec path disk = Panicking.returns
      (canonicalBundleRoot path disk >>= Benchplane.verifyEvidenceBundleData codec) := by
  unfold Machine.verifyEvidenceBundleAt
  apply Panicking.returns_bind
  intro root _
  exact Machine.verifyEvidenceBundleData_eq codec root

theorem VerifiesAs.established {codec : Codec} {disk : FileTree} {path : List FileName}
    {bundle : VerifiedEvidenceBundle} (h : VerifiesAs codec disk path bundle) :
    Established codec bundle := by
  obtain ⟨root, -, hverified⟩ := h
  exact established_of_verify hverified

/-! ## Eligible bundles -/

/-- A bundle whose contract both roles accept. -/
def VerifiedEvidenceBundle.HasContract (bundle : VerifiedEvidenceBundle)
    (contract : LlamaMeasurementContract) : Prop :=
  ∀ role, eligibleContract role bundle = .ok contract

/-- What eligibility looks at. -/
structure MeetsContract (bundle : VerifiedEvidenceBundle) (target : LlamaCppTarget)
    (model : String) (outputTokens : UInt32) (provenance : AttemptProvenance)
    (engine : SoftwareComponentProvenance) (provenanceModel : ModelProvenance)
    (backend : BackendProvenance) : Prop where
  runStatus : bundle.manifest.runStatus = .succeeded
  validityStatus : bundle.manifest.validityStatus = .valid
  provider : bundle.plan.experiment.spec.provider = .local
  runtime : bundle.plan.experiment.spec.runtime = .llamaCpp target model outputTokens
  generators : ∀ record ∈ bundle.measurements, record.generator = Schema.llamaCppGeneratorVersion
  kept : bundle.provenance = some provenance
  software : provenance.software.runtime =
    .llamaCpp Schema.llamaCppGeneratorVersion engine provenanceModel backend

/-- The contract of an eligible bundle, as it is put together. -/
def llamaContract (spec : ExperimentSpec) (target : LlamaCppTarget) (model : String)
    (outputTokens : UInt32) (engine : SoftwareComponentProvenance)
    (provenanceModel : ModelProvenance) (backend : BackendProvenance) :
    LlamaMeasurementContract where
  provider := "local"
  runtime := "llamaCpp"
  target := target
  generator := Schema.llamaCppGeneratorVersion
  model := model
  modelSha256 := provenanceModel.sha256
  engineName := engine.name
  engineVersion := engine.version
  backend := backend.identity
  deviceClass := backend.deviceClass
  workloadProfile := spec.workload.profile
  outputTokens := outputTokens
  requestsPerRepetition := spec.workload.requests
  concurrency := spec.workload.concurrency
  warmupRuns := spec.measurement.warmupRuns
  measuredRepetitions := spec.measurement.repetitions

theorem eligibleContract_eq_ok {role : String} {bundle : VerifiedEvidenceBundle}
    {contract : LlamaMeasurementContract} :
    eligibleContract role bundle = .ok contract ↔
      ∃ target model outputTokens provenance engine provenanceModel backend,
        MeetsContract bundle target model outputTokens provenance engine provenanceModel backend ∧
        contract = llamaContract bundle.plan.experiment.spec target model outputTokens engine
          provenanceModel backend := by
  -- the checks in their order, and then all of them from what they ask for
  constructor
  · intro h
    simp only [eligibleContract, bind_eq_ok_iff, rejectIf_eq_ok, not_or, Decidable.not_not] at h
    obtain ⟨-, ⟨hrun, hvalid⟩, h⟩ := h
    split at h
    · rename_i target model outputTokens hprovider hruntime
      simp only [bind_eq_ok_iff, rejectIf_eq_ok, List.any_eq_true, not_exists, not_and,
        decide_eq_true_eq, ne_eq, Decidable.not_not] at h
      obtain ⟨-, hgenerators, h⟩ := h
      split at h
      · simp [ineligible] at h
      · rename_i provenance hprovenance
        split at h
        · rename_i generator engine provenanceModel backend hsoftware
          simp only [bind_eq_ok_iff, rejectIf_eq_ok, Decidable.not_not, pure_eq_ok_iff] at h
          obtain ⟨-, rfl, rfl⟩ := h
          exact ⟨target, model, outputTokens, provenance, engine, provenanceModel, backend,
            ⟨hrun, hvalid, hprovider, hruntime, hgenerators, hprovenance, hsoftware⟩, rfl⟩
        · simp [ineligible] at h
        · simp [ineligible] at h
    · simp [ineligible] at h
  · rintro ⟨target, model, outputTokens, provenance, engine, provenanceModel, backend, h, rfl⟩
    have hgenerators : ¬ (bundle.measurements.any fun record =>
        record.generator ≠ Schema.llamaCppGeneratorVersion) = true := by
      simpa using h.generators
    simp only [eligibleContract, bind_eq_ok_iff, rejectIf_eq_ok, not_or, Decidable.not_not]
    refine ⟨(), ⟨h.runStatus, h.validityStatus⟩, ?_⟩
    simp only [h.provider, h.runtime, h.kept, h.software, bind_eq_ok_iff, rejectIf_eq_ok,
      Decidable.not_not, pure_eq_ok_iff]
    exact ⟨(), hgenerators, (), trivial, rfl⟩

/-- Eligibility does not depend on the role. -/
theorem hasContract_of_eligible {role : String} {bundle : VerifiedEvidenceBundle}
    {contract : LlamaMeasurementContract} (h : eligibleContract role bundle = .ok contract) :
    bundle.HasContract contract :=
  fun _ => eligibleContract_eq_ok.mpr (eligibleContract_eq_ok.mp h)

/-- An eligible bundle keeps its provenance. -/
theorem exists_provenance_of_hasContract {bundle : VerifiedEvidenceBundle}
    {contract : LlamaMeasurementContract} (h : bundle.HasContract contract) :
    ∃ provenance, bundle.provenance = some provenance := by
  obtain ⟨target, model, outputTokens, provenance, engine, provenanceModel, backend, hmeets, -⟩ :=
    eligibleContract_eq_ok.mp (h "")
  exact ⟨provenance, hmeets.kept⟩

/-! ## The records of an eligible bundle -/

/-- The records of a bundle that can be compared: as many as the plan calls for, each
with an observation for every request. -/
structure HasAllObservations (bundle : VerifiedEvidenceBundle) : Prop where
  bounds : (bundle.plan.experiment.spec.measurement.warmupRuns.toNat +
    bundle.plan.experiment.spec.measurement.repetitions.toNat) *
      bundle.plan.experiment.spec.workload.requests.toNat ≤ 84
  repetitions_pos : 1 ≤ bundle.plan.experiment.spec.measurement.repetitions.toNat
  requests_pos : 1 ≤ bundle.plan.experiment.spec.workload.requests.toNat
  measured : (measuredRecords bundle.measurements).length =
    bundle.plan.experiment.spec.measurement.repetitions.toNat
  observations : ∀ record ∈ bundle.measurements,
    record.requestObservations.length = bundle.plan.experiment.spec.workload.requests.toNat

/-- A valid llama.cpp plan keeps the work within its bounds. -/
theorem llamaCppBounds_of_validate {e : Experiment} {target : LlamaCppTarget} {model : String}
    {tokens : UInt32} (h : e.validate = .ok ())
    (hruntime : e.spec.runtime = .llamaCpp target model tokens) :
    LlamaCppBounds e.spec.workload.requests.toNat e.spec.measurement.warmupRuns.toNat
      e.spec.measurement.repetitions.toNat tokens.toNat := by
  apply (Experiment.reportsNone_llamaCpp hruntime).mp
  intro error _
  simp [Experiment.reported, h]

/-- A record of the current generator has an observation for every request. -/
theorem length_observations_of_validate {record : MeasurementRecord} {position : Nat}
    {warmups : UInt32} {plan : ResolvedExperiment} {prior : Option String}
    {target : LlamaCppTarget} {model : String} {outputTokens : UInt32}
    (hruntime : plan.experiment.spec.runtime = .llamaCpp target model outputTokens)
    (hgenerator : record.generator = Schema.llamaCppGeneratorVersion)
    (h : validateMeasurementRecord record position warmups plan prior = .ok ()) :
    record.requestObservations.length = plan.experiment.spec.workload.requests.toNat := by
  have hother : ¬ Schema.llamaCppGeneratorVersion = Schema.llamaCppGeneratorVersionV1 := by
    exact of_decide_eq_true rfl
  simp only [validateMeasurementRecord, hruntime, validateLlamaCppRecord, hgenerator, hother,
    false_and, if_false, if_true, bind_eq_ok_iff, rejectIf_eq_ok, Decidable.not_not] at h
  obtain ⟨-, -, -, hlength, -⟩ := h
  exact hlength

/-- The measured records of a file are those behind its warm-ups. -/
theorem AcceptsFile.length_measured {codec : Codec} {plan : ResolvedExperiment}
    {status : RunState} {warmups : UInt32} {content : Bytes} {validation : MeasurementValidation}
    (h : AcceptsFile codec plan status warmups content validation) :
    (measuredRecords validation.records).length = validation.measuredRecords.toNat := by
  have hphases := congrArg (List.countP fun place => decide (place.1 = MeasurementPhase.measured))
    h.places
  rw [List.countP_map, expectedSequence, List.countP_append, List.countP_map, List.countP_map]
    at hphases
  calc (measuredRecords validation.records).length
      = validation.records.countP (fun record => decide (record.phase = .measured)) :=
        List.countP_eq_length_filter.symm
    _ = _ := hphases
    _ = validation.measuredRecords.toNat := by simp [Function.comp_def]

/-- Every record of a file is accepted at some position. -/
theorem AcceptsFile.exists_validate {codec : Codec} {plan : ResolvedExperiment}
    {status : RunState} {warmups : UInt32} {content : Bytes} {validation : MeasurementValidation}
    (h : AcceptsFile codec plan status warmups content validation) {record : MeasurementRecord}
    (hrecord : record ∈ validation.records) :
    ∃ position prior, validateMeasurementRecord record position warmups plan prior = .ok () := by
  obtain ⟨position, hposition⟩ := List.getElem?_of_mem hrecord
  have hinside : position < (splitInclusive 10 content).length := by
    rw [h.lineCount]
    exact (List.getElem?_eq_some_iff.mp hposition).1
  obtain ⟨found, hfound, -, hvalid⟩ :=
    (h.lines position _ (List.getElem?_eq_getElem hinside)).decoded
  obtain rfl := Option.some.inj (hfound.symm.trans hposition)
  exact ⟨position, _, hvalid⟩

/-- A verified bundle that is eligible has all its observations. -/
theorem Established.hasAllObservations {codec : Codec} {bundle : VerifiedEvidenceBundle}
    (h : Established codec bundle) {contract : LlamaMeasurementContract}
    (hcontract : bundle.HasContract contract) : HasAllObservations bundle := by
  obtain ⟨target, model, outputTokens, provenance, engine, provenanceModel, backend, hmeets, -⟩ :=
    eligibleContract_eq_ok.mp (hcontract "")
  obtain ⟨content, warmups, validation, hrecords, haccepted⟩ := h.measurements
  have hbounds := llamaCppBounds_of_validate h.plan hmeets.runtime
  have hcounts := haccepted.counts
  simp only [expectedMeasurementCounts, hmeets.provider, hmeets.runtime, hmeets.runStatus,
    Except.ok.injEq, Prod.mk.injEq] at hcounts
  constructor
  case bounds => exact hbounds.observations_le
  case repetitions_pos => exact hbounds.repetitions_pos
  case requests_pos => exact hbounds.requests_pos
  case measured => rw [← hrecords, haccepted.length_measured, hcounts.2]
  case observations =>
    intro record hrecord
    have hgenerator := hmeets.generators record hrecord
    rw [← hrecords] at hrecord
    obtain ⟨position, prior, hvalid⟩ := haccepted.exists_validate hrecord
    exact length_observations_of_validate hmeets.runtime hgenerator hvalid

end Benchplane
