import Benchplane.Evidence.Acceptance
import Benchplane.Run.Lifecycle
import Benchplane.Schema.RecordTexts

/-!
# What acceptance leaves open

The verifier takes provenance as optional, also where the plan calls for a GPU, and
looks at the events of a journal one by one.  What an accepted bundle says about
its device and about its lifecycle follows from that, and no more does.
-/

namespace Benchplane

open Library

/-! ## The device -/

/-- A provenance record that proves the offload to an NVIDIA device. -/
def ProvesNvidiaOffload (provenance : AttemptProvenance) : Prop :=
  ∃ generator engine model backend nvidia,
    provenance.software.runtime = .llamaCpp generator engine model backend ∧
    backend.identity = Schema.llamaCppCudaBackendIdentity ∧ backend.deviceClass = .nvidiaCuda ∧
    backend.nvidia = some nvidia ∧ nvidia.logicalDeviceIndex = 0 ∧
    nvidiaDriverVersionSupported nvidia.nvidiaDriverVersion = true ∧
    nvidia.offload.offloadedLayers = nvidia.offload.totalLayers ∧
    nvidia.offload.totalLayers ≠ 0

/-- A provenance record that holds an NVIDIA record. -/
def HoldsNvidiaRecord (provenance : AttemptProvenance) : Prop :=
  ∃ generator engine model backend,
    provenance.software.runtime = .llamaCpp generator engine model backend ∧
    backend.nvidia ≠ none

/-- The plan runs llama.cpp on a target. -/
def ResolvedExperiment.Targets (plan : ResolvedExperiment) (target : LlamaCppTarget) : Prop :=
  ∃ model outputTokens, plan.experiment.spec.runtime = .llamaCpp target model outputTokens

/-- Successful NVIDIA evidence proves the offload, and CPU evidence shows no NVIDIA
device. -/
def VerifiedEvidenceBundle.HasHonestDevice (bundle : VerifiedEvidenceBundle) (codec : Codec)
    (root : BundleRoot) : Prop :=
  (bundle.plan.Targets .nvidiaCuda → bundle.manifest.runStatus = .succeeded →
    root.Has codec.provenance "attempts/0001/provenance.json" ProvesNvidiaOffload) ∧
  (bundle.plan.Targets .cpu →
    ¬ root.Has codec.provenance "attempts/0001/provenance.json" HoldsNvidiaRecord)

/-- The backend of an accepted runtime. -/
theorem validateRuntimeProvenance_eq_ok {runtime : RuntimeProvenance} {target : LlamaCppTarget}
    {resolvedModel : String} {outputTokens : UInt32} {status : RunState}
    {generator : Option String}
    (h : validateRuntimeProvenance runtime (.llamaCpp target resolvedModel outputTokens) status
      generator = .ok ()) :
    ∃ generator engine model backend, runtime = .llamaCpp generator engine model backend ∧
      validateBackend backend target status = .ok () := by
  cases runtime with
  | localFake generator => simp [validateRuntimeProvenance, invalidProvenance] at h
  | cpuProbe generator => simp [validateRuntimeProvenance, invalidProvenance] at h
  | llamaCpp generator engine model backend =>
      simp only [validateRuntimeProvenance, bind_eq_ok_iff] at h
      obtain ⟨-, -, ⟨⟩, hbackend, -⟩ := h
      exact ⟨generator, engine, model, backend, rfl, hbackend⟩

/-- The provenance that an accepted bundle keeps was checked. -/
theorem checked_provenance {codec : Codec} {root : BundleRoot} {bundle : VerifiedEvidenceBundle}
    (h : verifyEvidenceBundleData codec root = .ok bundle) {bytes : Bytes}
    (hfile : root.fileAt "attempts/0001/provenance.json" = some bytes) :
    ∃ provenance generator, codec.provenance bytes = .ok provenance ∧
      validateRuntimeProvenance provenance.software.runtime bundle.plan.experiment.spec.runtime
        bundle.manifest.runStatus generator = .ok () := by
  obtain ⟨records, digests, manifest, hfiles, -, hconsistent⟩ := verifyEvidenceBundleData_eq_ok h
  simp only [validateRecordConsistency, bind_eq_ok_iff, rejectIf_eq_ok, orReject_eq_ok,
    pure_eq_ok_iff] at hconsistent
  obtain ⟨-, -, plan, -, ⟨⟩, -, ⟨⟩, -, digest, -, validation, -, run, -, -, -, attempt, -, -, -,
    provenance, hprovenance, resources, -, validity, -, -, -, summary, -, -, -, events, -, ⟨⟩, -,
    rfl⟩ := hconsistent
  have hlookup := hfiles "attempts/0001/provenance.json" maxAttemptProvenanceBytes rfl
  obtain ⟨hnone, hchecked⟩ := parseOptionalRecord_eq_ok hlookup hprovenance
  cases provenance with
  | none => rw [hnone.mpr rfl] at hfile; contradiction
  | some provenance =>
      obtain ⟨⟨found, record, hfound, hdecode, rfl⟩, hcheck⟩ := hchecked provenance rfl
      obtain rfl : found = bytes := Option.some.inj (hfound.symm.trans hfile)
      exact ⟨record, validation.generator, hdecode,
        (validateAttemptProvenance_eq_ok hcheck).2.2⟩

/-- An accepted bundle is honest about its device exactly when a successful NVIDIA
bundle has a provenance file at all. -/
theorem verifyEvidenceBundleData_device (codec : Codec) (root : BundleRoot)
    (bundle : VerifiedEvidenceBundle) (h : verifyEvidenceBundleData codec root = .ok bundle) :
    bundle.HasHonestDevice codec root ↔
      (bundle.plan.Targets .nvidiaCuda → bundle.manifest.runStatus = .succeeded →
        root.fileAt "attempts/0001/provenance.json" ≠ none) := by
  constructor
  · rintro ⟨hnvidia, -⟩ htarget hsucceeded hnone
    obtain ⟨bytes, -, hfile, -⟩ := hnvidia htarget hsucceeded
    rw [hnone] at hfile
    contradiction
  · intro hpresent
    -- provenance that is present has been checked: for CUDA it proves the device, for the CPU it
    -- must not name one
    refine ⟨fun htarget hsucceeded => ?_, ?_⟩
    · obtain ⟨bytes, hfile⟩ := Option.ne_none_iff_exists'.mp (hpresent htarget hsucceeded)
      obtain ⟨provenance, generator, hdecode, hruntime⟩ := checked_provenance h hfile
      obtain ⟨resolvedModel, outputTokens, hspec⟩ := htarget
      rw [hspec] at hruntime
      obtain ⟨generator', engine, model, backend, hllama, hbackend⟩ :=
        validateRuntimeProvenance_eq_ok hruntime
      refine ⟨bytes, provenance, hfile, hdecode, generator', engine, model, backend, ?_⟩
      simp only [validateBackend, invalidProvenance] at hbackend
      split at hbackend
      · rename_i hidentity
        split at hbackend
        · rename_i nvidia hnvidia
          have hproof := provesOffload_of_validate hbackend
          simp only [provesOffload, Bool.and_eq_true, decide_eq_true_eq] at hproof
          obtain ⟨⟨⟨⟨⟨⟨-, hindex⟩, -⟩, hdriver⟩, -⟩, htotal⟩, hoffloaded⟩ := hproof
          exact ⟨nvidia, hllama, hidentity.1, hidentity.2, hnvidia, hindex, hdriver, hoffloaded,
            htotal⟩
        · simp [hsucceeded] at hbackend
      · contradiction
    · rintro ⟨resolvedModel, outputTokens, hspec⟩ ⟨bytes, provenance, hfile, hdecode, hholds⟩
      obtain ⟨generator, engine, model, backend, hllama, hsome⟩ := hholds
      obtain ⟨checked, measured, hchecked, hruntime⟩ := checked_provenance h hfile
      obtain rfl : checked = provenance := Except.ok.inj (hchecked.symm.trans hdecode)
      rw [hspec, hllama] at hruntime
      obtain ⟨generator', engine', model', backend', hsame, hbackend⟩ :=
        validateRuntimeProvenance_eq_ok hruntime
      obtain ⟨-, -, -, rfl⟩ := RuntimeProvenance.llamaCpp.inj hsame
      simp only [validateBackend, invalidProvenance] at hbackend
      split at hbackend
      · rename_i hcpu
        exact hsome hcpu.2.2
      · contradiction

/-! ## The journal -/

/-- The journal is a complete walk of the lifecycle that ends in the manifest's status. -/
def VerifiedEvidenceBundle.TellsStory (bundle : VerifiedEvidenceBundle) (codec : Codec)
    (root : BundleRoot) : Prop :=
  ∃ bytes events, root.fileAt "events.jsonl" = some bytes ∧
    (eventLines bytes).mapM codec.event = .ok events ∧ IsJournal events ∧
    ∃ last, events.getLast? = some last ∧ last.toState = bundle.manifest.runStatus ∧
      bundle.manifest.runStatus.isTerminal = true

theorem exists_mapM {α β : Type} {f : α → Except String β} {good : β → Prop} {items : List α}
    (h : ∀ item ∈ items, ∃ b, f item = .ok b ∧ good b) :
    ∃ results, items.mapM f = .ok results ∧ ∀ b ∈ results, good b := by
  induction items with
  | nil => exact ⟨[], rfl, by simp⟩
  | cons item rest ih =>
      obtain ⟨b, hb, hgood⟩ := h item (by simp)
      obtain ⟨results, hresults, hall⟩ := ih fun other hother => h other (by simp [hother])
      refine ⟨b :: results, ?_, List.forall_mem_cons.mpr ⟨hgood, hall⟩⟩
      simp only [List.mapM_cons, bind_eq_ok_iff, pure_eq_ok_iff]
      exact ⟨b, hb, results, hresults, rfl⟩

/-- The events of an accepted bundle belong to the run and to its attempt, and the
manifest's status is terminal. -/
theorem verifyEvidenceBundleData_events (codec : Codec) (root : BundleRoot)
    (bundle : VerifiedEvidenceBundle) (h : verifyEvidenceBundleData codec root = .ok bundle) :
    ∃ bytes events, root.fileAt "events.jsonl" = some bytes ∧
      (eventLines bytes).mapM codec.event = .ok events ∧
      (∀ event ∈ events, event.runId = bundle.manifest.runId ∧ event.attemptNumber = 1) ∧
      bundle.manifest.runStatus.isTerminal = true := by
  obtain ⟨records, digests, manifest, hfiles, -, hconsistent⟩ := verifyEvidenceBundleData_eq_ok h
  simp only [validateRecordConsistency, bind_eq_ok_iff, orReject_eq_ok, requireRecord,
    pure_eq_ok_iff] at hconsistent
  obtain ⟨-, -, plan, -, ⟨⟩, -, ⟨⟩, -, digest, -, validation, -, run, -, -, -, attempt, -, -, -,
    provenance, -, resources, -, validity, -, -, -, summary, -, -, -, bytes, hbytes, ⟨⟩, hlines,
    rfl⟩ := hconsistent
  obtain ⟨events, hevents, hall⟩ := exists_mapM (validateEvents_eq_ok hlines)
  rw [hfiles "events.jsonl" maxIdentityRecordBytes rfl] at hbytes
  exact ⟨bytes, events, hbytes, hevents, hall, manifest.terminal⟩

/-- A decoder that knows one record by its encoding. -/
def decodeKnown {κ α : Type} [DecidableEq κ] (encoding : κ) (record : α) (input : κ) :
    Except String α :=
  if input = encoding then .ok record else .error "unknown record"

@[simp] theorem decodeKnown_self {κ α : Type} [DecidableEq κ] (encoding : κ) (record : α) :
    decodeKnown encoding record encoding = .ok record := if_pos rfl

/-- A decoder that knows some records by their texts. -/
def decodeAmong {α : Type} (encode : α → Json) (known : List α) (input : Bytes) :
    Except String α :=
  match known.find? fun record => toVec (encode record) = input with
  | some record => .ok record
  | none => .error "unknown record"

theorem decodeAmong_of_mem {α : Type} {encode : α → Json} {known : List α} {record : α}
    (hencode : Function.Injective fun record => toVec (encode record)) (hrecord : record ∈ known) :
    decodeAmong encode known (toVec (encode record)) = .ok record := by
  unfold decodeAmong
  split
  · rename_i found hfound
    have hsame := List.find?_some hfound
    rw [hencode (of_decide_eq_true hsame)]
  · rename_i hnone
    exact absurd (List.find?_eq_none.mp hnone record hrecord) (by simp)

/-! A succeeded NVIDIA run with a warm-up and two repetitions of two requests, without
provenance and with a journal of one event. -/
namespace SampleBundle

def runId : String := "run-018f6f9a-7b3c-7abc-8def-0123456789ab"
def time : String := "2026-01-02T03:04:05.006Z"

def experiment : Experiment :=
  .repeated .local (.llamaCpp .nvidiaCuda Schema.llamaCppModelIdentity 16)
    Schema.llamaCppWorkloadProfile

/-- The number printer on the budget of the sample. -/
def formatFloat : FormatFloat := fun _ => "0.0"

/-- JSON is YAML. -/
def experimentText : String := (experiment.toJson formatFloat).compact

def experimentDigest : String := sha256Digest sha256 (toVec (experiment.toJson formatFloat))

def resolvedPlanDigest : String :=
  sha256Digest sha256 (toVec (resolvedPlanContent formatFloat experiment experimentDigest))

def plan : ResolvedExperiment where
  apiVersion := Schema.apiVersion
  kind := "ResolvedExperiment"
  experiment := experiment
  experimentDigest := experimentDigest
  resolvedPlanDigest := resolvedPlanDigest

def run : RunRecord :=
  ⟨runId, .succeeded, time, time, some time, plan.experimentDigest, plan.resolvedPlanDigest, 1,
    none⟩

def attempt : AttemptRecord := ⟨runId, 1, .succeeded, time, time, some time, none⟩

def event : LifecycleEvent := ⟨runId, 1, time, none, .created, 1, none⟩

def measurements : List MeasurementRecord :=
  MeasurementRecord.repeated Schema.llamaCppGeneratorVersion
    [(16, 6, [⟨1, 20, 8⟩, ⟨2, 11, 3⟩]), (10, 2, [⟨1, 12, 3⟩, ⟨2, 8, 1⟩]),
      (10, 3, [⟨1, 11, 3⟩, ⟨2, 9, 2⟩])]

def validity : ValidityResult := ⟨runId, .valid, 2, 2, []⟩

def summary : RunSummary :=
  ⟨runId, .succeeded, 1, 2, .valid, some ⟨10, 10, 10⟩, some 1, plan.experimentDigest,
    plan.resolvedPlanDigest⟩

def manifest : TerminalManifest where
  toEvidenceManifest := ⟨Schema.evidenceFormatV1, runId, .succeeded, .valid,
    plan.experimentDigest, plan.resolvedPlanDigest, 1⟩
  terminal := rfl

def codec : Codec := { Codec.refusing with
  formatFloat := formatFloat
  experiment := decodeKnown experimentText experiment
  plan := decodeKnown (toVec (plan.toJson formatFloat)) plan
  manifest := decodeKnown (toVec manifest.toJson) manifest.toEvidenceManifest
  run := decodeKnown (toVec run.toJson) run
  attempt := decodeKnown (toVec attempt.toJson) attempt
  event := decodeKnown (toVec event.toJson) event
  measurement := decodeAmong MeasurementRecord.toJson measurements
  validity := decodeKnown (toVec validity.toJson) validity
  summary := decodeKnown (toVec summary.toJson) summary }

def content : StagedFile → Bytes
  | .experiment => utf8 experimentText
  | .plan => toVec (plan.toJson formatFloat)
  | .run => toVec run.toJson
  | .events => jsonLine event.toJson
  | .validity => toVec validity.toJson
  | .summary => toVec summary.toJson
  | .manifest => toVec manifest.toJson
  | .attempt => toVec attempt.toJson
  | .measurements => measurementLines measurements
  | .provenance | .resources => []

def root : BundleRoot where
  path := [.ofString runId (by decide)]
  tree := bareBundle sha256 content
  distinct := distinct_bareBundle sha256 content

/-! ### Sizes -/

section

variable {id a b : String} (hid : Json.quoteBound id = 242) (ha : Json.quoteBound a = 428)
  (hb : Json.quoteBound b = 428)

include ha hb

theorem sizeWith_plan : (ResolvedExperiment.toJson formatFloat
    ⟨Schema.apiVersion, "ResolvedExperiment", experiment, a, b⟩).sizeWith Json.quoteBound ≤
      maxResolvedPlanBytes := by
  simp only [ResolvedExperiment.toJson, Json.record, JsonFields.ofList, Json.sizeWith,
    JsonFields.sizeWith, JsonFields.isNil, Bool.false_eq_true, if_false, if_true, ha, hb]
  exact Nat.le_of_ble_eq_true rfl

include hid

theorem sizeWith_run : (RunRecord.toJson
    ⟨id, .succeeded, time, time, some time, a, b, 1, none⟩).sizeWith Json.quoteBound ≤
      maxIdentityRecordBytes := by
  simp only [RunRecord.toJson, Json.record, JsonFields.ofList, Json.sizeWith,
    JsonFields.sizeWith, JsonFields.isNil, Bool.false_eq_true, if_false, if_true, ha, hb, hid]
  exact Nat.le_of_ble_eq_true rfl

theorem sizeWith_summary {samples : UInt32} (hsamples : samples = 1 ∨ samples = 2) :
    (RunSummary.toJson ⟨id, .succeeded, 1, samples, .valid, some ⟨10, 10, 10⟩, some 1, a,
      b⟩).sizeWith Json.quoteBound ≤ maxIdentityRecordBytes := by
  simp only [RunSummary.toJson, Json.record, JsonFields.ofList, Json.sizeWith,
    JsonFields.sizeWith, JsonFields.isNil, Bool.false_eq_true, if_false, if_true, ha, hb, hid]
  rcases hsamples with rfl | rfl <;> exact Nat.le_of_ble_eq_true rfl

theorem sizeWith_manifest : (EvidenceManifest.toJson
    ⟨Schema.evidenceFormatV1, id, .succeeded, .valid, a, b, 1⟩).sizeWith Json.quoteBound ≤
      maxManifestBytes := by
  simp only [EvidenceManifest.toJson, Json.record, JsonFields.ofList, Json.sizeWith,
    JsonFields.sizeWith, JsonFields.isNil, Bool.false_eq_true, if_false, if_true, ha, hb, hid]
  exact Nat.le_of_ble_eq_true rfl

end

theorem quoteBound_runId : Json.quoteBound runId = 242 := rfl

theorem quoteBound_experimentDigest : Json.quoteBound experimentDigest = 428 :=
  Json.quoteBound_digest _

theorem quoteBound_resolvedPlanDigest : Json.quoteBound resolvedPlanDigest = 428 :=
  Json.quoteBound_digest _

/-- A small value is within its limit. -/
theorem isAbove_toVec {path : String} {limit : Nat} {value : Json}
    (hlimit : retainedLimit path = some limit) (h : value.sizeWith Json.quoteBound ≤ limit) :
    isAbove (retainedLimit path) (toVec value).length = false := by
  have hsize : (toVec value).length ≤ value.sizeWith Json.quoteBound :=
    value.utf8ByteSize_compact_le Json.boundsQuotes_quoteBound
  simp only [hlimit, isAbove, decide_eq_false_iff_not]
  omega

theorem isAbove_content (file : StagedFile) :
    isAbove (retainedLimit file.display) (content file).length = false := by
  cases file with
  | experiment =>
      have hsize : (experiment.toJson formatFloat).sizeWith Json.quoteBound ≤ maxExperimentBytes := by
        exact Nat.le_of_ble_eq_true rfl
      exact isAbove_toVec rfl hsize
  | plan =>
      have hsize := sizeWith_plan quoteBound_experimentDigest quoteBound_resolvedPlanDigest
      exact isAbove_toVec rfl hsize
  | run =>
      have hsize := sizeWith_run quoteBound_runId quoteBound_experimentDigest
        quoteBound_resolvedPlanDigest
      exact isAbove_toVec rfl hsize
  | events =>
      have hsize : event.toJson.sizeWith Json.quoteBound ≤ 4096 := Nat.le_of_ble_eq_true rfl
      have hline := event.toJson.utf8ByteSize_compact_le Json.boundsQuotes_quoteBound
      have hlength : (content .events).length = event.toJson.compact.utf8ByteSize + 1 :=
        length_jsonLine _
      rw [show retainedLimit (StagedFile.display .events) = some maxIdentityRecordBytes from rfl]
      simp only [isAbove, decide_eq_false_iff_not, hlength, maxIdentityRecordBytes]
      omega
  | validity =>
      have hsize : validity.toJson.sizeWith Json.quoteBound ≤ maxIdentityRecordBytes := by
        exact Nat.le_of_ble_eq_true rfl
      exact isAbove_toVec rfl hsize
  | summary =>
      have hsize := sizeWith_summary quoteBound_runId quoteBound_experimentDigest
        quoteBound_resolvedPlanDigest (Or.inr rfl)
      exact isAbove_toVec rfl hsize
  | manifest =>
      have hsize := sizeWith_manifest quoteBound_runId quoteBound_experimentDigest
        quoteBound_resolvedPlanDigest
      exact isAbove_toVec rfl hsize
  | attempt =>
      have hsize : attempt.toJson.sizeWith Json.quoteBound ≤ maxIdentityRecordBytes := by
        exact Nat.le_of_ble_eq_true rfl
      exact isAbove_toVec rfl hsize
  | measurements => rfl
  | provenance | resources => decide

/-! ### Acceptance -/

theorem validate_experiment : experiment.validate = .ok () := by rfl

theorem resolve_experiment : resolveExperiment codec experiment = .ok plan := by
  have hhash : codec.hash = sha256 := rfl
  have hformat : codec.formatFloat = formatFloat := rfl
  simp only [resolveExperiment, validate_experiment, hhash, hformat]
  rfl

theorem parse_experiment : parseExperiment codec (utf8 experimentText) = .ok experiment := by
  have hknown : codec.experiment experimentText = .ok experiment := by
    simp only [codec, decodeKnown_self]
  simp only [parseExperiment, bind_eq_ok_iff, orReject_eq_ok, mapFailure_eq_ok]
  exact ⟨experimentText, decodeUtf8_utf8 _, hknown⟩

theorem partialEq_plan : plan.partialEq plan = true :=
  ResolvedExperiment.partialEq_self (Experiment.isFinite_of_validate validate_experiment)

theorem isSha256Digest_experimentDigest : isSha256Digest experimentDigest = true :=
  isSha256Digest_sha256Digest _ _

theorem isSha256Digest_resolvedPlanDigest : isSha256Digest resolvedPlanDigest = true :=
  isSha256Digest_sha256Digest _ _

theorem validate_manifest : validateManifest manifest.toEvidenceManifest = .ok manifest := by
  have hrun : isBlank runId = false ∧ isRunId runId = true := by and_intros <;> rfl
  simp only [validateManifest, bind_eq_ok_iff, rejectIf_eq_ok, pure_eq_ok_iff]
  refine ⟨(), ?_, (), ?_, (), ?_, manifest, rfl, (), ?_, (), ?_, (), ?_, rfl⟩
  · exact not_not_intro rfl
  · simp [manifest, hrun.1]
  · simp [manifest, hrun.2]
  · exact not_not_intro rfl
  · exact not_not_intro isSha256Digest_experimentDigest
  · exact not_not_intro isSha256Digest_resolvedPlanDigest

theorem fileAt_root (file : StagedFile) :
    root.fileAt file.display = if file ∈ StagedFile.required then some (content file) else none :=
  fileAt_bareBundle rfl file

theorem has_manifest :
    root.Has codec.manifest "manifest.json" (validateManifest · = .ok manifest) := by
  have hknown : codec.manifest (toVec manifest.toJson) = .ok manifest.toEvidenceManifest := by
    simp only [codec, decodeKnown_self]
  exact ⟨_, _, fileAt_root .manifest, hknown, validate_manifest⟩

theorem decode_measurement {record : MeasurementRecord} (h : record ∈ measurements) :
    codec.measurement (toVec record.toJson) = .ok record := by
  have hcodec : codec.measurement = decodeAmong MeasurementRecord.toJson measurements := rfl
  rw [hcodec]
  exact decodeAmong_of_mem
    (toVec_injective MeasurementRecord.toJson_injective MeasurementRecord.fits_toJson) h

theorem length_measurement {record : MeasurementRecord} (h : record ∈ measurements) :
    (jsonLine record.toJson).length ≤ 4096 := by
  have hfields : record.generator = Schema.llamaCppGeneratorVersion ∧
      record.requestObservations.length = 2 := by
    revert record
    decide
  have hversion : Json.quoteSize Schema.llamaCppGeneratorVersion ≤ 100 := by decide
  have hline := length_jsonLine_measurement_le record
  rw [hfields.1, hfields.2] at hline
  split at hline <;> omega

theorem validate_measurements (position : Nat) (record : MeasurementRecord)
    (h : measurements[position]? = some record) :
    validateMeasurementRecord record position 1 plan (some Schema.llamaCppGeneratorVersion) =
      .ok () := by
  have hok : (validateMeasurementRecord record position 1 plan
      (some Schema.llamaCppGeneratorVersion)).isOk = true := by
    match position with
    | 0 | 1 | 2 =>
        obtain rfl := Option.some.inj h
        rfl
    | position + 3 => simp [measurements, MeasurementRecord.repeated] at h
  obtain ⟨⟨⟩, hvalid⟩ := exists_of_isOk hok
  exact hvalid

theorem measurements_fit : MeasurementsFit codec plan .succeeded 1 2
    Schema.llamaCppGeneratorVersion measurements := by
  constructor
  case counts => rfl
  case length => rfl
  case representable => decide
  case generated => decide
  case valid => exact validate_measurements
  case decoded => exact fun record h => decode_measurement h
  case lineBytes =>
    intro record h
    have hline := length_measurement h
    rw [maxMeasurementLineBytes]
    omega
  case totalBytes =>
    have hcount : measurements.length = 3 := rfl
    have htotal := @length_measurementLines_le measurements 4096 fun _ => length_measurement
    rw [hcount] at htotal
    exact htotal.trans (by decide)

/-- What the verifier makes of the sample. -/
def bundle : VerifiedEvidenceBundle := ⟨root, manifest, plan, none, none, measurements⟩

/-- A record of the sample is read back. -/
theorem has_record {α : Type} {decode : Bytes → Except String α} {record : α} {good : α → Prop}
    (file : StagedFile) (hrequired : file ∈ StagedFile.required)
    (hknown : decode (content file) = .ok record) (hgood : good record) :
    root.Has decode file.display good :=
  ⟨content file, record, by rw [fileAt_root, if_pos hrequired], hknown, hgood⟩

theorem matches_run : matchesRun run manifest = true := by
  simp [matchesRun, run, manifest]

theorem matches_attempt : matchesAttempt attempt manifest = true := by rfl

theorem matches_validity : matchesValidity validity manifest plan 2 = true := by rfl

theorem matches_summary : matchesSummary summary manifest
    ⟨2, some Schema.llamaCppGeneratorVersion, measurements⟩ = true := by
  have hlatency : describeMicros [10, 10] = some ⟨10, 10, 10⟩ := by
    rw [describeMicros, if_neg (by decide), List.mergeSort_of_pairwise (by decide)]
    rfl
  have hstatistics : expectedStatistics manifest measurements = (some ⟨10, 10, 10⟩, some 1) :=
    congrArg (fun latency => (latency, some 1)) hlatency
  simp only [matchesSummary, hstatistics]
  simp [summary, manifest]

/-- What the verifier makes of the measurement file. -/
def validation : MeasurementValidation :=
  ⟨2, some Schema.llamaCppGeneratorVersion, measurements⟩

theorem inOrder : InOrder codec root bundle validation := by
  constructor
  case sameRoot => rfl
  case sameRecords => rfl
  case inventory => exact inventoryPhase_bareBundle rfl fun file _ => isAbove_content file
  case required => exact fun file hfile => ⟨content file, by rw [fileAt_root, if_pos hfile]⟩
  case name => simp [BundleRoot.fileName, root, bundle, manifest]
  case manifest => exact has_manifest
  case plan =>
    have hknown : codec.plan (content .plan) = .ok plan := by
      simp only [codec, content, decodeKnown_self]
    refine has_record .plan (by decide) hknown ⟨rfl, ?_⟩
    simp only [validateResolvedPlan, bind_eq_ok_iff, mapFailure_eq_ok, rejectIf_eq_ok]
    exact ⟨plan, resolve_experiment, by simp [bundle, partialEq_plan, manifest]⟩
  case experiment =>
    exact ⟨_, experiment, plan, fileAt_root .experiment, parse_experiment, resolve_experiment,
      partialEq_plan⟩
  case measurements =>
    exact ⟨_, fileAt_root .measurements,
      validateMeasurements_of_fit measurements_fit (fileAt_root .measurements) rfl⟩
  case run =>
    have hknown : codec.run (content .run) = .ok run := by
      simp only [codec, content, decodeKnown_self]
    exact has_record .run (by decide) hknown matches_run
  case attempt =>
    have hknown : codec.attempt (content .attempt) = .ok attempt := by
      simp only [codec, content, decodeKnown_self]
    exact has_record .attempt (by decide) hknown matches_attempt
  case provenance => exact fileAt_root .provenance
  case resources => exact fileAt_root .resources
  case validity =>
    have hknown : codec.validity (content .validity) = .ok validity := by
      simp only [codec, content, decodeKnown_self]
    exact has_record .validity (by decide) hknown matches_validity
  case summary =>
    have hknown : codec.summary (content .summary) = .ok summary := by
      simp only [codec, content, decodeKnown_self]
    exact has_record .summary (by decide) hknown matches_summary
  case events =>
    refine ⟨jsonLine event.toJson, fileAt_root .events, ?_⟩
    intro line hline
    have hlines : eventLines (jsonLine event.toJson) = [toVec event.toJson] := by
      simpa using eventLines_flatMap [event]
    rw [hlines, List.mem_singleton] at hline
    have hknown : codec.event (toVec event.toJson) = .ok event := by
      simp only [codec, decodeKnown_self]
    subst hline
    exact ⟨event, hknown, rfl, rfl⟩

theorem accepted : verifyEvidenceBundleData codec root = .ok bundle := inOrder.accepted

end SampleBundle

theorem verifyEvidenceBundleData_sound_sample :
    RefinesProducer SampleBundle.codec SampleBundle.root SampleBundle.bundle :=
  verifyEvidenceBundleData_sound _ _ _ SampleBundle.accepted

theorem verifyEvidenceBundleData_device_sample :
    SampleBundle.bundle.HasHonestDevice SampleBundle.codec SampleBundle.root ↔
      (SampleBundle.bundle.plan.Targets .nvidiaCuda →
        SampleBundle.bundle.manifest.runStatus = .succeeded →
        SampleBundle.root.fileAt "attempts/0001/provenance.json" ≠ none) :=
  verifyEvidenceBundleData_device _ _ _ SampleBundle.accepted

theorem verifyEvidenceBundleData_events_sample :
    ∃ bytes events, SampleBundle.root.fileAt "events.jsonl" = some bytes ∧
      (eventLines bytes).mapM SampleBundle.codec.event = .ok events ∧
      (∀ event ∈ events, event.runId = SampleBundle.bundle.manifest.runId ∧
        event.attemptNumber = 1) ∧
      SampleBundle.bundle.manifest.runStatus.isTerminal = true :=
  verifyEvidenceBundleData_events _ _ _ SampleBundle.accepted

/-- The sample is accepted without a word about its device. -/
theorem device_not_honest : ¬ ∀ codec root bundle,
    verifyEvidenceBundleData codec root = .ok bundle → bundle.HasHonestDevice codec root := by
  intro hclaim
  obtain ⟨hnvidia, -⟩ := hclaim _ _ _ SampleBundle.accepted
  obtain ⟨bytes, -, hfile, -⟩ := hnvidia ⟨_, _, rfl⟩ rfl
  have hnone : SampleBundle.root.fileAt "attempts/0001/provenance.json" = none :=
    SampleBundle.fileAt_root .provenance
  rw [hnone] at hfile
  contradiction

/-- The journal of the sample stops at its first event. -/
theorem journal_tells_no_story : ¬ ∀ codec root bundle,
    verifyEvidenceBundleData codec root = .ok bundle → bundle.TellsStory codec root := by
  intro hclaim
  obtain ⟨bytes, events, hfile, hevents, -, last, hlast, hstatus, -⟩ :=
    hclaim _ _ _ SampleBundle.accepted
  obtain rfl : jsonLine SampleBundle.event.toJson = bytes :=
    Option.some.inj ((SampleBundle.fileAt_root .events).symm.trans hfile)
  have hlines : eventLines (jsonLine SampleBundle.event.toJson) =
      [toVec SampleBundle.event.toJson] := by
    simpa using eventLines_flatMap [SampleBundle.event]
  have hknown : SampleBundle.codec.event (toVec SampleBundle.event.toJson) =
      .ok SampleBundle.event := by
    simp only [SampleBundle.codec, decodeKnown_self]
  rw [hlines] at hevents
  simp only [List.mapM_cons, List.mapM_nil, bind_eq_ok_iff, pure_eq_ok_iff] at hevents
  obtain ⟨event, hevent, rest, rfl, rfl⟩ := hevents
  obtain rfl : SampleBundle.event = event := Except.ok.inj (hknown.symm.trans hevent)
  obtain rfl : SampleBundle.event = last := by simpa using hlast
  exact absurd hstatus (by decide)

end Benchplane
