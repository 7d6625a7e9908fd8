import Benchplane.Comparison.Exchange
import Benchplane.Evidence.AcceptedEvidence
import Benchplane.Schema.RecordTexts

/-!
# What compatibility depends on

Of the sixteen fields of a contract, verification fixes all but those that follow from
five fields of the plan.  Two bundles are compatible exactly when their plans agree on
these, and nothing else of a bundle but its records and resources reaches a metric.
-/

namespace Benchplane

open Library Library.Panicking

/-! ## The contract of a plan -/

/-- The fields of a llama.cpp plan that its measurements depend on. -/
structure MeasurementPlan where
  target : LlamaCppTarget
  outputTokens : UInt32
  requests : UInt32
  warmupRuns : UInt32
  repetitions : UInt32
  deriving DecidableEq

def ResolvedExperiment.measurementPlan (plan : ResolvedExperiment) : Option MeasurementPlan :=
  match plan.experiment.spec.runtime with
  | .llamaCpp target _ outputTokens => some
      { target := target
        outputTokens := outputTokens
        requests := plan.experiment.spec.workload.requests
        warmupRuns := plan.experiment.spec.measurement.warmupRuns
        repetitions := plan.experiment.spec.measurement.repetitions }
  | .localFake _ _ | .cpuProbe _ _ | .vllm _ _ _ => none

/-- The backend that verification asks for. -/
def backendIdentity : LlamaCppTarget → String
  | .cpu => Schema.llamaCppBackendIdentity
  | .nvidiaCuda => Schema.llamaCppCudaBackendIdentity

def backendDeviceClass : LlamaCppTarget → DeviceClass
  | .cpu => .cpu
  | .nvidiaCuda => .nvidiaCuda

/-- The only contract that a verified bundle of the plan can have. -/
def contractOf (plan : MeasurementPlan) : LlamaMeasurementContract where
  provider := "local"
  runtime := "llamaCpp"
  target := plan.target
  generator := Schema.llamaCppGeneratorVersion
  model := Schema.llamaCppModelIdentity
  modelSha256 := Schema.llamaCppModelSha256
  engineName := Schema.llamaCppEngineName
  engineVersion := Schema.llamaCppEngineVersion
  backend := backendIdentity plan.target
  deviceClass := backendDeviceClass plan.target
  workloadProfile := Schema.llamaCppWorkloadProfile
  outputTokens := plan.outputTokens
  requestsPerRepetition := plan.requests
  concurrency := 1
  warmupRuns := plan.warmupRuns
  measuredRepetitions := plan.repetitions

/-- A bundle that a comparison accepts in either role. -/
def VerifiedEvidenceBundle.IsEligible (bundle : VerifiedEvidenceBundle) : Prop :=
  ∃ contract, bundle.HasContract contract

theorem validateBackend_eq_ok {backend : BackendProvenance} {target : LlamaCppTarget}
    {status : RunState} (h : validateBackend backend target status = .ok ()) :
    backend.identity = backendIdentity target ∧
      backend.deviceClass = backendDeviceClass target := by
  cases target with
  | cpu =>
      simp only [validateBackend, invalidProvenance] at h
      split at h
      · rename_i hcpu
        exact ⟨hcpu.1, hcpu.2.1⟩
      · contradiction
  | nvidiaCuda =>
      simp only [validateBackend, invalidProvenance] at h
      split at h
      · rename_i hcuda
        exact hcuda
      · contradiction

/-- The contract of a verified bundle is the one of its plan. -/
theorem Established.contract_eq {codec : Codec} {bundle : VerifiedEvidenceBundle}
    (h : Established codec bundle) {contract : LlamaMeasurementContract}
    (hcontract : bundle.HasContract contract) :
    ∃ plan, bundle.plan.measurementPlan = some plan ∧ contract = contractOf plan := by
  obtain ⟨target, model, outputTokens, provenance, engine, provenanceModel, backend, hmeets, rfl⟩ :=
    eligibleContract_eq_ok.mp (hcontract "")
  obtain ⟨hmodel, hprofile, hconcurrency⟩ := Experiment.fixed_of_llamaCpp h.plan hmeets.runtime
  obtain ⟨generator, hruntime⟩ := h.provenance provenance hmeets.kept
  simp only [hmeets.software, hmeets.runtime, validateRuntimeProvenance, bind_eq_ok_iff,
    rejectIf_eq_ok, Decidable.not_not] at hruntime
  obtain ⟨-, hlineage, ⟨⟩, hbackend, -⟩ := hruntime
  simp only [isSupportedLineage, Bool.and_eq_true, decide_eq_true_eq] at hlineage
  obtain ⟨⟨⟨⟨⟨⟨-, hengine⟩, hversion⟩, -⟩, -⟩, hsha⟩, -⟩ := hlineage
  obtain ⟨hidentity, hclass⟩ := validateBackend_eq_ok hbackend
  refine ⟨_, by rw [ResolvedExperiment.measurementPlan, hmeets.runtime], ?_⟩
  simp [llamaContract, contractOf, hmodel, hprofile, hconcurrency, hengine, hversion, hsha,
    hidentity, hclass]

/-! ## Differences -/

/-- The names of the fields that two plans differ in, with those that follow from the
target. -/
def planDifferences (baseline candidate : MeasurementPlan) : List String :=
  (if baseline.target ≠ candidate.target then ["target", "backend", "deviceClass"] else []) ++
  reportDifference "outputTokens" baseline.outputTokens candidate.outputTokens ++
  reportDifference "requestsPerRepetition" baseline.requests candidate.requests ++
  reportDifference "warmupRuns" baseline.warmupRuns candidate.warmupRuns ++
  reportDifference "measuredRepetitions" baseline.repetitions candidate.repetitions

theorem contractDifferences_contractOf (baseline candidate : MeasurementPlan) :
    contractDifferences (contractOf baseline) (contractOf candidate) =
      planDifferences baseline candidate := by
  have htarget : reportDifference "target" baseline.target candidate.target ++
      reportDifference "backend" (backendIdentity baseline.target)
        (backendIdentity candidate.target) ++
      reportDifference "deviceClass" (backendDeviceClass baseline.target)
        (backendDeviceClass candidate.target) =
      if baseline.target ≠ candidate.target then ["target", "backend", "deviceClass"] else [] := by
    cases baseline.target <;> cases candidate.target <;> rfl
  have hsame : ∀ {α : Type} [DecidableEq α] (name : String) (a : α),
      reportDifference name a a = [] := fun _ _ => reportDifference_eq_nil.mpr rfl
  simp only [contractDifferences, contractOf, hsame, List.nil_append, List.append_nil,
    planDifferences, ← htarget]

theorem planDifferences_eq_nil {baseline candidate : MeasurementPlan} :
    planDifferences baseline candidate = [] ↔ baseline = candidate := by
  constructor
  · intro h
    simp only [planDifferences, List.append_eq_nil_iff, reportDifference_eq_nil,
      ite_eq_right_iff] at h
    obtain ⟨⟨⟨⟨htarget, htokens⟩, hrequests⟩, hwarmups⟩, hrepetitions⟩ := h
    have hsame : baseline.target = candidate.target := by
      by_contra hne
      exact absurd (htarget hne) (by simp)
    cases baseline
    cases candidate
    simp_all
  · rintro rfl
    simp [planDifferences]

/-! ## Context -/

/-- Two bundles with the same records and resources, whose plans differ at most in the
metadata, the budget, the lifecycle and the artifacts, and so in their digests. -/
structure DiffersInContext (bundle other : VerifiedEvidenceBundle) : Prop where
  provider : other.plan.experiment.spec.provider = bundle.plan.experiment.spec.provider
  runtime : other.plan.experiment.spec.runtime = bundle.plan.experiment.spec.runtime
  workload : other.plan.experiment.spec.workload = bundle.plan.experiment.spec.workload
  measurement : other.plan.experiment.spec.measurement = bundle.plan.experiment.spec.measurement
  measurements : other.measurements = bundle.measurements
  resources : other.resources.map resourceValues = bundle.resources.map resourceValues

theorem DiffersInContext.measurementPlan {bundle other : VerifiedEvidenceBundle}
    (h : DiffersInContext bundle other) :
    other.plan.measurementPlan = bundle.plan.measurementPlan := by
  simp only [ResolvedExperiment.measurementPlan, h.runtime, h.workload, h.measurement]

/-- Two comparisons with the same verdict and the same metrics. -/
structure SameMetrics (comparison other : EvidenceComparison) : Prop where
  compatible : other.compatible = comparison.compatible
  incompatibilities : other.incompatibilities = comparison.incompatibilities
  measurementContract : other.measurementContract = comparison.measurementContract
  requests : other.requests = comparison.requests
  repetitions : other.repetitions = comparison.repetitions
  attemptResources : other.attemptResources = comparison.attemptResources

/-- Resources with the same values are there together. -/
theorem resources_of_map {one other : Option AttemptResources}
    (h : other.map resourceValues = one.map resourceValues) :
    (one = none ∧ other = none) ∨
      ∃ record record', one = some record ∧ other = some record' ∧
        resourceValues record' = resourceValues record := by
  cases one with
  | none => exact Or.inl ⟨rfl, Option.map_eq_none_iff.mp h⟩
  | some record =>
      obtain ⟨record', hother, hvalues⟩ := Option.map_eq_some_iff.mp h
      exact Or.inr ⟨record, record', rfl, hother, hvalues⟩

theorem compareResources_map {baseline baseline' candidate candidate' : Option AttemptResources}
    (hbaseline : baseline'.map resourceValues = baseline.map resourceValues)
    (hcandidate : candidate'.map resourceValues = candidate.map resourceValues) :
    compareResources baseline' candidate' = compareResources baseline candidate := by
  have hmetrics : ∀ {one other : AttemptResources}, resourceValues one = resourceValues other →
      one.cpuTimeMicros = other.cpuTimeMicros ∧ one.peakRssBytes = other.peakRssBytes := by
    intro one other h
    simp only [resourceValues, AttemptResourceValues.mk.injEq] at h
    exact h.2
  rcases resources_of_map hbaseline with ⟨rfl, rfl⟩ | ⟨one, one', rfl, rfl, hvalues⟩ <;>
    rcases resources_of_map hcandidate with ⟨rfl, rfl⟩ | ⟨other, other', rfl, rfl, hvalues'⟩
  · rfl
  · simp [compareResources, compareResourceMetrics, hvalues']
  · simp [compareResources, compareResourceMetrics, hvalues]
  · obtain ⟨hcpu, hrss⟩ := hmetrics hvalues
    obtain ⟨hcpu', hrss'⟩ := hmetrics hvalues'
    simp [compareResources, compareResourceMetrics, hvalues, hvalues', hcpu, hrss, hcpu', hrss']

/-- The sections read the records and the values of the resources. -/
theorem compareSections_congr {compatible : Bool}
    {baseline baseline' candidate candidate' : VerifiedEvidenceBundle}
    (hbaseline : measuredRecords baseline'.measurements = measuredRecords baseline.measurements)
    (hcandidate : measuredRecords candidate'.measurements = measuredRecords candidate.measurements)
    (hresources : compareResources baseline'.resources candidate'.resources =
      compareResources baseline.resources candidate.resources) :
    compareSections compatible baseline' candidate' =
      compareSections compatible baseline candidate := by
  simp only [compareSections, compareRequests, compareRepetitions, requestValues,
    repetitionValues, hbaseline, hcandidate, hresources]

/-! ## The law -/

/-- The comparison of two verified and eligible bundles of distinct runs is compatible
exactly when their plans agree on what the measurements depend on; it names what they
differ in; and bundles that differ from them in context alone are compared with the same
verdict and metrics. -/
theorem compareEvidenceBundles_compatibility {codec : Codec} {disk : FileTree}
    {path path' : List FileName} {baseline candidate : VerifiedEvidenceBundle}
    (hbaseline : VerifiesAs codec disk path baseline)
    (hcandidate : VerifiesAs codec disk path' candidate) (heligible : baseline.IsEligible)
    (heligible' : candidate.IsEligible)
    (hdistinct : baseline.manifest.runId ≠ candidate.manifest.runId) :
    ∃ comparison plan plan', compareEvidenceBundles codec disk path path' =
        returns (.ok comparison) ∧
      baseline.plan.measurementPlan = some plan ∧ candidate.plan.measurementPlan = some plan' ∧
      (comparison.compatible = true ↔ plan = plan') ∧
      comparison.incompatibilities = planDifferences plan plan' ∧
      ∀ (disk' : FileTree) (replacedPath replacedPath' : List FileName)
        (replaced replaced' : VerifiedEvidenceBundle),
        VerifiesAs codec disk' replacedPath replaced →
        VerifiesAs codec disk' replacedPath' replaced' →
        replaced.IsEligible → replaced'.IsEligible →
        replaced.manifest.runId ≠ replaced'.manifest.runId →
        DiffersInContext baseline replaced → DiffersInContext candidate replaced' →
        ∃ other, compareEvidenceBundles codec disk' replacedPath replacedPath' =
          returns (.ok other) ∧ SameMetrics comparison other := by
  obtain ⟨contract, hcontract⟩ := heligible
  obtain ⟨contract', hcontract'⟩ := heligible'
  obtain ⟨plan, hplan, rfl⟩ := hbaseline.established.contract_eq hcontract
  obtain ⟨plan', hplan', rfl⟩ := hcandidate.established.contract_eq hcontract'
  obtain ⟨provenance, hkept⟩ := exists_provenance_of_hasContract hcontract
  obtain ⟨provenance', hkept'⟩ := exists_provenance_of_hasContract hcontract'
  obtain ⟨comparison, hcompared, hcompatible, hincompatible, hsections, -⟩ :=
    exists_compareVerified_of_contracts hbaseline.established hcandidate.established hdistinct
      hcontract hcontract' (contractDifferences_contractOf plan plan')
  refine ⟨comparison, plan, plan', (compareEvidenceBundles_eq hbaseline hcandidate).trans hcompared,
    hplan, hplan', ?_, hincompatible, ?_⟩
  · rw [hcompatible, List.isEmpty_iff, planDifferences_eq_nil]
  · intro disk' replacedPath replacedPath' replaced replaced' hreplaced hreplaced' heligible
      heligible' hdistinct' hcontext hcontext'
    -- the replaced bundles have the plans, and so the contracts, of the original ones
    obtain ⟨contract, hcontractR⟩ := heligible
    obtain ⟨contract', hcontractR'⟩ := heligible'
    obtain ⟨planR, hplanR, rfl⟩ := hreplaced.established.contract_eq hcontractR
    obtain ⟨planR', hplanR', rfl⟩ := hreplaced'.established.contract_eq hcontractR'
    rw [hcontext.measurementPlan, hplan] at hplanR
    rw [hcontext'.measurementPlan, hplan'] at hplanR'
    obtain rfl := Option.some.inj hplanR
    obtain rfl := Option.some.inj hplanR'
    obtain ⟨provenanceR, hkeptR⟩ := exists_provenance_of_hasContract hcontractR
    obtain ⟨provenanceR', hkeptR'⟩ := exists_provenance_of_hasContract hcontractR'
    have hsectionsR : compareSections (planDifferences plan plan').isEmpty replaced replaced' =
        some (comparison.requests, comparison.repetitions, comparison.attemptResources) := by
      rw [compareSections_congr (congrArg measuredRecords hcontext.measurements)
        (congrArg measuredRecords hcontext'.measurements)
        (compareResources_map hcontext.resources hcontext'.resources), ← hcompatible]
      exact hsections
    have hsections' := hsections
    rw [hcompatible] at hsections'
    have hresult := compareVerified_of_contracts hdistinct hcontract hcontract' hkept hkept'
      (contractDifferences_contractOf plan plan') hsections'
    rw [hcompared] at hresult
    have hshown : comparison.measurementContract =
        if (planDifferences plan plan').isEmpty = true then some (contractOf plan) else none :=
      congrArg (·.measurementContract) (Except.ok.inj (returns_injective hresult))
    refine ⟨_, (compareEvidenceBundles_eq hreplaced hreplaced').trans
      (compareVerified_of_contracts hdistinct' hcontractR hcontractR' hkeptR hkeptR'
        (contractDifferences_contractOf plan plan') hsectionsR), ?_⟩
    exact ⟨hcompatible.symm, hincompatible.symm, hshown.symm, rfl, rfl, rfl⟩

/-! ## A sample pair

Two succeeded CPU runs of one plan, with a warm-up and a measured repetition of one
request each, that differ in nothing but the identity of the run. -/

namespace SamplePair

open SampleBundle (formatFloat time isAbove_toVec sizeWith_run sizeWith_summary sizeWith_manifest)

inductive Side where
  | baseline
  | candidate

def Side.runId : Side → String
  | .baseline => "run-018f6f9a-7b3c-7abc-8def-0123456789ab"
  | .candidate => "run-018f6f9a-7b3c-7abc-8def-0123456789ac"

def experiment : Experiment :=
  let sample := Experiment.sample .local (.llamaCpp .cpu Schema.llamaCppModelIdentity 1)
    Schema.llamaCppWorkloadProfile
  { sample with spec := { sample.spec with measurement := ⟨1, 1⟩ } }

def experimentText : String := (experiment.toJson formatFloat).compact

def experimentDigest : String := sha256Digest sha256 (toVec (experiment.toJson formatFloat))

def resolvedPlanDigest : String :=
  sha256Digest sha256 (toVec (resolvedPlanContent formatFloat experiment experimentDigest))

def plan : ResolvedExperiment where
  apiVersion := Schema.apiVersion
  kind := "ResolvedExperiment"
  experiment := experiment
  experimentDigest := experimentDigest
  resolvedPlanDigest := resolvedPlanDigest

def run (side : Side) : RunRecord :=
  ⟨side.runId, .succeeded, time, time, some time, experimentDigest, resolvedPlanDigest, 1, none⟩

def attempt (side : Side) : AttemptRecord :=
  ⟨side.runId, 1, .succeeded, time, time, some time, none⟩

def event (side : Side) : LifecycleEvent := ⟨side.runId, 1, time, none, .created, 1, none⟩

def measured : MeasurementRecord :=
  .sample Schema.llamaCppGeneratorVersion 10 [⟨1, 10, 1⟩]

/-- A warm-up of one request. -/
def warmup (latencyMicros : UInt64) : MeasurementRecord :=
  { MeasurementRecord.sample Schema.llamaCppGeneratorVersion latencyMicros
      [⟨1, latencyMicros, 1⟩] with phase := .warmup }

def validity (side : Side) : ValidityResult := ⟨side.runId, .valid, 1, 1, []⟩

def summary (side : Side) : RunSummary :=
  ⟨side.runId, .succeeded, 1, 1, .valid, some ⟨10, 10, 10⟩, some 1, experimentDigest,
    resolvedPlanDigest⟩

theorem isTerminal_succeeded : RunState.succeeded.isTerminal = true := rfl

def manifest (side : Side) : TerminalManifest where
  toEvidenceManifest := ⟨Schema.evidenceFormatV1, side.runId, .succeeded, .valid,
    experimentDigest, resolvedPlanDigest, 1⟩
  terminal := isTerminal_succeeded

def engine : SoftwareComponentProvenance :=
  ⟨Schema.llamaCppEngineName, Schema.llamaCppEngineVersion, none⟩

def model : ModelProvenance := ⟨Schema.llamaCppModelIdentity, Schema.llamaCppModelSha256, none⟩

def backend : BackendProvenance := ⟨Schema.llamaCppBackendIdentity, .cpu, none, none⟩

def provenance (side : Side) : AttemptProvenance where
  format := Schema.attemptProvenanceFormatV1
  runId := side.runId
  attemptNumber := 1
  platform := capturePlatform Host.sample
  software := ⟨⟨Schema.benchplaneSoftwareName, "0.1.0", none⟩,
    .llamaCpp Schema.llamaCppGeneratorVersion engine model backend⟩

/-- What there is of a record on the two sides. -/
def both {α : Type} (record : Side → α) : List α := [record .baseline, record .candidate]

theorem mem_both {α : Type} {record : Side → α} (side : Side) : record side ∈ both record := by
  cases side <;> simp [both]

def codec : Codec := { Codec.refusing with
  formatFloat := formatFloat
  experiment := decodeKnown experimentText experiment
  plan := decodeKnown (toVec (plan.toJson formatFloat)) plan
  manifest := decodeAmong EvidenceManifest.toJson
    (both fun side => (manifest side).toEvidenceManifest)
  run := decodeAmong RunRecord.toJson (both run)
  attempt := decodeAmong AttemptRecord.toJson (both attempt)
  event := decodeAmong LifecycleEvent.toJson (both event)
  measurement := decodeAmong MeasurementRecord.toJson [measured, warmup 10, warmup 20]
  provenance := decodeAmong AttemptProvenance.toJson (both provenance)
  validity := decodeAmong ValidityResult.toJson (both validity)
  summary := decodeAmong RunSummary.toJson (both summary) }

/-- The records behind a warm-up of some latency. -/
def records (latencyMicros : UInt64) : List MeasurementRecord := [warmup latencyMicros, measured]

def content (side : Side) : StagedFile → Bytes
  | .experiment => utf8 experimentText
  | .plan => toVec (plan.toJson formatFloat)
  | .run => toVec (run side).toJson
  | .events => jsonLine (event side).toJson
  | .validity => toVec (validity side).toJson
  | .summary => toVec (summary side).toJson
  | .manifest => toVec (manifest side).toJson
  | .attempt => toVec (attempt side).toJson
  | .measurements => measurementLines (records 10)
  | .provenance => toVec (provenance side).toJson
  | .resources => []

/-- The payloads of a sample, in the order of the inventory. -/
def files : List StagedFile :=
  [.attempt, .measurements, .provenance, .events, .experiment, .manifest, .plan, .run, .summary,
    .validity]

def directory (content : StagedFile → Bytes) : Directory :=
  let file (file : StagedFile) : FileName × Node := (file.name, .file (content file))
  let attempt := Directory.ofEntries [file .attempt, file .measurements, file .provenance]
  .ofEntries [(attemptsName, .directory (.ofEntries [(firstAttemptName, .directory attempt)])),
    file .events, file .experiment, file .manifest, file .plan, file .run, file .summary,
    file .validity]

theorem stagesFiles_directory (content : StagedFile → Bytes) :
    StagesFiles (directory content) files content := by
  constructor
  case distinct =>
    simp only [directory, Directory.ofEntries, List.foldr, Directory.Distinct,
      Directory.names, and_true]
    decide
  case payloads => rfl
  case temporary =>
    simp only [directory, Directory.ofEntries, List.foldr, Directory.names]
    decide
  case entryCount =>
    show (12 : Nat) + 1 ≤ _
    decide
  case fileCount => decide
  case walk =>
    have hwalk : (gatherDirectory [] (directory content) ⟨.empty, 0⟩).toOption.map
          (fun walk => walk.payloads.entries) =
        some (files.map fun file => (file.display, utf8 file.display)) := by
      -- the walk does not look at the contents
      simp only [directory, Directory.ofEntries, List.foldr, gatherDirectory]
      rfl
    obtain ⟨walk, hwalk, hentries⟩ := Option.map_eq_some_iff.mp hwalk
    exact ⟨walk, toOption_eq_some.mp hwalk, hentries⟩

def root (side : Side) : BundleRoot where
  path := [.ofString side.runId (by cases side <;> decide)]
  tree := stagedBundle sha256 (directory (content side)) files (content side)
  distinct := (stagesFiles_directory (content side)).distinct_stagedBundle

theorem fileAt_root (side : Side) (file : StagedFile) :
    (root side).fileAt file.display = if file ∈ files then some (content side file) else none :=
  (stagesFiles_directory (content side)).fileAt rfl file

/-! ### Sizes -/

theorem quoteBound_runId (side : Side) : Json.quoteBound side.runId = 242 := by
  cases side <;> rfl

theorem quoteBound_experimentDigest : Json.quoteBound experimentDigest = 428 :=
  Json.quoteBound_digest _

theorem quoteBound_resolvedPlanDigest : Json.quoteBound resolvedPlanDigest = 428 :=
  Json.quoteBound_digest _

theorem sizeWith_plan {a b : String} (ha : Json.quoteBound a = 428)
    (hb : Json.quoteBound b = 428) : (ResolvedExperiment.toJson formatFloat
      ⟨Schema.apiVersion, "ResolvedExperiment", experiment, a, b⟩).sizeWith Json.quoteBound ≤
        maxResolvedPlanBytes := by
  simp only [ResolvedExperiment.toJson, Json.record, JsonFields.ofList, Json.sizeWith,
    JsonFields.sizeWith, JsonFields.isNil, Bool.false_eq_true, if_false, if_true, ha, hb]
  exact Nat.le_of_ble_eq_true rfl

theorem isAbove_content (side : Side) (file : StagedFile) :
    isAbove (retainedLimit file.display) (content side file).length = false := by
  have hid := quoteBound_runId side
  have ha := quoteBound_experimentDigest
  have hb := quoteBound_resolvedPlanDigest
  cases file with
  | experiment =>
      have hsize : (experiment.toJson formatFloat).sizeWith Json.quoteBound ≤
          maxExperimentBytes := by
        exact Nat.le_of_ble_eq_true rfl
      exact isAbove_toVec rfl hsize
  | plan => exact isAbove_toVec rfl (sizeWith_plan ha hb)
  | run => exact isAbove_toVec rfl (sizeWith_run hid ha hb)
  | events =>
      have hsize : (event side).toJson.sizeWith Json.quoteBound ≤ 4096 := by
        cases side <;> exact Nat.le_of_ble_eq_true rfl
      have hline := (event side).toJson.utf8ByteSize_compact_le Json.boundsQuotes_quoteBound
      have hlength : (content side .events).length =
          (event side).toJson.compact.utf8ByteSize + 1 := length_jsonLine _
      rw [show retainedLimit (StagedFile.display .events) = some maxIdentityRecordBytes from rfl]
      simp only [isAbove, decide_eq_false_iff_not, hlength, maxIdentityRecordBytes]
      omega
  | validity =>
      have hsize : (validity side).toJson.sizeWith Json.quoteBound ≤ maxIdentityRecordBytes := by
        cases side <;> exact Nat.le_of_ble_eq_true rfl
      exact isAbove_toVec rfl hsize
  | summary => exact isAbove_toVec rfl (sizeWith_summary hid ha hb (Or.inl rfl))
  | manifest => exact isAbove_toVec rfl (sizeWith_manifest hid ha hb)
  | attempt =>
      have hsize : (attempt side).toJson.sizeWith Json.quoteBound ≤ maxIdentityRecordBytes := by
        cases side <;> exact Nat.le_of_ble_eq_true rfl
      exact isAbove_toVec rfl hsize
  | provenance =>
      have hsize : (provenance side).toJson.sizeWith Json.quoteBound ≤
          maxAttemptProvenanceBytes := by
        cases side <;> exact Nat.le_of_ble_eq_true rfl
      exact isAbove_toVec rfl hsize
  | measurements | resources => rfl

/-! ### Acceptance -/

theorem validate_experiment : experiment.validate = .ok () := by rfl

theorem resolve_experiment : resolveExperiment codec experiment = .ok plan := by
  have hhash : codec.hash = sha256 := rfl
  have hformat : codec.formatFloat = formatFloat := rfl
  simp only [resolveExperiment, validate_experiment, hhash, hformat]
  rfl

theorem parse_experiment : parseExperiment codec (utf8 experimentText) = .ok experiment := by
  have hknown : codec.experiment experimentText = .ok experiment := by
    simp only [codec, decodeKnown_self]
  simp only [parseExperiment, bind_eq_ok_iff, orReject_eq_ok, mapFailure_eq_ok]
  exact ⟨experimentText, decodeUtf8_utf8 _, hknown⟩

theorem partialEq_plan : plan.partialEq plan = true :=
  ResolvedExperiment.partialEq_self (Experiment.isFinite_of_validate validate_experiment)

theorem validate_manifest (side : Side) :
    validateManifest (manifest side).toEvidenceManifest = .ok (manifest side) := by
  have hrun : isBlank side.runId = false ∧ isRunId side.runId = true := by
    cases side <;> and_intros <;> rfl
  simp only [validateManifest, bind_eq_ok_iff, rejectIf_eq_ok, pure_eq_ok_iff]
  refine ⟨(), ?_, (), ?_, (), ?_, manifest side, rfl, (), ?_, (), ?_, (), ?_, rfl⟩
  · exact not_not_intro rfl
  · simp [manifest, hrun.1]
  · simp [manifest, hrun.2]
  · exact not_not_intro rfl
  · exact not_not_intro (isSha256Digest_sha256Digest _ _)
  · exact not_not_intro (isSha256Digest_sha256Digest _ _)

/-- Every record of the sample is valid by itself and behind the others. -/
theorem validate_records {latencyMicros : UInt64} (hlatency : latencyMicros ∈ [10, 20])
    {position : Nat} {record : MeasurementRecord}
    (h : (records latencyMicros)[position]? = some record) {prior : Option String}
    (hprior : prior ∈ [none, some Schema.llamaCppGeneratorVersion]) :
    validateMeasurementRecord record position 1 plan prior = .ok () := by
  have hok : (validateMeasurementRecord record position 1 plan prior).isOk = true := by
    simp only [List.mem_cons, List.not_mem_nil, or_false] at hlatency hprior
    cases position with
    | zero =>
        obtain rfl : warmup latencyMicros = record := Option.some.inj h
        rcases hlatency with rfl | rfl <;> rcases hprior with rfl | rfl <;> rfl
    | succ position =>
        cases position with
        | zero =>
            obtain rfl : measured = record := Option.some.inj h
            rcases hprior with rfl | rfl <;> rfl
        | succ position => simp [records] at h
  obtain ⟨⟨⟩, hvalid⟩ := exists_of_isOk hok
  exact hvalid

theorem decode_measurement {record : MeasurementRecord}
    (h : record ∈ [measured, warmup 10, warmup 20]) :
    codec.measurement (toVec record.toJson) = .ok record := by
  have hcodec : codec.measurement =
      decodeAmong MeasurementRecord.toJson [measured, warmup 10, warmup 20] := rfl
  rw [hcodec]
  exact decodeAmong_of_mem
    (toVec_injective MeasurementRecord.toJson_injective MeasurementRecord.fits_toJson) h

theorem measurements_fit {latencyMicros : UInt64} (hlatency : latencyMicros ∈ [10, 20]) :
    MeasurementsFit codec plan .succeeded 1 1 Schema.llamaCppGeneratorVersion
      (records latencyMicros) := by
  have hknown : ∀ record ∈ records latencyMicros,
      record ∈ [measured, warmup 10, warmup 20] := by
    simp only [List.mem_cons, List.not_mem_nil, or_false] at hlatency
    rcases hlatency with rfl | rfl <;> simp [records]
  have hsize : ∀ record ∈ records latencyMicros, record.toJson.compact.utf8ByteSize ≤ 4096 := by
    intro record hrecord
    have hbound : record.toJson.sizeWith Json.quoteBound ≤ 4096 := by
      have hmem := hknown record hrecord
      simp only [List.mem_cons, List.not_mem_nil, or_false] at hmem
      rcases hmem with rfl | rfl | rfl <;> exact Nat.le_of_ble_eq_true rfl
    have hline := record.toJson.utf8ByteSize_compact_le Json.boundsQuotes_quoteBound
    omega
  constructor
  case counts => rfl
  case length => rfl
  case representable =>
    show (2 : Nat) < 2 ^ 32
    decide
  case generated =>
    intro record hrecord
    simp only [records, List.mem_cons, List.not_mem_nil, or_false] at hrecord
    rcases hrecord with rfl | rfl <;> rfl
  case valid => exact fun position record h => validate_records hlatency h (by simp)
  case decoded => exact fun record hrecord => decode_measurement (hknown record hrecord)
  case lineBytes =>
    intro record hrecord
    have hline := hsize record hrecord
    rw [length_jsonLine, maxMeasurementLineBytes]
    omega
  case totalBytes =>
    have hwarmup := hsize (warmup latencyMicros) (by simp [records])
    have hmeasured := hsize measured (by simp [records])
    simp only [measurementLines, records, List.flatMap_cons, List.flatMap_nil, List.append_nil,
      List.length_append, length_jsonLine, maxMeasurementsBytes]
    omega

/-- What the verifier makes of a sample. -/
def bundle (side : Side) : VerifiedEvidenceBundle :=
  ⟨root side, manifest side, plan, some (provenance side), none, records 10⟩

/-- What the verifier makes of its measurement file. -/
def validation : MeasurementValidation := ⟨1, some Schema.llamaCppGeneratorVersion, records 10⟩

theorem matches_summary (side : Side) :
    matchesSummary (summary side) (manifest side) validation = true := by
  have hstatistics : expectedStatistics (manifest side) (records 10) = (some ⟨10, 10, 10⟩, some 1) := by
    cases side <;> decide +kernel
  simp only [matchesSummary, validation, hstatistics]
  simp [summary, manifest]

theorem validate_provenance (side : Side) :
    validateAttemptProvenance (provenance side) (manifest side) plan validation.generator =
      .ok () := by
  obtain ⟨⟨⟩, hok⟩ := exists_of_isOk (x := validateAttemptProvenance (provenance side)
    (manifest side) plan validation.generator) (by cases side <;> rfl)
  exact hok

/-- A record of a sample is read back. -/
theorem has_record {side : Side} {α : Type} {decode : Bytes → Except String α} {encode : α → Json}
    {record : Side → α} {good : α → Prop} (file : StagedFile) (hfile : file ∈ files)
    (hdecode : decode = decodeAmong encode (both record))
    (hcontent : content side file = toVec (encode (record side)))
    (hencode : Function.Injective fun record => toVec (encode record))
    (hgood : good (record side)) : (root side).Has decode file.display good := by
  refine ⟨content side file, record side, by rw [fileAt_root, if_pos hfile], ?_, hgood⟩
  rw [hdecode, hcontent]
  exact decodeAmong_of_mem hencode (mem_both side)

theorem inOrder (side : Side) : InOrder codec (root side) (bundle side) validation := by
  constructor
  case sameRoot => rfl
  case sameRecords => rfl
  case inventory =>
    exact (stagesFiles_directory (content side)).inventoryPhase rfl fun file _ =>
      isAbove_content side file
  case required =>
    intro file hfile
    have hmem : file ∈ files := by
      revert hfile
      cases file <;> decide
    exact ⟨content side file, by rw [fileAt_root, if_pos hmem]⟩
  case name => simp [BundleRoot.fileName, root, bundle, manifest]
  case manifest =>
    exact has_record .manifest (by decide) rfl rfl
      (toVec_injective EvidenceManifest.toJson_injective EvidenceManifest.fits_toJson)
      (validate_manifest side)
  case plan =>
    have hknown : codec.plan (content side .plan) = .ok plan := by
      simp only [codec, content, decodeKnown_self]
    refine ⟨_, plan, fileAt_root side .plan, hknown, rfl, ?_⟩
    simp only [validateResolvedPlan, bind_eq_ok_iff, mapFailure_eq_ok, rejectIf_eq_ok]
    have hdigests : plan.experimentDigest = experimentDigest ∧
        plan.resolvedPlanDigest = resolvedPlanDigest := ⟨rfl, rfl⟩
    exact ⟨plan, resolve_experiment, by simp [bundle, partialEq_plan, manifest, hdigests]⟩
  case experiment =>
    exact ⟨_, experiment, plan, fileAt_root side .experiment, parse_experiment,
      resolve_experiment, partialEq_plan⟩
  case measurements =>
    exact ⟨_, fileAt_root side .measurements,
      validateMeasurements_of_fit (measurements_fit (by simp)) (fileAt_root side .measurements) rfl⟩
  case run =>
    exact has_record .run (by decide) rfl rfl
      (toVec_injective RunRecord.toJson_injective RunRecord.fits_toJson)
      (by simp [matchesRun, run, bundle, manifest])
  case attempt =>
    exact has_record .attempt (by decide) rfl rfl
      (toVec_injective AttemptRecord.toJson_injective AttemptRecord.fits_toJson)
      (by cases side <;> rfl)
  case provenance =>
    exact has_record .provenance (by decide) rfl rfl
      (toVec_injective AttemptProvenance.toJson_injective AttemptProvenance.fits_toJson)
      ⟨rfl, validate_provenance side⟩
  case resources => exact fileAt_root side .resources
  case validity =>
    exact has_record .validity (by decide) rfl rfl
      (toVec_injective ValidityResult.toJson_injective ValidityResult.fits_toJson)
      (by cases side <;> rfl)
  case summary =>
    exact has_record .summary (by decide) rfl rfl
      (toVec_injective RunSummary.toJson_injective RunSummary.fits_toJson)
      (matches_summary side)
  case events =>
    refine ⟨jsonLine (event side).toJson, fileAt_root side .events, ?_⟩
    intro line hline
    have hlines : eventLines (jsonLine (event side).toJson) = [toVec (event side).toJson] := by
      simpa using eventLines_flatMap [event side]
    rw [hlines, List.mem_singleton] at hline
    subst hline
    have hcodec : codec.event = decodeAmong LifecycleEvent.toJson (both event) := rfl
    refine ⟨event side, ?_, rfl, rfl⟩
    rw [hcodec]
    exact decodeAmong_of_mem
      (toVec_injective LifecycleEvent.toJson_injective LifecycleEvent.fits_toJson) (mem_both side)

theorem accepted (side : Side) : verifyEvidenceBundleData codec (root side) = .ok (bundle side) :=
  (inOrder side).accepted

/-! ### The disk -/

/-- A disk with the two bundles. -/
def disk : FileTree where
  root := .ofEntries (both fun side => (.ofString side.runId (by cases side <;> decide),
    .directory (root side).tree))
  distinct := by
    simp only [both, Directory.ofEntries, List.foldr, Directory.Distinct, Directory.names]
    exact ⟨by decide, (root .baseline).distinct, by decide, (root .candidate).distinct, trivial⟩

theorem canonicalBundleRoot_disk (side : Side) :
    canonicalBundleRoot (root side).path disk = .ok (root side) := by
  apply canonicalBundleRoot_of_lookup
  cases side <;> rfl

theorem verifies (side : Side) : VerifiesAs codec disk (root side).path (bundle side) :=
  ⟨root side, canonicalBundleRoot_disk side, accepted side⟩

theorem isEligible (side : Side) : (bundle side).IsEligible := by
  have hmeets : MeetsContract (bundle side) .cpu Schema.llamaCppModelIdentity 1 (provenance side)
      engine model backend := by
    refine ⟨rfl, rfl, rfl, rfl, ?_, rfl, rfl⟩
    intro record hrecord
    exact (measurements_fit (by simp)).generated record hrecord
  exact ⟨_, fun role => eligibleContract_eq_ok.mpr ⟨_, _, _, _, _, _, _, hmeets, rfl⟩⟩

theorem differsInContext (side other : Side) : DiffersInContext (bundle side) (bundle other) :=
  ⟨rfl, rfl, rfl, rfl, rfl, rfl⟩

theorem runId_ne : (bundle .baseline).manifest.runId ≠ (bundle .candidate).manifest.runId := by
  show Side.runId .baseline ≠ Side.runId .candidate
  decide

end SamplePair

theorem compareEvidenceBundles_compatibility_sample :
    ∃ comparison other plan plan', compareEvidenceBundles SamplePair.codec SamplePair.disk
        (SamplePair.root .baseline).path (SamplePair.root .candidate).path =
          returns (.ok comparison) ∧
      (SamplePair.bundle .baseline).plan.measurementPlan = some plan ∧
      (SamplePair.bundle .candidate).plan.measurementPlan = some plan' ∧
      (comparison.compatible = true ↔ plan = plan') ∧
      compareEvidenceBundles SamplePair.codec SamplePair.disk
        (SamplePair.root .candidate).path (SamplePair.root .baseline).path =
          returns (.ok other) ∧ SameMetrics comparison other := by
  obtain ⟨comparison, plan, plan', hcompared, hplan, hplan', hcompatible, -, hreplaced⟩ :=
    compareEvidenceBundles_compatibility (SamplePair.verifies .baseline)
      (SamplePair.verifies .candidate) (SamplePair.isEligible .baseline)
      (SamplePair.isEligible .candidate) SamplePair.runId_ne
  -- the bundles differ in context alone, so each may stand for the other
  obtain ⟨other, hother, hsame⟩ := hreplaced _ _ _ _ _ (SamplePair.verifies .candidate)
    (SamplePair.verifies .baseline) (SamplePair.isEligible .candidate)
    (SamplePair.isEligible .baseline) (Ne.symm SamplePair.runId_ne)
    (SamplePair.differsInContext .baseline .candidate)
    (SamplePair.differsInContext .candidate .baseline)
  exact ⟨comparison, other, plan, plan', hcompared, hplan, hplan', hcompatible, hother, hsame⟩

end Benchplane
