import Benchplane.Evidence.Measurements
import Benchplane.Evidence.Provenance
import Benchplane.Execution

/-!
# The verifier

`verify_evidence_bundle_data` after its inventory phase: the manifest's own
checks, the required payloads, and the consistency of all records with the
manifest, the plan and the measurements.
-/

namespace Benchplane

open Library

/-! ## The manifest -/

/-- A lower-case hyphenated UUID of version 7 and the RFC 4122 variant.  Parsing a
UUID and comparing it with its hyphenated text leaves no other spelling. -/
def isUuidV7 (text : String) : Bool :=
  (splitAt '-' text).map (·.toList.length) = [8, 4, 4, 4, 12] &&
    text.toList.all (fun c => c = '-' || c.isDigit || ('a' ≤ c && c ≤ 'f')) &&
    text.toList[14]? = some '7' && text.toList[19]?.any (· ∈ "89ab".toList)

/-- `is_run_id`. -/
def isRunId (value : String) : Bool :=
  (stripPrefix "run-" value).any isUuidV7

/-- `is_sha256_digest`. -/
def isSha256Digest (value : String) : Bool :=
  (stripPrefix "sha256:" value).any fun digest =>
    (utf8 digest).length = 64 && (utf8 digest).all isLowerHex

/-- The check on the status, with what it establishes. -/
def requireTerminal (manifest : EvidenceManifest) : Except EvidenceError TerminalManifest :=
  if h : manifest.runStatus.isTerminal = true then .ok ⟨manifest, h⟩
  else .error .nonTerminalRunStatus

/-- `validate_manifest`. -/
def validateManifest (manifest : EvidenceManifest) : Except EvidenceError TerminalManifest := do
  rejectIf (manifest.format ≠ Schema.evidenceFormatV1) (.unsupportedFormat manifest.format)
  rejectIf (isBlank manifest.runId) (.emptyManifestField "runId")
  rejectIf (¬ isRunId manifest.runId) .invalidRunId
  let terminal ← requireTerminal manifest
  rejectIf (manifest.attemptCount ≠ 1) .invalidAttemptCount
  rejectIf (¬ isSha256Digest manifest.experimentDigest) .invalidExperimentDigest
  rejectIf (¬ isSha256Digest manifest.resolvedPlanDigest) .invalidResolvedPlanDigest
  pure terminal

/-- The payloads every bundle has, in the order they are looked for. -/
def requiredPayloads : List String :=
  ["experiment.yaml", "resolved-plan.json", "run.json", "events.jsonl", "validity.json",
    "summary.json", "manifest.json", "attempts/0001/attempt.json",
    "attempts/0001/measurements.jsonl"]

/-- `validate_required_payloads`. -/
def validateRequiredPayloads (names : List String) : Except EvidenceError Unit :=
  checkAll (fun path => rejectIf (path ∉ names) (.missingRequiredPayload path)) requiredPayloads

/-! ## Records -/

/-- The retained payloads by name. -/
abbrev Records := List (String × Bytes)

/-- The bytes of a required record. -/
def requireRecord (records : Records) (path : String) : Except EvidenceError Bytes :=
  orReject (.missingRequiredPayload path) (records.lookup path)

/-- `parse_record`. -/
def parseRecord {α : Type} (decode : Bytes → Except String α) (records : Records)
    (path : String) : Except EvidenceError α := do
  let bytes ← requireRecord records path
  mapFailure (.invalidRecord path) (decode bytes)

/-- A record that a bundle may leave out. -/
def parseOptionalRecord {α : Type} (decode : Bytes → Except String α)
    (check : α → Except EvidenceError Unit) (records : Records) (path : String) :
    Except EvidenceError (Option α) :=
  match records.lookup path with
  | none => .ok none
  | some bytes => do
      let record ← mapFailure (.invalidRecord path) (decode bytes)
      check record
      pure (some record)

/-- `validate_resolved_plan`. -/
def validateResolvedPlan (codec : Codec) (plan : ResolvedExperiment)
    (manifest : TerminalManifest) : Except EvidenceError Unit := do
  let expected ← mapFailure (fun error => .invalidResolvedPlan error.text)
    (resolveExperiment codec plan.experiment)
  rejectIf (¬ expected.partialEq plan ∨ plan.experimentDigest ≠ manifest.experimentDigest ∨
      plan.resolvedPlanDigest ≠ manifest.resolvedPlanDigest)
    (.invalidResolvedPlan "typed content or deterministic digests do not match the bundle")

/-- `validate_original_experiment`. -/
def validateOriginalExperiment (codec : Codec) (records : Records) (plan : ResolvedExperiment) :
    Except EvidenceError Unit := do
  let bytes ← requireRecord records "experiment.yaml"
  let experiment ← mapFailure (fun error => .invalidOriginalExperiment error.text)
    (parseExperiment codec bytes)
  let resolved ← mapFailure (fun error => .invalidOriginalExperiment error.text)
    (resolveExperiment codec experiment)
  rejectIf (¬ resolved.partialEq plan) (.invalidOriginalExperiment
    "experiment.yaml does not deterministically reproduce resolved-plan.json")

/-- The conditions on `run.json`. -/
def matchesRun (run : RunRecord) (manifest : TerminalManifest) : Bool :=
  run.runId = manifest.runId && run.runStatus = manifest.runStatus && run.attemptCount = 1 &&
    run.experimentDigest = manifest.experimentDigest &&
    run.resolvedPlanDigest = manifest.resolvedPlanDigest

/-- The attempt status of a terminal run status. -/
def expectedAttemptStatus (manifest : TerminalManifest) : AttemptStatus :=
  match manifest.runStatus, manifest.terminal with
  | .succeeded, _ => .succeeded
  | .failed, _ => .failed
  | .interrupted, _ => .interrupted

/-- The conditions on `attempt.json`. -/
def matchesAttempt (attempt : AttemptRecord) (manifest : TerminalManifest) : Bool :=
  attempt.runId = manifest.runId && attempt.attemptNumber = 1 &&
    attempt.status = expectedAttemptStatus manifest

/-- The validity of a terminal run status. -/
def expectedValidity (manifest : TerminalManifest) (plan : ResolvedExperiment)
    (measuredRecords : UInt32) : ValidityStatus :=
  match manifest.runStatus, manifest.terminal with
  | .succeeded, _ =>
      if measuredRecords ≥ plan.experiment.spec.measurement.repetitions then .valid else .invalid
  | .failed, _ | .interrupted, _ => .indeterminate

/-- The conditions on `validity.json`. -/
def matchesValidity (validity : ValidityResult) (manifest : TerminalManifest)
    (plan : ResolvedExperiment) (measuredRecords : UInt32) : Bool :=
  validity.runId = manifest.runId && validity.status = manifest.validityStatus &&
    validity.status = expectedValidity manifest plan measuredRecords &&
    validity.requiredSamples = plan.experiment.spec.measurement.repetitions &&
    validity.observedSamples = measuredRecords

/-- The statistics that `summary.json` must carry. -/
def expectedStatistics (manifest : TerminalManifest) (records : List MeasurementRecord) :
    Option LatencySummary × Option UInt64 :=
  let measured := records.filter (·.phase = .measured)
  if measured = [] ∨ manifest.validityStatus = .indeterminate then (none, none)
  else
    (describeMicros (measured.map (·.latencyMicros)),
      meanU64 (measured.map (·.throughputMilliRequestsPerSecond)))

/-- The conditions on `summary.json`. -/
def matchesSummary (summary : RunSummary) (manifest : TerminalManifest)
    (validation : MeasurementValidation) : Bool :=
  let (expectedLatency, expectedThroughput) := expectedStatistics manifest validation.records
  summary.runId = manifest.runId && summary.runStatus = manifest.runStatus &&
    summary.validityStatus = manifest.validityStatus && summary.attemptCount = 1 &&
    summary.sampleCount = validation.measuredRecords &&
    summary.experimentDigest = manifest.experimentDigest &&
    summary.resolvedPlanDigest = manifest.resolvedPlanDigest &&
    summary.latency = expectedLatency &&
    summary.meanThroughputMilliRequestsPerSecond = expectedThroughput

/-- The check of one line of `events.jsonl`. -/
def validateEvent (codec : Codec) (manifest : TerminalManifest) (line : Bytes) :
    Except EvidenceError Unit := do
  let event ← mapFailure (.invalidRecord "events.jsonl") (codec.event line)
  rejectIf (event.runId ≠ manifest.runId ∨ event.attemptNumber ≠ 1)
    (.inconsistentRecord "events.jsonl")

/-- The lines of `events.jsonl` that are looked at. -/
def eventLines (bytes : Bytes) : List Bytes := (bytes.splitOn 10).filter (· ≠ [])

/-! ## The bundle -/

structure VerifiedEvidenceBundle where
  root : BundleRoot
  manifest : TerminalManifest
  plan : ResolvedExperiment
  provenance : Option AttemptProvenance
  resources : Option AttemptResources
  measurements : List MeasurementRecord

/-- `root.file_name()` as text. -/
def BundleRoot.fileName (root : BundleRoot) : Option String :=
  root.path.getLast?.bind FileName.toStr

/-- `validate_record_consistency`. -/
def validateRecordConsistency (codec : Codec) (root : BundleRoot) (manifest : TerminalManifest)
    (records : Records) (digests : List (String × String)) :
    Except EvidenceError VerifiedEvidenceBundle := do
  rejectIf (root.fileName ≠ some manifest.runId) .bundleRunIdMismatch
  let plan ← parseRecord codec.plan records "resolved-plan.json"
  validateResolvedPlan codec plan manifest
  validateOriginalExperiment codec records plan
  let measurementDigest ← orReject (.missingRequiredPayload "attempts/0001/measurements.jsonl")
    (digests.lookup "attempts/0001/measurements.jsonl")
  let validation ← validateMeasurements codec root measurementDigest plan manifest.runStatus
  let run ← parseRecord codec.run records "run.json"
  rejectIf (¬ matchesRun run manifest) (.inconsistentRecord "run.json")
  let attempt ← parseRecord codec.attempt records "attempts/0001/attempt.json"
  rejectIf (¬ matchesAttempt attempt manifest) (.inconsistentRecord "attempts/0001/attempt.json")
  let provenance ← parseOptionalRecord codec.provenance
    (fun provenance => validateAttemptProvenance provenance manifest plan validation.generator)
    records "attempts/0001/provenance.json"
  let resources ← parseOptionalRecord codec.resources
    (fun resources => validateAttemptResources resources manifest plan)
    records "attempts/0001/resources.json"
  let validity ← parseRecord codec.validity records "validity.json"
  rejectIf (¬ matchesValidity validity manifest plan validation.measuredRecords)
    (.inconsistentRecord "validity.json")
  let summary ← parseRecord codec.summary records "summary.json"
  rejectIf (¬ matchesSummary summary manifest validation) (.inconsistentRecord "summary.json")
  let events ← requireRecord records "events.jsonl"
  checkAll (validateEvent codec manifest) (eventLines events)
  pure ⟨root, manifest, plan, provenance, resources, validation.records⟩

/-- `verify_evidence_bundle_data`.  The look for a retained manifest comes between
the loop over `SHA256SUMS` and the check for payloads that were not declared. -/
def verifyEvidenceBundleData (codec : Codec) (root : BundleRoot) :
    Except EvidenceError VerifiedEvidenceBundle := do
  let (payloads, progress) ← readInventory codec.hash root
  let manifestBytes ← orReject .missingManifestChecksum (progress.retained.lookup "manifest.json")
  checkMissing payloads progress.names
  let manifest ← mapFailure .manifest (codec.manifest manifestBytes)
  let terminal ← validateManifest manifest
  validateRequiredPayloads progress.names
  validateRecordConsistency codec root terminal progress.retained progress.digests

/-- `verify_evidence_bundle` on the directory at a path of the disk. -/
def verifyEvidenceBundle (codec : Codec) (path : List FileName) (disk : FileTree) :
    Except EvidenceError EvidenceManifest := do
  let root ← canonicalBundleRoot path disk
  let bundle ← verifyEvidenceBundleData codec root
  pure bundle.manifest.toEvidenceManifest

end Benchplane
