import Benchplane.Evidence.Verifier
import Benchplane.Library.Panics

/-!
# The places where the verifier could panic

The verifier once more, with every operation that has no result on some arguments
written as one: additions that overflow, divisions, indices, prefixes that are
stripped, and the `expect` and `unreachable!` of the source.  What cannot panic is
taken from the verifier as it is.
-/

namespace Benchplane
namespace Machine

open Library Library.Panicking

/-! ## Statistics -/

/-- `mean_u64`. -/
def meanU64 (values : List UInt64) : Option (Option UInt64) :=
  if values = [] then some none
  else do
    let sum ← (values.map UInt64.toNat).foldlM (fun sum value => unsigned 128 (sum + value)) 0
    let mean ← quotient sum values.length
    pure (tryU64 mean)

/-- `nearest_rank`. -/
def nearestRank (sorted : List UInt64) (percentile : Nat) : Option UInt64 := do
  let scaled ← unsigned 64 (percentile * sorted.length)
  let rank := scaled / 100 + if scaled % 100 = 0 then 0 else 1
  sorted[rank - 1]?

/-- `describe_micros`. -/
def describeMicros (values : List UInt64) : Option (Option LatencySummary) :=
  if values = [] then some none
  else do
    let sorted := values.mergeSort fun a b => decide (a ≤ b)
    match ← meanU64 sorted with
    | none => pure none
    | some mean =>
        let p50 ← nearestRank sorted 50
        let p95 ← nearestRank sorted 95
        pure (some ⟨mean, p50, p95⟩)

/-! ## The walk -/

/-- The text of a component; the others have been excluded before. -/
def componentText (path : Bytes) : Component → Panicking EvidenceError String
  | .normal value => returns (orReject (.nonUtf8Path path) (decodeUtf8 value))
  | .rootDir | .curDir | .parentDir => demand none

/-- `normalized_relative_path`. -/
def normalizedRelativePath (path : Bytes) : Panicking EvidenceError String :=
  if path = [] ∨ isAbsolute path ∨ normalComponents (components path) = none then
    throw (.unsafePath path)
  else do
    let texts ← (components path).mapM (componentText path)
    pure (String.intercalate "/" texts)

/-- `Path::strip_prefix`. -/
def stripRoot (root path : List FileName) : Option (List FileName) :=
  if root <+: path then some (path.drop root.length) else none

/-- Count an entry and name it; `none` for the root's `SHA256SUMS`. -/
def visitEntry (root directory : List FileName) (name : FileName) (walk : Walk) :
    Panicking EvidenceError (Walk × Option (String × Bytes)) := do
  let entriesSeen ← demand (unsigned 64 (walk.entriesSeen + 1))
  returns (rejectIf (entriesSeen > maxChecksumEntries) .tooManyChecksumEntries)
  let relative ← demand (stripRoot root (directory ++ [name]))
  let display ← normalizedRelativePath (relativePath relative)
  pure ({ walk with entriesSeen := entriesSeen },
    if display = "SHA256SUMS" then none else some (display, relativePath relative))

/-- `gather_directory`. -/
def gatherDirectory (root directory : List FileName) :
    Directory → Walk → Panicking EvidenceError Walk
  | .empty, walk => pure walk
  | .entry name (.directory children) rest, walk => do
      match ← visitEntry root directory name walk with
      | (walk, none) => gatherDirectory root directory rest walk
      | (walk, some _) =>
          let walk ← gatherDirectory root (directory ++ [name]) children walk
          gatherDirectory root directory rest walk
  | .entry name (.file _) rest, walk => do
      match ← visitEntry root directory name walk with
      | (walk, none) => gatherDirectory root directory rest walk
      | (walk, some (display, relative)) =>
          gatherDirectory root directory rest
            { walk with payloads := walk.payloads.insert display relative }
  | .entry name (.symlink _) rest, walk => do
      match ← visitEntry root directory name walk with
      | (walk, none) => gatherDirectory root directory rest walk
      | (_, some (display, _)) => throw (.nonRegularFile display)
  | .entry name .special rest, walk => do
      match ← visitEntry root directory name walk with
      | (walk, none) => gatherDirectory root directory rest walk
      | (_, some (display, _)) => throw (.nonRegularFile display)
termination_by structural directory => directory

/-- `gather_payload_paths`. -/
def gatherPayloadPaths (root : BundleRoot) :
    Panicking EvidenceError (SortedMap String Bytes) := do
  let walk ← gatherDirectory root.path root.path root.tree ⟨.empty, 0⟩
  pure walk.payloads

/-! ## Reading files -/

def hashBufferBytes : Nat := 64 * 1024

/-- The pieces in which a file is read. -/
def readChunks (fuel : Nat) (content : Bytes) : List Bytes :=
  match fuel, content with
  | 0, _ | _, [] => []
  | fuel + 1, b :: rest =>
      (b :: rest).take hashBufferBytes :: readChunks fuel ((b :: rest).drop hashBufferBytes)

/-- Keep the bytes of a piece under the limit. -/
def retainChunk (display : String) (limit : Option Nat) (retained : Option Bytes)
    (chunk : Bytes) : Panicking EvidenceError (Option Bytes) :=
  match retained with
  | none => pure none
  | some bytes => do
      let bound ← demand limit
      returns (rejectIf (bytes.length + chunk.length > bound) (exceedsLimit display))
      pure (some (bytes ++ chunk))

/-- `hash_regular_file`. -/
def hashRegularFile (hash : Bytes → Digest) (root : BundleRoot) (relative : Bytes)
    (display : String) (limit : Option Nat) :
    Panicking EvidenceError (List FileName × String × Option Bytes) := do
  let names ← returns (checkedRegularPath root relative display)
  let content ← returns (readFile root names)
  returns (rejectIf (isAbove limit content.length) (exceedsLimit display))
  let retained ← (readChunks content.length content).foldlM (retainChunk display limit)
    (limit.map fun _ => [])
  pure (names, (hash content).hex, retained)

/-! ## Reading SHA256SUMS -/

/-- A declared digest and name, with their own checks done. -/
def parseEntry (line : String) : Panicking EvidenceError (String × String × Bytes) := do
  let (expected, relative) ←
    returns (orReject (.invalidChecksumLine line) (splitOnceText "  " line))
  returns (rejectIf ((utf8 expected).length ≠ 64 ∨ ¬ (utf8 expected).all isLowerHex)
    (.invalidChecksum relative))
  let path ← returns (validateRelativePath relative)
  let normalized ← normalizedRelativePath path
  returns (rejectIf (normalized ≠ relative) (.unsafePath (utf8 relative)))
  pure (expected, relative, path)

/-- The declaration of one payload. -/
def checkEntry (hash : Bytes → Digest) (root : BundleRoot) (payloads : SortedMap String Bytes)
    (progress : Progress) (line : String) : Panicking EvidenceError Progress := do
  returns (rejectIf (progress.names.length ≥ maxChecksumEntries) .tooManyChecksumEntries)
  let (expected, relative, path) ← parseEntry line
  returns (rejectIf (relative ∈ progress.names) (.duplicatePath relative))
  returns (rejectIf (¬ payloads.contains relative) (.declaredPayloadMissing relative))
  let (target, actual, bytes) ←
    hashRegularFile hash root path relative (retainedLimit relative)
  returns (rejectIf (progress.targets.contains target) (.duplicatePath relative))
  returns (rejectIf (actual ≠ expected) (.checksumMismatch relative))
  pure { progress with
    names := relative :: progress.names
    targets := target :: progress.targets
    digests := (relative, actual) :: progress.digests
    retained := match bytes with
      | none => progress.retained
      | some bytes => (relative, bytes) :: progress.retained }

/-- One line of `SHA256SUMS`. -/
def checkLine (hash : Bytes → Digest) (root : BundleRoot) (payloads : SortedMap String Bytes)
    (progress : Progress) (line : Bytes) : Panicking EvidenceError Progress := do
  let text ← returns (orReject .invalidChecksumFileEncoding (decodeUtf8 line))
  let progress := { progress with totalBytes := progress.totalBytes + line.length }
  returns (rejectIf (progress.totalBytes > maxChecksumFileBytes) .checksumFileTooLarge)
  returns (rejectIf (line.length > maxChecksumLineBytes) .checksumLineTooLong)
  let text := trimEndMatches ['\r', '\n'] text
  if isBlank text then pure progress else checkEntry hash root payloads progress text

/-- The walk and the loop over `SHA256SUMS`. -/
def readInventory (hash : Bytes → Digest) (root : BundleRoot) :
    Panicking EvidenceError (SortedMap String Bytes × Progress) := do
  let payloads ← gatherPayloadPaths root
  let names ← returns (checkedRegularPath root (utf8 "SHA256SUMS") "SHA256SUMS")
  let content ← returns (readFile root names)
  returns (rejectIf (content.length > maxChecksumFileBytes) .checksumFileTooLarge)
  let progress ←
    (splitInclusive 10 content).foldlM (checkLine hash root payloads) Progress.start
  pure (payloads, progress)

/-! ## Measurements -/

/-- `ceil_div_u128`. -/
def ceilDivU128 (dividend divisor : Nat) : Option Nat := do
  let whole ← quotient dividend divisor
  unsigned 128 (whole + if dividend % divisor = 0 then 0 else 1)

/-- The raw sums and their divisor, each checked. -/
def rawBounds (count roundedMicros : Nat) : Option (Nat × Nat × Nat) := do
  let scaled ← checkedU128 ((roundedMicros - count) * 1000)
  let minimumRawNanos ← checkedU128 (scaled + count)
  let maximumRawNanos ← checkedU128 (roundedMicros * 1000)
  let divisor ← checkedU128 (count * 1000)
  pure (minimumRawNanos, maximumRawNanos, divisor)

/-- `rounded_request_mean_bounds`. -/
def roundedRequestMeanBounds (values : List UInt64) : Option (Option (UInt64 × UInt64)) :=
  match values.foldlM addRounded (0, 0) with
  | none => some none
  | some (count, roundedMicros) =>
      if count = 0 ∨ roundedMicros < count then some none
      else
        match rawBounds count roundedMicros with
        | none => some none
        | some (minimumRawNanos, maximumRawNanos, divisor) => do
            let minimum ← ceilDivU128 minimumRawNanos divisor
            let maximum ← ceilDivU128 maximumRawNanos divisor
            pure do
              let minimum ← tryU64 minimum
              let maximum ← tryU64 maximum
              pure (minimum, maximum)

/-- `validate_llama_v2_aggregate_consistency`. -/
def validateLlamaV2AggregateConsistency (record : MeasurementRecord) :
    Panicking EvidenceError Unit := do
  let latency ← demand
    (roundedRequestMeanBounds (record.requestObservations.map (·.latencyMicros)))
  let latencyBounds ← returns (orReject
    (.invalidMeasurements "llamaCpp v2 latency aggregate bounds are not representable") latency)
  let ttft ← demand
    (roundedRequestMeanBounds (record.requestObservations.map (·.timeToFirstTokenMicros)))
  let ttftBounds ← returns (orReject
    (.invalidMeasurements "llamaCpp v2 TTFT aggregate bounds are not representable") ttft)
  returns (rejectIf
    (¬ (latencyBounds.1 ≤ record.latencyMicros ∧ record.latencyMicros ≤ latencyBounds.2) ∨
      ¬ (ttftBounds.1 ≤ record.timeToFirstTokenMicros ∧
        record.timeToFirstTokenMicros ≤ ttftBounds.2))
    (.invalidMeasurements
      "llamaCpp v2 aggregate latency or TTFT contradicts its request observations"))

/-- The loop over the observations of a record. -/
def checkObservations : List (RequestObservation × Nat) → Panicking EvidenceError Unit
  | [] => pure ()
  | (observation, index) :: rest => do
      let requestIndex ← demand (unsigned 32 (index % 2 ^ 32 + 1))
      returns (rejectIf (observation.requestIndex.toNat ≠ requestIndex ∨
          observation.latencyMicros = 0 ∨ observation.timeToFirstTokenMicros = 0 ∨
          observation.timeToFirstTokenMicros > observation.latencyMicros)
        (.invalidMeasurements "llamaCpp v2 request observation is out of order or invalid"))
      checkObservations rest

/-- Phase and repetition of a position. -/
def expectedPlace (warmupCount : UInt32) (position : Nat) : Option (MeasurementPhase × Nat) :=
  if position < warmupCount.toNat then do
    let repetitionIndex ← unsigned 32 (position + 1)
    pure (.warmup, repetitionIndex)
  else do
    let measured ← difference position warmupCount.toNat
    let repetitionIndex ← unsigned 32 (measured + 1)
    pure (.measured, repetitionIndex)

/-- The checks that every runtime's records have in common, at a place. -/
def matchesPlace (record : MeasurementRecord) (place : MeasurementPhase × Nat)
    (plan : ResolvedExperiment) (priorGenerator : Option String) : Bool :=
  record.attemptNumber = 1 && record.phase = place.1 &&
    record.repetitionIndex.toNat = place.2 && record.sampleIndex = 1 &&
    record.latencyMicros ≠ 0 && record.timeToFirstTokenMicros ≠ 0 &&
    record.timeToFirstTokenMicros ≤ record.latencyMicros &&
    record.throughputMilliRequestsPerSecond ≠ 0 &&
    record.successfulRequests = plan.experiment.spec.workload.requests &&
    record.failedRequests = 0 && priorGenerator.all (· = record.generator)

/-- The contract of a llama.cpp record. -/
def validateLlamaCppRecord (record : MeasurementRecord) (target : LlamaCppTarget)
    (requests : UInt32) : Panicking EvidenceError Unit :=
  if record.generator = Schema.llamaCppGeneratorVersionV1 ∧ target = .cpu ∧
      record.requestObservations = [] then pure ()
  else if record.generator = Schema.llamaCppGeneratorVersion then do
    returns (rejectIf (record.requestObservations.length ≠ requests.toNat) (.invalidMeasurements
      "llamaCpp v2 request-observation cardinality does not match workload.requests"))
    checkObservations record.requestObservations.zipIdx
    validateLlamaV2AggregateConsistency record
  else returns (invalidMeasurements "llamaCpp measurement generator is not supported")

/-- `validate_measurement_record`. -/
def validateMeasurementRecord (record : MeasurementRecord) (position : Nat)
    (warmupCount : UInt32) (plan : ResolvedExperiment) (priorGenerator : Option String) :
    Panicking EvidenceError Unit := do
  let place ← demand (expectedPlace warmupCount position)
  if matchesPlace record place plan priorGenerator then
    match plan.experiment.spec.runtime with
    | .localFake _ _ =>
        returns (rejectIf (record.generator ≠ Schema.localFakeGeneratorVersion ∨
            record.requestObservations ≠ [])
          (.invalidMeasurements "localFake measurement contract is not supported"))
    | .cpuProbe _ _ =>
        returns (rejectIf (record.generator ≠ Schema.cpuProbeGeneratorVersion ∨
            record.requestObservations ≠ [])
          (.invalidMeasurements "cpuProbe measurement contract is not supported"))
    | .llamaCpp target _ _ =>
        validateLlamaCppRecord record target plan.experiment.spec.workload.requests
    | .vllm _ _ _ => returns (invalidMeasurements "vLLM execution evidence is not supported")
  else do
    let number ← demand (unsigned 32 (position + 1))
    returns (invalidMeasurements
      ("aggregate record " ++ number.repr ++ " does not match the resolved execution"))

/-- The bytes of a record in memory. -/
def measurementRecordBytes : Nat := 96

/-- `Vec::with_capacity`, which panics above the largest allocation. -/
def withCapacity (count : Nat) : Option Unit :=
  if count * measurementRecordBytes < 2 ^ 63 then some () else none

/-- One turn of the loop of `validate_measurements`. -/
def checkMeasurementLine (codec : Codec) (plan : ResolvedExperiment) (warmupCount : UInt32)
    (expectedTotal : Nat) (progress : MeasurementProgress) (line : Bytes) :
    Panicking EvidenceError MeasurementProgress := do
  let progress := { progress with totalBytes := progress.totalBytes + line.length }
  returns (rejectIf (progress.totalBytes > maxMeasurementsBytes)
    (.invalidMeasurements "measurement payload exceeds its parsing limit"))
  returns (rejectIf (line.length > maxMeasurementLineBytes)
    (.invalidMeasurements "measurement record exceeds its line bound"))
  returns (rejectIf (line.getLast? ≠ some 10)
    (.invalidMeasurements "measurement JSONL ends with a truncated record"))
  returns (rejectIf (recordBytes line = [] ∨ progress.position ≥ expectedTotal)
    (.invalidMeasurements "measurement sequence has an empty or extra record"))
  let record ← returns (mapFailure (.invalidRecord "attempts/0001/measurements.jsonl")
    (codec.measurement (recordBytes line)))
  validateMeasurementRecord record progress.position warmupCount plan progress.generator
  let _ ← demand (unsigned 32 (progress.position + 1))
  pure { progress with
    generator := progress.generator.or (some record.generator)
    records := progress.records ++ [record] }

/-- `validate_measurements`. -/
def validateMeasurements (codec : Codec) (root : BundleRoot) (expectedDigest : String)
    (plan : ResolvedExperiment) (runStatus : RunState) :
    Panicking EvidenceError MeasurementValidation := do
  let display := "attempts/0001/measurements.jsonl"
  let names ← returns (checkedRegularPath root (utf8 display) display)
  let content ← returns (readFile root names)
  returns (rejectIf (content.length > maxMeasurementsBytes) (.invalidMeasurements
    (display ++ " exceeds the " ++ maxMeasurementsBytes.repr ++ "-byte parsing limit")))
  let (expectedWarmups, expectedMeasured) ← returns (expectedMeasurementCounts plan runStatus)
  let expectedTotal ← returns (orReject (.invalidMeasurements "record count overflowed")
    (checkedAdd32 expectedWarmups expectedMeasured))
  demand (withCapacity expectedTotal)
  let progress ← (splitInclusive 10 content).foldlM
    (checkMeasurementLine codec plan expectedWarmups expectedTotal) MeasurementProgress.start
  returns (rejectIf ((codec.hash content).hex ≠ expectedDigest) (.checksumMismatch display))
  returns (rejectIf (progress.position ≠ expectedTotal) (.invalidMeasurements
    ("measurement sequence has " ++ progress.position.repr ++ " records; expected " ++
      expectedTotal.repr)))
  pure ⟨expectedMeasured, progress.generator, progress.records⟩

/-! ## The records of a bundle -/

/-- The conditions on `attempt.json`. -/
def matchesAttempt (attempt : AttemptRecord) (expectedStatus : AttemptStatus)
    (manifest : TerminalManifest) : Bool :=
  attempt.runId = manifest.runId && attempt.attemptNumber = 1 && attempt.status = expectedStatus

/-- The validity of a run status; none where the source has an `unreachable!`. -/
def expectedValidity (runStatus : RunState) (plan : ResolvedExperiment)
    (measuredRecords : UInt32) : Option ValidityStatus :=
  match runStatus with
  | .succeeded =>
      if measuredRecords ≥ plan.experiment.spec.measurement.repetitions then some .valid
      else some .invalid
  | .failed | .interrupted => some .indeterminate
  | .created | .preparing | .running | .collecting | .finalizing => none

/-- The conditions on `validity.json`. -/
def matchesValidity (validity : ValidityResult) (expectedStatus : ValidityStatus)
    (manifest : TerminalManifest) (plan : ResolvedExperiment) (measuredRecords : UInt32) : Bool :=
  validity.runId = manifest.runId && validity.status = manifest.validityStatus &&
    validity.status = expectedStatus &&
    validity.requiredSamples = plan.experiment.spec.measurement.repetitions &&
    validity.observedSamples = measuredRecords

/-- The statistics that `summary.json` must carry. -/
def expectedStatistics (manifest : TerminalManifest) (records : List MeasurementRecord) :
    Option (Option LatencySummary × Option UInt64) :=
  let measured := records.filter (·.phase = .measured)
  if measured = [] ∨ manifest.validityStatus = .indeterminate then some (none, none)
  else do
    let latency ← describeMicros (measured.map (·.latencyMicros))
    let throughput ← meanU64 (measured.map (·.throughputMilliRequestsPerSecond))
    pure (latency, throughput)

/-- The conditions on `summary.json`. -/
def matchesSummary (summary : RunSummary) (statistics : Option LatencySummary × Option UInt64)
    (manifest : TerminalManifest) (validation : MeasurementValidation) : Bool :=
  summary.runId = manifest.runId && summary.runStatus = manifest.runStatus &&
    summary.validityStatus = manifest.validityStatus && summary.attemptCount = 1 &&
    summary.sampleCount = validation.measuredRecords &&
    summary.experimentDigest = manifest.experimentDigest &&
    summary.resolvedPlanDigest = manifest.resolvedPlanDigest &&
    summary.latency = statistics.1 &&
    summary.meanThroughputMilliRequestsPerSecond = statistics.2

/-- `validate_record_consistency`. -/
def validateRecordConsistency (codec : Codec) (root : BundleRoot) (manifest : TerminalManifest)
    (records : Records) (digests : List (String × String)) :
    Panicking EvidenceError VerifiedEvidenceBundle := do
  returns (rejectIf (root.fileName ≠ some manifest.runId) .bundleRunIdMismatch)
  let plan ← returns (parseRecord codec.plan records "resolved-plan.json")
  returns (validateResolvedPlan codec plan manifest)
  returns (validateOriginalExperiment codec records plan)
  let measurementDigest ← returns (orReject
    (.missingRequiredPayload "attempts/0001/measurements.jsonl")
    (digests.lookup "attempts/0001/measurements.jsonl"))
  let validation ← validateMeasurements codec root measurementDigest plan manifest.runStatus
  let run ← returns (parseRecord codec.run records "run.json")
  returns (rejectIf (¬ matchesRun run manifest) (.inconsistentRecord "run.json"))
  let attempt ← returns (parseRecord codec.attempt records "attempts/0001/attempt.json")
  let attemptStatus ← demand (attemptTerminal manifest.runStatus)
  returns (rejectIf (¬ matchesAttempt attempt attemptStatus manifest)
    (.inconsistentRecord "attempts/0001/attempt.json"))
  let provenance ← returns (parseOptionalRecord codec.provenance
    (fun provenance => validateAttemptProvenance provenance manifest plan validation.generator)
    records "attempts/0001/provenance.json")
  let resources ← returns (parseOptionalRecord codec.resources
    (fun resources => validateAttemptResources resources manifest plan)
    records "attempts/0001/resources.json")
  let validity ← returns (parseRecord codec.validity records "validity.json")
  let validityStatus ← demand
    (expectedValidity manifest.runStatus plan validation.measuredRecords)
  returns (rejectIf
    (¬ matchesValidity validity validityStatus manifest plan validation.measuredRecords)
    (.inconsistentRecord "validity.json"))
  let summary ← returns (parseRecord codec.summary records "summary.json")
  let statistics ← demand (expectedStatistics manifest validation.records)
  returns (rejectIf (¬ matchesSummary summary statistics manifest validation)
    (.inconsistentRecord "summary.json"))
  let events ← returns (requireRecord records "events.jsonl")
  returns (checkAll (validateEvent codec manifest) (eventLines events))
  pure ⟨root, manifest, plan, provenance, resources, validation.records⟩

/-- `verify_evidence_bundle_data`. -/
def verifyEvidenceBundleData (codec : Codec) (root : BundleRoot) :
    Panicking EvidenceError VerifiedEvidenceBundle := do
  let (payloads, progress) ← readInventory codec.hash root
  let manifestBytes ←
    returns (orReject .missingManifestChecksum (progress.retained.lookup "manifest.json"))
  returns (checkMissing payloads progress.names)
  let manifest ← returns (mapFailure .manifest (codec.manifest manifestBytes))
  let terminal ← returns (validateManifest manifest)
  returns (validateRequiredPayloads progress.names)
  validateRecordConsistency codec root terminal progress.retained progress.digests

/-- `verify_evidence_bundle_data` at a path of the disk. -/
def verifyEvidenceBundleAt (codec : Codec) (path : List FileName) (disk : FileTree) :
    Panicking EvidenceError VerifiedEvidenceBundle := do
  let root ← returns (canonicalBundleRoot path disk)
  verifyEvidenceBundleData codec root

end Machine
end Benchplane
