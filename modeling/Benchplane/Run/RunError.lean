import Benchplane.Evidence.Inventory
import Benchplane.Run.ExecutionKind
import Benchplane.Run.Lifecycle

/-!
# Errors of a run

The errors and their texts.  The text of what went wrong ends up in the records
of a failed run, so it is part of what the program writes.
-/

namespace Benchplane

open Library

/-- A path as text, with replacement characters. -/
def lossyText (path : Bytes) : String := String.ofList (utf8Lossy path)

/-- The text of an operating system error. -/
def ioErrorText : IoError → String
  | .notFound => "No such file or directory (os error 2)"
  | .alreadyExists => "File exists (os error 17)"
  | .notADirectory => "Not a directory (os error 20)"
  | .isADirectory => "Is a directory (os error 21)"
  | .invalidInput => "Invalid argument (os error 22)"
  | .directoryNotEmpty => "Directory not empty (os error 39)"
  | .other description => description

def EvidenceError.text : EvidenceError → String
  | .read path source => "could not read " ++ lossyText path ++ ": " ++ ioErrorText source
  | .write path source => "could not write " ++ lossyText path ++ ": " ++ ioErrorText source
  | .invalidChecksumFileEncoding => "SHA256SUMS is not valid UTF-8"
  | .checksumFileTooLarge =>
      "SHA256SUMS exceeds the " ++ maxChecksumFileBytes.repr ++ "-byte size limit"
  | .checksumLineTooLong =>
      "SHA256SUMS line exceeds the " ++ maxChecksumLineBytes.repr ++ "-byte size limit"
  | .tooManyChecksumEntries =>
      "SHA256SUMS exceeds the " ++ maxChecksumEntries.repr ++ "-entry limit"
  | .manifestTooLarge =>
      "manifest.json exceeds the " ++ maxManifestBytes.repr ++ "-byte size limit"
  | .manifest source => "invalid manifest JSON: " ++ source
  | .invalidRecord path source => "invalid evidence record " ++ path ++ ": " ++ source
  | .invalidChecksumLine line => "invalid SHA256SUMS line: " ++ line
  | .invalidChecksum relative => "invalid SHA-256 digest for " ++ relative
  | .unsafePath path => "unsafe evidence path in SHA256SUMS: " ++ lossyText path
  | .duplicatePath relative => "duplicate evidence path in SHA256SUMS: " ++ relative
  | .bundleRootNotDirectory path =>
      "evidence bundle root is not a directory: " ++ lossyText path
  | .nonRegularFile path => "evidence payload is not a regular file: " ++ path
  | .nonUtf8Path path => "evidence payload path is not valid UTF-8: " ++ lossyText path
  | .missingManifestChecksum => "SHA256SUMS must contain a checksum for manifest.json"
  | .missingPayloadChecksum relative => "SHA256SUMS is missing payload: " ++ relative
  | .declaredPayloadMissing relative => "SHA256SUMS declares a missing payload: " ++ relative
  | .missingRequiredPayload relative => "required evidence payload is missing: " ++ relative
  | .checksumMismatch relative => "checksum mismatch for " ++ relative
  | .unsupportedFormat format => "unsupported evidence format: " ++ format
  | .emptyManifestField field => "manifest field " ++ field ++ " must not be empty"
  | .invalidRunId => "manifest runId must be run-<canonical lowercase RFC 4122 UUIDv7>"
  | .nonTerminalRunStatus => "manifest runStatus must be terminal"
  | .invalidAttemptCount => "manifest attemptCount must equal 1 for benchplane-evidence/v1"
  | .invalidExperimentDigest => "manifest experimentDigest must be a lowercase sha256 digest"
  | .invalidResolvedPlanDigest => "manifest resolvedPlanDigest must be a lowercase sha256 digest"
  | .alreadyFinalized => "SHA256SUMS already exists"
  | .bundleRunIdMismatch => "bundle directory name must match manifest runId"
  | .inconsistentRecord record =>
      "evidence record " ++ record ++ " has inconsistent run identity or status"
  | .invalidAttemptProvenance message => "invalid attempt provenance: " ++ message
  | .invalidAttemptResources message => "invalid attempt resources: " ++ message
  | .invalidResolvedPlan message => "invalid resolved plan: " ++ message
  | .invalidOriginalExperiment message => "invalid original experiment: " ++ message
  | .invalidMeasurements message => "invalid measurements: " ++ message

/-- The name of a state in a `Debug` text. -/
def RunState.debugName : RunState → String
  | .created => "Created"
  | .preparing => "Preparing"
  | .running => "Running"
  | .collecting => "Collecting"
  | .finalizing => "Finalizing"
  | .succeeded => "Succeeded"
  | .failed => "Failed"
  | .interrupted => "Interrupted"

def LifecycleError.text : LifecycleError → String
  | .invalidTransition source target =>
      "lifecycle.invalidTransition: invalid transition from " ++ source.debugName ++ " to " ++
        target.debugName

/-- `RunError`.  Serializing these records cannot fail, so that error is left out. -/
inductive RunError where
  | parse (source : ParseError)
  | resolution (source : ResolutionError)
  | unsupportedCombination (source : UnsupportedCombination)
  | io (path : Bytes) (source : IoError)
  | lifecycle (source : LifecycleError)
  | evidence (source : EvidenceError)
  | publicationConflict (path : Bytes)
  | allocated (runId phase : String) (stagingPath : Bytes) (source : RunError)

namespace RunError

def text : RunError → String
  | .parse source => source.text
  | .resolution source => source.text
  | .unsupportedCombination source => source.code ++ ": " ++ source.message
  | .io path source => "I/O operation failed for " ++ lossyText path ++ ": " ++ ioErrorText source
  | .lifecycle source => source.text
  | .evidence source => source.text
  | .publicationConflict path => "publication destination already exists: " ++ lossyText path
  | .allocated runId phase stagingPath source =>
      "run " ++ runId ++ " failed during " ++ phase ++ "; staging retained at " ++
        lossyText stagingPath ++ ": " ++ source.text

/-- `is_request_rejection`. -/
def isRequestRejection : RunError → Bool
  | .parse _ | .resolution _ | .unsupportedCombination _ => true
  | .io _ _ | .lifecycle _ | .evidence _ | .publicationConflict _ | .allocated _ _ _ _ => false

/-- `is_finalization_failure`. -/
def isFinalizationFailure : RunError → Bool
  | .allocated _ _ _ _ => true
  | .parse _ | .resolution _ | .unsupportedCombination _ | .io _ _ | .lifecycle _ | .evidence _
  | .publicationConflict _ => false

end RunError

end Benchplane
