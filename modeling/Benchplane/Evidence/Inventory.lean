import Benchplane.Disk
import Benchplane.Library.Checks
import Benchplane.Library.Sha256
import Benchplane.Library.UnixPath

/-!
# The inventory of a bundle

`SHA256SUMS` lists the digest of every payload of a bundle.  This module holds
both sides of it: the reader, which walks the directory, reads the list line by
line and hashes what it names, and the writer, which walks the same way and
writes the list through a temporary file inside the directory.

SHA-256 is a parameter, and an `EvidenceError` keeps the text of a decoder's
error instead of the decoder's own value.
-/

namespace Benchplane

open Library

def maxChecksumFileBytes : Nat := 4 * 1024 * 1024
def maxChecksumLineBytes : Nat := 4 * 1024
def maxChecksumEntries : Nat := 10000
def maxManifestBytes : Nat := 64 * 1024
def maxIdentityRecordBytes : Nat := 1024 * 1024
def maxAttemptProvenanceBytes : Nat := 16 * 1024
def maxAttemptResourcesBytes : Nat := 4 * 1024
def maxResolvedPlanBytes : Nat := 64 * 1024
def maxExperimentBytes : Nat := 64 * 1024

inductive EvidenceError where
  | read (path : Bytes) (source : IoError)
  | write (path : Bytes) (source : IoError)
  | invalidChecksumFileEncoding
  | checksumFileTooLarge
  | checksumLineTooLong
  | tooManyChecksumEntries
  | manifestTooLarge
  | manifest (source : String)
  | invalidRecord (path source : String)
  | invalidChecksumLine (line : String)
  | invalidChecksum (relative : String)
  | unsafePath (path : Bytes)
  | duplicatePath (relative : String)
  | bundleRootNotDirectory (path : Bytes)
  | nonRegularFile (path : String)
  | nonUtf8Path (path : Bytes)
  | missingManifestChecksum
  | missingPayloadChecksum (relative : String)
  | declaredPayloadMissing (relative : String)
  | missingRequiredPayload (relative : String)
  | checksumMismatch (relative : String)
  | unsupportedFormat (format : String)
  | emptyManifestField (field : String)
  | invalidRunId
  | nonTerminalRunStatus
  | invalidAttemptCount
  | invalidExperimentDigest
  | invalidResolvedPlanDigest
  | alreadyFinalized
  | bundleRunIdMismatch
  | inconsistentRecord (record : String)
  | invalidAttemptProvenance (message : String)
  | invalidAttemptResources (message : String)
  | invalidResolvedPlan (message : String)
  | invalidOriginalExperiment (message : String)
  | invalidMeasurements (message : String)

/-- The text of an absolute path. -/
def displayPath (path : List FileName) : Bytes :=
  slash :: relativePath path

/-- An opened bundle root: its canonical path and the directory there. -/
structure BundleRoot where
  path : List FileName
  tree : Directory
  distinct : tree.Distinct

/-- The root directory at a canonical path of the disk. -/
def canonicalBundleRoot (path : List FileName) (disk : FileTree) :
    Except EvidenceError BundleRoot :=
  match h : disk.lookup path with
  | none => .error (.read (displayPath path) .notFound)
  | some (.directory tree) => .ok ⟨path, tree, disk.distinct.lookup h⟩
  | some (.symlink _) => .error (.read (displayPath path) (.other "symbolic link"))
  | some (.file _) | some .special => .error (.bundleRootNotDirectory (displayPath path))

/-! ## Names -/

/-- `normalized_relative_path`: the components joined again. -/
def normalizedRelativePath (path : Bytes) : Except EvidenceError String :=
  if path = [] ∨ isAbsolute path then .error (.unsafePath path)
  else
    match normalComponents (components path) with
    | none => .error (.unsafePath path)
    | some pieces =>
        match pieces.mapM decodeUtf8 with
        | none => .error (.nonUtf8Path path)
        | some texts => .ok (String.intercalate "/" texts)

/-- `validate_relative_path`. -/
def validateRelativePath (relative : String) : Except EvidenceError Bytes :=
  if relative = "" ∨ relative = "SHA256SUMS" ∨ isAbsolute (utf8 relative) ∨
      normalComponents (components (utf8 relative)) = none then
    .error (.unsafePath (utf8 relative))
  else .ok (utf8 relative)

/-! ## The walk -/

/-- The payloads found so far, by display name, and the entries seen. -/
structure Walk where
  payloads : SortedMap String Bytes
  entriesSeen : Nat

/-- Count an entry and name it; `none` for the root's `SHA256SUMS`, which is
skipped. -/
def visitEntry (parent : List FileName) (name : FileName) (walk : Walk) :
    Except EvidenceError (Walk × Option String) := do
  let walk := { walk with entriesSeen := walk.entriesSeen + 1 }
  rejectIf (walk.entriesSeen > maxChecksumEntries) .tooManyChecksumEntries
  let display ← normalizedRelativePath (relativePath (parent ++ [name]))
  pure (walk, if display = "SHA256SUMS" then none else some display)

/-- `gather_directory`. -/
def gatherDirectory (parent : List FileName) :
    Directory → Walk → Except EvidenceError Walk
  | .empty, walk => pure walk
  | .entry name (.directory children) rest, walk => do
      match ← visitEntry parent name walk with
      | (walk, none) => gatherDirectory parent rest walk
      | (walk, some _) =>
          let walk ← gatherDirectory (parent ++ [name]) children walk
          gatherDirectory parent rest walk
  | .entry name (.file _) rest, walk => do
      match ← visitEntry parent name walk with
      | (walk, none) => gatherDirectory parent rest walk
      | (walk, some display) =>
          gatherDirectory parent rest { walk with
            payloads := walk.payloads.insert display (relativePath (parent ++ [name])) }
  | .entry name (.symlink _) rest, walk => do
      match ← visitEntry parent name walk with
      | (walk, none) => gatherDirectory parent rest walk
      | (_, some display) => .error (.nonRegularFile display)
  | .entry name .special rest, walk => do
      match ← visitEntry parent name walk with
      | (walk, none) => gatherDirectory parent rest walk
      | (_, some display) => .error (.nonRegularFile display)
termination_by structural directory => directory

/-- `gather_payload_paths`. -/
def gatherPayloadPaths (root : BundleRoot) :
    Except EvidenceError (SortedMap String Bytes) := do
  let walk ← gatherDirectory [] root.tree ⟨.empty, 0⟩
  pure walk.payloads

/-! ## Reading files -/

/-- `checked_regular_path`: the path itself, when a regular file is there.  The
lookup follows no symbolic link, so the path cannot leave the root. -/
def checkedRegularPath (root : BundleRoot) (relative : Bytes) (display : String) :
    Except EvidenceError (List FileName) :=
  match entryNames relative with
  | none => .error (.read (displayPath root.path ++ slash :: relative) .notFound)
  | some names =>
      match root.tree.lookup names with
      | none => .error (.read (displayPath (root.path ++ names)) .notFound)
      | some (.file _) => .ok names
      | some _ => .error (.nonRegularFile display)

/-- Open a file and read all of it. -/
def readFile (root : BundleRoot) (names : List FileName) : Except EvidenceError Bytes :=
  match root.tree.lookup names with
  | some (.file content) => .ok content
  | _ => .error (.read (displayPath (root.path ++ names)) .notFound)

/-- `retained_limit`. -/
def retainedLimit (relative : String) : Option Nat :=
  if relative = "manifest.json" then some maxManifestBytes
  else if relative = "run.json" ∨ relative = "attempts/0001/attempt.json" ∨
      relative = "validity.json" ∨ relative = "summary.json" ∨ relative = "events.jsonl" then
    some maxIdentityRecordBytes
  else if relative = "attempts/0001/provenance.json" then some maxAttemptProvenanceBytes
  else if relative = "attempts/0001/resources.json" then some maxAttemptResourcesBytes
  else if relative = "experiment.yaml" then some maxExperimentBytes
  else if relative = "resolved-plan.json" then some maxResolvedPlanBytes
  else none

/-- The error of a payload above its limit. -/
def exceedsLimit (display : String) : EvidenceError :=
  if display = "manifest.json" then .manifestTooLarge
  else .inconsistentRecord (display ++ " exceeds its parsing limit")

/-- `value.len() > limit`, where there is a limit. -/
def isAbove (limit : Option Nat) (size : Nat) : Bool :=
  match limit with
  | none => false
  | some limit => limit < size

section

variable (hash : Bytes → Digest)

/-- `hash_regular_file`: the path, the digest and, under a limit, the bytes. -/
def hashRegularFile (root : BundleRoot) (relative : Bytes) (display : String)
    (limit : Option Nat) : Except EvidenceError (List FileName × String × Option Bytes) := do
  let names ← checkedRegularPath root relative display
  let content ← readFile root names
  rejectIf (isAbove limit content.length) (exceedsLimit display)
  pure (names, (hash content).hex, limit.map fun _ => content)

/-! ## Reading SHA256SUMS -/

/-- What the lines read so far have established. -/
structure Progress where
  totalBytes : Nat
  names : List String
  targets : List (List FileName)
  digests : List (String × String)
  retained : List (String × Bytes)

/-- The state before the first line. -/
def Progress.start : Progress := ⟨0, [], [], [], []⟩

/-- A declared digest and name, with their own checks done. -/
def parseEntry (line : String) : Except EvidenceError (String × String × Bytes) := do
  let (expected, relative) ← orReject (.invalidChecksumLine line) (splitOnceText "  " line)
  rejectIf ((utf8 expected).length ≠ 64 ∨ ¬ (utf8 expected).all isLowerHex)
    (.invalidChecksum relative)
  let path ← validateRelativePath relative
  let normalized ← normalizedRelativePath path
  rejectIf (normalized ≠ relative) (.unsafePath (utf8 relative))
  pure (expected, relative, path)

/-- The declaration of one payload. -/
def checkEntry (root : BundleRoot) (payloads : SortedMap String Bytes) (progress : Progress)
    (line : String) : Except EvidenceError Progress := do
  rejectIf (progress.names.length ≥ maxChecksumEntries) .tooManyChecksumEntries
  let (expected, relative, path) ← parseEntry line
  rejectIf (relative ∈ progress.names) (.duplicatePath relative)
  rejectIf (¬ payloads.contains relative) (.declaredPayloadMissing relative)
  let (target, actual, bytes) ←
    hashRegularFile hash root path relative (retainedLimit relative)
  rejectIf (target ∈ progress.targets) (.duplicatePath relative)
  rejectIf (actual ≠ expected) (.checksumMismatch relative)
  pure { progress with
    names := relative :: progress.names
    targets := target :: progress.targets
    digests := (relative, actual) :: progress.digests
    retained := match bytes with
      | none => progress.retained
      | some bytes => (relative, bytes) :: progress.retained }

/-- One line of `SHA256SUMS`. -/
def checkLine (root : BundleRoot) (payloads : SortedMap String Bytes) (progress : Progress)
    (line : Bytes) : Except EvidenceError Progress := do
  let text ← orReject .invalidChecksumFileEncoding (decodeUtf8 line)
  let progress := { progress with totalBytes := progress.totalBytes + line.length }
  rejectIf (progress.totalBytes > maxChecksumFileBytes) .checksumFileTooLarge
  rejectIf (line.length > maxChecksumLineBytes) .checksumLineTooLong
  let text := trimEndMatches ['\r', '\n'] text
  if isBlank text then pure progress else checkEntry hash root payloads progress text

/-- The walk and the loop over `SHA256SUMS`. -/
def readInventory (root : BundleRoot) :
    Except EvidenceError (SortedMap String Bytes × Progress) := do
  let payloads ← gatherPayloadPaths root
  let names ← checkedRegularPath root (utf8 "SHA256SUMS") "SHA256SUMS"
  let content ← readFile root names
  rejectIf (content.length > maxChecksumFileBytes) .checksumFileTooLarge
  let progress ←
    (splitInclusive 10 content).foldlM (checkLine hash root payloads) Progress.start
  pure (payloads, progress)

/-- Every payload of the walk must have been declared. -/
def checkMissing (payloads : SortedMap String Bytes) (names : List String) :
    Except EvidenceError Unit :=
  checkAll (fun relative => rejectIf (relative ∉ names) (.missingPayloadChecksum relative))
    payloads.keys

/-- The inventory phase of `verify_evidence_bundle_data`, without the look for a
retained manifest between its two parts. -/
def inventoryPhase (root : BundleRoot) :
    Except EvidenceError (SortedMap String Bytes × Progress) := do
  let (payloads, progress) ← readInventory hash root
  checkMissing payloads progress.names
  pure (payloads, progress)

end

/-! ## Writing SHA256SUMS -/

def checksumFileName : FileName := .ofString "SHA256SUMS" (by decide)
def checksumTemporaryName : FileName := .ofString "SHA256SUMS.tmp" (by decide)

/-- The capacity of a `BufWriter`. -/
def bufferCapacity : Nat := 8192

/-- The writer's buffer and what the digest of the list has absorbed. -/
structure ChecksumWriter where
  buffer : Bytes
  absorbed : Bytes

/-- A hasher that has absorbed the whole of a written `SHA256SUMS`. -/
structure PendingEvidenceDigest where
  absorbed : Bytes

/-- `PendingEvidenceDigest::finish`. -/
def PendingEvidenceDigest.finish (hash : Bytes → Digest) (pending : PendingEvidenceDigest) :
    String :=
  "sha256:" ++ (hash pending.absorbed).hex

/-- The line that declares a payload. -/
def checksumLine (digest relative : String) : String :=
  digest ++ "  " ++ relative ++ "\n"

namespace ChecksumWriter

variable (temporary : List FileName)

/-- A failing write to the temporary file. -/
def writeError (source : IoError) : EvidenceError :=
  .write (displayPath temporary) source

/-- `BufWriter::flush_buf`: nothing to do for an empty buffer. -/
def flush : DiskProgram ChecksumWriter EvidenceError Unit := do
  let writer ← Program.get
  if writer.buffer = [] then pure ()
  else
    Disk.change (.append temporary writer.buffer) (writeError temporary)
    Program.modify fun writer => { writer with buffer := [] }

/-- Put bytes into the buffer, or past it when they would fill it alone. -/
def place (bytes : Bytes) : DiskProgram ChecksumWriter EvidenceError Unit :=
  if bytes.length ≥ bufferCapacity then
    Disk.change (.append temporary bytes) (writeError temporary)
  else
    Program.modify fun writer => { writer with buffer := writer.buffer ++ bytes }

/-- `BufWriter::write_all`. -/
def writeAll (bytes : Bytes) : DiskProgram ChecksumWriter EvidenceError Unit := do
  let writer ← Program.get
  Program.when (writer.buffer.length + bytes.length > bufferCapacity) (flush temporary)
  place temporary bytes

end ChecksumWriter

/-- Hash one payload on the disk as it is now. -/
def hashPayload (hash : Bytes → Digest) (path : List FileName) (relative : Bytes)
    (display : String) : DiskProgram ChecksumWriter EvidenceError String :=
  Disk.read path (fun source => .read (displayPath path ++ slash :: relative) source)
    fun disk => do
      let root ← canonicalBundleRoot path disk
      let (_, digest, _) ← hashRegularFile hash root relative display none
      pure digest

/-- One turn of the loop of `write_checksum_file`. -/
def writeChecksum (hash : Bytes → Digest) (path temporary : List FileName)
    (payload : String × Bytes) : DiskProgram ChecksumWriter EvidenceError Unit := do
  let digest ← hashPayload hash path payload.2 payload.1
  ChecksumWriter.writeAll temporary (utf8 (checksumLine digest payload.1))
  Program.modify fun writer =>
    { writer with absorbed := writer.absorbed ++ utf8 (checksumLine digest payload.1) }

/-- The loop of `write_checksum_file`.  On an error the writer is dropped, and
dropping it tries to write what is left in the buffer. -/
def writeChecksums (hash : Bytes → Digest) (path temporary : List FileName)
    (payloads : SortedMap String Bytes) :
    DiskProgram ChecksumWriter EvidenceError PendingEvidenceDigest :=
  (do
    Program.forEach payloads.entries (writeChecksum hash path temporary)
    ChecksumWriter.flush temporary
    let writer ← Program.get
    pure ⟨writer.absorbed⟩ : DiskProgram ChecksumWriter EvidenceError PendingEvidenceDigest).recover
      fun failure => do
        (ChecksumWriter.flush temporary).ignore
        Program.fail failure

/-- `write_checksum_file`. -/
def writeChecksumFile {ρ : Type} (hash : Bytes → Digest) (path : List FileName) :
    DiskProgram ρ EvidenceError PendingEvidenceDigest := do
  let temporary := path ++ [checksumTemporaryName]
  let final := path ++ [checksumFileName]
  let finalized ← Disk.pathExists final
  Program.when finalized (Program.fail .alreadyFinalized)
  let payloads ← Disk.read path (fun source => .read (displayPath path) source) fun disk => do
    let root ← canonicalBundleRoot path disk
    gatherPayloadPaths root
  Disk.change (.createFile temporary) fun source => .write (displayPath temporary) source
  let pending ← Program.withLocals ⟨[], []⟩ (writeChecksums hash path temporary payloads)
  Disk.change (.rename temporary final) fun source => .write (displayPath final) source
  pure pending

end Benchplane
