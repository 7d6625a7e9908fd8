import Benchplane.Cli.Printing
import Benchplane.Comparison.Compare
import Benchplane.Run.Run

/-!
# The command line

The commands of the program, from the parsed arguments to the exit code.  A command reads
the disk, prints lines and, for `run`, changes the disk.  The parser of the arguments and the
generator of the JSON Schema are outside.
-/

namespace Benchplane

open Library Library.Panicking

def exitSuccess : UInt8 := 0
def exitInternal : UInt8 := 1
def exitRejected : UInt8 := 2
def exitInvalid : UInt8 := 3
def exitOperationalFailure : UInt8 := 4
def exitFinalizationFailure : UInt8 := 5

inductive SchemaCommand where
  | export

inductive EvidenceCommand where
  | verify (bundle : List FileName)
  | compare (baselineBundle candidateBundle : List FileName) (json : Bool)

inductive Command where
  | validate (experiment : List FileName)
  | resolve (experiment : List FileName)
  | run (experiment outputRoot : List FileName) (json : Bool)
  | schema (command : SchemaCommand)
  | evidence (command : EvidenceCommand)

/-- A read that fails: what is read, and why not. -/
structure ReadFault where
  path : Bytes
  source : IoError

/-- What a process is given besides its arguments and the disk: the services of a run, the
text of the JSON Schema, the operations of a run that fail, the reads that do, and what the
system finds at the end of symbolic links and in special files.  The experiment or the first
bundle is read by the reads with number 0, the second bundle by those with number 1; of these,
the first one that fails is given. -/
structure Surroundings where
  services : Services
  schemaText : String
  faults : Faults
  reads : Nat → Option ReadFault
  indirect : List FileName → FileTree → Except IoError Bytes

section

variable (codec : Codec) (surroundings : Surroundings)

/-! ## Errors -/

/-- `rejected_error`. -/
def rejectedError (text : String) : Cli UInt8 := do
  eprintln ("error: " ++ text)
  pure exitRejected

/-- The errors of a validation, one on each line. -/
def printErrors (errors : List ValidationError) : Cli Unit :=
  eprintAll (errors.map fun error => "error: " ++ error.text)

/-! ## Experiments -/

/-- The file that a path leads to from an entry on; another answer is given for a path that
comes to a symbolic link or a special file. -/
def readEntry (indirect : Except IoError Bytes) : List FileName → Node → Except IoError Bytes
  | [], .file content => .ok content
  | [], .directory _ => .error .isADirectory
  | name :: path, .directory d =>
      match d.find? name with
      | none => .error .notFound
      | some entry => readEntry indirect path entry
  | _ :: _, .file _ => .error .notADirectory
  | _, .symlink _ | _, .special => indirect

/-- `fs::read`. -/
def readFileAt (path : List FileName) (disk : FileTree) : Except IoError Bytes :=
  readEntry (surroundings.indirect path disk) path (.directory disk.root)

/-- `read_experiment_bytes`. -/
def readExperimentBytes (path : List FileName) : Cli (Except UInt8 Bytes) := do
  let process ← get
  let content : Except IoError Bytes :=
    match surroundings.reads 0 with
    | some fault => .error fault.source
    | none => readFileAt surroundings path process.disk
  match content with
  | .ok bytes => pure (.ok bytes)
  | .error error => do
      eprintln ("error: could not read experiment " ++ lossyText (displayPath path) ++ ": " ++
        ioErrorText error)
      pure (.error exitInternal)

/-- `validate_command`. -/
def validateCommand (path : List FileName) : Cli UInt8 := do
  match ← readExperimentBytes surroundings path with
  | .error _ => pure exitInternal
  | .ok bytes =>
      match parseExperiment codec bytes with
      | .error error => rejectedError error.text
      | .ok experiment =>
          match experiment.validate with
          | .error errors => do
              printErrors errors
              pure exitRejected
          | .ok () => do
              println ("valid: " ++ experiment.metadata.name)
              pure exitSuccess

/-- `resolve_command`. -/
def resolveCommand (path : List FileName) : Cli UInt8 := do
  match ← readExperimentBytes surroundings path with
  | .error _ => pure exitInternal
  | .ok bytes =>
      match parseExperiment codec bytes with
      | .error error => rejectedError error.text
      | .ok experiment =>
          match resolveExperiment codec experiment with
          | .ok resolved => do
              println ((resolved.toJson codec.formatFloat).pretty 0)
              pure exitSuccess
          | .error (.validation errors) => do
              printErrors errors
              pure exitRejected

/-- `result_exit_code`. -/
def resultExitCode (result : RunResult) : UInt8 :=
  match result.runState, result.validityStatus with
  | .succeeded, .valid => exitSuccess
  | .succeeded, .invalid | .succeeded, .indeterminate => exitInvalid
  | .failed, _ | .interrupted, _ => exitOperationalFailure
  | _, _ => exitInternal

/-- The exit code of a run that gave no result. -/
def errorExitCode (error : RunError) : UInt8 :=
  if error.isRequestRejection then exitRejected
  else if error.isFinalizationFailure then exitFinalizationFailure
  else exitInternal

/-- `run_experiment` as a part of a process. -/
def runExperimentOn (outputRoot : List FileName) (bytes : Bytes) :
    Cli (Except RunError RunResult) := do
  let process ← get
  let ended := runOn codec surroundings.services outputRoot bytes surroundings.faults process.disk
  set { process with
    disk := ended.world.store
    passed := ended.world.history.map Attempt.after ++ process.passed }
  match ended.outcome with
  | .ok result => pure (.ok result)
  | .error error => pure (.error error)
  | .panic => expect none

/-- `run_command`. -/
def runCommand (path outputRoot : List FileName) (json : Bool) : Cli UInt8 := do
  match ← readExperimentBytes surroundings path with
  | .error _ => pure exitInternal
  | .ok bytes =>
      match ← runExperimentOn codec surroundings outputRoot bytes with
      | .ok result => do
          if json then println result.toJson.compact else printHumanResult result
          pure (resultExitCode result)
      | .error error => do
          match error with
          | .resolution (.validation errors) => printErrors errors
          | error => eprintln ("error: " ++ error.text)
          pure (errorExitCode error)

/-! ## Evidence -/

/-- The line for a bundle that is verified. -/
def verifiedLine (manifest : EvidenceManifest) : String :=
  "verified: run=" ++ manifest.runId ++ " status=" ++ manifest.runStatus.asStr ++ " validity=" ++
    manifest.validityStatus.asStr ++ " experiment=" ++ manifest.experimentDigest ++ " plan=" ++
    manifest.resolvedPlanDigest

/-- A failure of the evidence commands. -/
def evidenceError (text : String) : Cli UInt8 := do
  eprintln ("error: " ++ text)
  pure exitFinalizationFailure

/-- `evidence verify`.  A read that fails, anywhere in the bundle, ends the verification. -/
def verifyCommand (bundle : List FileName) : Cli UInt8 := do
  let process ← get
  let verified : Except EvidenceError EvidenceManifest :=
    match surroundings.reads 0 with
    | some fault => .error (.read fault.path fault.source)
    | none => verifyEvidenceBundle codec bundle process.disk
  match verified with
  | .ok manifest => do
      println (verifiedLine manifest)
      pure exitSuccess
  | .error error => evidenceError error.text

/-- `compare_evidence_bundles`, where a read of either bundle can fail. -/
def compareBundlesOn (disk : FileTree) (baselinePath candidatePath : List FileName) :
    Panicking ComparisonError EvidenceComparison :=
  match surroundings.reads 0, surroundings.reads 1 with
  | none, none => compareEvidenceBundles codec disk baselinePath candidatePath
  | some fault, _ =>
      returns (.error (.invalidEvidence "baseline" (.read fault.path fault.source)))
  | none, some fault => do
      let _ ← rewriteFailure (.invalidEvidence "baseline")
        (Machine.verifyEvidenceBundleAt codec baselinePath disk)
      returns (.error (.invalidEvidence "candidate" (.read fault.path fault.source)))

/-- `evidence compare`. -/
def compareCommand (baselinePath candidatePath : List FileName) (json : Bool) : Cli UInt8 := do
  let process ← get
  match ← expect (compareBundlesOn codec surroundings process.disk baselinePath candidatePath) with
  | .ok comparison => do
      if json then println comparison.toJson.compact else printHumanComparison comparison
      pure exitSuccess
  | .error error => evidenceError error.text

/-! ## The program -/

/-- `execute`. -/
def execute : Command → Cli UInt8
  | .validate experiment => validateCommand codec surroundings experiment
  | .resolve experiment => resolveCommand codec surroundings experiment
  | .run experiment outputRoot json => runCommand codec surroundings experiment outputRoot json
  | .schema .export => do
      println surroundings.schemaText
      pure exitSuccess
  | .evidence (.verify bundle) => verifyCommand codec surroundings bundle
  | .evidence (.compare baselinePath candidatePath json) =>
      compareCommand codec surroundings baselinePath candidatePath json

end

end Benchplane
