import Benchplane.Run.RunError
import Benchplane.Run.Staging
import Benchplane.Runtime.LocalFake

/-!
# A run

`run_experiment`: parse and resolve, allocate a run, write its evidence into the
staging directory, verify it there and rename the directory to its final name.  A
failure behind the allocation is followed by a clean-up that ignores its own
failures.  The hooks of a run do nothing and are left out.
-/

namespace Benchplane

open Library

/-- What a run is given from outside.  A helper's behaviour stands for the
executable. -/
structure Services where
  clock : Nat → String
  nextRunId : Nat → RunId
  cpuProbe : HelperBehaviour
  llamaCpp : HelperBehaviour
  llamaCppCuda : HelperBehaviour
  host : Host
  cudaPackageAvailable : Bool

/-- The mutable locals of an allocated run, with the errors its clean-up ignored. -/
structure RunLocals where
  lifecycle : Lifecycle
  runRecord : RunRecord
  attemptRecord : AttemptRecord
  ignored : List RunError

/-- What a run leaves besides the disk: how many run IDs were drawn and the errors
that were ignored. -/
structure RunTrace where
  idsDrawn : Nat
  ignored : List RunError

structure AllocatedFailure where
  phase : String
  source : RunError

/-- `at`. -/
def atPhase {α : Type} (phase : String) (p : DiskProgram RunLocals RunError α) :
    DiskProgram RunLocals AllocatedFailure α :=
  p.mapError (AllocatedFailure.mk phase)

/-- `let _ = …`: the failure is ignored. -/
def ignoring {ε : Type} (p : DiskProgram RunLocals RunError Unit) : DiskProgram RunLocals ε Unit :=
  p.recover fun error =>
    Program.modify fun locals => { locals with ignored := error :: locals.ignored }

/-! ## Files -/

section

variable {ρ : Type}

/-- `create_directory`. -/
def createDirectory (path : List FileName) : DiskProgram ρ RunError Unit :=
  Disk.createDirAll path (.io (displayPath path))

/-- `create_new_directory`. -/
def createNewDirectory (path : List FileName) : DiskProgram ρ RunError Unit :=
  Disk.change (.createDirectory path) (.io (displayPath path))

/-- `create_empty_file`. -/
def createEmptyFile (path : List FileName) : DiskProgram ρ RunError Unit :=
  Disk.change (.createFile path) (.io (displayPath path))

/-- `write_bytes`, whose two steps carry the given labels. -/
def writeBytes (label : FileOperation → Operation) (path : List FileName) (bytes : Bytes) :
    DiskProgram ρ RunError Unit := do
  Disk.performAs (label (.createFile path)) (.createFile path) (.io (displayPath path))
  Disk.performAs (label (.append path bytes)) (.append path bytes) (.io (displayPath path))

variable (formatFloat : FormatFloat)

/-- `write_json_atomic`. -/
def writeJsonAtomic (temporary path : List FileName) (record : Record) :
    DiskProgram ρ RunError Unit := do
  writeBytes (fun _ => .writeRecord temporary record) temporary
    (jsonBytes (record.toJson formatFloat))
  Disk.performAs (.placeRecord temporary path record) (.rename temporary path)
    (.io (displayPath path))

/-- `append_json_line`. -/
def appendJsonLine (path : List FileName) (record : Record) : DiskProgram ρ RunError Unit :=
  Disk.performAs (.appendRecord path record)
    (.append path (jsonLine (record.toJson formatFloat))) (.io (displayPath path))

/-- `write_json_atomic` on a payload of the run. -/
def writePayload (layout : Layout) (file : StagedFile) (record : Record) :
    DiskProgram ρ RunError Unit :=
  writeJsonAtomic formatFloat (layout.temporary file) (layout.path file) record

end

/-! ## Snapshots -/

/-- The run record behind a transition. -/
def RunRecord.advance (record : RunRecord) (target : RunState) (recordedAt : String)
    (failure : Option FailureRecord) : RunRecord :=
  { record with
    runStatus := target
    updatedAt := recordedAt
    completedAt := if target.isTerminal then some recordedAt else record.completedAt
    failure := if target.isTerminal then failure else record.failure }

def AttemptStatus.isTerminal : AttemptStatus → Bool
  | .succeeded | .failed | .interrupted => true
  | .created | .preparing | .running => false

/-- The attempt record behind a change of its status. -/
def AttemptRecord.advance (record : AttemptRecord) (status : AttemptStatus) (recordedAt : String)
    (failure : Option FailureRecord) : AttemptRecord :=
  { record with
    status := status
    updatedAt := recordedAt
    completedAt := if status.isTerminal then some recordedAt else record.completedAt
    failure := if status.isTerminal then failure else record.failure }

/-- The code of a failure behind the allocation. -/
def allocatedFailureCode (phase : String) : String :=
  if phase = "finalizing" ∨ phase = "checksumming" ∨ phase = "verifying" ∨ phase = "publishing" then
    Schema.errorEvidenceFinalizationFailed
  else Schema.errorIoOperationFailed

section

variable (codec : Codec) (services : Services) (layout : Layout)

/-- Write `run.json`. -/
def writeRunRecord : DiskProgram RunLocals RunError Unit := do
  let locals ← Program.get
  writePayload codec.formatFloat layout .run (.run locals.runRecord)

/-- Write `attempt.json`. -/
def writeAttemptRecord : DiskProgram RunLocals RunError Unit := do
  let locals ← Program.get
  writePayload codec.formatFloat layout .attempt (.attempt locals.attemptRecord)

/-- `write_snapshots`. -/
def writeSnapshots : DiskProgram RunLocals RunError Unit := do
  writeRunRecord codec layout
  writeAttemptRecord codec layout

/-- `persist_run_transition`. -/
def persistRunTransition (target : RunState) (failure : Option FailureRecord) :
    DiskProgram RunLocals RunError Unit := do
  let recordedAt ← Program.now services.clock
  let locals ← Program.get
  let (event, lifecycle) ← Program.ofExcept
    (mapFailure .lifecycle (locals.lifecycle.transition target recordedAt failure))
  Program.modify fun locals => { locals with lifecycle := lifecycle }
  appendJsonLine codec.formatFloat (layout.path .events) (.event event)
  Program.modify fun locals =>
    { locals with runRecord := locals.runRecord.advance target event.recordedAt failure }
  writeRunRecord codec layout

/-- `persist_attempt_status`. -/
def persistAttemptStatus (status : AttemptStatus) (failure : Option FailureRecord) :
    DiskProgram RunLocals RunError Unit := do
  let recordedAt ← Program.now services.clock
  Program.modify fun locals =>
    { locals with attemptRecord := locals.attemptRecord.advance status recordedAt failure }
  writeAttemptRecord codec layout

/-- `persist_allocated_failure`. -/
def persistAllocatedFailure {ε : Type} (phase message : String) :
    DiskProgram RunLocals ε Unit := do
  let failure : FailureRecord := ⟨phase, allocatedFailureCode phase, message, false, 1⟩
  let locals ← Program.get
  Program.when (locals.lifecycle.state ∈ [.preparing, .running, .collecting])
    (ignoring (persistRunTransition codec services layout .finalizing none))
  let locals ← Program.get
  Program.when (locals.lifecycle.state = .finalizing)
    (ignoring (persistRunTransition codec services layout .failed (some failure)))
  let updatedAt ← Program.now services.clock
  Program.modify fun locals => { locals with
    runRecord := { locals.runRecord with updatedAt := updatedAt, failure := some failure } }
  ignoring (writeRunRecord codec layout)
  ignoring (writeAttemptRecord codec layout)

end

/-! ## The records of a run -/

/-- The run record at the allocation. -/
def initialRunRecord (plan : ResolvedExperiment) (runId createdAt : String) : RunRecord where
  runId := runId
  runStatus := .created
  createdAt := createdAt
  updatedAt := createdAt
  completedAt := none
  experimentDigest := plan.experimentDigest
  resolvedPlanDigest := plan.resolvedPlanDigest
  attemptCount := 1
  failure := none

/-- The attempt record at the allocation. -/
def initialAttemptRecord (runId createdAt : String) : AttemptRecord where
  runId := runId
  attemptNumber := 1
  status := .created
  startedAt := createdAt
  updatedAt := createdAt
  completedAt := none
  failure := none

/-- The locals at the allocation. -/
def initialLocals (plan : ResolvedExperiment) (runId createdAt : String) : RunLocals where
  lifecycle := (Lifecycle.new runId createdAt 1).1
  runRecord := initialRunRecord plan runId createdAt
  attemptRecord := initialAttemptRecord runId createdAt
  ignored := []

def attemptResources (runId : String) (resources : ProcessResources) : AttemptResources where
  format := Schema.attemptResourcesFormatV1
  runId := runId
  attemptNumber := 1
  scope := .helperProcessLifetime
  cpuTimeMicros := resources.cpuTimeMicros
  peakRssBytes := resources.peakRssBytes

def evidenceManifest (plan : ResolvedExperiment) (runId : String) (status : RunState)
    (validity : ValidityStatus) : EvidenceManifest where
  format := Schema.evidenceFormatV1
  runId := runId
  runStatus := status
  validityStatus := validity
  experimentDigest := plan.experimentDigest
  resolvedPlanDigest := plan.resolvedPlanDigest
  attemptCount := 1

/-- The execution by the runtime of a plan. -/
def executeRuntime (codec : Codec) (services : Services) (plan : ResolvedExperiment) :
    ExecutionKind → ExecutionOutput
  | .localFake seed scenario => LocalFake.execute codec.hash plan seed scenario
  | .cpuProbe config => CpuProbe.execute codec config services.cpuProbe
  | .llamaCpp config => LlamaCpp.execute codec config
      (match config.target with
        | .cpu => services.llamaCpp
        | .nvidiaCuda => services.llamaCppCuda)

/-! ## The phases -/

section

variable (codec : Codec) (services : Services) (layout : Layout) (bytes : Bytes)
  (plan : ResolvedExperiment)

/-- The directories and files that every run has from its beginning. -/
def stageInitial (initialEvent : LifecycleEvent) : DiskProgram RunLocals AllocatedFailure Unit :=
  atPhase "initializing" do
    createDirectory layout.attemptDirectory
    writeBytes .change (layout.path .experiment) bytes
    writePayload codec.formatFloat layout .plan (.plan plan)
    createEmptyFile (layout.path .events)
    appendJsonLine codec.formatFloat (layout.path .events) (.event initialEvent)
    createEmptyFile (layout.path .measurements)
    writeSnapshots codec layout

/-- Up to the provenance known before the execution. -/
def prepare : DiskProgram RunLocals AllocatedFailure AttemptProvenance :=
  atPhase "preparing" do
    persistRunTransition codec services layout .preparing none
    persistAttemptStatus codec services layout .preparing none
    let provenance ← Program.orPanic (capture services.host layout.runId.text plan)
    writePayload codec.formatFloat layout .provenance (.provenance provenance)
    pure provenance

def beginRunning : DiskProgram RunLocals AllocatedFailure Unit :=
  atPhase "running" do
    persistRunTransition codec services layout .running none
    persistAttemptStatus codec services layout .running none

/-- The facts that only a successful NVIDIA execution knows. -/
def recordProvenance (provenance : AttemptProvenance) (execution : ExecutionOutput) :
    DiskProgram RunLocals AllocatedFailure Unit :=
  match execution.nvidiaGpu with
  | none => pure ()
  | some nvidia => atPhase "recordingProvenance" do
      let provenance ← Program.orPanic (attachNvidia provenance nvidia).toOption
      writePayload codec.formatFloat layout .provenance (.provenance provenance)

/-- The end of the attempt. -/
def endAttempt (execution : ExecutionOutput) : DiskProgram RunLocals AllocatedFailure Unit :=
  atPhase "running" do
    let status ← Program.orPanic (attemptTerminal execution.terminalState)
    persistAttemptStatus codec services layout status execution.failure

def recordResources (execution : ExecutionOutput) : DiskProgram RunLocals AllocatedFailure Unit :=
  match execution.resources with
  | none => pure ()
  | some resources => atPhase "recordingResources" do
      writePayload codec.formatFloat layout .resources
        (.resources (attemptResources layout.runId.text resources))

def recordMeasurements (execution : ExecutionOutput) :
    DiskProgram RunLocals AllocatedFailure Unit :=
  atPhase "recordingMeasurements" do
    Program.forEach execution.measurements fun measurement =>
      appendJsonLine codec.formatFloat (layout.path .measurements) (.measurement measurement)

def collect (execution : ExecutionOutput) : DiskProgram RunLocals AllocatedFailure Unit :=
  atPhase "collecting" do
    Program.when (execution.terminalState = .succeeded)
      (persistRunTransition codec services layout .collecting none)

/-- The terminal transition and the records that depend on it. -/
def finalize (execution : ExecutionOutput) (validity : ValidityResult) (summary : RunSummary) :
    DiskProgram RunLocals AllocatedFailure Unit :=
  atPhase "finalizing" do
    persistRunTransition codec services layout .finalizing none
    persistRunTransition codec services layout execution.terminalState execution.failure
    writePayload codec.formatFloat layout .validity (.validity validity)
    writePayload codec.formatFloat layout .summary (.summary summary)
    writePayload codec.formatFloat layout .manifest
      (.manifest (evidenceManifest plan layout.runId.text execution.terminalState validity.status))

def writeInventory : DiskProgram RunLocals AllocatedFailure PendingEvidenceDigest :=
  atPhase "checksumming" ((writeChecksumFile codec.hash layout.staging).mapError .evidence)

/-- The whole staging directory in one look. -/
def verify : DiskProgram RunLocals AllocatedFailure Unit :=
  atPhase "verifying" do
    let _ ← (Disk.read layout.staging (.read (displayPath layout.staging))
      (verifyEvidenceBundle codec layout.staging)).mapError .evidence
    pure ()

def publish : DiskProgram RunLocals AllocatedFailure Unit :=
  atPhase "publishing" do
    let conflict ← Disk.pathExists layout.finalPath
    Program.when conflict
      (Program.fail (.publicationConflict (displayPath layout.finalPath)))
    Disk.change (.rename layout.staging layout.finalPath) (.io (displayPath layout.finalPath))

/-- The result of a published run. -/
def publishedResult (execution : ExecutionOutput) (validity : ValidityResult)
    (summary : RunSummary) (pending : PendingEvidenceDigest) : RunResult where
  runId := layout.runId.text
  runState := execution.terminalState
  validityStatus := validity.status
  attemptCount := 1
  sampleCount := summary.sampleCount
  latency := summary.latency
  meanThroughputMilliRequestsPerSecond := summary.meanThroughputMilliRequestsPerSecond
  resources := execution.resources
  bundlePath := displayPath layout.finalPath
  experimentDigest := plan.experimentDigest
  resolvedPlanDigest := plan.resolvedPlanDigest
  evidenceDigest := pending.finish codec.hash
  failure := execution.failure

/-- From the terminal attempt to the published bundle. -/
def publishEvidence (execution : ExecutionOutput) (validity : ValidityResult)
    (summary : RunSummary) : DiskProgram RunLocals AllocatedFailure RunResult := do
  finalize codec services layout plan execution validity summary
  let pending ← writeInventory codec layout
  verify codec layout
  publish layout
  pure (publishedResult codec layout plan execution validity summary pending)

/-- The closure of `run_experiment`, whose failures are cleaned up. -/
def attemptRun (kind : ExecutionKind) (initialEvent : LifecycleEvent) :
    DiskProgram RunLocals AllocatedFailure RunResult := do
  stageInitial codec layout bytes plan initialEvent
  let provenance ← prepare codec services layout plan
  beginRunning codec services layout
  let execution := executeRuntime codec services plan kind
  recordProvenance codec layout provenance execution
  endAttempt codec services layout execution
  recordResources codec layout execution
  recordMeasurements codec layout execution
  collect codec services layout execution
  let validity ← Program.orPanic (evaluateValidity plan execution layout.runId.text)
  publishEvidence codec services layout plan execution validity
    (summarize plan execution validity layout.runId.text)

/-- The run behind its allocation, with the clean-up. -/
def allocatedRun (kind : ExecutionKind) (initialEvent : LifecycleEvent) :
    DiskProgram RunLocals RunError RunResult :=
  (attemptRun codec services layout bytes plan kind initialEvent).recover fun failure => do
    persistAllocatedFailure codec services layout failure.phase failure.source.text
    Program.fail (.allocated layout.runId.text failure.phase (displayPath layout.staging)
      failure.source)

end

/-! ## The whole run -/

/-- `next_run_id`. -/
def nextRunId (services : Services) : DiskProgram RunTrace RunError RunId := do
  let trace ← Program.get
  Program.modify fun trace => { trace with idsDrawn := trace.idsDrawn + 1 }
  pure (services.nextRunId trace.idsDrawn)

/-- A request that is accepted: parsed, resolved and executable. -/
def acceptRequest (codec : Codec) (services : Services) (bytes : Bytes) :
    Except RunError (ResolvedExperiment × ExecutionKind) := do
  let experiment ← mapFailure .parse (parseExperiment codec bytes)
  let plan ← mapFailure .resolution (resolveExperiment codec experiment)
  let kind ← mapFailure .unsupportedCombination
    (executionKind services.cudaPackageAvailable plan)
  pure (plan, kind)

/-- `run_experiment` from the run ID on. -/
def acceptedRun (codec : Codec) (services : Services) (outputRoot : List FileName)
    (bytes : Bytes) (plan : ResolvedExperiment) (kind : ExecutionKind) :
    DiskProgram RunTrace RunError RunResult := do
  let runId ← nextRunId services
  let layout : Layout := ⟨outputRoot, runId⟩
  createDirectory layout.stagingParent
  createDirectory layout.runsParent
  createNewDirectory layout.staging
  let createdAt ← Program.now services.clock
  Program.nested (initialLocals plan runId.text createdAt)
    (fun own trace => { trace with ignored := own.ignored })
    (allocatedRun codec services layout bytes plan kind (Lifecycle.new runId.text createdAt 1).2)

/-- `run_experiment`. -/
def runExperiment (codec : Codec) (services : Services) (outputRoot : List FileName)
    (bytes : Bytes) : DiskProgram RunTrace RunError RunResult := do
  let (plan, kind) ← Program.ofExcept (acceptRequest codec services bytes)
  acceptedRun codec services outputRoot bytes plan kind

/-- A run on a disk, from its beginning. -/
def runOn (codec : Codec) (services : Services) (outputRoot : List FileName) (bytes : Bytes)
    (faults : Faults) (disk : FileTree) :
    Ended FileTree Operation RunTrace RunError RunResult :=
  runExperiment codec services outputRoot bytes faults ⟨disk, 0, []⟩ ⟨0, []⟩

/-- An accepted request is run. -/
theorem runOn_of_accepted {codec : Codec} {services : Services} {outputRoot : List FileName}
    {bytes : Bytes} {plan : ResolvedExperiment} {kind : ExecutionKind}
    (h : acceptRequest codec services bytes = .ok (plan, kind)) (faults : Faults)
    (disk : FileTree) :
    runOn codec services outputRoot bytes faults disk =
      acceptedRun codec services outputRoot bytes plan kind faults ⟨disk, 0, []⟩ ⟨0, []⟩ := by
  simp [runOn, runExperiment, h, Program.ofExcept, Program.andThen, Program.ok]

/-- A request that is not accepted ends with nothing attempted. -/
theorem runOn_of_rejected {codec : Codec} {services : Services} {outputRoot : List FileName}
    {bytes : Bytes} {error : RunError} (h : acceptRequest codec services bytes = .error error)
    (faults : Faults) (disk : FileTree) :
    runOn codec services outputRoot bytes faults disk =
      ⟨.error error, ⟨disk, 0, []⟩, ⟨0, []⟩⟩ := by
  simp [runOn, runExperiment, h, Program.ofExcept, Program.andThen, Program.fail]

end Benchplane
