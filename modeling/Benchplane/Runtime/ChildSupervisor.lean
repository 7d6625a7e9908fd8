import Benchplane.Execution
import Benchplane.Resolution

/-!
# Supervision of a helper process

The supervisor reads the helper's records while it polls for its exit.  What the
helper and the operating system do is data: for every turn of the loop before the
deadline what the receiver gives and what a poll would answer, and the answers
left for the termination.  The calls on the process are recorded in order.
-/

namespace Benchplane

open Library

structure ExitCodeFailure where
  exitCode : Int
  failureCode : String
  message : String

structure ChildProtocol where
  runtimeName : String
  expectedMetadataRecords : Nat
  expectedRecords : Nat
  maxRecordBytes : Nat
  maxStdoutBytes : Nat
  maximumRuntimeSeconds : UInt64
  spawnFailureCode : String
  exitFailureCode : String
  outputFailureCode : String
  deadlineFailureCode : String
  resourceFailureCode : String
  specialExitCodes : List ExitCodeFailure

structure ChildExecution where
  metadata : List Bytes
  measurements : List MeasurementRecord
  resources : Option ProcessResources
  failure : Option FailureRecord

/-- `ChildExecution::failed`. -/
def ChildExecution.failed (failure : FailureRecord) (resources : Option ProcessResources) :
    ChildExecution :=
  ⟨[], [], resources, some failure⟩

/-! ## Failures -/

def maxStderrBytes : Nat := 16 * 1024
def maxDiagnosticChars : Nat := 1024

/-- `bounded_message`. -/
def boundedMessage (message : String) : String := takeChars maxDiagnosticChars message

/-- `failure`. -/
def supervisionFailure (code message : String) : FailureRecord :=
  ⟨"running", code, boundedMessage message, false, 1⟩

namespace ChildProtocol

variable (protocol : ChildProtocol)

/-- `output_failure`. -/
def outputFailure (message : String) : FailureRecord :=
  supervisionFailure protocol.outputFailureCode
    (protocol.runtimeName ++ " protocol: " ++ message)

/-- `resource_failure`. -/
def resourceFailure (message : String) : FailureRecord :=
  supervisionFailure protocol.resourceFailureCode
    ("could not account for packaged " ++ protocol.runtimeName ++ " helper: " ++ message)

/-- The failure of a helper past its deadline. -/
def deadlineFailure : FailureRecord :=
  supervisionFailure protocol.deadlineFailureCode
    ("packaged " ++ protocol.runtimeName ++ " helper exceeded the " ++
      protocol.maximumRuntimeSeconds.toNat.repr ++ " second experiment deadline")

end ChildProtocol

/-- `format_stderr`. -/
def formatStderr (stderr : Bytes) : String :=
  if stderr = [] then ""
  else "; stderr: " ++ trim (String.ofList (utf8Lossy stderr))

/-! ## The process -/

/-- The resource usage of the operating system. -/
structure ResourceUsage where
  userSeconds : Int
  userMicros : Int
  systemSeconds : Int
  systemMicros : Int
  peakRssKib : Int

/-- A time as microseconds, when it is one and fits. -/
def timeMicros (seconds micros : Int) : Option Nat :=
  if seconds < 0 ∨ ¬ (0 ≤ micros ∧ micros < 1000000) then none
  else
    let total := seconds.toNat * 1000000 + micros.toNat
    if total < 2 ^ 64 then some total else none

/-- `resource_usage_from_components`. -/
def resourceUsageFromComponents (usage : ResourceUsage) : Except String ProcessResources := do
  let user ← orReject "helper user CPU time is not representable"
    (timeMicros usage.userSeconds usage.userMicros)
  let system ← orReject "helper system CPU time is not representable"
    (timeMicros usage.systemSeconds usage.systemMicros)
  rejectIf (user + system ≥ 2 ^ 64) "helper total CPU time overflowed"
  rejectIf (usage.peakRssKib < 0 ∨ usage.peakRssKib.toNat * 1024 ≥ 2 ^ 64)
    "helper peak RSS is not representable in bytes"
  pure ⟨UInt64.ofNat (user + system), UInt64.ofNat (usage.peakRssKib.toNat * 1024)⟩

/-- An exit status; that of a signal is kept as its text. -/
inductive ExitStatus where
  | exited (code : Int)
  | signalled (text : String)
  deriving DecidableEq

def ExitStatus.success : ExitStatus → Bool
  | .exited code => code = 0
  | .signalled _ => false

def ExitStatus.code : ExitStatus → Option Int
  | .exited code => some code
  | .signalled _ => none

def ExitStatus.text : ExitStatus → String
  | .exited code => "exit status: " ++ toString code
  | .signalled text => text

structure ReapedChild where
  status : ExitStatus
  resources : Except String ProcessResources
  deriving DecidableEq

/-- The answer of one `wait4`. -/
inductive WaitResult where
  | running
  | reaped (child : ReapedChild)
  | error (message : String)
  deriving DecidableEq

/-- A call on the process. -/
inductive ProcessCall where
  | wait4 (blocking : Bool) (result : WaitResult)
  | kill
  | wait
  deriving DecidableEq

/-! ## The reader -/

/-- What the reader of the helper's output sends. -/
inductive StdoutEvent where
  | line (bytes : Bytes)
  | error (message : String)
  | done
  deriving DecidableEq

section

variable (protocol : ChildProtocol)

/-- The bytes of one read: what is sent for them and the line they leave unfinished,
which is none once an error has been sent. -/
def readChunk : Bytes → Bytes → List StdoutEvent × Option Bytes
  | [], line => ([], some line)
  | byte :: chunk, line =>
      if byte = 10 then
        let (events, unfinished) := readChunk chunk []
        (.line line :: events, unfinished)
      else if (line ++ [byte]).length ≥ protocol.maxRecordBytes then
        ([.error ("output line exceeded the " ++ protocol.maxRecordBytes.repr ++ " byte limit")],
          none)
      else readChunk chunk (line ++ [byte])

/-- The end of the output. -/
def finishStdout (line : Bytes) : List StdoutEvent :=
  if line = [] then [.done] else [.line line, .done]

/-- `read_stdout` with its unfinished line and the bytes read so far.  A read of no bytes
is the end of the output, and so is the end of the reads. -/
def readStdout : List (Except String Bytes) → Bytes → Nat → List StdoutEvent
  | [], line, _ => finishStdout line
  | .error message :: _, _, _ => [.error ("could not read output: " ++ message)]
  | .ok chunk :: reads, line, total =>
      if chunk = [] then finishStdout line
      else if total + chunk.length > protocol.maxStdoutBytes then
        [.error ("output exceeded the " ++ protocol.maxStdoutBytes.repr ++ " byte limit")]
      else
        match readChunk protocol chunk line with
        | (events, none) => events
        | (events, some line) => events ++ readStdout reads line (total + chunk.length)

end

/-! ## The loop -/

/-- What the receiver gives in one turn. -/
inductive Received where
  | event (event : StdoutEvent)
  | disconnected
  | timeout

/-- One turn of the loop that begins before the deadline. -/
structure Turn where
  received : Received
  poll : WaitResult

/-- The state of the loop and the calls made so far, the newest first. -/
structure Supervision where
  metadata : List Bytes
  measurements : List MeasurementRecord
  stdoutDone : Bool
  exitStatus : Option ReapedChild
  calls : List ProcessCall

def Supervision.start : Supervision := ⟨[], [], false, none, []⟩

abbrev Validator := MeasurementRecord → Nat → Except String Unit

section

variable (codec : Codec) (protocol : ChildProtocol) (validate : Validator)

/-- A line of the helper's output.  The flag says that the turn ends here, without a
poll. -/
def receiveLine (line : Bytes) (state : Supervision) :
    Except FailureRecord (Supervision × Bool) := do
  rejectIf (state.metadata.length + state.measurements.length ≥
      protocol.expectedMetadataRecords + protocol.expectedRecords)
    (protocol.outputFailure "emitted excessive protocol records")
  rejectIf (line.length + 1 > protocol.maxRecordBytes)
    (protocol.outputFailure ("measurement record exceeded the " ++
      protocol.maxRecordBytes.repr ++ " byte protocol envelope"))
  if state.metadata.length < protocol.expectedMetadataRecords then
    pure ({ state with metadata := state.metadata ++ [line] }, true)
  else
    let record ← mapFailure (fun error => protocol.outputFailure ("emitted malformed JSON: " ++ error))
      (codec.measurement line)
    mapFailure protocol.outputFailure (validate record state.measurements.length)
    pure ({ state with measurements := state.measurements ++ [record] }, false)

/-- What the receiver has given. -/
def receive (received : Received) (state : Supervision) :
    Except FailureRecord (Supervision × Bool) :=
  match received with
  | .event (.line line) => receiveLine codec protocol validate line state
  | .event (.error message) => .error (protocol.outputFailure message)
  | .event .done | .disconnected => .ok ({ state with stdoutDone := true }, false)
  | .timeout => .ok (state, false)

/-- Poll for the exit, unless it has been observed. -/
def pollExit (answer : WaitResult) (state : Supervision) : Supervision × Option FailureRecord :=
  if state.exitStatus.isSome then (state, none)
  else
    let state := { state with calls := .wait4 false answer :: state.calls }
    match answer with
    | .running => (state, none)
    | .reaped child => ({ state with exitStatus := some child }, none)
    | .error message =>
        (state, some (protocol.outputFailure ("could not wait for helper: " ++ message)))

/-- One turn, with the failure that ends the loop. -/
def superviseTurn (turn : Turn) (state : Supervision) : Supervision × Option FailureRecord :=
  match receive codec protocol validate turn.received state with
  | .error failure => (state, some failure)
  | .ok (state, true) => (state, none)
  | .ok (state, false) => pollExit protocol turn.poll state

/-- How the loop ends. -/
inductive SupervisionEnd where
  | completed (state : Supervision) (reaped : ReapedChild)
  | failed (state : Supervision) (failure : FailureRecord)

/-- The reaped child, once the output has ended and the exit has been observed. -/
def Supervision.observed (state : Supervision) : Option ReapedChild :=
  if state.stdoutDone then state.exitStatus else none

/-- `supervise`.  Behind the last turn before the deadline lies the deadline. -/
def supervise : List Turn → Supervision → SupervisionEnd
  | [], state =>
      match state.observed with
      | some reaped => .completed state reaped
      | none => .failed state protocol.deadlineFailure
  | turn :: turns, state =>
      match state.observed with
      | some reaped => .completed state reaped
      | none =>
          match superviseTurn codec protocol validate turn state with
          | (state, some failure) => .failed state failure
          | (state, none) => supervise turns state

end

/-! ## The whole execution -/

/-- What the helper and the operating system do. -/
structure HelperBehaviour where
  spawn : Except String Unit
  turns : List Turn
  terminationPoll : WaitResult
  terminationWait : WaitResult
  stderr : Bytes

/-- `terminate_and_reap`, with its calls, the newest first. -/
def terminateAndReap (helper : HelperBehaviour) :
    Except String ProcessResources × List ProcessCall :=
  let polled := ProcessCall.wait4 false helper.terminationPoll
  match helper.terminationPoll with
  | .reaped child => (child.resources, [polled])
  | .error message => (.error message, [.wait, .kill, polled])
  | .running =>
      let waited := ProcessCall.wait4 true helper.terminationWait
      match helper.terminationWait with
      | .reaped child => (child.resources, [waited, .kill, polled])
      | .running => (.error "blocking wait returned without reaping the helper",
          [waited, .kill, polled])
      | .error message => (.error message, [.wait, waited, .kill, polled])

/-- `failed_after_reap`. -/
def failedAfterReap (primary : FailureRecord) (resources : Except String ProcessResources) :
    ChildExecution :=
  .failed primary resources.toOption

/-- `completed_success`. -/
def completedSuccess (protocol : ChildProtocol) (state : Supervision)
    (resources : Except String ProcessResources) : ChildExecution :=
  if state.metadata.length ≠ protocol.expectedMetadataRecords ∨
      state.measurements.length ≠ protocol.expectedRecords then
    failedAfterReap (protocol.outputFailure ("emitted " ++ state.metadata.length.repr ++
      " metadata and " ++ state.measurements.length.repr ++ " measurement records; expected " ++
      protocol.expectedMetadataRecords.repr ++ " and " ++ protocol.expectedRecords.repr)) resources
  else
    match resources with
    | .ok resources => ⟨state.metadata, state.measurements, some resources, none⟩
    | .error message => .failed (protocol.resourceFailure message) none

/-- The failure of a helper that did not exit with success. -/
def exitFailure (protocol : ChildProtocol) (status : ExitStatus) (stderr : Bytes) :
    FailureRecord :=
  let special := status.code.bind fun code =>
    protocol.specialExitCodes.find? fun failure => failure.exitCode = code
  match special with
  | some special =>
      supervisionFailure special.failureCode (special.message ++ formatStderr stderr)
  | none =>
      supervisionFailure protocol.exitFailureCode ("packaged " ++ protocol.runtimeName ++
        " helper exited with " ++ status.text ++ formatStderr stderr)

/-- A failure of the supervision with the helper's diagnostics. -/
def withDiagnostics (protocol : ChildProtocol) (failure : FailureRecord) (stderr : Bytes) :
    FailureRecord :=
  if stderr ≠ [] ∧ failure.code ≠ protocol.deadlineFailureCode then
    { failure with message := boundedMessage (failure.message ++ formatStderr stderr) }
  else failure

/-- `child_supervisor::execute`, with the calls on the process, the newest first. -/
def ChildSupervisor.execute (codec : Codec) (protocol : ChildProtocol) (validate : Validator)
    (helper : HelperBehaviour) : ChildExecution × List ProcessCall :=
  if (protocol.expectedMetadataRecords + protocol.expectedRecords) * protocol.maxRecordBytes >
      protocol.maxStdoutBytes then
    (.failed (protocol.outputFailure "requested output exceeds its transport bound") none, [])
  else
    match helper.spawn with
    | .error message =>
        (.failed (supervisionFailure protocol.spawnFailureCode ("could not start packaged " ++
          protocol.runtimeName ++ " helper: " ++ message)) none, [])
    | .ok () =>
        let stderr := helper.stderr.take maxStderrBytes
        match supervise codec protocol validate helper.turns .start with
        | .completed state reaped =>
            if reaped.status.success then
              (completedSuccess protocol state reaped.resources, state.calls)
            else
              (failedAfterReap (exitFailure protocol reaped.status stderr) reaped.resources,
                state.calls)
        | .failed state failure =>
            let (resources, calls) :=
              match state.exitStatus with
              | some reaped => (reaped.resources, [])
              | none => terminateAndReap helper
            (failedAfterReap (withDiagnostics protocol failure stderr) resources,
              calls ++ state.calls)

/-! ## Invariants of the loop -/

section

variable {codec : Codec} {protocol : ChildProtocol} {validate : Validator}

/-- The state in which the loop ends. -/
def SupervisionEnd.state : SupervisionEnd → Supervision
  | .completed state _ => state
  | .failed state _ => state

/-- A turn keeps what its parts keep. -/
theorem superviseTurn_keeps {P : Supervision → Prop} {turn : Turn} {state : Supervision}
    (hline : ∀ line next ends, receiveLine codec protocol validate line state = .ok (next, ends) →
      P next)
    (hdone : P { state with stdoutDone := true })
    (hpoll : ∀ middle, P middle → P (pollExit protocol turn.poll middle).1) (hstate : P state) :
    P (superviseTurn codec protocol validate turn state).1 := by
  -- what has been received changes the state before the poll does
  have hreceive : ∀ next ends,
      receive codec protocol validate turn.received state = .ok (next, ends) → P next := by
    intro next ends hnext
    unfold receive at hnext
    split at hnext
    · exact hline _ _ _ hnext
    · contradiction
    · obtain ⟨rfl, -⟩ := Prod.mk.inj (Except.ok.inj hnext)
      exact hdone
    · obtain ⟨rfl, -⟩ := Prod.mk.inj (Except.ok.inj hnext)
      exact hdone
    · obtain ⟨rfl, -⟩ := Prod.mk.inj (Except.ok.inj hnext)
      exact hstate
  unfold superviseTurn
  split
  · exact hstate
  · rename_i next hnext
    exact hreceive _ _ hnext
  · rename_i next hnext
    exact hpoll _ (hreceive _ _ hnext)

/-- The loop keeps what every turn keeps. -/
theorem supervise_keeps {P : Supervision → Prop} {turns : List Turn} {state : Supervision}
    (hturn : ∀ turn ∈ turns, ∀ state, P state →
      P (superviseTurn codec protocol validate turn state).1)
    (hstate : P state) : P (supervise codec protocol validate turns state).state := by
  induction turns generalizing state with
  | nil =>
      unfold supervise
      split <;> exact hstate
  | cons turn turns ih =>
      have hnext := hturn turn List.mem_cons_self state hstate
      unfold supervise
      split
      · exact hstate
      · split
        · rename_i next failure hfailed
          rw [hfailed] at hnext
          exact hnext
        · rename_i next hgoes
          rw [hgoes] at hnext
          exact ih (fun other hother => hturn other (List.mem_cons_of_mem _ hother)) hnext

theorem exitStatus_of_observed {state : Supervision} {child : ReapedChild}
    (h : state.observed = some child) : state.exitStatus = some child := by
  unfold Supervision.observed at h
  split at h
  · exact h
  · contradiction

/-- A completed loop has observed the exit. -/
theorem exitStatus_of_completed {turns : List Turn} {state state' : Supervision}
    {reaped : ReapedChild}
    (h : supervise codec protocol validate turns state = .completed state' reaped) :
    state'.exitStatus = some reaped := by
  induction turns generalizing state with
  | nil =>
      unfold supervise at h
      split at h
      · rename_i child hchild
        obtain ⟨rfl, rfl⟩ := SupervisionEnd.completed.inj h
        exact exitStatus_of_observed hchild
      · contradiction
  | cons turn turns ih =>
      unfold supervise at h
      split at h
      · rename_i child hchild
        obtain ⟨rfl, rfl⟩ := SupervisionEnd.completed.inj h
        exact exitStatus_of_observed hchild
      · split at h
        · contradiction
        · exact ih h

/-! ## What the loop fails with -/

theorem failsWith_receiveLine {P : FailureRecord → Prop}
    (houtput : ∀ message, P (protocol.outputFailure message)) {line : Bytes}
    {state : Supervision} : FailsWith P (receiveLine codec protocol validate line state) := by
  unfold receiveLine
  apply FailsWith.bind (.rejectIf (houtput _))
  intro _ _
  apply FailsWith.bind (.rejectIf (houtput _))
  intro _ _
  split
  · exact failsWith_ok
  · -- the texts of the decoder and of the validator go through the same constructor
    apply FailsWith.bind (.mapFailure fun _ => houtput _)
    intro record _
    apply FailsWith.bind (.mapFailure houtput)
    intro _ _
    exact failsWith_ok

theorem superviseTurn_fails {P : FailureRecord → Prop}
    (houtput : ∀ message, P (protocol.outputFailure message)) {turn : Turn} {state : Supervision}
    {failure : FailureRecord}
    (h : (superviseTurn codec protocol validate turn state).2 = some failure) : P failure := by
  have hpoll : ∀ middle, (pollExit protocol turn.poll middle).2 = some failure → P failure := by
    intro middle hmiddle
    unfold pollExit at hmiddle
    split at hmiddle
    · contradiction
    · cases hanswer : turn.poll <;> rw [hanswer] at hmiddle
      · contradiction
      · contradiction
      · rw [← Option.some.inj hmiddle]
        exact houtput _
  unfold superviseTurn at h
  split at h
  · rename_i stopped hreceive
    obtain rfl := Option.some.inj h
    unfold receive at hreceive
    split at hreceive
    · exact failsWith_receiveLine houtput _ hreceive
    · rw [← Except.error.inj hreceive]
      exact houtput _
    · contradiction
    · contradiction
    · contradiction
  · contradiction
  · exact hpoll _ h

/-- The loop ends with a fault of the output or at the deadline, or it completes. -/
theorem supervise_fails {P : FailureRecord → Prop}
    (houtput : ∀ message, P (protocol.outputFailure message))
    (hdeadline : P protocol.deadlineFailure) {turns : List Turn} {state state' : Supervision}
    {failure : FailureRecord}
    (h : supervise codec protocol validate turns state = .failed state' failure) : P failure := by
  induction turns generalizing state with
  | nil =>
      unfold supervise at h
      split at h
      · contradiction
      · obtain ⟨-, rfl⟩ := SupervisionEnd.failed.inj h
        exact hdeadline
  | cons turn turns ih =>
      unfold supervise at h
      split at h
      · contradiction
      · split at h
        · rename_i next stopped hnext
          obtain ⟨-, rfl⟩ := SupervisionEnd.failed.inj h
          exact superviseTurn_fails houtput (by rw [hnext])
        · exact ih h

/-! ## How an execution ends -/

/-- What the reaping of the helper behind a failed loop has measured. -/
def Supervision.reapedResources (state : Supervision) (helper : HelperBehaviour) :
    Except String ProcessResources :=
  match state.exitStatus with
  | some reaped => reaped.resources
  | none => (terminateAndReap helper).1

/-- The ways in which an execution of the helper ends. -/
inductive Executed (codec : Codec) (protocol : ChildProtocol) (validate : Validator)
    (helper : HelperBehaviour) : ChildExecution → Prop
  | refused (message : String) :
      Executed codec protocol validate helper (.failed (protocol.outputFailure message) none)
  | unspawned (message : String) :
      Executed codec protocol validate helper
        (.failed (supervisionFailure protocol.spawnFailureCode message) none)
  | miscounted {state : Supervision} {reaped : ReapedChild} (message : String)
      (hloop : supervise codec protocol validate helper.turns .start = .completed state reaped) :
      Executed codec protocol validate helper
        (failedAfterReap (protocol.outputFailure message) reaped.resources)
  | unmeasured {state : Supervision} {reaped : ReapedChild} {message : String}
      (hloop : supervise codec protocol validate helper.turns .start = .completed state reaped)
      (hresources : reaped.resources = .error message) :
      Executed codec protocol validate helper (.failed (protocol.resourceFailure message) none)
  | succeeded {state : Supervision} {reaped : ReapedChild} {resources : ProcessResources}
      (hloop : supervise codec protocol validate helper.turns .start = .completed state reaped)
      (hmetadata : state.metadata.length = protocol.expectedMetadataRecords)
      (hmeasurements : state.measurements.length = protocol.expectedRecords)
      (hresources : reaped.resources = .ok resources) :
      Executed codec protocol validate helper
        ⟨state.metadata, state.measurements, some resources, none⟩
  | exited {state : Supervision} {reaped : ReapedChild} (stderr : Bytes)
      (hloop : supervise codec protocol validate helper.turns .start = .completed state reaped) :
      Executed codec protocol validate helper
        (failedAfterReap (exitFailure protocol reaped.status stderr) reaped.resources)
  | stopped {state : Supervision} {failure : FailureRecord} (stderr : Bytes)
      (hloop : supervise codec protocol validate helper.turns .start = .failed state failure) :
      Executed codec protocol validate helper
        (failedAfterReap (withDiagnostics protocol failure stderr) (state.reapedResources helper))

theorem executed (codec : Codec) (protocol : ChildProtocol) (validate : Validator)
    (helper : HelperBehaviour) :
    Executed codec protocol validate helper
      (ChildSupervisor.execute codec protocol validate helper).1 := by
  unfold ChildSupervisor.execute
  split
  · exact .refused _
  · split
    · exact .unspawned _
    · dsimp only
      split
      · rename_i state reaped hloop
        split
        · unfold completedSuccess
          split
          · exact .miscounted _ hloop
          · rename_i hcounts
            rw [not_or, not_not, not_not] at hcounts
            split
            · rename_i resources hresources
              exact .succeeded hloop hcounts.1 hcounts.2 hresources
            · rename_i message hresources
              exact .unmeasured hloop hresources
        · exact .exited _ hloop
      · rename_i state failure hloop
        cases hexit : state.exitStatus with
        | some reaped =>
            have hend := Executed.stopped (helper.stderr.take maxStderrBytes) hloop
            rwa [Supervision.reapedResources, hexit] at hend
        | none =>
            have hend := Executed.stopped (helper.stderr.take maxStderrBytes) hloop
            rwa [Supervision.reapedResources, hexit] at hend

/-! ## What an execution returns -/

/-- The records kept so far have been validated at their positions. -/
def Supervision.Validated (validate : Validator) (state : Supervision) : Prop :=
  ∀ i (h : i < state.measurements.length), validate state.measurements[i] i = .ok ()

theorem validated_receiveLine {line : Bytes} {state state' : Supervision} {ends : Bool}
    (hstate : state.Validated validate)
    (h : receiveLine codec protocol validate line state = .ok (state', ends)) :
    state'.Validated validate := by
  simp only [receiveLine, bind_eq_ok_iff, rejectIf_eq_ok] at h
  obtain ⟨-, -, -, -, h⟩ := h
  split at h
  · obtain ⟨rfl, -⟩ := Prod.mk.inj (Except.ok.inj h)
    exact hstate
  · simp only [bind_eq_ok_iff, mapFailure_eq_ok, pure_eq_ok_iff, Prod.mk.injEq] at h
    obtain ⟨record, -, ⟨⟩, hvalid, rfl, -⟩ := h
    intro i hi
    by_cases hlast : i < state.measurements.length
    · simpa [List.getElem_append_left hlast] using hstate i hlast
    · obtain rfl : i = state.measurements.length := by
        simp only [List.length_append, List.length_singleton] at hi
        omega
      simpa using hvalid

theorem validated_superviseTurn {turn : Turn} {state : Supervision}
    (hstate : state.Validated validate) :
    (superviseTurn codec protocol validate turn state).1.Validated validate := by
  refine superviseTurn_keeps (fun line next ends => validated_receiveLine hstate) hstate ?_ hstate
  intro middle hmiddle
  unfold pollExit
  split
  · exact hmiddle
  · cases turn.poll <;> exact hmiddle

theorem validated_of_completed {turns : List Turn} {state state' : Supervision}
    {reaped : ReapedChild} (hstate : state.Validated validate)
    (h : supervise codec protocol validate turns state = .completed state' reaped) :
    state'.Validated validate := by
  have hend : (supervise codec protocol validate turns state).state.Validated validate :=
    supervise_keeps (fun turn _ state hstate => validated_superviseTurn hstate) hstate
  rwa [h] at hend

/-- An execution with a failure carries no records. -/
def ChildExecution.IsClean (execution : ChildExecution) : Prop :=
  execution.failure.isSome = true → execution.metadata = [] ∧ execution.measurements = []

theorem isClean_failed (failure : FailureRecord) (resources : Option ProcessResources) :
    (ChildExecution.failed failure resources).IsClean :=
  fun _ => ⟨rfl, rfl⟩

theorem isClean_execute (helper : HelperBehaviour) :
    (ChildSupervisor.execute codec protocol validate helper).1.IsClean := by
  have hend := executed codec protocol validate helper
  generalize (ChildSupervisor.execute codec protocol validate helper).1 = execution at hend
  cases hend with
  | succeeded => exact fun h => by simp at h
  | refused | unspawned | miscounted | unmeasured | exited | stopped => exact isClean_failed _ _

end

end Benchplane
