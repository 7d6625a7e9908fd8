import Benchplane.Run.ExecutionKind
import Benchplane.Run.Run
import Benchplane.Runtime.Diagnostics

/-!
# What every supervised execution returns

Whatever the helper and the operating system do, a failure carries one of the codes that
its runtime declares, metadata has come in the frame of the protocol, and resources are
those of a reaped process.
-/

namespace Benchplane

open Library

/-! ## The supervisor -/

/-- The codes with which a protocol names its failures. -/
def ChildProtocol.failureCodes (protocol : ChildProtocol) : List String :=
  [protocol.spawnFailureCode, protocol.exitFailureCode, protocol.outputFailureCode,
    protocol.deadlineFailureCode, protocol.resourceFailureCode] ++
  protocol.specialExitCodes.map (·.failureCode)

/-- A failure with one of these codes, for automation to go by: it is final, and it is one
of the first attempt. -/
structure FailureRecord.IsDeclared (codes : List String) (failure : FailureRecord) : Prop where
  phase : failure.phase = "running"
  code : failure.code ∈ codes
  retryable : failure.retryable = false
  attemptNumber : failure.attemptNumber = 1

theorem isDeclared_supervisionFailure {codes : List String} {code : String} (h : code ∈ codes)
    (message : String) : (supervisionFailure code message).IsDeclared codes :=
  ⟨rfl, h, rfl, rfl⟩

section

variable {codec : Codec} {protocol : ChildProtocol} {validate : Validator}

theorem isDeclared_outputFailure (message : String) :
    (protocol.outputFailure message).IsDeclared protocol.failureCodes :=
  isDeclared_supervisionFailure (by simp [ChildProtocol.failureCodes]) _

/-- The loop ends with a declared failure, or it completes. -/
theorem isDeclared_supervise {turns : List Turn} {state state' : Supervision}
    {failure : FailureRecord}
    (h : supervise codec protocol validate turns state = .failed state' failure) :
    failure.IsDeclared protocol.failureCodes :=
  supervise_fails isDeclared_outputFailure
    (isDeclared_supervisionFailure (by simp [ChildProtocol.failureCodes]) _) h

theorem isDeclared_exitFailure (status : ExitStatus) (stderr : Bytes) :
    (exitFailure protocol status stderr).IsDeclared protocol.failureCodes := by
  unfold exitFailure
  dsimp only
  split
  · rename_i special hspecial
    obtain ⟨code, -, hfound⟩ := Option.bind_eq_some_iff.mp hspecial
    -- the special code is one of the protocol's own
    have hmem : special ∈ protocol.specialExitCodes := List.mem_of_find?_eq_some hfound
    apply isDeclared_supervisionFailure
    exact List.mem_append_right _ (List.mem_map_of_mem hmem)
  · exact isDeclared_supervisionFailure (by simp [ChildProtocol.failureCodes]) _

/-- Every failure of an execution is a declared one. -/
theorem isDeclared_execute {helper : HelperBehaviour} {failure : FailureRecord}
    (h : (ChildSupervisor.execute codec protocol validate helper).1.failure = some failure) :
    failure.IsDeclared protocol.failureCodes := by
  have hend := executed codec protocol validate helper
  generalize (ChildSupervisor.execute codec protocol validate helper).1 = execution at h hend
  cases hend with
  | refused | miscounted =>
      rw [← Option.some.inj h]
      exact isDeclared_outputFailure _
  | unspawned | unmeasured =>
      rw [← Option.some.inj h]
      exact isDeclared_supervisionFailure (by simp [ChildProtocol.failureCodes]) _
  | succeeded => contradiction
  | exited =>
      rw [← Option.some.inj h]
      exact isDeclared_exitFailure _ _
  | stopped stderr hloop =>
      have hstopped := isDeclared_supervise hloop
      rw [← Option.some.inj h]
      -- the diagnostics only change the message
      unfold withDiagnostics
      split
      · exact ⟨hstopped.phase, hstopped.code, hstopped.retryable, hstopped.attemptNumber⟩
      · exact hstopped

/-! ## Metadata lines -/

/-- The metadata lines have come in the frame of the protocol. -/
def Supervision.Framed (protocol : ChildProtocol) (state : Supervision) : Prop :=
  ∀ line ∈ state.metadata, line.length < protocol.maxRecordBytes

theorem framed_receiveLine {line : Bytes} {state next : Supervision} {ends : Bool}
    (hstate : state.Framed protocol)
    (h : receiveLine codec protocol validate line state = .ok (next, ends)) :
    next.Framed protocol := by
  simp only [receiveLine, bind_eq_ok_iff, rejectIf_eq_ok, not_lt] at h
  obtain ⟨⟨⟩, -, ⟨⟩, hline, h⟩ := h
  split at h
  · obtain ⟨rfl, -⟩ := Prod.mk.inj (Except.ok.inj h)
    intro other hother
    rcases List.mem_append.mp hother with hmem | hmem
    · exact hstate other hmem
    · rw [List.mem_singleton.mp hmem]
      omega
  · simp only [bind_eq_ok_iff, mapFailure_eq_ok, pure_eq_ok_iff, Prod.mk.injEq] at h
    obtain ⟨record, -, -, -, rfl, -⟩ := h
    exact hstate

theorem framed_supervise (turns : List Turn) :
    (supervise codec protocol validate turns .start).state.Framed protocol := by
  apply supervise_keeps
  · intro turn _ state hstate
    refine superviseTurn_keeps (fun line next ends => framed_receiveLine hstate) hstate ?_ hstate
    intro middle hmiddle
    unfold pollExit
    split
    · exact hmiddle
    · cases turn.poll <;> exact hmiddle
  · exact fun _ hline => absurd hline List.not_mem_nil

/-- The metadata of an execution has come in the frame of the protocol. -/
theorem framed_execute {helper : HelperBehaviour} {line : Bytes}
    (h : line ∈ (ChildSupervisor.execute codec protocol validate helper).1.metadata) :
    line.length < protocol.maxRecordBytes := by
  have hend := executed codec protocol validate helper
  generalize (ChildSupervisor.execute codec protocol validate helper).1 = execution at h hend
  cases hend with
  | succeeded hloop =>
      have hframed : (supervise codec protocol validate helper.turns .start).state.Framed
          protocol := framed_supervise _
      rw [hloop] at hframed
      exact hframed line h
  | refused | unspawned | miscounted | unmeasured | exited | stopped =>
      exact absurd h List.not_mem_nil

/-! ## Resources -/

/-- The accounting of a reaped child is that of the operating system. -/
def ReapedChild.IsAccounted (child : ReapedChild) : Prop :=
  ∃ usage, child.resources = resourceUsageFromComponents usage

/-- So is that of a child reaped by a call. -/
def WaitResult.IsAccounted : WaitResult → Prop
  | .reaped child => child.IsAccounted
  | .running | .error _ => True

/-- Whenever the helper is reaped, its resources are accounted for. -/
structure HelperBehaviour.IsAccounted (helper : HelperBehaviour) : Prop where
  turns : ∀ turn ∈ helper.turns, turn.poll.IsAccounted
  terminationPoll : helper.terminationPoll.IsAccounted
  terminationWait : helper.terminationWait.IsAccounted

/-- Peak memory is counted in KiB. -/
theorem peakRss_of_isAccounted {child : ReapedChild} (h : child.IsAccounted)
    {resources : ProcessResources} (hresources : child.resources = .ok resources) :
    resources.peakRssBytes.toNat % 1024 = 0 := by
  obtain ⟨usage, husage⟩ := h
  rw [hresources] at husage
  have hok : resourceUsageFromComponents usage = .ok resources := husage.symm
  simp only [resourceUsageFromComponents, bind_eq_ok_iff, orReject_eq_ok, rejectIf_eq_ok,
    pure_eq_ok_iff, not_or, not_lt, ge_iff_le, not_le] at hok
  obtain ⟨user, -, system, -, -, -, -, ⟨-, hfits⟩, rfl⟩ := hok
  have hnat : (UInt64.ofNat (usage.peakRssKib.toNat * 1024)).toNat =
      usage.peakRssKib.toNat * 1024 := UInt64.toNat_ofNat_of_lt' hfits
  rw [hnat]
  exact Nat.mul_mod_left _ _

/-- The exit that the loop has observed is accounted for. -/
def Supervision.Accounted (state : Supervision) : Prop :=
  ∀ child, state.exitStatus = some child → child.IsAccounted

theorem accounted_supervise {turns : List Turn} (h : ∀ turn ∈ turns, turn.poll.IsAccounted) :
    (supervise codec protocol validate turns .start).state.Accounted := by
  apply supervise_keeps
  · intro turn hturn state hstate
    have haccounted := h turn hturn
    refine superviseTurn_keeps ?_ hstate ?_ hstate
    · intro line next ends hline
      simp only [receiveLine, bind_eq_ok_iff, rejectIf_eq_ok] at hline
      obtain ⟨-, -, -, -, hline⟩ := hline
      split at hline
      · obtain ⟨rfl, -⟩ := Prod.mk.inj (Except.ok.inj hline)
        exact hstate
      · simp only [bind_eq_ok_iff, mapFailure_eq_ok, pure_eq_ok_iff, Prod.mk.injEq] at hline
        obtain ⟨record, -, -, -, rfl, -⟩ := hline
        exact hstate
    -- only a poll brings the account of a child
    · intro middle hmiddle
      unfold pollExit
      split
      · exact hmiddle
      · cases hanswer : turn.poll with
        | running => exact hmiddle
        | error message => exact hmiddle
        | reaped child =>
            rw [hanswer] at haccounted
            intro other hother
            rw [← Option.some.inj hother]
            exact haccounted
  · intro child hchild
    contradiction

theorem peakRss_terminateAndReap {helper : HelperBehaviour} (h : helper.IsAccounted)
    {resources : ProcessResources} (hresources : (terminateAndReap helper).1 = .ok resources) :
    resources.peakRssBytes.toNat % 1024 = 0 := by
  have hpoll := h.terminationPoll
  have hwait := h.terminationWait
  unfold terminateAndReap at hresources
  split at hresources
  · rename_i child hchild
    rw [hchild] at hpoll
    exact peakRss_of_isAccounted hpoll hresources
  · contradiction
  · dsimp only at hresources
    split at hresources
    · rename_i child hchild
      rw [hchild] at hwait
      exact peakRss_of_isAccounted hwait hresources
    · contradiction
    · contradiction

/-- The resources of an execution, successful or not, have a peak in whole KiB. -/
theorem peakRss_execute {helper : HelperBehaviour} (h : helper.IsAccounted)
    {resources : ProcessResources}
    (hresources : (ChildSupervisor.execute codec protocol validate helper).1.resources =
      some resources) : resources.peakRssBytes.toNat % 1024 = 0 := by
  have hsome : ∀ {result : Except String ProcessResources}, result.toOption = some resources →
      result = .ok resources := by
    intro result hresult
    cases result with
    | error message => contradiction
    | ok found => exact congrArg Except.ok (Option.some.inj hresult)
  have haccounted : (supervise codec protocol validate helper.turns .start).state.Accounted :=
    accounted_supervise h.turns
  have hend := executed codec protocol validate helper
  generalize (ChildSupervisor.execute codec protocol validate helper).1 = execution
    at hresources hend
  cases hend with
  | refused | unspawned | unmeasured => contradiction
  | succeeded hloop hmetadata hmeasurements hfound =>
      rw [hloop] at haccounted
      rw [Option.some.inj hresources] at hfound
      exact peakRss_of_isAccounted (haccounted _ (exitStatus_of_completed hloop)) hfound
  | miscounted message hloop | exited stderr hloop =>
      -- the resources are those of the child that was reaped
      rw [hloop] at haccounted
      exact peakRss_of_isAccounted (haccounted _ (exitStatus_of_completed hloop))
        (hsome hresources)
  | @stopped state failure stderr hloop =>
      rw [hloop] at haccounted
      replace hresources := hsome hresources
      unfold Supervision.reapedResources at hresources
      split at hresources
      · rename_i child hchild
        exact peakRss_of_isAccounted (haccounted child hchild) hresources
      · exact peakRss_terminateAndReap h hresources

end

/-! ## The runtimes -/

/-- The codes that a runtime declares for its failures. -/
def ExecutionKind.failureCodes : ExecutionKind → List String
  | .localFake _ _ => [Schema.errorLocalFakeRuntimeFailure, Schema.errorLocalFakeInterrupted]
  | .cpuProbe _ => [Schema.errorCpuProbeSpawnFailed, Schema.errorCpuProbeExitFailed,
      Schema.errorCpuProbeOutputInvalid, Schema.errorCpuProbeDeadlineExceeded,
      Schema.errorCpuProbeResourceAccountingFailed]
  | .llamaCpp _ => [Schema.errorLlamaCppSpawnFailed, Schema.errorLlamaCppExitFailed,
      Schema.errorLlamaCppOutputInvalid, Schema.errorLlamaCppDeadlineExceeded,
      Schema.errorLlamaCppResourceAccountingFailed, Schema.errorLlamaCppModelInitFailed]

theorem CpuProbe.isDeclared_execute {codec : Codec} {config : CpuProbeConfig}
    {helper : HelperBehaviour} {failure : FailureRecord}
    (h : (CpuProbe.execute codec config helper).failure = some failure) :
    failure.IsDeclared (ExecutionKind.cpuProbe config).failureCodes := by
  have hprotocol : ∀ message, (CpuProbe.protocolFailure message).IsDeclared
      (ExecutionKind.cpuProbe config).failureCodes := fun _ =>
    ⟨rfl, by simp [CpuProbe.protocolFailure, ExecutionKind.failureCodes], rfl, rfl⟩
  exact CpuProbe.executeCommand_fails hprotocol (fun _ => Benchplane.isDeclared_execute) h

namespace LlamaCpp

variable {codec : Codec} {config : LlamaCppConfig} {helper : HelperBehaviour}
  {failure : FailureRecord}

theorem isDeclared_protocolFailure (config : LlamaCppConfig) (message : String) :
    (protocolFailure message).IsDeclared (ExecutionKind.llamaCpp config).failureCodes :=
  ⟨rfl, by simp [protocolFailure, ExecutionKind.failureCodes], rfl, rfl⟩

theorem isDeclared_executeCommand
    (h : (executeCommand codec config helper).failure = some failure) :
    failure.IsDeclared (ExecutionKind.llamaCpp config).failureCodes :=
  executeCommand_fails (fun message _ => isDeclared_protocolFailure config message)
    (fun _ => Benchplane.isDeclared_execute) h

/-- A failure of the adapter is one of the supervision, or the metadata has been refused. -/
theorem failure_execute (h : (execute codec config helper).failure = some failure) :
    (executeCommand codec config helper).failure = some failure ∨
      ∃ message, failure = protocolFailure message ∧
        (message = "llama.cpp helper metadata does not match the requested target" ∨
          ∃ line ∈ (executeCommand codec config helper).metadata,
            parseNvidiaMetadata codec line = .error message) := by
  unfold execute intoExecutionOutput at h
  split at h
  · rename_i stopped hstopped
    rw [← Option.some.inj h]
    exact Or.inl hstopped
  · split at h
    · contradiction
    · rename_i metadata htarget hmetadata
      split at h
      · contradiction
      · rename_i message hrefused
        refine Or.inr ⟨message, (Option.some.inj h).symm, Or.inr ⟨metadata, ?_, hrefused⟩⟩
        rw [hmetadata]
        exact List.mem_singleton_self metadata
    · exact Or.inr ⟨_, (Option.some.inj h).symm, Or.inl rfl⟩

theorem isDeclared_execute (h : (execute codec config helper).failure = some failure) :
    failure.IsDeclared (ExecutionKind.llamaCpp config).failureCodes := by
  rcases failure_execute h with hcommand | ⟨message, rfl, -⟩
  · exact isDeclared_executeCommand hcommand
  · exact isDeclared_protocolFailure config message

/-- An execution has succeeded when it has no failure. -/
theorem succeeded_execute_iff :
    (execute codec config helper).terminalState = .succeeded ↔
      (execute codec config helper).failure = none := by
  unfold execute intoExecutionOutput
  split
  · simp
  · split
    · simp
    · split <;> simp [refusedMetadata]
    · simp [refusedMetadata]

end LlamaCpp

section

variable {codec : Codec} {services : Services} {plan : ResolvedExperiment} {kind : ExecutionKind}

theorem succeeded_localFake_iff {seed : UInt64} {scenario : LocalFakeScenario} :
    (LocalFake.execute codec.hash plan seed scenario).terminalState = .succeeded ↔
      (LocalFake.execute codec.hash plan seed scenario).failure = none := by
  cases scenario <;> simp [LocalFake.execute]

theorem isDeclared_localFake {seed : UInt64} {scenario : LocalFakeScenario}
    {failure : FailureRecord}
    (h : (LocalFake.execute codec.hash plan seed scenario).failure = some failure) :
    failure.IsDeclared (ExecutionKind.localFake seed scenario).failureCodes := by
  have hdeclared : ∀ code message, code ∈ (ExecutionKind.localFake seed scenario).failureCodes →
      (LocalFake.failure code message).IsDeclared
        (ExecutionKind.localFake seed scenario).failureCodes :=
    fun _ _ hcode => ⟨rfl, hcode, rfl, rfl⟩
  cases scenario with
  | success | insufficientMeasurements => contradiction
  | runtimeFailure | interrupted =>
      rw [← Option.some.inj h]
      exact hdeclared _ _ (by simp [ExecutionKind.failureCodes])

theorem isDeclared_executeRuntime {failure : FailureRecord}
    (h : (executeRuntime codec services plan kind).failure = some failure) :
    failure.IsDeclared kind.failureCodes := by
  cases kind with
  | localFake seed scenario => exact isDeclared_localFake h
  | cpuProbe config => exact CpuProbe.isDeclared_execute h
  | llamaCpp config => exact LlamaCpp.isDeclared_execute h

/-- Only a successful execution has a GPU. -/
theorem nvidiaGpu_of_failed
    (h : (executeRuntime codec services plan kind).terminalState ≠ .succeeded) :
    (executeRuntime codec services plan kind).nvidiaGpu = none := by
  cases kind with
  | localFake seed scenario => cases scenario <;> rfl
  | cpuProbe config => rfl
  | llamaCpp config =>
      simp only [executeRuntime, LlamaCpp.execute] at h ⊢
      unfold LlamaCpp.intoExecutionOutput at h ⊢
      split at h
      · rfl
      · split at h
        · rfl
        · split at h
          · contradiction
          · rfl
        · rfl

/-- Whenever a helper is reaped, its resources are accounted for. -/
structure Services.AreAccounted (services : Services) : Prop where
  cpuProbe : services.cpuProbe.IsAccounted
  llamaCpp : services.llamaCpp.IsAccounted
  llamaCppCuda : services.llamaCppCuda.IsAccounted

/-- The resources of an execution are those of a helper, with a peak in whole KiB. -/
theorem resources_executeRuntime (h : services.AreAccounted) {resources : ProcessResources}
    (hresources : (executeRuntime codec services plan kind).resources = some resources) :
    (∀ seed scenario, kind ≠ .localFake seed scenario) ∧
      resources.peakRssBytes.toNat % 1024 = 0 := by
  cases kind with
  | localFake seed scenario =>
      cases scenario <;> contradiction
  | cpuProbe config =>
      refine ⟨by simp, ?_⟩
      change (CpuProbe.executeCommand codec config services.cpuProbe).resources = _ at hresources
      unfold CpuProbe.executeCommand at hresources
      split at hresources
      · contradiction
      · exact peakRss_execute h.cpuProbe hresources
  | llamaCpp config =>
      refine ⟨by simp, ?_⟩
      have hcommand : ∀ helper : HelperBehaviour, helper.IsAccounted →
          (LlamaCpp.execute codec config helper).resources = some resources →
          resources.peakRssBytes.toNat % 1024 = 0 := by
        intro helper hhelper hfound
        -- the metadata decides over the outcome, not over the resources
        have hsame : (LlamaCpp.execute codec config helper).resources =
            (LlamaCpp.executeCommand codec config helper).resources := by
          unfold LlamaCpp.execute LlamaCpp.intoExecutionOutput
          split
          · rfl
          · split
            · rfl
            · split <;> rfl
            · rfl
        rw [hsame] at hfound
        unfold LlamaCpp.executeCommand at hfound
        split at hfound
        · contradiction
        · exact peakRss_execute hhelper hfound
      simp only [executeRuntime] at hresources
      cases htarget : config.target with
      | cpu =>
          rw [htarget] at hresources
          exact hcommand _ h.llamaCpp hresources
      | nvidiaCuda =>
          rw [htarget] at hresources
          exact hcommand _ h.llamaCppCuda hresources

theorem LlamaCpp.framed_executeCommand {config : LlamaCppConfig} {helper : HelperBehaviour}
    {line : Bytes} (h : line ∈ (LlamaCpp.executeCommand codec config helper).metadata) :
    line.length < LlamaCpp.maxSerializedRecordBytes := by
  unfold LlamaCpp.executeCommand at h
  split at h
  · exact absurd h List.not_mem_nil
  · exact framed_execute h

end

/-- Every execution ends in success without a failure, or without success and with a
failure that carries one of the codes declared for the runtime. -/
theorem executeRuntime_declared (codec : Codec) (services : Services)
    (plan : ResolvedExperiment) (kind : ExecutionKind) :
    ((executeRuntime codec services plan kind).terminalState = .succeeded ↔
      (executeRuntime codec services plan kind).failure = none) ∧
    ∀ failure, (executeRuntime codec services plan kind).failure = some failure →
      failure.IsDeclared kind.failureCodes := by
  refine ⟨?_, fun failure hfailure => isDeclared_executeRuntime hfailure⟩
  cases kind with
  | localFake seed scenario => exact succeeded_localFake_iff
  | cpuProbe config =>
      simp only [executeRuntime, CpuProbe.execute, CpuProbe.intoExecutionOutput]
      split <;> simp_all
  | llamaCpp config => exact LlamaCpp.succeeded_execute_iff

end Benchplane
