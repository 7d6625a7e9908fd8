import Benchplane.Runtime.LlamaCpp

/-!
# Results of the helpers

Whatever a helper and the operating system do, an adapter returns a complete and
validated sequence of records or none at all.
-/

namespace Benchplane

open Library

/-! ## The supervisor -/

/-- An execution that returned the records its protocol asks for. -/
structure ChildExecution.Complete (protocol : ChildProtocol) (validate : Validator)
    (execution : ChildExecution) : Prop where
  accounted : execution.resources.isSome = true
  metadata : execution.metadata.length = protocol.expectedMetadataRecords
  measurements : execution.measurements.length = protocol.expectedRecords
  validated : ∀ i (h : i < execution.measurements.length),
    validate execution.measurements[i] i = .ok ()

section

variable {codec : Codec} {protocol : ChildProtocol} {validate : Validator}

/-- An execution without a failure went through every check of the supervisor. -/
theorem complete_execute {helper : HelperBehaviour}
    (h : (ChildSupervisor.execute codec protocol validate helper).1.failure = none) :
    (ChildSupervisor.execute codec protocol validate helper).1.Complete protocol validate := by
  have hstart : Supervision.start.Validated validate := by
    intro i hi
    simp [Supervision.start] at hi
  have hend := executed codec protocol validate helper
  generalize (ChildSupervisor.execute codec protocol validate helper).1 = execution at h hend ⊢
  cases hend with
  | succeeded hloop hmetadata hmeasurements =>
      exact ⟨rfl, hmetadata, hmeasurements, validated_of_completed hstart hloop⟩
  | refused | unspawned | miscounted | unmeasured | exited | stopped => contradiction

/-- An execution is complete, or it has failed and is empty. -/
theorem complete_or_empty (codec : Codec) (protocol : ChildProtocol) (validate : Validator)
    (helper : HelperBehaviour) {execution : ChildExecution}
    (h : (ChildSupervisor.execute codec protocol validate helper).1 = execution) :
    (execution.failure = none ∧ execution.Complete protocol validate) ∨
      ∃ failure, execution.failure = some failure ∧ execution.metadata = [] ∧
        execution.measurements = [] := by
  subst h
  cases hfailure : (ChildSupervisor.execute codec protocol validate helper).1.failure with
  | none => exact Or.inl ⟨rfl, complete_execute hfailure⟩
  | some failure =>
      have hclean : (ChildSupervisor.execute codec protocol validate helper).1.IsClean :=
        isClean_execute helper
      exact Or.inr ⟨failure, rfl, hclean (by rw [hfailure]; rfl)⟩

end

/-! ## The adapters -/

/-- A succeeded output with everything, or a failed one with nothing. -/
inductive AllOrNothing (validate : Validator) (count : Nat) (cuda : Prop)
    (output : ExecutionOutput) : Prop where
  | all (terminal : output.terminalState = .succeeded) (failure : output.failure = none)
      (accounted : output.resources.isSome = true) (complete : output.measurements.length = count)
      (validated : ∀ i (h : i < output.measurements.length),
        validate output.measurements[i] i = .ok ())
      (nvidia : output.nvidiaGpu.isSome = true ↔ cuda)
  | nothing (terminal : output.terminalState = .failed) (failure : output.failure.isSome = true)
      (measurements : output.measurements = []) (nvidia : output.nvidiaGpu = none)

/-- A sum of counts within a bound is their sum. -/
theorem filter_checkedAdd32_eq_some {a b : UInt32} {bound count : Nat}
    (h : (checkedAdd32 a b).filter (· ≤ bound) = some count) : count = a.toNat + b.toNat := by
  obtain ⟨hsum, -⟩ := Option.filter_eq_some_iff.mp h
  exact (checkedAdd32_eq_some.mp hsum).1.symm

namespace CpuProbe

variable {codec : Codec} {config : CpuProbeConfig} {helper : HelperBehaviour}

theorem expectedRecordCount_eq_ok {count : Nat} (h : expectedRecordCount config = .ok count) :
    count = config.warmupRuns.toNat + config.repetitions.toNat := by
  simp only [expectedRecordCount, bind_eq_ok_iff, orReject_eq_ok, pure_eq_ok_iff] at h
  obtain ⟨_, hcount, -, -, rfl⟩ := h
  exact filter_checkedAdd32_eq_some hcount

/-- The probe never reports a GPU. -/
theorem allOrNothing_execute : AllOrNothing (validateRecord config)
    (config.warmupRuns.toNat + config.repetitions.toNat) False (execute codec config helper) := by
  unfold execute executeCommand
  cases hcount : expectedRecordCount config with
  | error failure => exact .nothing rfl rfl rfl rfl
  | ok count =>
      obtain rfl := expectedRecordCount_eq_ok hcount
      simp only
      generalize hresult : (ChildSupervisor.execute codec _ (validateRecord config) helper).1 = result
      rcases complete_or_empty _ _ _ _ hresult with
        ⟨hnone, hcomplete⟩ | ⟨failure, hsome, -, hempty⟩
      · refine .all ?_ hnone hcomplete.accounted hcomplete.measurements hcomplete.validated ?_
        · simp [intoExecutionOutput, hnone]
        · simp [intoExecutionOutput]
      · refine .nothing ?_ ?_ hempty rfl
        · simp [intoExecutionOutput, hsome]
        · simp [intoExecutionOutput, hsome]

end CpuProbe

namespace LlamaCpp

variable {codec : Codec} {config : LlamaCppConfig} {helper : HelperBehaviour}

theorem expectedRecordCount_eq_ok {count : Nat} (h : expectedRecordCount config = .ok count) :
    count = config.warmupRuns.toNat + config.repetitions.toNat := by
  simp only [expectedRecordCount, bind_eq_ok_iff, orReject_eq_ok, pure_eq_ok_iff] at h
  obtain ⟨_, hcount, -, -, -, -, rfl⟩ := h
  exact filter_checkedAdd32_eq_some hcount

theorem allOrNothing_refusedMetadata (result : ChildExecution) (message : String) {count : Nat}
    {cuda : Prop} : AllOrNothing (validateRecord config) count cuda (refusedMetadata result message) :=
  .nothing rfl rfl rfl rfl

/-- The GPU is reported exactly for the CUDA target. -/
theorem allOrNothing_execute : AllOrNothing (validateRecord config)
    (config.warmupRuns.toNat + config.repetitions.toNat) (config.target = .nvidiaCuda)
    (execute codec config helper) := by
  unfold execute executeCommand
  cases hcount : expectedRecordCount config with
  | error failure => exact .nothing rfl rfl rfl rfl
  | ok count =>
      obtain rfl := expectedRecordCount_eq_ok hcount
      simp only
      generalize hresult : (ChildSupervisor.execute codec _ (validateRecord config) helper).1 = result
      unfold intoExecutionOutput
      rcases complete_or_empty _ _ _ _ hresult with
        ⟨hnone, hcomplete⟩ | ⟨failure, hsome, -, hempty⟩
      · rw [hnone]
        dsimp only
        -- the metadata decides which target's success this is
        split
        · rename_i htarget _
          exact .all rfl rfl hcomplete.accounted hcomplete.measurements hcomplete.validated
            (by simp [htarget])
        · rename_i metadata htarget _
          cases hparse : parseNvidiaMetadata codec metadata with
          | error message => exact allOrNothing_refusedMetadata _ _
          | ok gpu =>
              exact .all rfl rfl hcomplete.accounted hcomplete.measurements hcomplete.validated
                (by simp [htarget])
        · exact allOrNothing_refusedMetadata _ _
      · rw [hsome]
        exact .nothing rfl rfl hempty rfl

end LlamaCpp

/-- Whatever the helper and the operating system do, the two adapters return everything or
nothing. -/
theorem helpers_allOrNothing (codec : Codec) (helper : HelperBehaviour) :
    (∀ config : CpuProbeConfig, AllOrNothing (CpuProbe.validateRecord config)
      (config.warmupRuns.toNat + config.repetitions.toNat) False
      (CpuProbe.execute codec config helper)) ∧
    ∀ config : LlamaCppConfig, AllOrNothing (LlamaCpp.validateRecord config)
      (config.warmupRuns.toNat + config.repetitions.toNat) (config.target = .nvidiaCuda)
      (LlamaCpp.execute codec config helper) :=
  ⟨fun _ => CpuProbe.allOrNothing_execute, fun _ => LlamaCpp.allOrNothing_execute⟩

end Benchplane
