import Benchplane.Runtime.LlamaCpp

/-!
# The executable combinations

Which provider and runtime pairs are executed, and the configuration of their
adapters.
-/

namespace Benchplane

inductive ExecutionKind where
  | localFake (seed : UInt64) (scenario : LocalFakeScenario)
  | cpuProbe (config : CpuProbeConfig)
  | llamaCpp (config : LlamaCppConfig)

/-- `RunError::UnsupportedCombination`. -/
structure UnsupportedCombination where
  code : String
  message : String

/-- The configuration of the CPU probe for a plan. -/
def cpuProbeConfig (plan : ResolvedExperiment) (outputTokens workUnitsPerToken : UInt32) :
    CpuProbeConfig where
  requests := plan.experiment.spec.workload.requests
  warmupRuns := plan.experiment.spec.measurement.warmupRuns
  repetitions := plan.experiment.spec.measurement.repetitions
  outputTokens := outputTokens
  workUnitsPerToken := workUnitsPerToken
  maximumRuntimeSeconds := plan.experiment.spec.lifecycle.maximumRuntimeSeconds

/-- The configuration of the llama.cpp helper for a plan. -/
def llamaCppConfig (plan : ResolvedExperiment) (target : LlamaCppTarget) (outputTokens : UInt32) :
    LlamaCppConfig where
  target := target
  requests := plan.experiment.spec.workload.requests
  warmupRuns := plan.experiment.spec.measurement.warmupRuns
  repetitions := plan.experiment.spec.measurement.repetitions
  outputTokens := outputTokens
  maximumRuntimeSeconds := plan.experiment.spec.lifecycle.maximumRuntimeSeconds

/-- `execution_kind`; whether the CUDA package is available is fixed when the program
is built. -/
def executionKind (cudaPackageAvailable : Bool) (plan : ResolvedExperiment) :
    Except UnsupportedCombination ExecutionKind :=
  match plan.experiment.spec.provider, plan.experiment.spec.runtime with
  | .localFake, .localFake seed scenario => .ok (.localFake seed scenario)
  | .local, .cpuProbe outputTokens workUnitsPerToken =>
      .ok (.cpuProbe (cpuProbeConfig plan outputTokens workUnitsPerToken))
  | .local, .llamaCpp target _ outputTokens =>
      if target = .nvidiaCuda ∧ ¬ cudaPackageAvailable then
        .error ⟨Schema.errorExecutionUnsupportedCombination,
          "runtime llamaCpp target nvidiaCuda requires the supported x86_64-linux CUDA package"⟩
      else .ok (.llamaCpp (llamaCppConfig plan target outputTokens))
  | _, _ => .error ⟨Schema.errorExecutionUnsupportedCombination,
      "executable combinations are provider localFake with runtime localFake, provider local " ++
        "with runtime cpuProbe, and provider local with runtime llamaCpp"⟩

/-- An accepted combination is one of the three. -/
inductive IsExecutable (plan : ResolvedExperiment) : ExecutionKind → Prop where
  | localFake {seed : UInt64} {scenario : LocalFakeScenario}
      (provider : plan.experiment.spec.provider = .localFake)
      (runtime : plan.experiment.spec.runtime = .localFake seed scenario) :
      IsExecutable plan (.localFake seed scenario)
  | cpuProbe {outputTokens workUnitsPerToken : UInt32}
      (provider : plan.experiment.spec.provider = .local)
      (runtime : plan.experiment.spec.runtime = .cpuProbe outputTokens workUnitsPerToken) :
      IsExecutable plan (.cpuProbe (cpuProbeConfig plan outputTokens workUnitsPerToken))
  | llamaCpp {target : LlamaCppTarget} {model : String} {outputTokens : UInt32}
      (provider : plan.experiment.spec.provider = .local)
      (runtime : plan.experiment.spec.runtime = .llamaCpp target model outputTokens) :
      IsExecutable plan (.llamaCpp (llamaCppConfig plan target outputTokens))

theorem isExecutable_of_executionKind {cudaPackageAvailable : Bool} {plan : ResolvedExperiment}
    {kind : ExecutionKind} (h : executionKind cudaPackageAvailable plan = .ok kind) :
    IsExecutable plan kind := by
  unfold executionKind at h
  split at h
  · rename_i hprovider hruntime
    exact Except.ok.inj h ▸ .localFake hprovider hruntime
  · rename_i hprovider hruntime
    exact Except.ok.inj h ▸ .cpuProbe hprovider hruntime
  · rename_i hprovider hruntime
    split at h
    · contradiction
    · exact Except.ok.inj h ▸ .llamaCpp hprovider hruntime
  · contradiction

end Benchplane
