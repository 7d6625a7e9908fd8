import Benchplane.Library.SortedMap
import Benchplane.Library.Text
import Mathlib.Data.String.Basic

/-!
# Experiments

The experiment document, its resolved form and `Experiment::validate`.  The
budget is the bit pattern of a binary64 number: the program compares it with
zero, asks whether it is finite and prints it, and does no arithmetic on it.
-/

namespace Benchplane

open Library

namespace Schema

def apiVersion : String := "benchplane/v1alpha1"
def experimentKind : String := "Experiment"
def evidenceFormatV1 : String := "benchplane-evidence/v1"
def localFakeGeneratorVersion : String := "benchplane-local-fake/v1"
def cpuProbeGeneratorVersion : String := "benchplane-cpu-probe/v1"
def cpuProbeWorkloadProfile : String := "cpu-token-probe-v1"
def llamaCppGeneratorVersionV1 : String := "benchplane-llama-cpp-smollm2/v1"
def llamaCppGeneratorVersion : String := "benchplane-llama-cpp-smollm2/v2"
def llamaCppWorkloadProfile : String := "smollm2-chat-greedy-v1"
def llamaCppModelIdentity : String := "smollm2-135m-instruct-q2-k-v1"
def maxLocalFakeRecords : Nat := 10000
def maxCpuProbeRecords : Nat := 1000
def maxCpuProbeOutputTokens : Nat := 4096
def maxCpuProbeWorkUnitsPerToken : Nat := 1000000
def maxCpuProbeTotalWorkUnits : Nat := 100000000
def maxLlamaCppRecords : Nat := 16
def maxLlamaCppOutputTokens : Nat := 32
def maxLlamaCppPromptTokens : Nat := 96
def maxLlamaCppTotalTokens : Nat := 8192
def maxLlamaCppRequestObservations : Nat :=
  maxLlamaCppTotalTokens / (maxLlamaCppPromptTokens + 1)

end Schema

/-- The bits of an `f64`. -/
structure Float64 where
  bits : UInt64
  deriving DecidableEq

namespace Float64

def exponent (x : Float64) : Nat := x.bits.toNat / 2 ^ 52 % 2 ^ 11

def fraction (x : Float64) : Nat := x.bits.toNat % 2 ^ 52

def isNegative (x : Float64) : Bool := x.bits.toNat / 2 ^ 63 = 1

def isZero (x : Float64) : Bool := x.exponent = 0 ∧ x.fraction = 0

def isNaN (x : Float64) : Bool := x.exponent = 2047 ∧ x.fraction ≠ 0

/-- `f64::is_finite`. -/
def isFinite (x : Float64) : Bool := x.exponent ≠ 2047

/-- `x < 0.0`: no NaN, no zero of either sign. -/
def ltZero (x : Float64) : Bool := x.isNegative && !x.isZero && !x.isNaN

/-- `x <= 0.0`. -/
def leZero (x : Float64) : Bool := x.ltZero || x.isZero

/-- IEEE equality: the zeros are equal and a NaN equals nothing. -/
def eq (x y : Float64) : Bool :=
  !x.isNaN && !y.isNaN && (x.bits = y.bits || (x.isZero && y.isZero))

theorem isNaN_of_isFinite {x : Float64} (h : x.isFinite = true) : x.isNaN = false := by
  simp only [isFinite, decide_eq_true_eq] at h
  simp [isNaN, h]

/-- A number equals itself unless it is a NaN. -/
theorem eq_self (x : Float64) : x.eq x = !x.isNaN := by
  cases h : x.isNaN <;> simp [eq, h]

end Float64

/-- A `BTreeMap<String, String>`. -/
abbrev Labels := SortedMap String String

structure Metadata where
  name : String
  labels : Labels
  deriving DecidableEq

inductive AwsCapacity where
  | spot
  | onDemand
  deriving DecidableEq

inductive ProviderSpec where
  | localFake
  | «local»
  | aws (region : String) (capacity : AwsCapacity) (instanceTypes : List String)
  deriving DecidableEq

inductive LlamaCppTarget where
  | cpu
  | nvidiaCuda
  deriving DecidableEq

inductive LocalFakeScenario where
  | success
  | runtimeFailure
  | interrupted
  | insufficientMeasurements
  deriving DecidableEq

inductive RuntimeSpec where
  | localFake (seed : UInt64) (scenario : LocalFakeScenario)
  | cpuProbe (outputTokens workUnitsPerToken : UInt32)
  | llamaCpp (target : LlamaCppTarget) (model : String) (outputTokens : UInt32)
  | vllm (model revision : String) (arguments : List String)
  deriving DecidableEq

structure WorkloadSpec where
  profile : String
  requests : UInt32
  concurrency : UInt32
  deriving DecidableEq

structure MeasurementSpec where
  warmupRuns : UInt32
  repetitions : UInt32
  deriving DecidableEq

structure BudgetSpec where
  maximumCostUsd : Float64
  deriving DecidableEq

structure LifecycleSpec where
  maximumRuntimeSeconds : UInt64
  destroyOnCompletion : Bool
  deriving DecidableEq

structure ArtifactSpec where
  isPublic : Bool
  format : String
  deriving DecidableEq

structure ExperimentSpec where
  provider : ProviderSpec
  runtime : RuntimeSpec
  workload : WorkloadSpec
  measurement : MeasurementSpec
  budget : BudgetSpec
  lifecycle : LifecycleSpec
  artifacts : ArtifactSpec
  deriving DecidableEq

structure Experiment where
  apiVersion : String
  kind : String
  metadata : Metadata
  spec : ExperimentSpec
  deriving DecidableEq

structure ResolvedExperiment where
  apiVersion : String
  kind : String
  experiment : Experiment
  experimentDigest : String
  resolvedPlanDigest : String
  deriving DecidableEq

namespace Experiment

def budget (e : Experiment) : Float64 := e.spec.budget.maximumCostUsd

/-- The experiment with another budget. -/
def withBudget (e : Experiment) (x : Float64) : Experiment :=
  { e with spec := { e.spec with budget := ⟨x⟩ } }

/-- The derived `PartialEq`: the budgets compare as numbers, everything else as
data. -/
def partialEq (a b : Experiment) : Bool :=
  a.budget.eq b.budget && a.withBudget b.budget = b

@[simp] theorem withBudget_budget (e : Experiment) : e.withBudget e.budget = e := rfl

theorem partialEq_self {e : Experiment} (h : e.budget.isFinite = true) :
    e.partialEq e = true := by
  simp [partialEq, Float64.eq_self, Float64.isNaN_of_isFinite h]

end Experiment

/-- The derived `PartialEq` of resolved experiments. -/
def ResolvedExperiment.partialEq (a b : ResolvedExperiment) : Bool :=
  a.apiVersion = b.apiVersion && a.kind = b.kind && a.experiment.partialEq b.experiment &&
    a.experimentDigest = b.experimentDigest && a.resolvedPlanDigest = b.resolvedPlanDigest

theorem ResolvedExperiment.partialEq_self {plan : ResolvedExperiment}
    (h : plan.experiment.budget.isFinite = true) : plan.partialEq plan = true := by
  simp [ResolvedExperiment.partialEq, Experiment.partialEq_self h]

inductive ValidationError where
  | apiVersion (value : String)
  | kind (value : String)
  | emptyName
  | emptyWorkloadProfile
  | noRequests
  | noConcurrency
  | noRepetitions
  | localFakeRecordLimit
  | invalidCpuProbeOutputTokens
  | invalidCpuProbeWorkUnits
  | invalidCpuProbeProfile
  | unsupportedCpuProbeConcurrency
  | cpuProbeRecordLimit
  | cpuProbeWorkLimit
  | invalidLlamaCppModel
  | invalidLlamaCppOutputTokens
  | invalidLlamaCppProfile
  | unsupportedLlamaCppConcurrency
  | llamaCppRecordLimit
  | llamaCppWorkLimit
  | invalidLocalBudget
  | invalidAwsBudget
  | invalidRuntime
  | missingInstanceTypes
  | emptyAwsRegion
  | emptyAwsInstanceType
  | invalidVllmIdentity
  | unsupportedArtifactFormat (value : String)
  deriving DecidableEq

def ValidationError.text : ValidationError → String
  | .apiVersion value => "unsupported apiVersion: " ++ value
  | .kind value => "unsupported kind: " ++ value
  | .emptyName => "metadata.name must not be empty"
  | .emptyWorkloadProfile => "workload.profile must not be empty"
  | .noRequests => "workload.requests must be greater than zero"
  | .noConcurrency => "workload.concurrency must be greater than zero"
  | .noRepetitions => "measurement.repetitions must be greater than zero"
  | .localFakeRecordLimit =>
      "runtime.localFake total generated records must not exceed 10000"
  | .invalidCpuProbeOutputTokens =>
      "runtime.cpuProbe outputTokens must be between 1 and 4096"
  | .invalidCpuProbeWorkUnits =>
      "runtime.cpuProbe workUnitsPerToken must be between 1 and 1000000"
  | .invalidCpuProbeProfile =>
      "runtime.cpuProbe requires workload.profile cpu-token-probe-v1"
  | .unsupportedCpuProbeConcurrency => "runtime.cpuProbe supports only workload.concurrency 1"
  | .cpuProbeRecordLimit =>
      "runtime.cpuProbe total generated records exceeds its public bound"
  | .cpuProbeWorkLimit =>
      "runtime.cpuProbe requested work overflows or exceeds 100000000 work units"
  | .invalidLlamaCppModel => "runtime.llamaCpp requires model smollm2-135m-instruct-q2-k-v1"
  | .invalidLlamaCppOutputTokens =>
      "runtime.llamaCpp outputTokens must be between 1 and 32"
  | .invalidLlamaCppProfile =>
      "runtime.llamaCpp requires workload.profile smollm2-chat-greedy-v1"
  | .unsupportedLlamaCppConcurrency => "runtime.llamaCpp supports only workload.concurrency 1"
  | .llamaCppRecordLimit =>
      "runtime.llamaCpp total generated records exceeds its public bound"
  | .llamaCppWorkLimit =>
      "runtime.llamaCpp requested prompt-plus-generated token work overflows or exceeds " ++
        "8192 tokens"
  | .invalidLocalBudget =>
      "budget.maximumCostUsd must be finite and nonnegative for local experiments"
  | .invalidAwsBudget =>
      "budget.maximumCostUsd must be finite and greater than zero for AWS experiments"
  | .invalidRuntime => "lifecycle.maximumRuntimeSeconds must be between 1 and 86400"
  | .missingInstanceTypes => "AWS provider requires at least one instance type"
  | .emptyAwsRegion => "AWS provider region must not be empty"
  | .emptyAwsInstanceType => "AWS provider instance types must not contain empty values"
  | .invalidVllmIdentity => "vLLM model and revision must not be empty"
  | .unsupportedArtifactFormat value => "unsupported artifact format: " ++ value

/-! ## Validation -/

/-- `u32::checked_add`. -/
def checkedAdd32 (a b : UInt32) : Option Nat :=
  if a.toNat + b.toNat < 2 ^ 32 then some (a.toNat + b.toNat) else none

/-- `u32::saturating_sub`. -/
def saturatingSub32 (a b : UInt32) : UInt32 := if b ≤ a then a - b else 0

/-- `u64::checked_mul`. -/
def checkedMul64 (a b : Nat) : Option Nat :=
  if a * b < 2 ^ 64 then some (a * b) else none

/-- `value.is_none_or(|total| total > limit)`. -/
def isNoneOrAbove (limit : Nat) : Option Nat → Bool
  | none => true
  | some total => limit < total

/-- Report `error` when `bad` holds. -/
def reportIf (bad : Bool) (error : ValidationError) : List ValidationError :=
  if bad then [error] else []

namespace Experiment

/-- The checks on the fields every runtime has, in the order they are made. -/
def commonErrors (e : Experiment) : List ValidationError :=
  reportIf (e.apiVersion ≠ Schema.apiVersion) (.apiVersion e.apiVersion) ++
  reportIf (e.kind ≠ Schema.experimentKind) (.kind e.kind) ++
  reportIf (isBlank e.metadata.name) .emptyName ++
  reportIf (isBlank e.spec.workload.profile) .emptyWorkloadProfile ++
  reportIf (e.spec.workload.requests = 0) .noRequests ++
  reportIf (e.spec.workload.concurrency = 0) .noConcurrency ++
  reportIf (e.spec.measurement.repetitions = 0) .noRepetitions

/-- `warmup_runs.checked_add(repetitions)`. -/
def recordCount (e : Experiment) : Option Nat :=
  checkedAdd32 e.spec.measurement.warmupRuns e.spec.measurement.repetitions

/-- The checks on the runtime's own fields. -/
def runtimeErrors (e : Experiment) : List ValidationError :=
  match e.spec.runtime with
  | .localFake _ _ =>
      reportIf (isNoneOrAbove Schema.maxLocalFakeRecords e.recordCount) .localFakeRecordLimit
  | .cpuProbe outputTokens workUnitsPerToken =>
      let totalWork := e.recordCount.bind fun count =>
        (checkedMul64 count e.spec.workload.requests.toNat).bind fun value =>
          (checkedMul64 value outputTokens.toNat).bind fun value =>
            checkedMul64 value workUnitsPerToken.toNat
      reportIf (!(1 ≤ outputTokens.toNat && outputTokens.toNat ≤ Schema.maxCpuProbeOutputTokens))
        .invalidCpuProbeOutputTokens ++
      reportIf (!(1 ≤ workUnitsPerToken.toNat &&
          workUnitsPerToken.toNat ≤ Schema.maxCpuProbeWorkUnitsPerToken))
        .invalidCpuProbeWorkUnits ++
      reportIf (e.spec.workload.profile ≠ Schema.cpuProbeWorkloadProfile) .invalidCpuProbeProfile ++
      reportIf (e.spec.workload.concurrency ≠ 1) .unsupportedCpuProbeConcurrency ++
      reportIf (isNoneOrAbove Schema.maxCpuProbeRecords e.recordCount) .cpuProbeRecordLimit ++
      reportIf (isNoneOrAbove Schema.maxCpuProbeTotalWorkUnits totalWork) .cpuProbeWorkLimit
  | .llamaCpp _ model outputTokens =>
      let tokensPerRequest := checkedAdd32 (UInt32.ofNat Schema.maxLlamaCppPromptTokens) outputTokens
      let totalWork := e.recordCount.bind fun count =>
        (checkedMul64 count e.spec.workload.requests.toNat).bind fun value =>
          tokensPerRequest.bind fun tokens => checkedMul64 value tokens
      reportIf (model ≠ Schema.llamaCppModelIdentity) .invalidLlamaCppModel ++
      reportIf (!(1 ≤ outputTokens.toNat && outputTokens.toNat ≤ Schema.maxLlamaCppOutputTokens))
        .invalidLlamaCppOutputTokens ++
      reportIf (e.spec.workload.profile ≠ Schema.llamaCppWorkloadProfile) .invalidLlamaCppProfile ++
      reportIf (e.spec.workload.concurrency ≠ 1) .unsupportedLlamaCppConcurrency ++
      reportIf (isNoneOrAbove Schema.maxLlamaCppRecords e.recordCount) .llamaCppRecordLimit ++
      reportIf (isNoneOrAbove Schema.maxLlamaCppTotalTokens totalWork) .llamaCppWorkLimit
  | .vllm _ _ _ => []

/-- The checks on the provider's own fields and its budget. -/
def providerErrors (e : Experiment) : List ValidationError :=
  match e.spec.provider with
  | .localFake | .local =>
      reportIf (!e.budget.isFinite || e.budget.ltZero) .invalidLocalBudget
  | .aws region _ instanceTypes =>
      reportIf (!e.budget.isFinite || e.budget.leZero) .invalidAwsBudget ++
      reportIf (isBlank region) .emptyAwsRegion ++
      (if instanceTypes = [] then [.missingInstanceTypes]
       else reportIf (instanceTypes.any isBlank) .emptyAwsInstanceType)

/-- The check on the vLLM identity, made after the provider's. -/
def vllmErrors (e : Experiment) : List ValidationError :=
  match e.spec.runtime with
  | .vllm model revision _ => reportIf (isBlank model || isBlank revision) .invalidVllmIdentity
  | _ => []

/-- `Experiment::validate`: all errors, in the order the checks are made. -/
def validate (e : Experiment) : Except (List ValidationError) Unit :=
  let seconds := e.spec.lifecycle.maximumRuntimeSeconds.toNat
  let errors := e.commonErrors ++ e.runtimeErrors ++
    reportIf (!(1 ≤ seconds && seconds ≤ 86400)) .invalidRuntime ++
    e.providerErrors ++ e.vllmErrors ++
    reportIf (e.spec.artifacts.format ≠ Schema.evidenceFormatV1)
      (.unsupportedArtifactFormat e.spec.artifacts.format)
  if errors = [] then .ok () else .error errors

end Experiment

@[simp] theorem reportIf_eq_nil {bad : Bool} {error : ValidationError} :
    reportIf bad error = [] ↔ bad = false := by
  cases bad <;> simp [reportIf]

theorem checkedAdd32_eq_some {a b : UInt32} {total : Nat} :
    checkedAdd32 a b = some total ↔ a.toNat + b.toNat = total ∧ total < 2 ^ 32 := by
  unfold checkedAdd32
  grind

theorem isNoneOrAbove_eq_false {limit : Nat} {value : Option Nat} :
    isNoneOrAbove limit value = false ↔ ∃ total, value = some total ∧ total ≤ limit := by
  cases value <;> simp [isNoneOrAbove]

namespace Experiment

/-- A validation that refuses has errors. -/
theorem errors_ne_nil {e : Experiment} {errors : List ValidationError}
    (h : e.validate = .error errors) : errors ≠ [] := by
  unfold validate at h
  dsimp only at h
  split at h
  · contradiction
  · rename_i hne
    exact Except.error.inj h ▸ hne

/-- Every check passed. -/
theorem validate_eq_ok {e : Experiment} :
    e.validate = .ok () ↔
      e.commonErrors = [] ∧ e.runtimeErrors = [] ∧
      (1 ≤ e.spec.lifecycle.maximumRuntimeSeconds.toNat ∧
        e.spec.lifecycle.maximumRuntimeSeconds.toNat ≤ 86400) ∧
      e.providerErrors = [] ∧ e.vllmErrors = [] ∧
      e.spec.artifacts.format = Schema.evidenceFormatV1 := by
  simp only [validate, ite_eq_left_iff, reduceCtorEq, imp_false, not_not, List.append_eq_nil_iff,
    reportIf_eq_nil, Bool.and_eq_true, decide_eq_true_eq, ne_eq,
    decide_not, Bool.not_eq_eq_eq_not, Bool.not_false]
  tauto

/-- A small experiment: one request, one repetition, no warm-up. -/
def sample (provider : ProviderSpec) (runtime : RuntimeSpec) (profile : String) : Experiment where
  apiVersion := Schema.apiVersion
  kind := Schema.experimentKind
  metadata := ⟨"sample", .empty⟩
  spec :=
    { provider := provider
      runtime := runtime
      workload := ⟨profile, 1, 1⟩
      measurement := ⟨0, 1⟩
      budget := ⟨⟨0⟩⟩
      lifecycle := ⟨60, true⟩
      artifacts := ⟨false, Schema.evidenceFormatV1⟩ }

/-- The same with two requests, two repetitions and one warm-up. -/
def repeated (provider : ProviderSpec) (runtime : RuntimeSpec) (profile : String) : Experiment :=
  let small := sample provider runtime profile
  { small with spec := { small.spec with
      workload := ⟨profile, 2, 1⟩
      measurement := ⟨1, 2⟩ } }

/-- The budget of a valid experiment is finite. -/
theorem isFinite_of_validate {e : Experiment} (h : e.validate = .ok ()) :
    e.budget.isFinite = true := by
  rw [validate_eq_ok] at h
  obtain ⟨-, -, -, hprovider, -⟩ := h
  unfold providerErrors at hprovider
  split at hprovider
  · simp_all
  · simp_all
  · simp_all

theorem requests_pos_of_validate {e : Experiment} (h : e.validate = .ok ()) :
    0 < e.spec.workload.requests.toNat := by
  rw [validate_eq_ok] at h
  obtain ⟨hcommon, -⟩ := h
  simp only [commonErrors, List.append_eq_nil_iff, reportIf_eq_nil, decide_eq_false_iff_not] at hcommon
  obtain ⟨⟨⟨-, hrequests⟩, -⟩, -⟩ := hcommon
  exact Nat.pos_of_ne_zero fun hzero => hrequests (UInt32.toNat_inj.mp hzero)

theorem recordCount_le {e : Experiment} {limit : Nat}
    (h : isNoneOrAbove limit e.recordCount = false) :
    e.spec.measurement.warmupRuns.toNat + e.spec.measurement.repetitions.toNat ≤ limit := by
  obtain ⟨total, htotal, hle⟩ := isNoneOrAbove_eq_false.mp h
  obtain ⟨rfl, -⟩ := checkedAdd32_eq_some.mp htotal
  exact hle

theorem recordCount_le_of_localFake {e : Experiment} {seed : UInt64}
    {scenario : LocalFakeScenario} (h : e.validate = .ok ())
    (hruntime : e.spec.runtime = .localFake seed scenario) :
    e.spec.measurement.warmupRuns.toNat + e.spec.measurement.repetitions.toNat ≤ 10000 := by
  rw [validate_eq_ok] at h
  obtain ⟨-, hchecks, -⟩ := h
  simp only [runtimeErrors, hruntime, reportIf_eq_nil] at hchecks
  exact recordCount_le hchecks

theorem recordCount_le_of_cpuProbe {e : Experiment} {outputTokens workUnitsPerToken : UInt32}
    (h : e.validate = .ok ())
    (hruntime : e.spec.runtime = .cpuProbe outputTokens workUnitsPerToken) :
    e.spec.measurement.warmupRuns.toNat + e.spec.measurement.repetitions.toNat ≤ 1000 := by
  rw [validate_eq_ok] at h
  obtain ⟨-, hchecks, -⟩ := h
  simp only [runtimeErrors, hruntime, List.append_eq_nil_iff, reportIf_eq_nil] at hchecks
  exact recordCount_le hchecks.1.2

theorem recordCount_le_of_llamaCpp {e : Experiment} {target : LlamaCppTarget} {model : String}
    {outputTokens : UInt32} (h : e.validate = .ok ())
    (hruntime : e.spec.runtime = .llamaCpp target model outputTokens) :
    e.spec.measurement.warmupRuns.toNat + e.spec.measurement.repetitions.toNat ≤ 16 := by
  rw [validate_eq_ok] at h
  obtain ⟨-, hchecks, -⟩ := h
  simp only [runtimeErrors, hruntime, List.append_eq_nil_iff, reportIf_eq_nil] at hchecks
  exact recordCount_le hchecks.1.2

/-- What a valid llama.cpp experiment leaves no choice about. -/
theorem fixed_of_llamaCpp {e : Experiment} {target : LlamaCppTarget} {model : String}
    {outputTokens : UInt32} (h : e.validate = .ok ())
    (hruntime : e.spec.runtime = .llamaCpp target model outputTokens) :
    model = Schema.llamaCppModelIdentity ∧
      e.spec.workload.profile = Schema.llamaCppWorkloadProfile ∧
      e.spec.workload.concurrency = 1 := by
  rw [validate_eq_ok] at h
  obtain ⟨-, hchecks, -⟩ := h
  simp only [runtimeErrors, hruntime, List.append_eq_nil_iff, reportIf_eq_nil,
    decide_eq_false_iff_not, ne_eq, Decidable.not_not] at hchecks
  obtain ⟨⟨⟨⟨⟨hmodel, -⟩, hprofile⟩, hconcurrency⟩, -⟩, -⟩ := hchecks
  exact ⟨hmodel, hprofile, hconcurrency⟩

end Experiment

end Benchplane
