import Benchplane.Library.JsonDecode
import Benchplane.Schema.Encoding

/-!
# JSON decodings of the plan

What the derived deserializers read for an experiment and its resolved form: field
names in camel case, defaults for absent fields, no unknown fields, and the provider
and the runtime by their `kind`.  How a number is read as a binary64 number is a
parameter.  What has been written is read back.
-/

namespace Benchplane

open Library Library.Json

/-- The `f64` that a number is read as. -/
abbrev ParseFloat := String → Option Float64

namespace Schema

def defaultLlamaCppTarget : LlamaCppTarget := .cpu
def defaultLlamaCppModel : String := llamaCppModelIdentity
def defaultLlamaCppOutputTokens : UInt32 := 4
def defaultConcurrency : UInt32 := 1
def defaultWarmups : UInt32 := 1
def defaultRepetitions : UInt32 := 3
def defaultRuntimeSeconds : UInt64 := 3600
def defaultTrue : Bool := true
def defaultArtifactFormat : String := evidenceFormatV1

end Schema

/-! ## Decoders -/

def Metadata.ofJson (value : Json) : Option Metadata := do
  let fields ← recordFieldsOr ["labels"] ["name", "labels"] value
  let name ← required fields "name" decodeString
  let labels ← defaulted fields "labels" (decodeMap decodeString) .empty
  pure ⟨name, labels⟩

def AwsCapacity.ofJson (value : Json) : Option AwsCapacity :=
  match variantName value with
  | some "spot" => some .spot
  | some "onDemand" => some .onDemand
  | _ => none

/-- The variants without fields ignore what stands beside their `kind`. -/
def ProviderSpec.ofJson (value : Json) : Option ProviderSpec := do
  let (kind, content) ← taggedContent "kind" value
  match kind with
  | "localFake" => some .localFake
  | "local" => some .local
  | "aws" => do
      let fields ← recordFieldsOr ["capacity"] ["region", "capacity", "instanceTypes"] content
      let region ← required fields "region" decodeString
      let capacity ← defaulted fields "capacity" AwsCapacity.ofJson .spot
      let instanceTypes ← required fields "instanceTypes" (decodeList decodeString)
      pure (.aws region capacity instanceTypes)
  | _ => none

def LlamaCppTarget.ofJson (value : Json) : Option LlamaCppTarget :=
  match variantName value with
  | some "cpu" => some .cpu
  | some "nvidiaCuda" => some .nvidiaCuda
  | _ => none

def LocalFakeScenario.ofJson (value : Json) : Option LocalFakeScenario :=
  match variantName value with
  | some "success" => some .success
  | some "runtimeFailure" => some .runtimeFailure
  | some "interrupted" => some .interrupted
  | some "insufficientMeasurements" => some .insufficientMeasurements
  | _ => none

def RuntimeSpec.ofJson (value : Json) : Option RuntimeSpec := do
  let (kind, content) ← taggedContent "kind" value
  match kind with
  | "localFake" => do
      let fields ← recordFieldsOr ["seed", "scenario"] ["seed", "scenario"] content
      let seed ← defaulted fields "seed" decodeU64 0
      let scenario ← defaulted fields "scenario" LocalFakeScenario.ofJson .success
      pure (.localFake seed scenario)
  | "cpuProbe" => do
      let fields ← recordFields ["outputTokens", "workUnitsPerToken"] content
      let outputTokens ← required fields "outputTokens" decodeU32
      let workUnitsPerToken ← required fields "workUnitsPerToken" decodeU32
      pure (.cpuProbe outputTokens workUnitsPerToken)
  | "llamaCpp" => do
      let fields ← recordFieldsOr ["target", "model", "outputTokens"]
        ["target", "model", "outputTokens"] content
      let target ← defaulted fields "target" LlamaCppTarget.ofJson Schema.defaultLlamaCppTarget
      let model ← defaulted fields "model" decodeString Schema.defaultLlamaCppModel
      let outputTokens ← defaulted fields "outputTokens" decodeU32
        Schema.defaultLlamaCppOutputTokens
      pure (.llamaCpp target model outputTokens)
  | "vllm" => do
      let fields ← recordFieldsOr ["arguments"] ["model", "revision", "arguments"] content
      let model ← required fields "model" decodeString
      let revision ← required fields "revision" decodeString
      let arguments ← defaulted fields "arguments" (decodeList decodeString) []
      pure (.vllm model revision arguments)
  | _ => none

def WorkloadSpec.ofJson (value : Json) : Option WorkloadSpec := do
  let fields ← recordFieldsOr ["concurrency"] ["profile", "requests", "concurrency"] value
  let profile ← required fields "profile" decodeString
  let requests ← required fields "requests" decodeU32
  let concurrency ← defaulted fields "concurrency" decodeU32 Schema.defaultConcurrency
  pure ⟨profile, requests, concurrency⟩

def MeasurementSpec.default : MeasurementSpec := ⟨Schema.defaultWarmups, Schema.defaultRepetitions⟩

def MeasurementSpec.ofJson (value : Json) : Option MeasurementSpec := do
  let fields ← recordFieldsOr ["warmupRuns", "repetitions"] ["warmupRuns", "repetitions"] value
  let warmupRuns ← defaulted fields "warmupRuns" decodeU32 Schema.defaultWarmups
  let repetitions ← defaulted fields "repetitions" decodeU32 Schema.defaultRepetitions
  pure ⟨warmupRuns, repetitions⟩

/-- A number as an `f64`. -/
def decodeFloat (parseFloat : ParseFloat) : Json → Option Float64
  | .number text => parseFloat text
  | _ => none

def BudgetSpec.ofJson (parseFloat : ParseFloat) (value : Json) : Option BudgetSpec := do
  let fields ← recordFields ["maximumCostUsd"] value
  let maximumCostUsd ← required fields "maximumCostUsd" (decodeFloat parseFloat)
  pure ⟨maximumCostUsd⟩

def LifecycleSpec.default : LifecycleSpec := ⟨Schema.defaultRuntimeSeconds, true⟩

def LifecycleSpec.ofJson (value : Json) : Option LifecycleSpec := do
  let fields ← recordFieldsOr ["maximumRuntimeSeconds", "destroyOnCompletion"]
    ["maximumRuntimeSeconds", "destroyOnCompletion"] value
  let maximumRuntimeSeconds ← defaulted fields "maximumRuntimeSeconds" decodeU64
    Schema.defaultRuntimeSeconds
  let destroyOnCompletion ← defaulted fields "destroyOnCompletion" decodeBool Schema.defaultTrue
  pure ⟨maximumRuntimeSeconds, destroyOnCompletion⟩

def ArtifactSpec.default : ArtifactSpec := ⟨false, Schema.defaultArtifactFormat⟩

def ArtifactSpec.ofJson (value : Json) : Option ArtifactSpec := do
  let fields ← recordFieldsOr ["public", "format"] ["public", "format"] value
  let isPublic ← defaulted fields "public" decodeBool false
  let format ← defaulted fields "format" decodeString Schema.defaultArtifactFormat
  pure ⟨isPublic, format⟩

def ExperimentSpec.ofJson (parseFloat : ParseFloat) (value : Json) : Option ExperimentSpec := do
  let fields ← recordFieldsOr ["measurement", "lifecycle", "artifacts"]
    ["provider", "runtime", "workload", "measurement", "budget", "lifecycle", "artifacts"] value
  let provider ← required fields "provider" ProviderSpec.ofJson
  let runtime ← required fields "runtime" RuntimeSpec.ofJson
  let workload ← required fields "workload" WorkloadSpec.ofJson
  let measurement ← defaulted fields "measurement" MeasurementSpec.ofJson .default
  let budget ← required fields "budget" (BudgetSpec.ofJson parseFloat)
  let lifecycle ← defaulted fields "lifecycle" LifecycleSpec.ofJson .default
  let artifacts ← defaulted fields "artifacts" ArtifactSpec.ofJson .default
  pure ⟨provider, runtime, workload, measurement, budget, lifecycle, artifacts⟩

def Experiment.ofJson (parseFloat : ParseFloat) (value : Json) : Option Experiment := do
  let fields ← recordFields ["apiVersion", "kind", "metadata", "spec"] value
  let apiVersion ← required fields "apiVersion" decodeString
  let kind ← required fields "kind" decodeString
  let metadata ← required fields "metadata" Metadata.ofJson
  let spec ← required fields "spec" (ExperimentSpec.ofJson parseFloat)
  pure ⟨apiVersion, kind, metadata, spec⟩

def ResolvedExperiment.ofJson (parseFloat : ParseFloat) (value : Json) :
    Option ResolvedExperiment := do
  let fields ← recordFields ["apiVersion", "kind", "experiment", "experimentDigest",
    "resolvedPlanDigest"] value
  let apiVersion ← required fields "apiVersion" decodeString
  let kind ← required fields "kind" decodeString
  let experiment ← required fields "experiment" (Experiment.ofJson parseFloat)
  let experimentDigest ← required fields "experimentDigest" decodeString
  let resolvedPlanDigest ← required fields "resolvedPlanDigest" decodeString
  pure ⟨apiVersion, kind, experiment, experimentDigest, resolvedPlanDigest⟩

/-! ## What has been written is read back -/

theorem Metadata.ofJson_toJson (m : Metadata) : ofJson m.toJson = some m := by
  have hlabels := decodeMap_record decodeString_string m.labels
  rw [ofJson, toJson, recordFieldsOr_record (by simp) (by simp)]
  simp [hlabels]

theorem AwsCapacity.ofJson_toJson (capacity : AwsCapacity) :
    ofJson capacity.toJson = some capacity := by
  cases capacity <;> rfl

theorem ProviderSpec.ofJson_toJson (provider : ProviderSpec) :
    ofJson provider.toJson = some provider := by
  cases provider with
  | localFake => rfl
  | «local» => rfl
  | aws region capacity instanceTypes =>
      have htypes := decodeList_list decodeString_string instanceTypes
      rw [ofJson, toJson, taggedContent_record (by simp)]
      simp only [Option.bind_eq_bind, Option.bind_some]
      rw [recordFieldsOr_record (by simp) (by simp)]
      simp [AwsCapacity.ofJson_toJson, htypes]

theorem LocalFakeScenario.ofJson_toJson (scenario : LocalFakeScenario) :
    ofJson scenario.toJson = some scenario := by
  cases scenario <;> rfl

/-- The target that is left out is the default of its field. -/
theorem RuntimeSpec.ofJson_toJson (runtime : RuntimeSpec) :
    ofJson runtime.toJson = some runtime := by
  cases runtime with
  | localFake seed scenario =>
      rw [ofJson, toJson, taggedContent_record (by simp)]
      simp only [Option.bind_eq_bind, Option.bind_some]
      rw [recordFieldsOr_record (by simp) (by simp)]
      simp [LocalFakeScenario.ofJson_toJson]
  | cpuProbe outputTokens workUnitsPerToken =>
      rw [ofJson, toJson, taggedContent_record (by simp)]
      simp only [Option.bind_eq_bind, Option.bind_some]
      rw [recordFields_record (by simp) (by simp)]
      simp
  | llamaCpp target model outputTokens =>
      -- the default target is not written
      cases target with
      | cpu =>
          simp only [ofJson, toJson, List.append_nil, List.singleton_append]
          rw [taggedContent_record (by simp)]
          simp only [Option.bind_eq_bind, Option.bind_some]
          rw [recordFieldsOr_record (by simp) (by simp)]
          simp [Schema.defaultLlamaCppTarget]
      | nvidiaCuda =>
          simp only [ofJson, toJson, List.cons_append, List.nil_append]
          rw [taggedContent_record (by simp)]
          simp only [Option.bind_eq_bind, Option.bind_some]
          rw [recordFieldsOr_record (by simp) (by simp)]
          simp [LlamaCppTarget.ofJson, variantName]
  | vllm model revision arguments =>
      have harguments := decodeList_list decodeString_string arguments
      rw [ofJson, toJson, taggedContent_record (by simp)]
      simp only [Option.bind_eq_bind, Option.bind_some]
      rw [recordFieldsOr_record (by simp) (by simp)]
      simp [harguments]

theorem WorkloadSpec.ofJson_toJson (w : WorkloadSpec) : ofJson w.toJson = some w := by
  rw [ofJson, toJson, recordFieldsOr_record (by simp) (by simp)]
  simp

theorem MeasurementSpec.ofJson_toJson (m : MeasurementSpec) : ofJson m.toJson = some m := by
  rw [ofJson, toJson, recordFieldsOr_record (by simp) (by simp)]
  simp

theorem LifecycleSpec.ofJson_toJson (l : LifecycleSpec) : ofJson l.toJson = some l := by
  rw [ofJson, toJson, recordFieldsOr_record (by simp) (by simp)]
  simp

theorem ArtifactSpec.ofJson_toJson (a : ArtifactSpec) : ofJson a.toJson = some a := by
  rw [ofJson, toJson, recordFieldsOr_record (by simp) (by simp)]
  simp

/-- Finite numbers are written as JSON numbers. -/
def WritesNumbers (formatFloat : FormatFloat) : Prop :=
  ∀ x : Float64, x.isFinite = true → isNumberText (formatFloat x).toList = true

/-- The number is read back from the text it is written as. -/
def RoundTrips (formatFloat : FormatFloat) (parseFloat : ParseFloat) (x : Float64) : Prop :=
  parseFloat (formatFloat x) = some x

section

variable {formatFloat : FormatFloat} {parseFloat : ParseFloat}

theorem BudgetSpec.ofJson_toJson {b : BudgetSpec} (h : b.maximumCostUsd.isFinite = true)
    (hfloat : RoundTrips formatFloat parseFloat b.maximumCostUsd) :
    ofJson parseFloat (b.toJson formatFloat) = some b := by
  have hparse : parseFloat (formatFloat b.maximumCostUsd) = some b.maximumCostUsd := hfloat
  rw [ofJson, toJson, recordFields_record (by simp) (by simp), if_pos h]
  simp [decodeFloat, hparse]

theorem ExperimentSpec.ofJson_toJson {s : ExperimentSpec}
    (h : s.budget.maximumCostUsd.isFinite = true)
    (hfloat : RoundTrips formatFloat parseFloat s.budget.maximumCostUsd) :
    ofJson parseFloat (s.toJson formatFloat) = some s := by
  rw [ofJson, toJson, recordFieldsOr_record (by simp) (by simp)]
  simp [ProviderSpec.ofJson_toJson, RuntimeSpec.ofJson_toJson,
    WorkloadSpec.ofJson_toJson, MeasurementSpec.ofJson_toJson,
    BudgetSpec.ofJson_toJson h hfloat, LifecycleSpec.ofJson_toJson, ArtifactSpec.ofJson_toJson]

theorem Experiment.ofJson_toJson {e : Experiment} (h : e.budget.isFinite = true)
    (hfloat : RoundTrips formatFloat parseFloat e.budget) :
    ofJson parseFloat (e.toJson formatFloat) = some e := by
  have hspec : ExperimentSpec.ofJson parseFloat (e.spec.toJson formatFloat) = some e.spec :=
    ExperimentSpec.ofJson_toJson h hfloat
  rw [ofJson, toJson, recordFields_record (by simp) (by simp)]
  simp [Metadata.ofJson_toJson, hspec]

theorem ResolvedExperiment.ofJson_toJson {plan : ResolvedExperiment}
    (h : plan.experiment.budget.isFinite = true)
    (hfloat : RoundTrips formatFloat parseFloat plan.experiment.budget) :
    ofJson parseFloat (plan.toJson formatFloat) = some plan := by
  rw [ofJson, toJson, recordFields_record (by simp) (by simp)]
  simp [Experiment.ofJson_toJson h hfloat]

/-! ## Reading a document -/

/-- The number texts that are written: integers of at most 64 bits and finite numbers. -/
def WrittenNumber (formatFloat : FormatFloat) (text : String) : Prop :=
  (∃ n : UInt64, text = n.toNat.repr) ∨ ∃ x : Float64, x.isFinite = true ∧ text = formatFloat x

/-- The reader of JSON reads back what the writer has written, compact or pretty.  It
gives up beyond 127 nested arrays and objects. -/
structure ReadsBack (formatFloat : FormatFloat) (readJson : Bytes → Option Json) : Prop where
  compact : ∀ value : Json, value.Fits (WrittenNumber formatFloat) 127 →
    readJson (toVec value) = some value
  pretty : ∀ value : Json, value.Fits (WrittenNumber formatFloat) 127 →
    readJson (jsonBytes value) = some value

theorem isNumberText_of_written (hnumbers : WritesNumbers formatFloat) {text : String}
    (h : WrittenNumber formatFloat text) : isNumberText text.toList = true := by
  rcases h with ⟨n, rfl⟩ | ⟨x, hfinite, rfl⟩
  · exact isNumberText_repr n.toNat
  · exact hnumbers x hfinite

@[simp] theorem fits_u64 {depth : Nat} (n : UInt64) :
    (Json.u64 n).Fits (WrittenNumber formatFloat) depth :=
  Or.inl ⟨n, rfl⟩

@[simp] theorem fits_u32 {depth : Nat} (n : UInt32) :
    (Json.u32 n).Fits (WrittenNumber formatFloat) depth :=
  Or.inl ⟨n.toUInt64, by simp [UInt32.toNat_toUInt64]⟩

theorem Experiment.fits_toJson {e : Experiment} (h : e.budget.isFinite = true) (depth : Nat) :
    (e.toJson formatFloat).Fits (WrittenNumber formatFloat) (depth + 4) := by
  have hlabels : e.metadata.toJson.Fits (WrittenNumber formatFloat) (depth + 3) := by
    simp only [Metadata.toJson, fits_record, List.forall_mem_cons]
    refine ⟨trivial, ?_, by simp⟩
    intro field hfield
    obtain ⟨label, -, rfl⟩ := List.mem_map.mp hfield
    trivial
  have htexts : ∀ texts : List String,
      (Json.list (texts.map .string)).Fits (WrittenNumber formatFloat) (depth + 1) := by
    intro texts
    rw [fits_list]
    intro item hitem
    obtain ⟨text, -, rfl⟩ := List.mem_map.mp hitem
    trivial
  have hprovider : e.spec.provider.toJson.Fits (WrittenNumber formatFloat) (depth + 2) := by
    cases e.spec.provider with
    | localFake => simp [ProviderSpec.toJson, fits_record]
    | «local» => simp [ProviderSpec.toJson, fits_record]
    | aws region capacity instanceTypes =>
        have hcapacity : capacity.toJson.Fits (WrittenNumber formatFloat) (depth + 1) := by
          cases capacity <;> trivial
        simp [ProviderSpec.toJson, fits_record, hcapacity, htexts]
  have hruntime : e.spec.runtime.toJson.Fits (WrittenNumber formatFloat) (depth + 2) := by
    cases e.spec.runtime with
    | localFake seed scenario =>
        have hscenario : scenario.toJson.Fits (WrittenNumber formatFloat) (depth + 1) := by
          cases scenario <;> trivial
        simp [RuntimeSpec.toJson, fits_record, hscenario]
    | cpuProbe outputTokens workUnitsPerToken => simp [RuntimeSpec.toJson, fits_record]
    | llamaCpp target model outputTokens =>
        cases target <;> simp [RuntimeSpec.toJson, fits_record]
    | vllm model revision arguments => simp [RuntimeSpec.toJson, fits_record, htexts]
  -- the budget is the only number that is not an integer
  have hbudget : (e.spec.budget.toJson formatFloat).Fits (WrittenNumber formatFloat)
      (depth + 2) := by
    have hfinite : e.spec.budget.maximumCostUsd.isFinite = true := h
    rw [BudgetSpec.toJson, if_pos hfinite, fits_record]
    intro field hfield
    rw [List.mem_singleton.mp hfield]
    exact Or.inr ⟨_, hfinite, rfl⟩
  simp [Experiment.toJson, ExperimentSpec.toJson, WorkloadSpec.toJson, MeasurementSpec.toJson,
    LifecycleSpec.toJson, ArtifactSpec.toJson, fits_record, hlabels, hprovider, hruntime,
    hbudget]

theorem ResolvedExperiment.fits_toJson {plan : ResolvedExperiment}
    (h : plan.experiment.budget.isFinite = true) (depth : Nat) :
    (plan.toJson formatFloat).Fits (WrittenNumber formatFloat) (depth + 5) := by
  simp [ResolvedExperiment.toJson, fits_record, Experiment.fits_toJson h depth]

end

end Benchplane
