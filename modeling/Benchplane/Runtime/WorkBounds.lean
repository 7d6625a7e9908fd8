import Benchplane.Runtime.AdapterAgreement

/-!
# Bounds on the work of a helper

The bounds are coded three times for each runtime: in `Experiment::validate`, in
the helper's own check of its arguments, and in the record count of the adapter.
Here each of them is compared with the same inequalities over natural numbers.
-/

namespace Benchplane

open Library

/-! ## The CPU probe helper -/

namespace CpuProbeHelper

structure Args where
  requests : UInt32
  warmupRuns : UInt32
  repetitions : UInt32
  outputTokens : UInt32
  workUnitsPerToken : UInt32

/-- `validate`. -/
def validate (args : Args) : Except String Unit := do
  rejectIf (args.requests = 0 ∨ args.repetitions = 0) "requests and repetitions must be positive"
  rejectIf (¬ (1 ≤ args.outputTokens.toNat ∧
        args.outputTokens.toNat ≤ Schema.maxCpuProbeOutputTokens) ∨
      ¬ (1 ≤ args.workUnitsPerToken.toNat ∧
        args.workUnitsPerToken.toNat ≤ Schema.maxCpuProbeWorkUnitsPerToken))
    "CPU probe controls are outside their public bounds"
  let records ← orReject "CPU probe record count overflowed"
    (checkedAdd32 args.warmupRuns args.repetitions)
  rejectIf (records > Schema.maxCpuProbeRecords)
    ("CPU probe record count exceeds its " ++ Schema.maxCpuProbeRecords.repr ++
      " record public bound")
  let total ← orReject "CPU probe total work overflowed"
    ((checkedMul64 records args.requests.toNat).bind fun value =>
      (checkedMul64 value args.outputTokens.toNat).bind fun value =>
        checkedMul64 value args.workUnitsPerToken.toNat)
  rejectIf (total > Schema.maxCpuProbeTotalWorkUnits)
    "CPU probe total work exceeds its public bound"

end CpuProbeHelper

/-- The arguments that `execute_command` passes. -/
def CpuProbeConfig.helperArgs (config : CpuProbeConfig) : CpuProbeHelper.Args where
  requests := config.requests
  warmupRuns := config.warmupRuns
  repetitions := config.repetitions
  outputTokens := config.outputTokens
  workUnitsPerToken := config.workUnitsPerToken

/-! ## The llama.cpp helper -/

namespace LlamaCppHelper

def maxRecords : UInt32 := 16
def maxOutputTokens : UInt32 := 32
def maxPromptTokens : UInt32 := 96
def maxTotalTokens : UInt64 := 8192

structure Args where
  requests : UInt32
  warmupRuns : UInt32
  repetitions : UInt32
  outputTokens : UInt32

/-- `checked_mul`: the division asks whether the product would wrap. -/
def checkedMul (left right : UInt64) : Option UInt64 :=
  if right ≠ 0 ∧ left > 18446744073709551615 / right then none else some (left * right)

/-- `validate_args`. -/
def validateArgs (args : Args) : Bool :=
  if args.requests = 0 ∨ args.repetitions = 0 ∨ args.outputTokens = 0 ∨
      args.outputTokens > maxOutputTokens then false
  else if args.warmupRuns > 4294967295 - args.repetitions then false
  else
    let records := args.warmupRuns + args.repetitions
    if records > maxRecords then false
    else
      match (checkedMul records.toUInt64 args.requests.toUInt64).bind fun work =>
          checkedMul work (maxPromptTokens + args.outputTokens).toUInt64 with
      | none => false
      | some work => work ≤ maxTotalTokens

end LlamaCppHelper

/-- The arguments that `execute_command` passes. -/
def LlamaCppConfig.helperArgs (config : LlamaCppConfig) : LlamaCppHelper.Args where
  requests := config.requests
  warmupRuns := config.warmupRuns
  repetitions := config.repetitions
  outputTokens := config.outputTokens

/-! ## The bounds -/

/-- The bounds on the CPU probe, without any machine arithmetic. -/
structure CpuProbeBounds (requests warmups repetitions tokens units : Nat) : Prop where
  requests_pos : 1 ≤ requests
  repetitions_pos : 1 ≤ repetitions
  tokens_pos : 1 ≤ tokens
  tokens_le : tokens ≤ 4096
  units_pos : 1 ≤ units
  units_le : units ≤ 1000000
  records_le : warmups + repetitions ≤ 1000
  work_le : (warmups + repetitions) * requests * tokens * units ≤ 100000000

/-- The bounds on llama.cpp, without any machine arithmetic. -/
structure LlamaCppBounds (requests warmups repetitions tokens : Nat) : Prop where
  requests_pos : 1 ≤ requests
  repetitions_pos : 1 ≤ repetitions
  tokens_pos : 1 ≤ tokens
  tokens_le : tokens ≤ 32
  records_le : warmups + repetitions ≤ 16
  work_le : (warmups + repetitions) * requests * (96 + tokens) ≤ 8192

/-- The bounds at the numbers of a plan. -/
def CpuProbeBounds.OfPlan (plan : ResolvedExperiment) (tokens units : UInt32) : Prop :=
  CpuProbeBounds plan.experiment.spec.workload.requests.toNat
    plan.experiment.spec.measurement.warmupRuns.toNat
    plan.experiment.spec.measurement.repetitions.toNat tokens.toNat units.toNat

/-- The bounds at the numbers of a plan. -/
def LlamaCppBounds.OfPlan (plan : ResolvedExperiment) (tokens : UInt32) : Prop :=
  LlamaCppBounds plan.experiment.spec.workload.requests.toNat
    plan.experiment.spec.measurement.warmupRuns.toNat
    plan.experiment.spec.measurement.repetitions.toNat tokens.toNat

/-! ## Arithmetic -/

theorem checkedMul64_eq_some {a b product : Nat} :
    checkedMul64 a b = some product ↔ a * b = product ∧ product < 2 ^ 64 := by
  unfold checkedMul64
  grind

/-- A product of positive factors is above each of its parts. -/
theorem le_of_mul_le {a b limit : Nat} (hb : 1 ≤ b) (h : a * b ≤ limit) : a ≤ limit :=
  (Nat.le_mul_of_pos_right a hb).trans h

/-- The quotient test of `checked_mul` is exact. -/
theorem LlamaCppHelper.checkedMul_eq_some {left right product : UInt64} :
    checkedMul left right = some product ↔ left.toNat * right.toNat = product.toNat := by
  have hmax : ((18446744073709551615 : UInt64) / right).toNat = (2 ^ 64 - 1) / right.toNat :=
    UInt64.toNat_div _ _
  -- the guard of the source asks whether the product leaves the type
  have hwraps : (right ≠ 0 ∧ left > 18446744073709551615 / right) ↔
      ¬ left.toNat * right.toNat < 2 ^ 64 := by
    rw [gt_iff_lt, UInt64.lt_iff_toNat_lt, hmax]
    rcases Nat.eq_zero_or_pos right.toNat with hzero | hpos
    · have hright : right = 0 := UInt64.toNat_inj.mp hzero
      simp [hright]
    · have hright : right ≠ 0 := fun h => by simp [h] at hpos
      have hquotient : left.toNat ≤ (2 ^ 64 - 1) / right.toNat ↔
          left.toNat * right.toNat ≤ 2 ^ 64 - 1 := Nat.le_div_iff_mul_le hpos
      constructor
      · rintro ⟨-, hlt⟩
        omega
      · intro hge
        exact ⟨hright, by omega⟩
  unfold checkedMul
  have hproduct := product.toNat_lt
  by_cases hfits : left.toNat * right.toNat < 2 ^ 64
  · rw [if_neg (by rw [hwraps]; exact not_not.mpr hfits), Option.some.injEq, ← UInt64.toNat_inj,
      UInt64.toNat_mul, Nat.mod_eq_of_lt hfits]
  · rw [if_pos (hwraps.mpr hfits)]
    constructor
    · simp
    · intro heq
      omega

/-! ## The experiment's own checks -/

/-- The errors that `validate` reports. -/
def Experiment.reported (e : Experiment) : List ValidationError :=
  match e.validate with
  | .ok () => []
  | .error errors => errors

/-- None of the errors is reported. -/
def Experiment.ReportsNone (e : Experiment) (errors : List ValidationError) : Prop :=
  ∀ error ∈ errors, error ∉ e.reported

/-- The errors about the work of a CPU probe plan. -/
def cpuProbeWorkErrors : List ValidationError :=
  [.noRequests, .noRepetitions, .invalidCpuProbeOutputTokens, .invalidCpuProbeWorkUnits,
    .cpuProbeRecordLimit, .cpuProbeWorkLimit]

/-- The errors about the work of a llama.cpp plan. -/
def llamaCppWorkErrors : List ValidationError :=
  [.noRequests, .noRepetitions, .invalidLlamaCppOutputTokens, .llamaCppRecordLimit,
    .llamaCppWorkLimit]

@[simp] theorem mem_reportIf {bad : Bool} {error other : ValidationError} :
    other ∈ reportIf bad error ↔ bad = true ∧ other = error := by
  cases bad <;> simp [reportIf]

/-- `validate` reports everything that its checks found. -/
theorem Experiment.reported_eq (e : Experiment) :
    e.reported = e.commonErrors ++ e.runtimeErrors ++
      reportIf (!(1 ≤ e.spec.lifecycle.maximumRuntimeSeconds.toNat &&
        e.spec.lifecycle.maximumRuntimeSeconds.toNat ≤ 86400)) .invalidRuntime ++
      e.providerErrors ++ e.vllmErrors ++
      reportIf (e.spec.artifacts.format ≠ Schema.evidenceFormatV1)
        (.unsupportedArtifactFormat e.spec.artifacts.format) := by
  have hcollect : ∀ errors : List ValidationError,
      e.validate = (if errors = [] then .ok () else .error errors) → e.reported = errors := by
    intro errors hvalidate
    unfold reported
    rw [hvalidate]
    by_cases hnil : errors = []
    · simp [hnil]
    · simp [hnil]
  apply hcollect
  rfl

/-- The errors about work. -/
def ValidationError.concernsWork (error : ValidationError) : Bool :=
  error ∈ cpuProbeWorkErrors ∨ error ∈ llamaCppWorkErrors

/-- No check on the provider or the vLLM identity reports an error about work. -/
theorem Experiment.notMem_providerErrors {e : Experiment} {error : ValidationError}
    (h : error.concernsWork = true) : error ∉ e.providerErrors ∧ error ∉ e.vllmErrors := by
  constructor
  · intro hmem
    unfold providerErrors at hmem
    split at hmem
    · obtain ⟨-, rfl⟩ := mem_reportIf.mp hmem
      exact absurd h (by decide)
    · obtain ⟨-, rfl⟩ := mem_reportIf.mp hmem
      exact absurd h (by decide)
    · rcases List.mem_append.mp hmem with hmem | hmem
      · rcases List.mem_append.mp hmem with hmem | hmem
        · obtain ⟨-, rfl⟩ := mem_reportIf.mp hmem
          exact absurd h (by decide)
        · obtain ⟨-, rfl⟩ := mem_reportIf.mp hmem
          exact absurd h (by decide)
      · split at hmem
        · obtain rfl := List.mem_singleton.mp hmem
          exact absurd h (by decide)
        · obtain ⟨-, rfl⟩ := mem_reportIf.mp hmem
          exact absurd h (by decide)
  · intro hmem
    unfold vllmErrors at hmem
    split at hmem
    · obtain ⟨-, rfl⟩ := mem_reportIf.mp hmem
      exact absurd h (by decide)
    · simp at hmem

/-- An error about work comes from the checks on requests and repetitions, or from
those of the runtime. -/
theorem Experiment.mem_reported {e : Experiment} {error : ValidationError}
    (h : error.concernsWork = true) :
    error ∈ e.reported ↔ error ∈ e.commonErrors ∨ error ∈ e.runtimeErrors := by
  obtain ⟨hprovider, hvllm⟩ := notMem_providerErrors (e := e) h
  have hruntime : error ≠ .invalidRuntime := by
    rintro rfl
    exact absurd h (by decide)
  have hformat : error ≠ .unsupportedArtifactFormat e.spec.artifacts.format := by
    rintro rfl
    simp [ValidationError.concernsWork, cpuProbeWorkErrors, llamaCppWorkErrors] at h
  rw [reported_eq]
  simp only [List.mem_append, mem_reportIf]
  tauto

/-- A count of records that fits a `u32`. -/
theorem Experiment.recordCount_eq {e : Experiment} {limit : Nat} (hlimit : limit < 2 ^ 32)
    (hle : e.spec.measurement.warmupRuns.toNat + e.spec.measurement.repetitions.toNat ≤ limit) :
    e.recordCount =
      some (e.spec.measurement.warmupRuns.toNat + e.spec.measurement.repetitions.toNat) :=
  checkedAdd32_eq_some.mpr ⟨rfl, by omega⟩

/-- The record count of a plan within a limit. -/
theorem Experiment.isNoneOrAbove_recordCount {e : Experiment} {limit : Nat}
    (hlimit : limit < 2 ^ 32) :
    isNoneOrAbove limit e.recordCount = false ↔
      e.spec.measurement.warmupRuns.toNat + e.spec.measurement.repetitions.toNat ≤ limit := by
  constructor
  · exact recordCount_le
  · intro hle
    exact isNoneOrAbove_eq_false.mpr ⟨_, recordCount_eq hlimit hle, hle⟩

/-- Three checked products within a limit. -/
theorem exists_checkedMul64_three {a b c d limit : Nat} (hlimit : limit < 2 ^ 64)
    (hc : 1 ≤ c) (hd : 1 ≤ d) :
    (∃ total, ((checkedMul64 a b).bind fun value =>
        (checkedMul64 value c).bind fun value => checkedMul64 value d) = some total ∧
      total ≤ limit) ↔ a * b * c * d ≤ limit := by
  simp only [Option.bind_eq_some_iff, checkedMul64_eq_some]
  constructor
  · rintro ⟨total, ⟨_, ⟨rfl, -⟩, _, ⟨rfl, -⟩, rfl, -⟩, hle⟩
    exact hle
  · intro hle
    have hthree := le_of_mul_le hd hle
    have htwo := le_of_mul_le hc hthree
    exact ⟨_, ⟨_, ⟨rfl, by omega⟩, _, ⟨rfl, by omega⟩, rfl, by omega⟩, hle⟩

/-- Two checked products within a limit. -/
theorem exists_checkedMul64_two {a b c limit : Nat} (hlimit : limit < 2 ^ 64) (hc : 1 ≤ c) :
    (∃ total, ((checkedMul64 a b).bind fun value => checkedMul64 value c) = some total ∧
      total ≤ limit) ↔ a * b * c ≤ limit := by
  simp only [Option.bind_eq_some_iff, checkedMul64_eq_some]
  constructor
  · rintro ⟨total, ⟨_, ⟨rfl, -⟩, rfl, -⟩, hle⟩
    exact hle
  · intro hle
    have htwo := le_of_mul_le hc hle
    exact ⟨_, ⟨_, ⟨rfl, by omega⟩, rfl, by omega⟩, hle⟩

/-! ## Agreement -/

/-- The helper of the CPU probe accepts exactly the bounded arguments. -/
theorem CpuProbeHelper.validate_eq_ok {args : Args} :
    validate args = .ok () ↔ CpuProbeBounds args.requests.toNat args.warmupRuns.toNat
      args.repetitions.toNat args.outputTokens.toNat args.workUnitsPerToken.toNat := by
  simp only [validate, bind_eq_ok_iff, rejectIf_eq_ok, orReject_eq_ok, checkedAdd32_eq_some]
  simp only [Schema.maxCpuProbeOutputTokens, Schema.maxCpuProbeWorkUnitsPerToken,
    Schema.maxCpuProbeRecords, Schema.maxCpuProbeTotalWorkUnits, ← UInt32.toNat_inj,
    UInt32.toNat_zero]
  constructor
  · rintro ⟨-, hcounts, -, hcontrols, records, ⟨rfl, -⟩, -, hrecords, total, htotal, hwork⟩
    have hwork' := (exists_checkedMul64_three (show 100000000 < 2 ^ 64 by norm_num) (by omega)
      (by omega)).mp ⟨total, htotal, by omega⟩
    exact ⟨by omega, by omega, by omega, by omega, by omega, by omega, by omega, hwork'⟩
  · rintro ⟨hrequests, hrepetitions, htokens, htokensLe, hunits, hunitsLe, hrecords, hwork⟩
    obtain ⟨total, htotal, hle⟩ :=
      (exists_checkedMul64_three (by norm_num) htokens hunits).mpr hwork
    exact ⟨(), by omega, (), by omega, _, ⟨rfl, by omega⟩, (), by omega, total, htotal, by omega⟩

/-- `validate` reports nothing about the work of a CPU probe plan exactly within the
bounds. -/
theorem Experiment.reportsNone_cpuProbe {e : Experiment} {tokens units : UInt32}
    (hruntime : e.spec.runtime = .cpuProbe tokens units) :
    e.ReportsNone cpuProbeWorkErrors ↔ CpuProbeBounds e.spec.workload.requests.toNat
      e.spec.measurement.warmupRuns.toNat e.spec.measurement.repetitions.toNat tokens.toNat
      units.toNat := by
  simp only [ReportsNone, cpuProbeWorkErrors, List.forall_mem_cons, List.not_mem_nil,
    false_implies, implies_true, and_true]
  rw [mem_reported rfl, mem_reported rfl, mem_reported rfl, mem_reported rfl, mem_reported rfl,
    mem_reported rfl]
  simp only [commonErrors, runtimeErrors, hruntime, List.mem_append, mem_reportIf, reduceCtorEq,
    and_false, and_true, or_false, false_or, decide_eq_true_eq, Bool.not_eq_true,
    Bool.not_eq_eq_eq_not, Bool.and_eq_false_iff, Bool.not_true, decide_eq_false_iff_not]
  simp only [Schema.maxCpuProbeOutputTokens, Schema.maxCpuProbeWorkUnitsPerToken,
    Schema.maxCpuProbeRecords, Schema.maxCpuProbeTotalWorkUnits, ← UInt32.toNat_inj,
    UInt32.toNat_zero, isNoneOrAbove_recordCount (show 1000 < 2 ^ 32 by norm_num)]
  constructor
  · rintro ⟨hrequests, hrepetitions, htokens, hunits, hrecords, hwork⟩
    rw [recordCount_eq (by norm_num) hrecords, Option.bind_some, isNoneOrAbove_eq_false,
      exists_checkedMul64_three (by norm_num) (by omega) (by omega)] at hwork
    exact ⟨by omega, by omega, by omega, by omega, by omega, by omega, hrecords, hwork⟩
  · rintro ⟨hrequests, hrepetitions, htokens, htokensLe, hunits, hunitsLe, hrecords, hwork⟩
    rw [recordCount_eq (by norm_num) hrecords, Option.bind_some, isNoneOrAbove_eq_false,
      exists_checkedMul64_three (by norm_num) htokens hunits]
    exact ⟨by omega, by omega, by omega, by omega, hrecords, hwork⟩

/-- Two products of `checked_mul` within a limit. -/
theorem LlamaCppHelper.exists_checkedMul_two {a b c : UInt64} {limit : Nat}
    (hlimit : limit < 2 ^ 64) (hc : 1 ≤ c.toNat) :
    (∃ work, ((checkedMul a b).bind fun value => checkedMul value c) = some work ∧
      work.toNat ≤ limit) ↔ a.toNat * b.toNat * c.toNat ≤ limit := by
  simp only [Option.bind_eq_some_iff, checkedMul_eq_some]
  constructor
  · rintro ⟨work, ⟨value, hvalue, hwork⟩, hle⟩
    rw [hvalue, hwork]
    exact hle
  · intro hle
    have htwo := le_of_mul_le hc hle
    have hvalue : (UInt64.ofNat (a.toNat * b.toNat)).toNat = a.toNat * b.toNat :=
      UInt64.toNat_ofNat_of_lt' (show a.toNat * b.toNat < 2 ^ 64 by omega)
    have hwork : (UInt64.ofNat (a.toNat * b.toNat * c.toNat)).toNat =
        a.toNat * b.toNat * c.toNat :=
      UInt64.toNat_ofNat_of_lt' (show a.toNat * b.toNat * c.toNat < 2 ^ 64 by omega)
    refine ⟨UInt64.ofNat (a.toNat * b.toNat * c.toNat), ⟨_, hvalue.symm, ?_⟩, ?_⟩
    · rw [hvalue, hwork]
    · rw [hwork]
      exact hle

/-- The subtraction of `validate_args` asks whether the sum would wrap. -/
theorem LlamaCppHelper.sum_fits_iff {warmups repetitions : UInt32} :
    ¬ warmups > 4294967295 - repetitions ↔ warmups.toNat + repetitions.toNat < 2 ^ 32 := by
  have hbound := repetitions.toNat_lt
  have hdifference : ((4294967295 : UInt32) - repetitions).toNat =
      4294967295 - repetitions.toNat := by
    apply UInt32.toNat_sub_of_le
    rw [UInt32.le_iff_toNat_le]
    show repetitions.toNat ≤ 4294967295
    omega
  rw [gt_iff_lt, UInt32.lt_iff_toNat_lt, hdifference]
  omega

/-- The helper of llama.cpp accepts exactly the bounded arguments. -/
theorem LlamaCppHelper.validateArgs_iff {args : Args} :
    validateArgs args = true ↔ LlamaCppBounds args.requests.toNat args.warmupRuns.toNat
      args.repetitions.toNat args.outputTokens.toNat := by
  have hcontrols : (args.requests = 0 ∨ args.repetitions = 0 ∨ args.outputTokens = 0 ∨
      args.outputTokens > maxOutputTokens) ↔ (args.requests.toNat = 0 ∨
        args.repetitions.toNat = 0 ∨ args.outputTokens.toNat = 0 ∨ 32 < args.outputTokens.toNat) := by
    simp only [← UInt32.toNat_inj, gt_iff_lt, UInt32.lt_iff_toNat_lt]
    rfl
  unfold validateArgs
  rw [if_congr hcontrols rfl rfl]
  by_cases hpositive : args.requests.toNat = 0 ∨ args.repetitions.toNat = 0 ∨
      args.outputTokens.toNat = 0 ∨ 32 < args.outputTokens.toNat
  · rw [if_pos hpositive]
    constructor
    · simp
    · rintro ⟨hrequests, hrepetitions, htokens, htokensLe, -, -⟩
      omega
  rw [if_neg hpositive]
  by_cases hfits : args.warmupRuns.toNat + args.repetitions.toNat < 2 ^ 32
  swap
  · rw [if_pos (not_not.mp (mt sum_fits_iff.mp hfits))]
    constructor
    · simp
    · rintro ⟨-, -, -, -, hrecords, -⟩
      omega
  rw [if_neg (sum_fits_iff.mpr hfits)]
  -- from here on no sum wraps
  have hrecords : (args.warmupRuns + args.repetitions).toNat =
      args.warmupRuns.toNat + args.repetitions.toNat := by
    rw [UInt32.toNat_add, Nat.mod_eq_of_lt hfits]
  have htokens : (maxPromptTokens + args.outputTokens).toNat = 96 + args.outputTokens.toNat := by
    rw [UInt32.toNat_add]
    show (96 + args.outputTokens.toNat) % 2 ^ 32 = 96 + args.outputTokens.toNat
    omega
  have hlimit : args.warmupRuns + args.repetitions > maxRecords ↔
      16 < args.warmupRuns.toNat + args.repetitions.toNat := by
    rw [gt_iff_lt, UInt32.lt_iff_toNat_lt, hrecords]
    rfl
  have hwork := exists_checkedMul_two (a := (args.warmupRuns + args.repetitions).toUInt64)
    (b := args.requests.toUInt64) (c := (maxPromptTokens + args.outputTokens).toUInt64)
    (show 8192 < 2 ^ 64 by norm_num) (by rw [UInt32.toNat_toUInt64, htokens]; omega)
  simp only [UInt32.toNat_toUInt64, hrecords, htokens] at hwork
  dsimp only
  rw [if_congr hlimit rfl rfl]
  by_cases habove : 16 < args.warmupRuns.toNat + args.repetitions.toNat
  · rw [if_pos habove]
    constructor
    · simp
    · rintro ⟨-, -, -, -, hrecordsLe, -⟩
      omega
  rw [if_neg habove]
  cases hresult : (checkedMul (args.warmupRuns + args.repetitions).toUInt64
      args.requests.toUInt64).bind fun value =>
        checkedMul value (maxPromptTokens + args.outputTokens).toUInt64 with
  | none =>
      simp only [hresult, reduceCtorEq, false_and, exists_false, false_iff] at hwork
      constructor
      · simp
      · rintro ⟨-, -, -, -, -, hworkLe⟩
        exact absurd hworkLe hwork
  | some work =>
      simp only [hresult, Option.some.injEq, exists_eq_left'] at hwork
      rw [decide_eq_true_eq, UInt64.le_iff_toNat_le]
      constructor
      · intro hle
        exact ⟨by omega, by omega, by omega, by omega, by omega, hwork.mp hle⟩
      · rintro ⟨-, -, -, -, -, hworkLe⟩
        exact hwork.mpr hworkLe

/-- `validate` reports nothing about the work of a llama.cpp plan exactly within the
bounds. -/
theorem Experiment.reportsNone_llamaCpp {e : Experiment} {target : LlamaCppTarget}
    {model : String} {tokens : UInt32} (hruntime : e.spec.runtime = .llamaCpp target model tokens) :
    e.ReportsNone llamaCppWorkErrors ↔ LlamaCppBounds e.spec.workload.requests.toNat
      e.spec.measurement.warmupRuns.toNat e.spec.measurement.repetitions.toNat tokens.toNat := by
  simp only [ReportsNone, llamaCppWorkErrors, List.forall_mem_cons, List.not_mem_nil,
    false_implies, implies_true, and_true]
  rw [mem_reported rfl, mem_reported rfl, mem_reported rfl, mem_reported rfl, mem_reported rfl]
  simp only [commonErrors, runtimeErrors, hruntime, List.mem_append, mem_reportIf, reduceCtorEq,
    and_false, and_true, or_false, false_or, decide_eq_true_eq, Bool.not_eq_true,
    Bool.not_eq_eq_eq_not, Bool.and_eq_false_iff, Bool.not_true, decide_eq_false_iff_not]
  have hprompt : (UInt32.ofNat Schema.maxLlamaCppPromptTokens).toNat = 96 := rfl
  simp only [Schema.maxLlamaCppOutputTokens, Schema.maxLlamaCppRecords,
    Schema.maxLlamaCppTotalTokens, ← UInt32.toNat_inj, UInt32.toNat_zero,
    isNoneOrAbove_recordCount (show 16 < 2 ^ 32 by norm_num)]
  -- the token count of a request fits a `u32` when the output tokens are bounded
  have htokens : tokens.toNat ≤ 32 →
      checkedAdd32 (UInt32.ofNat Schema.maxLlamaCppPromptTokens) tokens =
        some (96 + tokens.toNat) := fun hle =>
    checkedAdd32_eq_some.mpr ⟨by rw [hprompt], by omega⟩
  constructor
  · rintro ⟨hrequests, hrepetitions, htokensWithin, hrecords, hwork⟩
    rw [recordCount_eq (by norm_num) hrecords, Option.bind_some, htokens (by omega),
      isNoneOrAbove_eq_false] at hwork
    simp only [Option.bind_some] at hwork
    rw [exists_checkedMul64_two (by norm_num) (by omega)] at hwork
    exact ⟨by omega, by omega, by omega, by omega, hrecords, hwork⟩
  · rintro ⟨hrequests, hrepetitions, htokensPos, htokensLe, hrecords, hwork⟩
    rw [recordCount_eq (by norm_num) hrecords, Option.bind_some, htokens htokensLe,
      isNoneOrAbove_eq_false]
    simp only [Option.bind_some]
    rw [exists_checkedMul64_two (by norm_num) (by omega)]
    exact ⟨by omega, by omega, by omega, hrecords, hwork⟩

/-- Within the bounds the CPU probe adapter expects all records. -/
theorem CpuProbe.expectedRecordCount_of_bounds {config : CpuProbeConfig}
    (h : CpuProbeBounds config.requests.toNat config.warmupRuns.toNat config.repetitions.toNat
      config.outputTokens.toNat config.workUnitsPerToken.toNat) :
    expectedRecordCount config =
      .ok (config.warmupRuns.toNat + config.repetitions.toNat) := by
  have hrecords := h.records_le
  have hcount : checkedAdd32 config.warmupRuns config.repetitions =
      some (config.warmupRuns.toNat + config.repetitions.toNat) :=
    checkedAdd32_eq_some.mpr ⟨rfl, by omega⟩
  simp only [expectedRecordCount, bind_eq_ok_iff, orReject_eq_ok, rejectIf_eq_ok, pure_eq_ok_iff]
  refine ⟨_, ?_, (), ?_, rfl⟩
  · rw [hcount, Option.filter_some, if_pos]
    exact decide_eq_true hrecords
  · show ¬ (config.warmupRuns.toNat + config.repetitions.toNat) * 512 > 1024 * 1024
    omega

/-- Within the bounds there are at most 84 observations: every request takes at least
97 of the 8192 tokens. -/
theorem LlamaCppBounds.observations_le {requests warmups repetitions tokens : Nat}
    (h : LlamaCppBounds requests warmups repetitions tokens) :
    (warmups + repetitions) * requests ≤ 84 := by
  have htokens := h.tokens_pos
  have hwork := h.work_le
  have hleast : (warmups + repetitions) * requests * 97 ≤
      (warmups + repetitions) * requests * (96 + tokens) := Nat.mul_le_mul_left _ (by omega)
  omega

/-- One repetition of a valid llama.cpp experiment has at most the observations of a whole run. -/
theorem Experiment.requests_le_of_llamaCpp {e : Experiment} {target : LlamaCppTarget}
    {model : String} {tokens : UInt32} (h : e.validate = .ok ())
    (hruntime : e.spec.runtime = .llamaCpp target model tokens) :
    e.spec.workload.requests.toNat ≤ 84 := by
  have hnothing : e.ReportsNone llamaCppWorkErrors := by
    intro error _
    simp [Experiment.reported, h]
  have hbounds := (Experiment.reportsNone_llamaCpp hruntime).mp hnothing
  have hobservations := hbounds.observations_le
  have hrepetitions := hbounds.repetitions_pos
  exact le_trans (Nat.le_mul_of_pos_left _ (by omega)) hobservations

/-- Within the bounds the llama.cpp adapter expects all records. -/
theorem LlamaCpp.expectedRecordCount_of_bounds {config : LlamaCppConfig}
    (h : LlamaCppBounds config.requests.toNat config.warmupRuns.toNat config.repetitions.toNat
      config.outputTokens.toNat) :
    expectedRecordCount config =
      .ok (config.warmupRuns.toNat + config.repetitions.toNat) := by
  have hrecords := h.records_le
  have hobservations := h.observations_le
  have hcount : checkedAdd32 config.warmupRuns config.repetitions =
      some (config.warmupRuns.toNat + config.repetitions.toNat) :=
    checkedAdd32_eq_some.mpr ⟨rfl, by omega⟩
  simp only [expectedRecordCount, bind_eq_ok_iff, orReject_eq_ok, rejectIf_eq_ok, pure_eq_ok_iff]
  refine ⟨_, ?_, (), ?_, (), ?_, rfl⟩
  · rw [hcount, Option.filter_some, if_pos]
    exact decide_eq_true hrecords
  · show ¬ (config.warmupRuns.toNat + config.repetitions.toNat) * config.requests.toNat > 84
    omega
  · show ¬ (config.warmupRuns.toNat + config.repetitions.toNat) * (16 * 1024) > 17 * (16 * 1024)
    omega

/-- The schema, the helpers and the adapters bound the work alike, and their bounds
are those over the natural numbers. -/
theorem workBounds_agree :
    (∀ (plan : ResolvedExperiment) (tokens units : UInt32),
      plan.experiment.spec.runtime = .cpuProbe tokens units →
      (plan.experiment.ReportsNone cpuProbeWorkErrors ↔ CpuProbeBounds.OfPlan plan tokens units) ∧
      (CpuProbeBounds.OfPlan plan tokens units ↔
        CpuProbeHelper.validate (cpuProbeConfig plan tokens units).helperArgs = .ok ()) ∧
      (CpuProbeBounds.OfPlan plan tokens units →
        CpuProbe.expectedRecordCount (cpuProbeConfig plan tokens units) =
          .ok (plan.experiment.spec.measurement.warmupRuns.toNat +
            plan.experiment.spec.measurement.repetitions.toNat))) ∧
    (∀ (plan : ResolvedExperiment) (target : LlamaCppTarget) (model : String) (tokens : UInt32),
      plan.experiment.spec.runtime = .llamaCpp target model tokens →
      (plan.experiment.ReportsNone llamaCppWorkErrors ↔ LlamaCppBounds.OfPlan plan tokens) ∧
      (LlamaCppBounds.OfPlan plan tokens ↔
        LlamaCppHelper.validateArgs (llamaCppConfig plan target tokens).helperArgs = true) ∧
      (LlamaCppBounds.OfPlan plan tokens →
        LlamaCpp.expectedRecordCount (llamaCppConfig plan target tokens) =
          .ok (plan.experiment.spec.measurement.warmupRuns.toNat +
            plan.experiment.spec.measurement.repetitions.toNat) ∧
        (plan.experiment.spec.measurement.warmupRuns.toNat +
          plan.experiment.spec.measurement.repetitions.toNat) *
            plan.experiment.spec.workload.requests.toNat ≤ 84)) := by
  constructor
  · intro plan tokens units hruntime
    refine ⟨Experiment.reportsNone_cpuProbe hruntime, ?_, ?_⟩
    · exact (@CpuProbeHelper.validate_eq_ok (cpuProbeConfig plan tokens units).helperArgs).symm
    · intro hbounds
      exact CpuProbe.expectedRecordCount_of_bounds hbounds
  · intro plan target model tokens hruntime
    refine ⟨Experiment.reportsNone_llamaCpp hruntime, ?_, ?_⟩
    · exact (@LlamaCppHelper.validateArgs_iff (llamaCppConfig plan target tokens).helperArgs).symm
    · intro hbounds
      refine ⟨?_, hbounds.observations_le⟩
      exact LlamaCpp.expectedRecordCount_of_bounds hbounds

/-- The smallest plan of each runtime is within all bounds. -/
theorem workBounds_agree_oneRequest :
    (Experiment.sample .local (.cpuProbe 1 1) Schema.cpuProbeWorkloadProfile).ReportsNone
        cpuProbeWorkErrors ∧
      CpuProbeHelper.validate (cpuProbeConfig
        (.sample (.cpuProbe 1 1) Schema.cpuProbeWorkloadProfile) 1 1).helperArgs = .ok () ∧
      (Experiment.sample .local (.llamaCpp .cpu Schema.llamaCppModelIdentity 1)
        Schema.llamaCppWorkloadProfile).ReportsNone llamaCppWorkErrors ∧
      LlamaCppHelper.validateArgs (llamaCppConfig (.sample
        (.llamaCpp .cpu Schema.llamaCppModelIdentity 1) Schema.llamaCppWorkloadProfile)
          .cpu 1).helperArgs = true := by
  obtain ⟨hprobe, hllama⟩ := workBounds_agree
  obtain ⟨hreports, haccepts, -⟩ :=
    hprobe (.sample (.cpuProbe 1 1) Schema.cpuProbeWorkloadProfile) 1 1 rfl
  obtain ⟨hreports', haccepts', -⟩ :=
    hllama (.sample (.llamaCpp .cpu Schema.llamaCppModelIdentity 1)
      Schema.llamaCppWorkloadProfile) .cpu Schema.llamaCppModelIdentity 1 rfl
  have hbounds : CpuProbeBounds 1 0 1 1 1 := ⟨by decide, by decide, by decide, by decide,
    by decide, by decide, by decide, by decide⟩
  have hbounds' : LlamaCppBounds 1 0 1 1 := ⟨by decide, by decide, by decide, by decide,
    by decide, by decide⟩
  exact ⟨hreports.mpr hbounds, haccepts.mp hbounds, hreports'.mpr hbounds', haccepts'.mp hbounds'⟩

end Benchplane
