import Benchplane.Library.LengthPrefix
import Benchplane.Runtime.LocalFake

/-!
# Separation of the fake metrics

What `derive_value` hashes is read in one way only, so no two points of plan, seed,
phase, place and metric share a hash input.
-/

namespace Benchplane

open Library

/-! ## Big-endian numbers -/

@[simp] theorem length_bigEndian (width value : Nat) : (bigEndian width value).length = width := by
  simp [bigEndian]

theorem bigEndian_succ (width value : Nat) :
    bigEndian (width + 1) value =
      UInt8.ofNat (value / 256 ^ width) :: bigEndian width value := by
  rw [bigEndian, List.range_succ, List.reverse_append, List.reverse_singleton,
    List.singleton_append, List.map_cons]
  rfl

/-- The bytes determine the number up to their width. -/
theorem mod_eq_of_bigEndian_eq {width a b : Nat} (h : bigEndian width a = bigEndian width b) :
    a % 256 ^ width = b % 256 ^ width := by
  induction width with
  | zero => rw [Nat.pow_zero, Nat.mod_one, Nat.mod_one]
  | succ width ih =>
      rw [bigEndian_succ, bigEndian_succ] at h
      obtain ⟨hhead, htail⟩ := List.cons.inj h
      have hdigit : a / 256 ^ width % 256 = b / 256 ^ width % 256 := by
        have hnumbers := congrArg UInt8.toNat hhead
        rw [UInt8.toNat_ofNat', UInt8.toNat_ofNat'] at hnumbers
        exact hnumbers
      calc a % 256 ^ (width + 1)
          = a % 256 ^ width + 256 ^ width * (a / 256 ^ width % 256) := Nat.mod_pow_succ
        _ = b % 256 ^ width + 256 ^ width * (b / 256 ^ width % 256) := by rw [ih htail, hdigit]
        _ = b % 256 ^ (width + 1) := Nat.mod_pow_succ.symm

theorem bigEndian_inj {width a b : Nat} (ha : a < 256 ^ width) (hb : b < 256 ^ width)
    (h : bigEndian width a = bigEndian width b) : a = b := by
  have hmod := mod_eq_of_bigEndian_eq h
  rwa [Nat.mod_eq_of_lt ha, Nat.mod_eq_of_lt hb] at hmod

namespace LocalFake

/-! ## Hash inputs -/

/-- What a derived value is derived from. -/
structure DerivationPoint where
  planDigest : String
  seed : UInt64
  phase : String
  repetitionIndex : UInt32
  sampleIndex : UInt32
  metricTag : String

/-- The components that `derive_value` hashes. -/
def DerivationPoint.components (point : DerivationPoint) : List Bytes :=
  [utf8 Schema.localFakeGeneratorVersion, utf8 point.planDigest, bigEndian 8 point.seed.toNat,
    utf8 point.phase, bigEndian 4 point.repetitionIndex.toNat,
    bigEndian 4 point.sampleIndex.toNat, utf8 point.metricTag]

/-- The bytes that `derive_value` hashes. -/
def DerivationPoint.input (point : DerivationPoint) : Bytes :=
  lengthPrefixed (bigEndian 8) point.components

/-- A derived value is a function of the hash of its point. -/
theorem deriveValue_eq (hash : Bytes → Digest) (point : DerivationPoint) (minimum span : Nat) :
    deriveValue hash point.planDigest point.seed point.phase point.repetitionIndex
        point.sampleIndex point.metricTag minimum span =
      UInt64.ofNat (minimum + fromBigEndian ((hash point.input).bytes.take 8) % span) := rfl

/-- The components tell the point. -/
theorem DerivationPoint.eq_of_components_eq {p q : DerivationPoint}
    (h : p.components = q.components) : p = q := by
  obtain ⟨planDigest, seed, phase, repetitionIndex, sampleIndex, metricTag⟩ := p
  obtain ⟨planDigest', seed', phase', repetitionIndex', sampleIndex', metricTag'⟩ := q
  simp only [components, List.cons.injEq, true_and, and_true] at h
  obtain ⟨hplan, hseed, hphase, hrepetition, hsample, htag⟩ := h
  obtain rfl := utf8_injective hplan
  obtain rfl := utf8_injective hphase
  obtain rfl := utf8_injective htag
  obtain rfl := UInt64.toNat_inj.mp (bigEndian_inj seed.toNat_lt seed'.toNat_lt hseed)
  obtain rfl := UInt32.toNat_inj.mp
    (bigEndian_inj repetitionIndex.toNat_lt repetitionIndex'.toNat_lt hrepetition)
  obtain rfl := UInt32.toNat_inj.mp
    (bigEndian_inj sampleIndex.toNat_lt sampleIndex'.toNat_lt hsample)
  rfl

/-- No component is longer than all of them. -/
theorem DerivationPoint.length_lt {point : DerivationPoint}
    (h : point.components.flatten.length < 2 ^ 64) {component : Bytes}
    (hcomponent : component ∈ point.components) : component.length < 256 ^ 8 := by
  have hle : component.length ≤ point.components.flatten.length := by
    rw [List.length_flatten]
    exact List.single_le_sum (fun _ _ => Nat.zero_le _) _ (List.mem_map_of_mem hcomponent)
  calc component.length ≤ point.components.flatten.length := hle
    _ < 2 ^ 64 := h
    _ = 256 ^ 8 := by norm_num

/-- Points with equal hash inputs are equal. -/
theorem DerivationPoint.eq_of_input_eq {p q : DerivationPoint}
    (hp : p.components.flatten.length < 2 ^ 64) (hq : q.components.flatten.length < 2 ^ 64)
    (h : p.input = q.input) : p = q := by
  apply eq_of_components_eq
  exact eq_of_lengthPrefixed_eq (length_bigEndian 8) (by omega)
    (fun m n hm hn heq => bigEndian_inj hm hn heq) (fun _ => length_lt hp) (fun _ => length_lt hq) h

/-! ## Records -/

variable {hash : Bytes → Digest}

/-- Every record of an execution is derived from the plan and the seed. -/
theorem exists_measurement_of_mem {plan : ResolvedExperiment} {seed : UInt64}
    {scenario : LocalFakeScenario} {record : MeasurementRecord}
    (h : record ∈ (execute hash plan seed scenario).measurements) :
    ∃ phase repetitionIndex sampleIndex,
      record = measurement hash plan seed phase repetitionIndex sampleIndex := by
  have hrecords : (execute hash plan seed scenario).measurements =
      measurements hash plan seed .warmup plan.experiment.spec.measurement.warmupRuns ++
        measurements hash plan seed .measured
          (measuredCount plan.experiment.spec.measurement.repetitions scenario) := by
    cases scenario <;> rfl
  rw [hrecords, List.mem_append] at h
  rcases h with hwarmup | hmeasured
  · obtain ⟨index, -, rfl⟩ := List.mem_map.mp hwarmup
    exact ⟨_, _, _, rfl⟩
  · obtain ⟨index, -, rfl⟩ := List.mem_map.mp hmeasured
    exact ⟨_, _, _, rfl⟩

/-- The hash inputs of different points differ, every derived value lies in its range,
and no record has a first token after its end. -/
theorem derivation_separated (hash : Bytes → Digest) :
    (∀ p q : DerivationPoint, p.components.flatten.length < 2 ^ 64 →
      q.components.flatten.length < 2 ^ 64 → p.input = q.input → p = q) ∧
    (∀ (point : DerivationPoint) (minimum span : Nat), 0 < span → minimum + span ≤ 2 ^ 64 →
      let value := deriveValue hash point.planDigest point.seed point.phase
        point.repetitionIndex point.sampleIndex point.metricTag minimum span
      value = UInt64.ofNat (minimum + fromBigEndian ((hash point.input).bytes.take 8) % span) ∧
        minimum ≤ value.toNat ∧ value.toNat < minimum + span) ∧
    ∀ plan seed scenario, ∀ record ∈ (execute hash plan seed scenario).measurements,
      record.timeToFirstTokenMicros ≤ record.latencyMicros := by
  refine ⟨fun _ _ hp hq => DerivationPoint.eq_of_input_eq hp hq, ?_, ?_⟩
  · intro point minimum span hspan hfits
    exact ⟨deriveValue_eq hash point minimum span, deriveValue_mem hspan hfits⟩
  · intro plan seed scenario record hrecord
    obtain ⟨phase, repetitionIndex, sampleIndex, rfl⟩ := exists_measurement_of_mem hrecord
    obtain ⟨hfirst, hlatency, -⟩ :=
      @measurement_timings hash plan seed phase repetitionIndex sampleIndex
    apply UInt64.le_iff_toNat_le.mpr
    omega

end LocalFake

end Benchplane
