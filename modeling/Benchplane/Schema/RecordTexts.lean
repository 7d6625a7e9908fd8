import Benchplane.Library.JsonDecode
import Benchplane.Schema.Encoding

/-!
# Texts of the records

A record of a bundle is determined by its text: the fields are determined by the JSON
value, and the value by its text, compact or pretty.
-/

namespace Benchplane

open Library Library.Json

/-! ## Numbers -/

/-- The texts of the numbers in a record. -/
def IsNatural (text : String) : Prop := ∃ n : Nat, text = n.repr

theorem isNumberText_of_natural {text : String} (h : IsNatural text) :
    isNumberText text.toList = true := by
  obtain ⟨n, rfl⟩ := h
  exact isNumberText_repr n

@[simp] theorem fits_natural_u32 {depth : Nat} (n : UInt32) : (Json.u32 n).Fits IsNatural depth :=
  ⟨n.toNat, rfl⟩

@[simp] theorem fits_natural_u64 {depth : Nat} (n : UInt64) : (Json.u64 n).Fits IsNatural depth :=
  ⟨n.toNat, rfl⟩

@[simp] theorem u32_inj {m n : UInt32} : Json.u32 m = Json.u32 n ↔ m = n := by
  constructor
  · intro h
    have hdecode := decodeU32_u32 m
    rw [h, decodeU32_u32] at hdecode
    exact (Option.some.inj hdecode).symm
  · rintro rfl
    rfl

@[simp] theorem u64_inj {m n : UInt64} : Json.u64 m = Json.u64 n ↔ m = n := by
  constructor
  · intro h
    have hdecode := decodeU64_u64 m
    rw [h, decodeU64_u64] at hdecode
    exact (Option.some.inj hdecode).symm
  · rintro rfl
    rfl

/-! ## Optional values and lists -/

theorem option_inj {α : Type} {encode : α → Json} (hencode : Function.Injective encode)
    (hnull : ∀ a, encode a ≠ .null) {one other : Option α} :
    option encode one = option encode other ↔ one = other := by
  constructor
  · intro h
    cases one with
    | none =>
        cases other with
        | none => rfl
        | some b => exact absurd h.symm (hnull b)
    | some a =>
        cases other with
        | none => exact absurd h (hnull a)
        | some b => exact congrArg some (hencode h)
  · rintro rfl
    rfl

theorem ofList_injective : Function.Injective JsonItems.ofList := by
  intro one other h
  induction one generalizing other with
  | nil =>
      cases other with
      | nil => rfl
      | cons b rest => simp [JsonItems.ofList] at h
  | cons a rest ih =>
      cases other with
      | nil => simp [JsonItems.ofList] at h
      | cons b others =>
          simp only [JsonItems.ofList, JsonItems.cons.injEq] at h
          rw [h.1, ih h.2]

theorem list_map_inj {α : Type} {encode : α → Json} (hencode : Function.Injective encode)
    {one other : List α} :
    list (one.map encode) = list (other.map encode) ↔ one = other := by
  constructor
  · intro h
    exact hencode.list_map (ofList_injective (Json.array.inj h))
  · rintro rfl
    rfl

@[simp] theorem option_string_inj {one other : Option String} :
    option .string one = option .string other ↔ one = other :=
  option_inj (fun _ _ h => Json.string.inj h) fun _ => by simp

@[simp] theorem option_u32_inj {one other : Option UInt32} :
    option .u32 one = option .u32 other ↔ one = other :=
  option_inj (fun _ _ h => u32_inj.mp h) fun _ => by simp [Json.u32, Json.nat]

@[simp] theorem option_u64_inj {one other : Option UInt64} :
    option .u64 one = option .u64 other ↔ one = other :=
  option_inj (fun _ _ h => u64_inj.mp h) fun _ => by simp [Json.u64, Json.nat]

/-! ## Values -/

@[simp] theorem RunState.toJson_inj {one other : RunState} :
    one.toJson = other.toJson ↔ one = other := by
  cases one <;> cases other <;> simp [RunState.toJson, RunState.asStr]

@[simp] theorem AttemptStatus.toJson_inj {one other : AttemptStatus} :
    one.toJson = other.toJson ↔ one = other := by
  cases one <;> cases other <;> simp [AttemptStatus.toJson]

@[simp] theorem ValidityStatus.toJson_inj {one other : ValidityStatus} :
    one.toJson = other.toJson ↔ one = other := by
  cases one <;> cases other <;> simp [ValidityStatus.toJson]

@[simp] theorem MeasurementPhase.toJson_inj {one other : MeasurementPhase} :
    one.toJson = other.toJson ↔ one = other := by
  cases one <;> cases other <;> simp [MeasurementPhase.toJson]

@[simp] theorem DeviceClass.toJson_inj {one other : DeviceClass} :
    one.toJson = other.toJson ↔ one = other := by
  cases one <;> cases other <;> simp [DeviceClass.toJson]

/-! ## Records -/

theorem FailureRecord.toJson_injective : Function.Injective FailureRecord.toJson := by
  intro one other h
  cases one
  cases other
  simpa [FailureRecord.toJson, record, JsonFields.ofList] using h

@[simp] theorem FailureRecord.option_toJson_inj {one other : Option FailureRecord} :
    option FailureRecord.toJson one = option FailureRecord.toJson other ↔ one = other :=
  option_inj FailureRecord.toJson_injective fun r => by simp [FailureRecord.toJson, record]

theorem RunRecord.toJson_injective : Function.Injective RunRecord.toJson := by
  intro one other h
  cases one
  cases other
  simpa [RunRecord.toJson, record, JsonFields.ofList] using h

theorem AttemptRecord.toJson_injective : Function.Injective AttemptRecord.toJson := by
  intro one other h
  cases one
  cases other
  simpa [AttemptRecord.toJson, record, JsonFields.ofList] using h

@[simp] theorem RunState.option_toJson_inj {one other : Option RunState} :
    option RunState.toJson one = option RunState.toJson other ↔ one = other :=
  option_inj (fun _ _ => RunState.toJson_inj.mp) fun _ => by simp [RunState.toJson]

theorem LifecycleEvent.toJson_injective : Function.Injective LifecycleEvent.toJson := by
  intro one other h
  cases one
  cases other
  simpa [LifecycleEvent.toJson, record, JsonFields.ofList] using h

theorem ValidityReason.toJson_injective : Function.Injective ValidityReason.toJson := by
  intro one other h
  cases one
  cases other
  simpa [ValidityReason.toJson, record, JsonFields.ofList] using h

theorem ValidityResult.toJson_injective : Function.Injective ValidityResult.toJson := by
  intro one other h
  cases one
  cases other
  simpa [ValidityResult.toJson, record, JsonFields.ofList,
    list_map_inj ValidityReason.toJson_injective] using h

theorem LatencySummary.toJson_injective : Function.Injective LatencySummary.toJson := by
  intro one other h
  cases one
  cases other
  simpa [LatencySummary.toJson, record, JsonFields.ofList] using h

@[simp] theorem LatencySummary.option_toJson_inj {one other : Option LatencySummary} :
    option LatencySummary.toJson one = option LatencySummary.toJson other ↔ one = other :=
  option_inj LatencySummary.toJson_injective fun r => by simp [LatencySummary.toJson, record]

theorem RunSummary.toJson_injective : Function.Injective RunSummary.toJson := by
  intro one other h
  cases one
  cases other
  simpa [RunSummary.toJson, record, JsonFields.ofList] using h

theorem EvidenceManifest.toJson_injective : Function.Injective EvidenceManifest.toJson := by
  intro one other h
  cases one
  cases other
  simpa [EvidenceManifest.toJson, record, JsonFields.ofList] using h

theorem RequestObservation.toJson_injective : Function.Injective RequestObservation.toJson := by
  intro one other h
  cases one
  cases other
  simpa [RequestObservation.toJson, record, JsonFields.ofList] using h

/-- Records with and without observations differ in the number of fields. -/
theorem MeasurementRecord.toJson_injective : Function.Injective MeasurementRecord.toJson := by
  intro one other h
  have hobservations : ∀ {observations others : List RequestObservation},
      JsonFields.ofList (if observations = [] then []
          else [("requestObservations", list (observations.map RequestObservation.toJson))]) =
        JsonFields.ofList (if others = [] then []
          else [("requestObservations", list (others.map RequestObservation.toJson))]) →
      observations = others := by
    intro observations others hfields
    split at hfields <;> split at hfields
    · simp [*]
    · simp [JsonFields.ofList] at hfields
    · simp [JsonFields.ofList] at hfields
    · simpa [JsonFields.ofList, list_map_inj RequestObservation.toJson_injective] using hfields
  cases one
  cases other
  simp only [MeasurementRecord.toJson, record, List.cons_append, List.nil_append,
    JsonFields.ofList, Json.object.injEq, JsonFields.cons.injEq, Json.string.injEq, u32_inj,
    u64_inj, MeasurementPhase.toJson_inj, true_and] at h
  obtain ⟨rfl, rfl, rfl, rfl, rfl, rfl, rfl, rfl, rfl, rfl, hrest⟩ := h
  rw [hobservations hrest]

/-! ## Provenance -/

@[simp] theorem OperatingSystemProvenance.toJson_inj {one other : OperatingSystemProvenance} :
    one.toJson = other.toJson ↔ one = other := by
  cases one
  cases other
  simp [OperatingSystemProvenance.toJson, record, JsonFields.ofList]

@[simp] theorem KernelProvenance.toJson_inj {one other : KernelProvenance} :
    one.toJson = other.toJson ↔ one = other := by
  cases one
  cases other
  simp [KernelProvenance.toJson, record, JsonFields.ofList]

@[simp] theorem CpuProvenance.toJson_inj {one other : CpuProvenance} :
    one.toJson = other.toJson ↔ one = other := by
  cases one
  cases other
  simp [CpuProvenance.toJson, record, JsonFields.ofList]

@[simp] theorem PlatformProvenance.toJson_inj {one other : PlatformProvenance} :
    one.toJson = other.toJson ↔ one = other := by
  cases one
  cases other
  simp [PlatformProvenance.toJson, record, JsonFields.ofList]

@[simp] theorem SoftwareComponentProvenance.toJson_inj {one other : SoftwareComponentProvenance} :
    one.toJson = other.toJson ↔ one = other := by
  cases one
  cases other
  simp [SoftwareComponentProvenance.toJson, record, JsonFields.ofList]

@[simp] theorem ModelProvenance.toJson_inj {one other : ModelProvenance} :
    one.toJson = other.toJson ↔ one = other := by
  cases one
  cases other
  simp [ModelProvenance.toJson, record, JsonFields.ofList]

@[simp] theorem NvidiaOffloadProvenance.toJson_inj {one other : NvidiaOffloadProvenance} :
    one.toJson = other.toJson ↔ one = other := by
  cases one
  cases other
  simp [NvidiaOffloadProvenance.toJson, record, JsonFields.ofList]

@[simp] theorem NvidiaGpuProvenance.toJson_inj {one other : NvidiaGpuProvenance} :
    one.toJson = other.toJson ↔ one = other := by
  cases one
  cases other
  simp [NvidiaGpuProvenance.toJson, record, JsonFields.ofList]

/-- Backends with and without an NVIDIA record differ in the number of fields. -/
@[simp] theorem BackendProvenance.toJson_inj {one other : BackendProvenance} :
    one.toJson = other.toJson ↔ one = other := by
  obtain ⟨identity, deviceClass, nixStorePath, nvidia⟩ := one
  obtain ⟨identity', deviceClass', nixStorePath', nvidia'⟩ := other
  cases nvidia <;> cases nvidia' <;>
    simp [BackendProvenance.toJson, record, JsonFields.ofList]

@[simp] theorem RuntimeProvenance.toJson_inj {one other : RuntimeProvenance} :
    one.toJson = other.toJson ↔ one = other := by
  cases one <;> cases other <;> simp [RuntimeProvenance.toJson, record, JsonFields.ofList]

@[simp] theorem SoftwareProvenance.toJson_inj {one other : SoftwareProvenance} :
    one.toJson = other.toJson ↔ one = other := by
  cases one
  cases other
  simp [SoftwareProvenance.toJson, record, JsonFields.ofList]

theorem AttemptProvenance.toJson_injective : Function.Injective AttemptProvenance.toJson := by
  intro one other h
  cases one
  cases other
  simpa [AttemptProvenance.toJson, record, JsonFields.ofList] using h

/-! ## What the records fit -/

section

variable {depth : Nat}

@[simp] theorem fits_natural_option_string {value : Option String} :
    (option .string value).Fits IsNatural depth := fits_option fun _ => trivial

@[simp] theorem fits_natural_option_u32 {value : Option UInt32} :
    (option .u32 value).Fits IsNatural depth := fits_option fits_natural_u32

@[simp] theorem fits_natural_option_u64 {value : Option UInt64} :
    (option .u64 value).Fits IsNatural depth := fits_option fits_natural_u64

@[simp] theorem RunState.fits_toJson (state : RunState) : state.toJson.Fits IsNatural depth :=
  trivial

@[simp] theorem AttemptStatus.fits_toJson (status : AttemptStatus) :
    status.toJson.Fits IsNatural depth := by
  cases status <;> trivial

@[simp] theorem ValidityStatus.fits_toJson (status : ValidityStatus) :
    status.toJson.Fits IsNatural depth := by
  cases status <;> trivial

@[simp] theorem FailureRecord.fits_option {failure : Option FailureRecord} :
    (option FailureRecord.toJson failure).Fits IsNatural (depth + 1) :=
  Json.fits_option fun _ => by simp [FailureRecord.toJson, fits_record]

theorem RunRecord.fits_toJson (r : RunRecord) : r.toJson.Fits IsNatural 2 := by
  simp [RunRecord.toJson, fits_record]

theorem AttemptRecord.fits_toJson (r : AttemptRecord) : r.toJson.Fits IsNatural 2 := by
  simp [AttemptRecord.toJson, fits_record]

theorem LifecycleEvent.fits_toJson (r : LifecycleEvent) : r.toJson.Fits IsNatural 2 := by
  have hfrom : (option RunState.toJson r.fromState).Fits IsNatural 1 :=
    fits_option RunState.fits_toJson
  simp [LifecycleEvent.toJson, fits_record, hfrom]

theorem ValidityResult.fits_toJson (r : ValidityResult) : r.toJson.Fits IsNatural 3 := by
  simp [ValidityResult.toJson, ValidityReason.toJson, fits_record, fits_list]

theorem RunSummary.fits_toJson (r : RunSummary) : r.toJson.Fits IsNatural 2 := by
  have hlatency : (option LatencySummary.toJson r.latency).Fits IsNatural 1 :=
    fits_option fun _ => by simp [LatencySummary.toJson, fits_record]
  simp [RunSummary.toJson, fits_record, hlatency]

theorem EvidenceManifest.fits_toJson (r : EvidenceManifest) : r.toJson.Fits IsNatural 1 := by
  simp [EvidenceManifest.toJson, fits_record]

theorem MeasurementRecord.fits_toJson (r : MeasurementRecord) : r.toJson.Fits IsNatural 3 := by
  have hphase : r.phase.toJson.Fits IsNatural 2 := by
    cases r.phase <;> trivial
  have hobservations : ∀ observation : RequestObservation,
      observation.toJson.Fits IsNatural 1 := by
    intro observation
    simp [RequestObservation.toJson, fits_record]
  rw [MeasurementRecord.toJson]
  split <;> simp [fits_record, fits_list, hphase, hobservations]

@[simp] theorem PlatformProvenance.fits_toJson (r : PlatformProvenance) :
    r.toJson.Fits IsNatural (depth + 2) := by
  simp [PlatformProvenance.toJson, OperatingSystemProvenance.toJson, KernelProvenance.toJson,
    CpuProvenance.toJson, fits_record]

@[simp] theorem SoftwareComponentProvenance.fits_toJson (r : SoftwareComponentProvenance) :
    r.toJson.Fits IsNatural (depth + 1) := by
  simp [SoftwareComponentProvenance.toJson, fits_record]

@[simp] theorem ModelProvenance.fits_toJson (r : ModelProvenance) :
    r.toJson.Fits IsNatural (depth + 1) := by
  simp [ModelProvenance.toJson, fits_record]

@[simp] theorem NvidiaGpuProvenance.fits_toJson (r : NvidiaGpuProvenance) :
    r.toJson.Fits IsNatural (depth + 2) := by
  simp [NvidiaGpuProvenance.toJson, NvidiaOffloadProvenance.toJson, fits_record]

@[simp] theorem BackendProvenance.fits_toJson (r : BackendProvenance) :
    r.toJson.Fits IsNatural (depth + 3) := by
  have hclass : r.deviceClass.toJson.Fits IsNatural (depth + 2) := by
    cases r.deviceClass <;> trivial
  rw [BackendProvenance.toJson]
  split <;> simp [fits_record, hclass]

theorem AttemptProvenance.fits_toJson (r : AttemptProvenance) : r.toJson.Fits IsNatural 7 := by
  have hruntime : r.software.runtime.toJson.Fits IsNatural 5 := by
    cases r.software.runtime <;> simp [RuntimeProvenance.toJson, fits_record]
  simp [AttemptProvenance.toJson, SoftwareProvenance.toJson, fits_record, hruntime]

end

/-! ## Texts -/

/-- Values that are told apart by their encodings are told apart by the texts. -/
theorem toVec_injective {α : Type} {encode : α → Json} {depth : Nat}
    (hencode : Function.Injective encode) (hfits : ∀ a, (encode a).Fits IsNatural depth) :
    Function.Injective fun a => toVec (encode a) := by
  intro one other h
  have hnumbers : ∀ a, (encode a).HasNumbers := fun a =>
    hasNumbers_of_fits (fun _ => isNumberText_of_natural) _ (hfits a)
  exact hencode (compact_injective (hnumbers one) (hnumbers other) (utf8_injective h))

theorem jsonBytes_injective {α : Type} {encode : α → Json} {depth : Nat}
    (hencode : Function.Injective encode) (hfits : ∀ a, (encode a).Fits IsNatural depth) :
    Function.Injective fun a => jsonBytes (encode a) := by
  intro one other h
  have hnumbers : ∀ a, (encode a).HasNumbers := fun a =>
    hasNumbers_of_fits (fun _ => isNumberText_of_natural) _ (hfits a)
  have htext : (encode one).pretty 0 ++ "\n" = (encode other).pretty 0 ++ "\n" := utf8_injective h
  exact hencode (pretty_injective (hnumbers one) (hnumbers other)
    ((String.append_left_inj _).mp htext))

end Benchplane
