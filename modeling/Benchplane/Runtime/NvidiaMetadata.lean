import Benchplane.Evidence.AcceptedEvidence
import Benchplane.Library.JsonSize
import Benchplane.Runtime.AdapterAgreement
import Benchplane.Runtime.NvidiaDriver

/-!
# NVIDIA metadata

The facts about the GPU go from the helper, which prints them as a line of JSON by
hand, over the parent, which parses that line, to the verifier, which checks them
again in the published provenance.  Each of the three has a list of conditions of
its own.
-/

namespace Benchplane

open Library

/-! ## Accepted facts in a bundle -/

/-- The NVIDIA record of a provenance. -/
def AttemptProvenance.nvidia (provenance : AttemptProvenance) : Option NvidiaGpuProvenance :=
  match provenance.software.runtime with
  | .llamaCpp _ _ _ backend => backend.nvidia
  | .localFake _ | .cpuProbe _ => none

/-- What the parent asks of accepted metadata. -/
structure AcceptedNvidia (format : String) (gpu : NvidiaGpuProvenance) : Prop where
  format : format = LlamaCpp.nvidiaMetadataFormat
  vendor : gpu.vendor = "NVIDIA"
  deviceName : LlamaCpp.isBoundedText gpu.deviceName = true
  index : gpu.logicalDeviceIndex = 0
  vram : gpu.totalVramBytes ≠ 0
  nvidiaDriver : LlamaCpp.isBoundedText gpu.nvidiaDriverVersion = true
  supported : nvidiaDriverVersionSupported gpu.nvidiaDriverVersion = true
  cudaDriver : LlamaCpp.isBoundedText gpu.cudaDriverVersion = true
  cudaRuntime : LlamaCpp.isBoundedText gpu.cudaRuntimeVersion = true
  cudaToolkit : LlamaCpp.isBoundedText gpu.cudaToolkitVersion = true
  capability : isComputeCapability gpu.computeCapability = true
  policy : gpu.offload.policy = "singleDeviceAllLayers"
  layers : gpu.offload.totalLayers ≠ 0
  offloaded : gpu.offload.offloadedLayers = gpu.offload.totalLayers

theorem parseNvidiaMetadata_eq_ok {codec : Codec} {bytes : Bytes} {gpu : NvidiaGpuProvenance} :
    LlamaCpp.parseNvidiaMetadata codec bytes = .ok gpu ↔
      ∃ format, codec.nvidiaMetadata bytes = .ok (format, gpu) ∧ AcceptedNvidia format gpu := by
  simp only [LlamaCpp.parseNvidiaMetadata, bind_eq_ok_iff, mapFailure_eq_ok, rejectIf_eq_ok,
    pure_eq_ok_iff, not_or, Decidable.not_not]
  constructor
  · intro h
    obtain ⟨⟨format, decoded⟩, hdecoded, -, hconditions, rfl⟩ := h
    obtain ⟨h1, h2, h3, h4, h5, h6, h7, h8, h9, h10, h11, h12, h13, h14⟩ := hconditions
    exact ⟨format, hdecoded, h1, h2, h3, h4, h5, h6, h7, h8, h9, h10, h11, h12, h13, h14⟩
  · rintro ⟨format, hdecoded, h⟩
    exact ⟨(format, gpu), hdecoded, (), ⟨h.format, h.vendor, h.deviceName, h.index, h.vram,
      h.nvidiaDriver, h.supported, h.cudaDriver, h.cudaRuntime, h.cudaToolkit, h.capability,
      h.policy, h.layers, h.offloaded⟩, rfl⟩

/-- The parent's condition on a text is the verifier's. -/
theorem requireProvenanceValue_eq_ok {value field : String} :
    requireProvenanceValue value field = .ok () ↔ LlamaCpp.isBoundedText value = true := by
  unfold requireProvenanceValue
  rw [rejectIf_eq_ok]
  simp only [LlamaCpp.isBoundedText, Bool.and_eq_true, decide_eq_true_eq, Bool.not_eq_true', not_or,
    Decidable.not_not, not_lt, gt_iff_lt, ne_eq, maxProvenanceValueBytes, Bool.not_eq_true,
    and_assoc]

/-- Digits are no white space and no controls. -/
theorem plain_of_isDigit {c : Char} (h : c.isDigit = true) :
    isWhitespace c = false ∧ isControl c = false := by
  obtain ⟨hlow, hhigh⟩ := toNat_of_isDigit h
  simp only [isWhitespace, isControl, Bool.or_eq_false_iff, Bool.and_eq_false_iff,
    decide_eq_false_iff_not, beq_eq_false_iff_ne]
  omega

/-- A text of digits and dots. -/
def IsDotted (text : String) : Prop := ∀ c ∈ text.toList, c.isDigit = true ∨ c = '.'

theorem isBoundedText_of_isDotted {text : String} (h : IsDotted text) (hne : text ≠ "")
    (hlength : (utf8 text).length ≤ 256) : LlamaCpp.isBoundedText text = true := by
  have hplain : ∀ c ∈ text.toList, isWhitespace c = false ∧ isControl c = false := by
    intro c hc
    rcases h c hc with hdigit | rfl
    · exact plain_of_isDigit hdigit
    · decide
  simp only [LlamaCpp.isBoundedText, Bool.and_eq_true, decide_eq_true_eq, Bool.not_eq_true']
  refine ⟨⟨⟨hne, trim_of_noWhitespace fun c hc => (hplain c hc).1⟩, hlength⟩, ?_⟩
  rw [List.any_eq_false]
  intro c hc
  simp [(hplain c hc).2]

theorem isDotted_of_isComputeCapability {text : String} (h : isComputeCapability text = true) :
    IsDotted text ∧ text ≠ "" := by
  unfold isComputeCapability splitOnceAt at h
  cases hcut : splitOnce ['.'] text.toList with
  | none => simp [hcut] at h
  | some cut =>
      obtain ⟨major, minor⟩ := cut
      have htext := append_of_splitOnce hcut
      simp only [hcut, Option.map_some, Bool.and_eq_true, decide_eq_true_eq, List.all_eq_true,
        String.toList_ofList] at h
      obtain ⟨⟨⟨-, -⟩, hmajor⟩, hminor⟩ := h
      constructor
      · intro c hc
        rw [htext] at hc
        simp only [List.mem_append, List.mem_singleton] at hc
        rcases hc with (hc | rfl) | hc
        · exact Or.inl (hmajor c hc)
        · exact Or.inr rfl
        · exact Or.inl (hminor c hc)
      · rintro rfl
        simp at htext

/-- Facts that the parent accepted pass the verifier's check unless their compute
capability is too long for it. -/
theorem validateNvidiaProvenance_of_accepted {format : String} {gpu : NvidiaGpuProvenance}
    (h : AcceptedNvidia format gpu) :
    validateNvidiaProvenance gpu = .ok () ↔
      (utf8 gpu.computeCapability).length ≤ maxProvenanceValueBytes := by
  have hproves : provesOffload gpu = true := by
    simp only [provesOffload, Bool.and_eq_true, decide_eq_true_eq]
    exact ⟨⟨⟨⟨⟨⟨h.vendor, h.index⟩, h.vram⟩, h.supported⟩, h.policy⟩, h.layers⟩, h.offloaded⟩
  obtain ⟨hdotted, hne⟩ := isDotted_of_isComputeCapability h.capability
  simp only [validateNvidiaProvenance, bind_eq_ok_iff, rejectIf_eq_ok, checkAll_eq_ok,
    List.forall_mem_cons, requireProvenanceValue_eq_ok, hproves, h.capability, h.deviceName,
    h.nvidiaDriver, h.cudaDriver, h.cudaRuntime, h.cudaToolkit]
  constructor
  · rintro ⟨-, -, -, ⟨-, -, -, -, -, hbounded, -⟩, -⟩
    simp only [LlamaCpp.isBoundedText, Bool.and_eq_true, decide_eq_true_eq] at hbounded
    exact hbounded.1.2
  · intro hlength
    have hbounded := isBoundedText_of_isDotted hdotted hne hlength
    exact ⟨(), by simp, (), ⟨trivial, trivial, trivial, trivial, trivial, hbounded, by simp⟩, by simp⟩

/-- A provenance captured for the CUDA target takes NVIDIA facts. -/
theorem attachNvidia_capture {host : Host} {runId : String} {plan : ResolvedExperiment}
    {model : String} {outputTokens : UInt32} {provenance : AttemptProvenance}
    (hplan : plan.experiment.spec.runtime = .llamaCpp .nvidiaCuda model outputTokens)
    (hcapture : capture host runId plan = some provenance) (gpu : NvidiaGpuProvenance) :
    ∃ attached, attachNvidia provenance gpu = .ok attached ∧ attached.nvidia = some gpu := by
  unfold capture at hcapture
  rw [hplan] at hcapture
  obtain rfl := Option.some.inj hcapture
  exact ⟨_, rfl, rfl⟩

/-- Accepted metadata is publishable exactly when the compute capability in it takes
no more bytes than the verifier allows. -/
theorem parseNvidiaMetadata_publishable_iff {codec : Codec} {host : Host} {runId : String}
    {plan : ResolvedExperiment} {model : String} {outputTokens : UInt32}
    {provenance : AttemptProvenance} {bytes : Bytes} {format : String}
    {metadata gpu : NvidiaGpuProvenance}
    (hplan : plan.experiment.spec.runtime = .llamaCpp .nvidiaCuda model outputTokens)
    (hcapture : capture host runId plan = some provenance)
    (hmetadata : codec.nvidiaMetadata bytes = .ok (format, metadata))
    (haccepted : LlamaCpp.parseNvidiaMetadata codec bytes = .ok gpu) :
    (∃ attached, attachNvidia provenance gpu = .ok attached ∧ attached.nvidia = some gpu ∧
        validateNvidiaProvenance gpu = .ok ()) ↔
      (utf8 metadata.computeCapability).length ≤ maxProvenanceValueBytes := by
  obtain ⟨format', hdecoded, hgpu⟩ := parseNvidiaMetadata_eq_ok.mp haccepted
  rw [hmetadata] at hdecoded
  obtain ⟨rfl, rfl⟩ := Prod.mk.inj (Except.ok.inj hdecoded)
  rw [← validateNvidiaProvenance_of_accepted hgpu]
  constructor
  · rintro ⟨-, -, -, hvalid⟩
    exact hvalid
  · intro hvalid
    obtain ⟨attached, hattached, hnvidia⟩ := attachNvidia_capture hplan hcapture metadata
    exact ⟨attached, hattached, hnvidia, hvalid⟩

/-- What the parent parses: the object that the derived serializer writes. -/
def nvidiaMetadataJson (format : String) (gpu : NvidiaGpuProvenance) : Json :=
  .record [("format", .string format), ("nvidia", gpu.toJson)]

/-! A T4 whose compute capability has a number of digits before its dot. -/
namespace SampleMetadata

def gpu (digits : Nat) : NvidiaGpuProvenance where
  vendor := "NVIDIA"
  deviceName := "T4"
  logicalDeviceIndex := 0
  totalVramBytes := 1
  nvidiaDriverVersion := "575.57.8"
  cudaDriverVersion := "12.9"
  cudaRuntimeVersion := "12.9"
  cudaToolkitVersion := "12.9"
  computeCapability := String.ofList (List.replicate digits '7' ++ ['.', '5'])
  offload := ⟨"singleDeviceAllLayers", 1, 1⟩

def bytes (digits : Nat) : Bytes :=
  toVec (nvidiaMetadataJson LlamaCpp.nvidiaMetadataFormat (gpu digits))

def codec (digits : Nat) : Codec := { Codec.refusing with
  nvidiaMetadata := decodeKnown (bytes digits) (LlamaCpp.nvidiaMetadataFormat, gpu digits) }

theorem length_computeCapability (digits : Nat) :
    (utf8 (gpu digits).computeCapability).length = digits + 2 := by
  have hseven : ('7' : Char).utf8Size = 1 := by decide
  have htail : (['.', '5'].map Char.utf8Size).sum = 2 := by decide
  rw [length_utf8, gpu, utf8ByteSize_ofList, List.map_append, List.sum_append, htail,
    List.map_replicate, List.sum_replicate_nat, hseven, mul_one]

theorem isComputeCapability_gpu {digits : Nat} (h : 0 < digits) :
    isComputeCapability (gpu digits).computeCapability = true := by
  have hdot : '.' ∉ List.replicate digits '7' := by
    intro hmem
    exact absurd (List.eq_of_mem_replicate hmem) (by decide)
  have hcut : splitOnceAt '.' (gpu digits).computeCapability =
      some (String.ofList (List.replicate digits '7'), "5") := by
    have hsplit := splitOnce_append [] hdot ['5']
    rw [splitOnceAt, gpu, String.toList_ofList]
    rw [List.append_assoc, List.singleton_append] at hsplit
    rw [hsplit]
    rfl
  have hne : String.ofList (List.replicate digits '7') ≠ "" := by
    intro hempty
    have hlength := congrArg (fun text => text.toList.length) hempty
    simp at hlength
    omega
  unfold isComputeCapability
  rw [hcut]
  simp only [Bool.and_eq_true, decide_eq_true_eq, String.toList_ofList, List.all_eq_true]
  refine ⟨⟨⟨hne, of_decide_eq_true rfl⟩, ?_⟩, List.all_eq_true.mp rfl⟩
  intro c hc
  obtain rfl := List.eq_of_mem_replicate hc
  decide

theorem decoded (digits : Nat) : (codec digits).nvidiaMetadata (bytes digits) =
    .ok (LlamaCpp.nvidiaMetadataFormat, gpu digits) := by
  simp only [codec, decodeKnown_self]

theorem accepted {digits : Nat} (h : 0 < digits) :
    LlamaCpp.parseNvidiaMetadata (codec digits) (bytes digits) = .ok (gpu digits) := by
  refine parseNvidiaMetadata_eq_ok.mpr ⟨LlamaCpp.nvidiaMetadataFormat, decoded digits, ?_⟩
  exact
    { format := rfl
      vendor := rfl
      deviceName := show LlamaCpp.isBoundedText "T4" = true by decide
      index := rfl
      vram := show (1 : UInt64) ≠ 0 by decide
      nvidiaDriver := show LlamaCpp.isBoundedText "575.57.8" = true by decide
      supported := show nvidiaDriverVersionSupported "575.57.8" = true by decide
      cudaDriver := show LlamaCpp.isBoundedText "12.9" = true by decide
      cudaRuntime := show LlamaCpp.isBoundedText "12.9" = true by decide
      cudaToolkit := show LlamaCpp.isBoundedText "12.9" = true by decide
      capability := isComputeCapability_gpu h
      policy := rfl
      layers := show (1 : UInt32) ≠ 0 by decide
      offloaded := rfl }

/-- The line is short enough for the parent. -/
theorem length_bytes : (bytes 300).length ≤ LlamaCpp.maxSerializedRecordBytes := by
  have hcapability : (gpu 300).computeCapability.utf8ByteSize = 302 := by
    rw [← length_utf8, length_computeCapability]
  have hsize := Json.utf8ByteSize_compact_le Json.boundsQuotes_quoteBound
    (nvidiaMetadataJson LlamaCpp.nvidiaMetadataFormat (gpu 300))
  rw [bytes, toVec, length_utf8]
  refine le_trans hsize ?_
  have hquoted : Json.quoteBound (gpu 300).computeCapability = 1814 := by
    rw [Json.quoteBound, hcapability]
  simp only [nvidiaMetadataJson, NvidiaGpuProvenance.toJson, NvidiaOffloadProvenance.toJson,
    Json.record, JsonFields.ofList, Json.sizeWith, JsonFields.sizeWith, JsonFields.isNil, hquoted]
  decide

def plan : ResolvedExperiment :=
  .sample (.llamaCpp .nvidiaCuda Schema.llamaCppModelIdentity 1) Schema.llamaCppWorkloadProfile

end SampleMetadata

theorem parseNvidiaMetadata_publishable_iff_oneDigit :
    ∃ provenance, (∃ attached,
        attachNvidia provenance (SampleMetadata.gpu 1) = .ok attached ∧
        attached.nvidia = some (SampleMetadata.gpu 1) ∧
        validateNvidiaProvenance (SampleMetadata.gpu 1) = .ok ()) ↔
      (utf8 (SampleMetadata.gpu 1).computeCapability).length ≤ maxProvenanceValueBytes := by
  have hcapture : (capture .sample "run-1" SampleMetadata.plan).isSome = true :=
    capture_isSome (by intro model revision arguments h; contradiction)
  obtain ⟨provenance, hprovenance⟩ := Option.isSome_iff_exists.mp hcapture
  exact ⟨provenance, parseNvidiaMetadata_publishable_iff rfl hprovenance
    (SampleMetadata.decoded 1) (SampleMetadata.accepted (by decide))⟩

/-- Metadata with a long compute capability is accepted and cannot be published. -/
theorem parseNvidiaMetadata_unpublishable :
    ¬ ∀ bytes gpu, bytes.length ≤ LlamaCpp.maxSerializedRecordBytes →
      LlamaCpp.parseNvidiaMetadata (SampleMetadata.codec 300) bytes = .ok gpu →
      validateNvidiaProvenance gpu = .ok () := by
  intro hclaim
  have haccepted := SampleMetadata.accepted (show 0 < 300 by decide)
  obtain ⟨format, -, hgpu⟩ := parseNvidiaMetadata_eq_ok.mp haccepted
  have hvalid := hclaim _ _ SampleMetadata.length_bytes haccepted
  rw [validateNvidiaProvenance_of_accepted hgpu, SampleMetadata.length_computeCapability] at hvalid
  exact absurd hvalid (by decide)

end Benchplane
