import Benchplane.Runtime.NvidiaMetadata

/-!
# Emitted NVIDIA metadata

`emit_nvidia_metadata` of the packaged helper, whose encoder of JSON strings looks at
bytes, against the parent, which looks at Unicode text.  A printed line is accepted
exactly when the name of the device is UTF-8, trimmed and free of controls.
-/

namespace Benchplane

open Library

namespace LlamaCppHelper

def nvidiaMetadataFormat : String := "benchplane-llama-cpp-nvidia/v1"

/-- What is read of `cudaDeviceProp`.  The name ends before its first zero byte. -/
structure CudaDeviceProp where
  name : Bytes
  major : Int
  minor : Int
  totalGlobalMem : UInt64

/-- `cuda_version`. -/
def cudaVersion (version : Int) : String :=
  if version ≤ 0 then "" else (version / 1000).repr ++ "." ++ (version % 1000 / 10).repr

/-- A byte inside a JSON string. -/
def escapeByte (b : UInt8) : Bytes := if b = 34 ∨ b = 92 then [92, b] else [b]

/-- `json_string`, empty for a value that it refuses. -/
def jsonString (value : Bytes) : Bytes :=
  if value = [] ∨ value.length > 256 then []
  else if value.any fun b => b < 0x20 || b = 0x7f then []
  else 34 :: (value.flatMap escapeByte ++ [34])

/-- The text of `properties.major` and `properties.minor`. -/
def capabilityText (properties : CudaDeviceProp) : String :=
  properties.major.repr ++ "." ++ properties.minor.repr

/-- The format of `emit_nvidia_metadata` with its conversions. -/
def printNvidiaMetadata (deviceName : Bytes) (totalVramBytes : UInt64)
    (nvidiaDriver cudaDriver cudaRuntime cudaToolkit computeCapability : Bytes)
    (offloadedLayers totalLayers : UInt32) : Bytes :=
  utf8 ("\x7b\"format\":\"" ++ nvidiaMetadataFormat ++
    "\",\"nvidia\":\x7b\"vendor\":\"NVIDIA\",\"deviceName\":") ++ deviceName ++
  utf8 (",\"logicalDeviceIndex\":0,\"totalVramBytes\":" ++ totalVramBytes.toNat.repr ++
    ",\"nvidiaDriverVersion\":") ++ nvidiaDriver ++
  utf8 ",\"cudaDriverVersion\":" ++ cudaDriver ++
  utf8 ",\"cudaRuntimeVersion\":" ++ cudaRuntime ++
  utf8 ",\"cudaToolkitVersion\":" ++ cudaToolkit ++
  utf8 ",\"computeCapability\":" ++ computeCapability ++
  utf8 (",\"offload\":\x7b\"policy\":\"singleDeviceAllLayers\",\"offloadedLayers\":" ++
    offloadedLayers.toNat.repr ++ ",\"totalLayers\":" ++ totalLayers.toNat.repr ++
    "\x7d\x7d\x7d\n")

/-- `emit_nvidia_metadata`: the bytes printed, or nothing.  The toolkit's version is
the compiled `CUDART_VERSION`. -/
def emitNvidiaMetadata (properties : CudaDeviceProp)
    (driverVersion runtimeVersion toolkitVersion : Int) (nvidiaDriverVersion : Bytes)
    (offloadedLayers totalLayers : UInt32) : Option Bytes :=
  let deviceName := jsonString properties.name
  let nvidiaDriver := jsonString nvidiaDriverVersion
  let cudaDriver := jsonString (utf8 (cudaVersion driverVersion))
  let cudaRuntime := jsonString (utf8 (cudaVersion runtimeVersion))
  let cudaToolkit := jsonString (utf8 (cudaVersion toolkitVersion))
  let computeCapability := jsonString (utf8 (capabilityText properties))
  if deviceName = [] ∨ nvidiaDriver = [] ∨ cudaDriver = [] ∨ cudaRuntime = [] ∨
      cudaToolkit = [] ∨ computeCapability = [] ∨ properties.totalGlobalMem = 0 ∨
      offloadedLayers = 0 ∨ offloadedLayers ≠ totalLayers then none
  else some (printNvidiaMetadata deviceName properties.totalGlobalMem nvidiaDriver cudaDriver
    cudaRuntime cudaToolkit computeCapability offloadedLayers totalLayers)

/-! ## Strings -/

/-- A value that is encoded is short and has no control bytes of ASCII. -/
theorem jsonString_ne_nil {value : Bytes} (h : jsonString value ≠ []) :
    value ≠ [] ∧ value.length ≤ 256 ∧ (∀ b ∈ value, 0x20 ≤ b.toNat ∧ b.toNat ≠ 0x7f) ∧
      jsonString value = 34 :: (value.flatMap escapeByte ++ [34]) := by
  unfold jsonString at h ⊢
  split at h
  · exact absurd rfl h
  · rename_i hbounds
    rw [not_or, not_lt] at hbounds
    split at h
    · exact absurd rfl h
    · rename_i hcontrols
      rw [if_neg (by simpa using hbounds), if_neg hcontrols]
      refine ⟨hbounds.1, hbounds.2, ?_, rfl⟩
      intro b hb
      have hplain := List.any_eq_false.mp (Bool.not_eq_true _ ▸ hcontrols) b hb
      simp only [Bool.or_eq_true, decide_eq_true_eq, not_or, UInt8.lt_iff_toNat_lt, not_lt,
        ← UInt8.toNat_inj] at hplain
      exact hplain

/-- The encoding of a character is escaped byte by byte as the character is. -/
theorem flatMap_escapeByte {c : Char} (h : 0x20 ≤ c.toNat) :
    (String.utf8EncodeChar c).flatMap escapeByte =
      (Json.escapeChar c).flatMap String.utf8EncodeChar := by
  by_cases hquote : c = '\x22'
  · subst hquote
    decide
  by_cases hbackslash : c = '\x5c'
  · subst hbackslash
    decide
  have hescape : Json.escapeChar c = [c] := by
    have hne : ∀ d : Char, d.toNat < 0x20 → c ≠ d := by
      rintro d hd rfl
      omega
    simp only [Json.escapeChar, if_neg hquote, if_neg hbackslash, if_neg (hne '\x08' (by decide)),
      if_neg (hne '\t' (by decide)), if_neg (hne '\n' (by decide)),
      if_neg (hne '\x0c' (by decide)), if_neg (hne '\r' (by decide)), if_neg (not_lt.mpr h)]
  have hplain : ∀ b ∈ String.utf8EncodeChar c, escapeByte b = [b] := by
    intro b hb
    unfold escapeByte
    rw [if_neg]
    -- either byte would be the character itself
    rintro (rfl | rfl)
    · exact hquote (Char.toNat_inj.mp ((ofNat_mem_utf8EncodeChar (by decide)).mp hb))
    · exact hbackslash (Char.toNat_inj.mp ((ofNat_mem_utf8EncodeChar (by decide)).mp hb))
  rw [hescape, List.flatMap_cons, List.flatMap_nil, List.append_nil]
  calc (String.utf8EncodeChar c).flatMap escapeByte
      = (String.utf8EncodeChar c).flatMap fun b => [b] := List.flatMap_congr hplain
    _ = String.utf8EncodeChar c := List.flatMap_singleton' _

/-- The helper encodes a text as the serializer does. -/
theorem jsonString_utf8 {text : String} (h : jsonString (utf8 text) ≠ []) :
    jsonString (utf8 text) = utf8 (Json.quote text) := by
  obtain ⟨-, -, hplain, heq⟩ := jsonString_ne_nil h
  have hchars : ∀ c ∈ text.toList, 0x20 ≤ c.toNat := by
    intro c hc
    by_contra hcontrol
    have hmem : UInt8.ofNat c.toNat ∈ utf8 text := by
      rw [utf8_eq_flatMap, List.mem_flatMap]
      exact ⟨c, hc, (ofNat_mem_utf8EncodeChar (by omega)).mpr rfl⟩
    have hbyte := (hplain _ hmem).1
    rw [UInt8.toNat_ofNat_of_lt' (show c.toNat < 2 ^ 8 by omega)] at hbyte
    omega
  have hquote : utf8 "\x22" = [34] := by decide
  rw [heq, Json.quote, utf8_append, utf8_append, hquote, utf8_ofList, List.flatMap_assoc,
    utf8_eq_flatMap, List.flatMap_assoc, List.singleton_append, List.cons_append]
  congr 2
  exact List.flatMap_congr fun c hc => flatMap_escapeByte (hchars c hc)

/-! ## The printed line -/

section

variable {properties : CudaDeviceProp} {driverVersion runtimeVersion toolkitVersion : Int}
  {nvidiaDriverVersion : Bytes} {offloadedLayers totalLayers : UInt32}

/-- The facts as the parent's record holds them. -/
def reportedGpu (properties : CudaDeviceProp) (driverVersion runtimeVersion toolkitVersion : Int)
    (offloadedLayers totalLayers : UInt32) (deviceName nvidiaDriver : String) :
    NvidiaGpuProvenance where
  vendor := "NVIDIA"
  deviceName := deviceName
  logicalDeviceIndex := 0
  totalVramBytes := properties.totalGlobalMem
  nvidiaDriverVersion := nvidiaDriver
  cudaDriverVersion := cudaVersion driverVersion
  cudaRuntimeVersion := cudaVersion runtimeVersion
  cudaToolkitVersion := cudaVersion toolkitVersion
  computeCapability := capabilityText properties
  offload := ⟨"singleDeviceAllLayers", offloadedLayers, totalLayers⟩

/-- The printed line is the JSON of the facts. -/
theorem printNvidiaMetadata_eq (gpu : NvidiaGpuProvenance) (hvendor : gpu.vendor = "NVIDIA")
    (hindex : gpu.logicalDeviceIndex = 0) (hpolicy : gpu.offload.policy = "singleDeviceAllLayers") :
    printNvidiaMetadata (utf8 (Json.quote gpu.deviceName)) gpu.totalVramBytes
        (utf8 (Json.quote gpu.nvidiaDriverVersion)) (utf8 (Json.quote gpu.cudaDriverVersion))
        (utf8 (Json.quote gpu.cudaRuntimeVersion)) (utf8 (Json.quote gpu.cudaToolkitVersion))
        (utf8 (Json.quote gpu.computeCapability)) gpu.offload.offloadedLayers
        gpu.offload.totalLayers =
      toVec (nvidiaMetadataJson nvidiaMetadataFormat gpu) ++ utf8 "\n" := by
  have hnumber : ∀ n : Nat, (Json.nat n).compact = n.repr := fun _ => by
    rw [Json.nat, Json.compact]
  -- the pieces of the format, one for each conversion in it
  have hformat : "\x7b\"format\":\"" ++ nvidiaMetadataFormat ++
      "\",\"nvidia\":\x7b\"vendor\":\"NVIDIA\",\"deviceName\":" =
      "\x7b" ++ (Json.quote "format" ++ (":" ++ (Json.quote nvidiaMetadataFormat ++ ("," ++
        (Json.quote "nvidia" ++ (":" ++ ("\x7b" ++ (Json.quote "vendor" ++ (":" ++
          (Json.quote "NVIDIA" ++ ("," ++ (Json.quote "deviceName" ++ ":")))))))))))) := rfl
  have hvram : ",\"logicalDeviceIndex\":0,\"totalVramBytes\":" =
      "," ++ (Json.quote "logicalDeviceIndex" ++ (":" ++ ((Json.u32 0).compact ++ ("," ++
        (Json.quote "totalVramBytes" ++ ":"))))) := rfl
  have hdriver : ",\"nvidiaDriverVersion\":" =
      "," ++ (Json.quote "nvidiaDriverVersion" ++ ":") := rfl
  have hcuda : ",\"cudaDriverVersion\":" = "," ++ (Json.quote "cudaDriverVersion" ++ ":") := rfl
  have hruntime : ",\"cudaRuntimeVersion\":" =
      "," ++ (Json.quote "cudaRuntimeVersion" ++ ":") := rfl
  have htoolkit : ",\"cudaToolkitVersion\":" =
      "," ++ (Json.quote "cudaToolkitVersion" ++ ":") := rfl
  have hcapability : ",\"computeCapability\":" =
      "," ++ (Json.quote "computeCapability" ++ ":") := rfl
  have hoffload : ",\"offload\":\x7b\"policy\":\"singleDeviceAllLayers\",\"offloadedLayers\":" =
      "," ++ (Json.quote "offload" ++ (":" ++ ("\x7b" ++ (Json.quote "policy" ++ (":" ++
        (Json.quote "singleDeviceAllLayers" ++ ("," ++ (Json.quote "offloadedLayers" ++
          ":")))))))) := rfl
  have htotal : ",\"totalLayers\":" = "," ++ (Json.quote "totalLayers" ++ ":") := rfl
  have hend : "\x7d\x7d\x7d\n" = "\x7d" ++ ("\x7d" ++ ("\x7d" ++ "\n")) := rfl
  unfold printNvidiaMetadata toVec
  rw [hformat, hvram, hdriver, hcuda, hruntime, htoolkit, hcapability, hoffload, htotal, hend]
  simp only [← utf8_append]
  simp only [nvidiaMetadataJson, NvidiaGpuProvenance.toJson, NvidiaOffloadProvenance.toJson,
    Json.record, JsonFields.ofList, Json.compact, JsonFields.compact, JsonFields.isNil, hvendor,
    hindex, hpolicy, Json.u32, Json.u64, hnumber, if_true, if_false, Bool.false_eq_true,
    String.append_assoc, String.empty_append]

/-! ## Texts of digits and dots -/

theorem isDigit_of_mem_repr {n : Nat} {c : Char} (h : c ∈ n.repr.toList) : c.isDigit = true := by
  rw [Nat.toList_repr] at h
  exact Nat.isDigit_of_mem_toDigits (by decide) (by decide) h

theorem repr_ne_empty (n : Nat) : n.repr ≠ "" := by
  intro hempty
  have hlist := congrArg String.toList hempty
  rw [Nat.toList_repr] at hlist
  exact Nat.toDigits_ne_nil hlist

/-- Two numbers with a dot between them. -/
theorem isDotted_repr (major minor : Nat) : IsDotted (major.repr ++ "." ++ minor.repr) := by
  intro c hc
  simp only [String.toList_append, List.mem_append] at hc
  rcases hc with (hc | hc) | hc
  · exact Or.inl (isDigit_of_mem_repr hc)
  · exact Or.inr (by simpa using hc)
  · exact Or.inl (isDigit_of_mem_repr hc)

/-- The version of CUDA, once it is printed, is made of digits and a dot. -/
theorem isDotted_cudaVersion (version : Int) : IsDotted (cudaVersion version) := by
  unfold cudaVersion
  split
  · intro c hc
    simp at hc
  · rename_i hpositive
    obtain ⟨n, rfl⟩ : ∃ n : Nat, version = n := ⟨version.toNat, by omega⟩
    exact isDotted_repr (n / 1000) (n % 1000 / 10)

theorem isComputeCapability_capabilityText (hmajor : 0 ≤ properties.major)
    (hminor : 0 ≤ properties.minor) :
    isComputeCapability (capabilityText properties) = true := by
  obtain ⟨major, hmajorNat⟩ : ∃ n : Nat, properties.major = n :=
    ⟨properties.major.toNat, by omega⟩
  obtain ⟨minor, hminorNat⟩ : ∃ n : Nat, properties.minor = n :=
    ⟨properties.minor.toNat, by omega⟩
  have htext : capabilityText properties = major.repr ++ "." ++ minor.repr := by
    rw [capabilityText, hmajorNat, hminorNat]
    rfl
  have hdot : '.' ∉ major.repr.toList := fun hmem =>
    absurd (isDigit_of_mem_repr hmem) (by decide)
  have hcut : splitOnceAt '.' (major.repr ++ "." ++ minor.repr) =
      some (major.repr, minor.repr) := by
    have hsplit := splitOnce_append [] hdot minor.repr.toList
    rw [splitOnceAt, String.toList_append, String.toList_append]
    have hsingle : ".".toList = ['.'] := by decide
    rw [hsingle, hsplit, Option.map_some, String.ofList_toList, String.ofList_toList]
  unfold isComputeCapability
  rw [htext, hcut]
  simp only [Bool.and_eq_true, decide_eq_true_eq, List.all_eq_true]
  exact ⟨⟨⟨repr_ne_empty major, repr_ne_empty minor⟩, fun c hc => isDigit_of_mem_repr hc⟩,
    fun c hc => isDigit_of_mem_repr hc⟩

/-- A supported version is made of digits and dots. -/
theorem isDotted_of_supported {text : String} (h : SupportedVersion text) : IsDotted text := by
  obtain ⟨major, minor, patch, hwrites, -⟩ := h
  intro c hc
  generalize text.toList = chars at hwrites hc
  cases hwrites with
  | two hmajor hminor =>
      simp only [List.mem_append, List.mem_cons] at hc
      rcases hc with hc | rfl | hc
      · exact Or.inl (hmajor.isDigit c hc)
      · exact Or.inr rfl
      · exact Or.inl (hminor.isDigit c hc)
  | three hmajor hminor hpatch =>
      simp only [List.mem_append, List.mem_cons] at hc
      rcases hc with hc | rfl | hc | rfl | hc
      · exact Or.inl (hmajor.isDigit c hc)
      · exact Or.inr rfl
      · exact Or.inl (hminor.isDigit c hc)
      · exact Or.inr rfl
      · exact Or.inl (hpatch.isDigit c hc)

/-! ## Acceptance -/

/-- A name that the parent takes: UTF-8, trimmed and without controls. -/
def IsCleanName (name : Bytes) : Prop :=
  ∃ text, utf8 text = name ∧ trim text = text ∧ ∀ c ∈ text.toList, isControl c = false

/-- A value that is printed has at most 256 bytes and is not empty. -/
theorem isBoundedText_of_jsonString {text : String} (hprinted : jsonString (utf8 text) ≠ [])
    (hdotted : IsDotted text) : LlamaCpp.isBoundedText text = true := by
  obtain ⟨hne, hlength, -, -⟩ := jsonString_ne_nil hprinted
  refine isBoundedText_of_isDotted hdotted ?_ hlength
  rintro rfl
  exact hne rfl

/-- A printed line is accepted with the facts in it exactly when the device has a
clean name. -/
theorem emitNvidiaMetadata_accepted_iff {codec : Codec} {line : Bytes}
    (hreads : ∀ deviceName nvidiaDriver, utf8 deviceName = properties.name →
      utf8 nvidiaDriver = nvidiaDriverVersion →
      codec.nvidiaMetadata (toVec (nvidiaMetadataJson nvidiaMetadataFormat
        (reportedGpu properties driverVersion runtimeVersion toolkitVersion offloadedLayers
          totalLayers deviceName nvidiaDriver))) =
        .ok (nvidiaMetadataFormat, reportedGpu properties driverVersion runtimeVersion
          toolkitVersion offloadedLayers totalLayers deviceName nvidiaDriver))
    (hmajor : 0 ≤ properties.major) (hminor : 0 ≤ properties.minor)
    (hgate : nvidiaDriverVersionSupported nvidiaDriverVersion = true)
    (hprinted : emitNvidiaMetadata properties driverVersion runtimeVersion toolkitVersion
      nvidiaDriverVersion offloadedLayers totalLayers = some (line ++ utf8 "\n")) :
    (∃ deviceName nvidiaDriver, utf8 deviceName = properties.name ∧
        utf8 nvidiaDriver = nvidiaDriverVersion ∧
        LlamaCpp.parseNvidiaMetadata codec line = .ok (reportedGpu properties driverVersion
          runtimeVersion toolkitVersion offloadedLayers totalLayers deviceName nvidiaDriver)) ↔
      IsCleanName properties.name := by
  constructor
  · rintro ⟨deviceName, nvidiaDriver, hname, -, haccepted⟩
    obtain ⟨format, -, hgpu⟩ := parseNvidiaMetadata_eq_ok.mp haccepted
    have hbounded : LlamaCpp.isBoundedText deviceName = true := hgpu.deviceName
    simp only [LlamaCpp.isBoundedText, Bool.and_eq_true, decide_eq_true_eq,
      Bool.not_eq_true'] at hbounded
    exact ⟨deviceName, hname, hbounded.1.1.2, fun c hc => by
      simpa using List.any_eq_false.mp hbounded.2 c hc⟩
  · rintro ⟨deviceName, hname, htrim, hcontrol⟩
    obtain ⟨nvidiaDriver, hdriver, hsupported⟩ := nvidiaDriverVersionSupported_iff.mp hgate
    refine ⟨deviceName, nvidiaDriver, hname, hdriver, ?_⟩
    have hdecoded := hreads deviceName nvidiaDriver hname hdriver
    unfold emitNvidiaMetadata at hprinted
    rw [← hname, ← hdriver] at hprinted
    simp only at hprinted
    -- what has been printed has passed every check of the helper
    split at hprinted
    · contradiction
    rename_i hguard
    simp only [not_or] at hguard
    obtain ⟨hnamePrinted, hdriverPrinted, hcudaPrinted, hruntimePrinted, htoolkitPrinted,
      hcapabilityPrinted, hvram, hlayers, hoffloaded⟩ := hguard
    have hprint := printNvidiaMetadata_eq (reportedGpu properties driverVersion runtimeVersion
      toolkitVersion offloadedLayers totalLayers deviceName nvidiaDriver) rfl rfl rfl
    have hline := Option.some.inj hprinted
    rw [jsonString_utf8 hnamePrinted, jsonString_utf8 hdriverPrinted, jsonString_utf8 hcudaPrinted,
      jsonString_utf8 hruntimePrinted, jsonString_utf8 htoolkitPrinted,
      jsonString_utf8 hcapabilityPrinted] at hline
    rw [← List.append_cancel_right (hprint.symm.trans hline)]
    refine parseNvidiaMetadata_eq_ok.mpr ⟨nvidiaMetadataFormat, hdecoded, ?_⟩
    obtain ⟨hnameNe, hnameLength, -, -⟩ := jsonString_ne_nil hnamePrinted
    -- the name is the one text that the helper checks less than the parent
    have hboundedName : LlamaCpp.isBoundedText deviceName = true := by
      simp only [LlamaCpp.isBoundedText, Bool.and_eq_true, decide_eq_true_eq, Bool.not_eq_true']
      refine ⟨⟨⟨?_, htrim⟩, hnameLength⟩, ?_⟩
      · rintro rfl
        exact hnameNe rfl
      · rw [List.any_eq_false]
        intro c hc
        simp [hcontrol c hc]
    have hparent : Benchplane.nvidiaDriverVersionSupported nvidiaDriver = true := by
      rw [Benchplane.nvidiaDriverVersionSupported_iff,
        withoutSigns_of_unsigned (hasSign_of_supported hsupported)]
      exact hsupported
    exact
      { format := rfl
        vendor := rfl
        deviceName := hboundedName
        index := rfl
        vram := hvram
        nvidiaDriver := isBoundedText_of_jsonString hdriverPrinted (isDotted_of_supported hsupported)
        supported := hparent
        cudaDriver := isBoundedText_of_jsonString hcudaPrinted (isDotted_cudaVersion _)
        cudaRuntime := isBoundedText_of_jsonString hruntimePrinted (isDotted_cudaVersion _)
        cudaToolkit := isBoundedText_of_jsonString htoolkitPrinted (isDotted_cudaVersion _)
        capability := isComputeCapability_capabilityText hmajor hminor
        policy := rfl
        layers := fun hzero => hlayers (not_not.mp hoffloaded ▸ hzero)
        offloaded := not_not.mp hoffloaded }

end

/-! A device with a given name. -/
namespace SampleDevice

def properties (name : String) : CudaDeviceProp := ⟨utf8 name, 7, 5, 1⟩

def gpu (name : String) : NvidiaGpuProvenance :=
  reportedGpu (properties name) 12090 12090 12090 1 1 name "575.57.8"

def line (name : String) : Bytes := toVec (nvidiaMetadataJson nvidiaMetadataFormat (gpu name))

def codec (name : String) : Codec := { Codec.refusing with
  nvidiaMetadata := decodeKnown (line name) (nvidiaMetadataFormat, gpu name) }

theorem decoded (name : String) :
    (codec name).nvidiaMetadata (line name) = .ok (nvidiaMetadataFormat, gpu name) := by
  simp only [codec, decodeKnown_self]

theorem printed {name : String} (h : jsonString (utf8 name) ≠ []) :
    emitNvidiaMetadata (properties name) 12090 12090 12090 (utf8 "575.57.8") 1 1 =
      some (line name ++ utf8 "\n") := by
  have hdriver : jsonString (utf8 "575.57.8") ≠ [] := by decide
  have hcuda : jsonString (utf8 (cudaVersion 12090)) ≠ [] := by decide
  have hcapability : jsonString (utf8 (capabilityText (properties name))) ≠ [] :=
    show jsonString (utf8 ((7 : Int).repr ++ "." ++ (5 : Int).repr)) ≠ [] by decide
  have hprint := printNvidiaMetadata_eq (gpu name) rfl rfl rfl
  have hname : (properties name).name = utf8 name := rfl
  have hvram : ¬ (properties name).totalGlobalMem = 0 := show ¬ (1 : UInt64) = 0 by decide
  unfold emitNvidiaMetadata
  rw [hname]
  simp only [h, hdriver, hcuda, hcapability, hvram, ne_eq, not_true_eq_false, or_false,
    if_false, show ¬ (1 : UInt32) = 0 by decide]
  rw [jsonString_utf8 h, jsonString_utf8 hdriver, jsonString_utf8 hcuda,
    jsonString_utf8 hcapability]
  exact congrArg some hprint

end SampleDevice

theorem emitNvidiaMetadata_accepted_iff_sample :
    (∃ deviceName nvidiaDriver, utf8 deviceName = utf8 "T4" ∧
        utf8 nvidiaDriver = utf8 "575.57.8" ∧
        LlamaCpp.parseNvidiaMetadata (SampleDevice.codec "T4") (SampleDevice.line "T4") =
          .ok (reportedGpu (SampleDevice.properties "T4") 12090 12090 12090 1 1 deviceName
            nvidiaDriver)) ↔
      IsCleanName (utf8 "T4") := by
  refine @emitNvidiaMetadata_accepted_iff (SampleDevice.properties "T4") 12090 12090 12090
    (utf8 "575.57.8") 1 1 (SampleDevice.codec "T4") (SampleDevice.line "T4") ?_ (by decide)
    (by decide) (by decide) (SampleDevice.printed (by decide))
  intro deviceName nvidiaDriver hname hdriver
  obtain rfl := utf8_injective hname
  obtain rfl := utf8_injective hdriver
  exact SampleDevice.decoded "T4"

/-- The line of a device whose name ends in a space is printed and not accepted. -/
theorem emitNvidiaMetadata_not_accepted :
    ¬ ∀ line, emitNvidiaMetadata (SampleDevice.properties "T4 ") 12090 12090 12090
        (utf8 "575.57.8") 1 1 = some (line ++ utf8 "\n") →
      ∃ deviceName nvidiaDriver, utf8 deviceName = utf8 "T4 " ∧
        utf8 nvidiaDriver = utf8 "575.57.8" ∧
        LlamaCpp.parseNvidiaMetadata (SampleDevice.codec "T4 ") line =
          .ok (reportedGpu (SampleDevice.properties "T4 ") 12090 12090 12090 1 1 deviceName
            nvidiaDriver) := by
  intro hclaim
  obtain ⟨deviceName, nvidiaDriver, hname, -, haccepted⟩ :=
    hclaim (SampleDevice.line "T4 ") (SampleDevice.printed (by decide))
  obtain rfl := utf8_injective hname
  obtain ⟨format, -, hgpu⟩ := parseNvidiaMetadata_eq_ok.mp haccepted
  have hbounded : LlamaCpp.isBoundedText "T4 " = true := hgpu.deviceName
  exact absurd hbounded (by decide)

end LlamaCppHelper

end Benchplane
