import Benchplane.Library.UnixPath
import Benchplane.Schema.Evidence

/-!
# Provenance of an attempt

What a run records about its host and its software.  The host is data: the
contents of the files that are read, none for a file that cannot be, the path of
the executable and the values compiled into the program.
-/

namespace Benchplane

open Library

def maxOsReleaseBytes : Nat := 16 * 1024
def maxCpuinfoScanBytes : Nat := 256 * 1024
def maxKernelFileBytes : Nat := 4 * 1024
def maxPlatformValueBytes : Nat := 256
def maxNixStorePathBytes : Nat := 512

/-! ## NVIDIA drivers -/

/-- `str::parse::<u32>`: digits, behind a plus sign or not. -/
def parseU32 (text : String) : Option Nat :=
  let digits := match text.toList with
    | '+' :: rest => rest
    | chars => chars
  if digits ≠ [] ∧ digits.all Char.isDigit then
    let value := digits.foldl (fun value c => value * 10 + (c.toNat - 48)) 0
    if value < 2 ^ 32 then some value else none
  else none

/-- The least supported driver, compared as a triple. -/
def atLeastMinimumDriver (major minor patch : Nat) : Bool :=
  575 < major || (major = 575 && (57 < minor || (minor = 57 && 8 ≤ patch)))

/-- `nvidia_driver_version_supported`. -/
def nvidiaDriverVersionSupported (value : String) : Bool :=
  match (splitAt '.' value).map parseU32 with
  | [some major, some minor] => atLeastMinimumDriver major minor 0
  | [some major, some minor, some patch] => atLeastMinimumDriver major minor patch
  | _ => false

/-! ## The host -/

structure Host where
  osRelease : Option Bytes
  kernelType : Option Bytes
  kernelRelease : Option Bytes
  cpuinfo : Option Bytes
  availableParallelism : Option Nat
  executable : Option Bytes
  operatingSystem : String
  architecture : String
  packageVersion : String
  llamaCppNixStorePath : Option String
  llamaCppCudaNixStorePath : Option String
  smollm2NixStorePath : Option String

/-- A host that shows nothing of itself. -/
def Host.sample : Host where
  osRelease := none
  kernelType := none
  kernelRelease := none
  cpuinfo := none
  availableParallelism := none
  executable := none
  operatingSystem := "linux"
  architecture := "x86_64"
  packageVersion := "0.1.0"
  llamaCppNixStorePath := none
  llamaCppCudaNixStorePath := none
  smollm2NixStorePath := none

/-- `bounded_value`. -/
def boundedValue (value : String) : Option String :=
  let value := trim value
  if value = "" ∨ (utf8 value).length > maxPlatformValueBytes ∨ value.toList.any isControl then none
  else some value

/-- `read_bounded`. -/
def readBounded (file : Option Bytes) (limit : Nat) : Option String := do
  let content ← file
  if content.length > limit then none else decodeUtf8 content

/-- `read_single_value`. -/
def readSingleValue (file : Option Bytes) (limit : Nat) : Option String :=
  (readBounded file limit).bind boundedValue

/-- A value without the quotes around it. -/
def unquoted (value : String) : String :=
  let chars := value.toList
  let quotedBy (c : Char) : Bool :=
    2 ≤ chars.length && chars.head? = some c && chars.getLast? = some c
  if quotedBy '\x22' || quotedBy '\x27' then String.ofList chars.tail.dropLast else value

/-- `release_value`. -/
def releaseValue (contents key : String) : Option String :=
  (lines contents).findSome? fun line =>
    match splitOnceAt '=' line with
    | none => none
    | some (candidate, value) =>
        if candidate ≠ key then none else boundedValue (unquoted (trim value))

/-- `os_release_identity`. -/
def osReleaseIdentity (contents : String) : Option String × Option String :=
  (releaseValue contents "ID", releaseValue contents "VERSION_ID")

/-- The loop of `cpu_model_from_reader`. -/
def scanCpuinfo : Nat → List Bytes → Option String
  | _, [] => none
  | scannedBytes, line :: rest =>
      let scannedBytes := scannedBytes + line.length
      if scannedBytes > maxCpuinfoScanBytes then none
      else
        match (decodeUtf8 line).bind (splitOnceAt ':') with
        | none => scanCpuinfo scannedBytes rest
        | some (key, value) =>
            if trim key ∈ ["model name", "Processor", "Hardware"] then boundedValue value
            else scanCpuinfo scannedBytes rest

/-- `read_cpu_model`. -/
def readCpuModel (file : Option Bytes) : Option String :=
  file.bind fun content => scanCpuinfo 0 (splitInclusive 10 (content.take (maxCpuinfoScanBytes + 1)))

/-- `nix_store_object` on a path that is text. -/
def nixStoreObject (path : String) : Option String :=
  (stripPrefix "/nix/store/" path).bind fun rest =>
    let entry := (splitAt '/' rest).headD ""
    if entry = "" ∨ (utf8 entry).length + 11 > maxNixStorePathBytes ∨
        entry.toList.any isControl then none
    else some ("/nix/store/" ++ entry)

/-- `compiled_nix_store_path`. -/
def compiledNixStorePath (value : Option String) : Option String := value.bind nixStoreObject

/-- `current_executable_nix_store_path`. -/
def currentExecutableNixStorePath (host : Host) : Option String :=
  (host.executable.bind decodeUtf8).bind nixStoreObject

/-! ## The record -/

/-- The store path of the llama.cpp package of a target. -/
def Host.enginePath (host : Host) : LlamaCppTarget → Option String
  | .cpu => compiledNixStorePath host.llamaCppNixStorePath
  | .nvidiaCuda => compiledNixStorePath host.llamaCppCudaNixStorePath

/-- The runtime's identity; none for a runtime that is rejected before, where the
source has an `unreachable!`. -/
def captureRuntime (host : Host) : RuntimeSpec → Option RuntimeProvenance
  | .localFake _ _ => some (.localFake Schema.localFakeGeneratorVersion)
  | .cpuProbe _ _ => some (.cpuProbe Schema.cpuProbeGeneratorVersion)
  | .llamaCpp target model _ => some (.llamaCpp Schema.llamaCppGeneratorVersion
      { name := Schema.llamaCppEngineName
        version := Schema.llamaCppEngineVersion
        nixStorePath := host.enginePath target }
      { identity := model
        sha256 := Schema.llamaCppModelSha256
        nixStorePath := compiledNixStorePath host.smollm2NixStorePath }
      { identity := match target with
          | .cpu => Schema.llamaCppBackendIdentity
          | .nvidiaCuda => Schema.llamaCppCudaBackendIdentity
        deviceClass := match target with
          | .cpu => .cpu
          | .nvidiaCuda => .nvidiaCuda
        nixStorePath := host.enginePath target
        nvidia := none })
  | .vllm _ _ _ => none

/-- What is captured about the platform. -/
def capturePlatform (host : Host) : PlatformProvenance :=
  let (distribution, version) :=
    ((readBounded host.osRelease maxOsReleaseBytes).map osReleaseIdentity).getD (none, none)
  { operatingSystem := ⟨host.operatingSystem, distribution, version⟩
    kernel :=
      { name := (readSingleValue host.kernelType maxKernelFileBytes).getD host.operatingSystem
        release := readSingleValue host.kernelRelease maxKernelFileBytes }
    architecture := host.architecture
    cpu :=
      { model := readCpuModel host.cpuinfo
        logicalCpuCount := host.availableParallelism.bind fun count =>
          if count < 2 ^ 32 then some (UInt32.ofNat count) else none } }

/-- `capture`. -/
def capture (host : Host) (runId : String) (plan : ResolvedExperiment) :
    Option AttemptProvenance :=
  (captureRuntime host plan.experiment.spec.runtime).map fun runtime =>
    { format := Schema.attemptProvenanceFormatV1
      runId := runId
      attemptNumber := 1
      platform := capturePlatform host
      software :=
        { benchplane :=
            { name := Schema.benchplaneSoftwareName
              version := host.packageVersion
              nixStorePath := currentExecutableNixStorePath host }
          runtime := runtime } }

/-- `attach_nvidia`. -/
def attachNvidia (provenance : AttemptProvenance) (nvidia : NvidiaGpuProvenance) :
    Except String AttemptProvenance :=
  let mismatch := "NVIDIA execution provenance does not match the prepared runtime"
  match provenance.software.runtime with
  | .llamaCpp generator engine model backend =>
      if backend.deviceClass = .nvidiaCuda ∧ backend.nvidia = none then
        .ok { provenance with software := { provenance.software with
          runtime := .llamaCpp generator engine model { backend with nvidia := some nvidia } } }
      else .error mismatch
  | .localFake _ | .cpuProbe _ => .error mismatch

/-- A run that is not rejected captures its provenance. -/
theorem capture_isSome {host : Host} {runId : String} {plan : ResolvedExperiment}
    (h : ∀ model revision arguments,
      plan.experiment.spec.runtime ≠ .vllm model revision arguments) :
    (capture host runId plan).isSome = true := by
  unfold capture
  cases hruntime : plan.experiment.spec.runtime with
  | localFake seed scenario => rfl
  | cpuProbe outputTokens workUnitsPerToken => rfl
  | llamaCpp target model outputTokens => rfl
  | vllm model revision arguments => exact absurd hruntime (h model revision arguments)

end Benchplane
