import Benchplane.Run.ExecutionKind
import Benchplane.Runtime.NvidiaMetadata
import Mathlib.Data.Bool.AllAny

/-!
# Captured provenance

What `capture` records about a host against what the verifier asks of it.  The facts
from files are cut to the verifier's measure.  The path of the executable is not: it
is recorded whenever it lies in the Nix store, while the verifier asks for the name
of a store object.
-/

namespace Benchplane

open Library

/-! ## Facts from files -/

/-- A captured value passes the verifier. -/
theorem isBoundedText_of_boundedValue {value clean : String}
    (h : boundedValue value = some clean) : LlamaCpp.isBoundedText clean = true := by
  unfold boundedValue at h
  simp only at h
  split at h
  · contradiction
  · rename_i hgood
    obtain rfl := Option.some.inj h
    rw [not_or, not_or, not_lt] at hgood
    obtain ⟨hne, hlength, hcontrol⟩ := hgood
    simp only [LlamaCpp.isBoundedText, Bool.and_eq_true, decide_eq_true_eq, Bool.not_eq_true']
    exact ⟨⟨⟨hne, trim_trim value⟩, hlength⟩, Bool.not_eq_true _ ▸ hcontrol⟩

theorem isBoundedText_of_readSingleValue {file : Option Bytes} {limit : Nat} {value : String}
    (h : readSingleValue file limit = some value) : LlamaCpp.isBoundedText value = true := by
  obtain ⟨content, -, hvalue⟩ := Option.bind_eq_some_iff.mp h
  exact isBoundedText_of_boundedValue hvalue

theorem isBoundedText_of_releaseValue {contents key value : String}
    (h : releaseValue contents key = some value) : LlamaCpp.isBoundedText value = true := by
  obtain ⟨line, -, hline⟩ := List.exists_of_findSome?_eq_some h
  split at hline
  · contradiction
  · split at hline
    · contradiction
    · exact isBoundedText_of_boundedValue hline

/-- The scan returns a bounded value of the line it stops at. -/
theorem isBoundedText_of_scanCpuinfo {scannedBytes : Nat} {lines : List Bytes} {value : String}
    (h : scanCpuinfo scannedBytes lines = some value) : LlamaCpp.isBoundedText value = true := by
  induction lines generalizing scannedBytes with
  | nil => contradiction
  | cons line rest ih =>
      unfold scanCpuinfo at h
      simp only at h
      split at h
      · contradiction
      · split at h
        · exact ih h
        · split at h
          · exact isBoundedText_of_boundedValue h
          · exact ih h

theorem isBoundedText_of_readCpuModel {file : Option Bytes} {value : String}
    (h : readCpuModel file = some value) : LlamaCpp.isBoundedText value = true := by
  obtain ⟨content, -, hscan⟩ := Option.bind_eq_some_iff.mp h
  exact isBoundedText_of_scanCpuinfo hscan

/-- The constants of the build, and a count of processors, which is not zero. -/
structure Host.IsBuilt (host : Host) : Prop where
  operatingSystem : LlamaCpp.isBoundedText host.operatingSystem = true
  architecture : LlamaCpp.isBoundedText host.architecture = true
  packageVersion : LlamaCpp.isBoundedText host.packageVersion = true
  parallelism : host.availableParallelism ≠ some 0

/-- Every text of a platform is one that the verifier takes. -/
structure PlatformProvenance.IsBounded (platform : PlatformProvenance) : Prop where
  family : LlamaCpp.isBoundedText platform.operatingSystem.family = true
  distribution : ∀ v ∈ platform.operatingSystem.distribution, LlamaCpp.isBoundedText v = true
  version : ∀ v ∈ platform.operatingSystem.version, LlamaCpp.isBoundedText v = true
  kernelName : LlamaCpp.isBoundedText platform.kernel.name = true
  kernelRelease : ∀ v ∈ platform.kernel.release, LlamaCpp.isBoundedText v = true
  architecture : LlamaCpp.isBoundedText platform.architecture = true
  cpuModel : ∀ v ∈ platform.cpu.model, LlamaCpp.isBoundedText v = true
  cpuCount : platform.cpu.logicalCpuCount ≠ some 0

theorem isBounded_capturePlatform {host : Host} (hhost : host.IsBuilt) :
    (capturePlatform host).IsBounded := by
  have hrelease : ∀ key, ∀ v ∈ (readBounded host.osRelease maxOsReleaseBytes).bind
      (releaseValue · key), LlamaCpp.isBoundedText v = true := by
    intro key v hv
    obtain ⟨contents, -, hvalue⟩ := Option.bind_eq_some_iff.mp hv
    exact isBoundedText_of_releaseValue hvalue
  have hdistribution : (capturePlatform host).operatingSystem.distribution =
      (readBounded host.osRelease maxOsReleaseBytes).bind (releaseValue · "ID") := by
    cases h : readBounded host.osRelease maxOsReleaseBytes <;>
      simp [capturePlatform, h, osReleaseIdentity]
  have hversion : (capturePlatform host).operatingSystem.version =
      (readBounded host.osRelease maxOsReleaseBytes).bind (releaseValue · "VERSION_ID") := by
    cases h : readBounded host.osRelease maxOsReleaseBytes <;>
      simp [capturePlatform, h, osReleaseIdentity]
  exact
    { family := hhost.operatingSystem
      distribution := hdistribution ▸ hrelease "ID"
      version := hversion ▸ hrelease "VERSION_ID"
      kernelName := by
        show LlamaCpp.isBoundedText
          ((readSingleValue host.kernelType maxKernelFileBytes).getD host.operatingSystem) = true
        cases hname : readSingleValue host.kernelType maxKernelFileBytes with
        | none => exact hhost.operatingSystem
        | some name => exact isBoundedText_of_readSingleValue hname
      kernelRelease := fun v hv => isBoundedText_of_readSingleValue hv
      architecture := hhost.architecture
      cpuModel := fun v hv => isBoundedText_of_readCpuModel hv
      cpuCount := by
        show host.availableParallelism.bind (fun count =>
          if count < 2 ^ 32 then some (UInt32.ofNat count) else none) ≠ some 0
        intro hzero
        obtain ⟨count, hcount, hconverted⟩ := Option.bind_eq_some_iff.mp hzero
        split at hconverted
        · rename_i hlt
          have hvalue := congrArg UInt32.toNat (Option.some.inj hconverted)
          rw [UInt32.toNat_ofNat_of_lt' hlt] at hvalue
          exact hhost.parallelism (hcount.trans (congrArg some hvalue))
        · contradiction }

/-! ## Store paths -/

/-- The name of a store object: a hash of 32 digits, a dash and a name. -/
def isObjectName (entry : String) : Bool :=
  match splitOnceAt '-' entry with
  | none => false
  | some (hash, name) =>
      (utf8 hash).length = 32 && hash.toList.all (· ∈ nixBase32.toList) && name ≠ "" &&
        name.toList.all fun c => c.isAlphanum || c ∈ "+-._?=".toList

/-- The path of a store object, within the verifier's bound. -/
def IsStorePath (path : String) : Prop :=
  ∃ entry, path = "/nix/store/" ++ entry ∧ isObjectName entry = true ∧
    (utf8 entry).length + 11 ≤ maxNixStorePathBytes

/-- The characters of an object's name are printable and no slashes. -/
theorem plain_of_isObjectName {entry : String} (h : isObjectName entry = true) :
    entry ≠ "" ∧ '/' ∉ entry.toList ∧ ∀ c ∈ entry.toList, isControl c = false := by
  unfold isObjectName splitOnceAt at h
  cases hcut : splitOnce ['-'] entry.toList with
  | none => simp [hcut] at h
  | some cut =>
      obtain ⟨hash, name⟩ := cut
      have hentry := append_of_splitOnce hcut
      simp only [hcut, Option.map_some, Bool.and_eq_true, decide_eq_true_eq, List.all_eq_true,
        String.toList_ofList] at h
      obtain ⟨⟨⟨-, hhash⟩, -⟩, hname⟩ := h
      have hplain : ∀ c ∈ entry.toList, c ≠ '/' ∧ isControl c = false := by
        -- Run over the list: the instance for all characters would run over every character.
        have hbase : ∀ c ∈ nixBase32.toList, c ≠ '/' ∧ isControl c = false :=
          List.all_iff_forall_prop.mp rfl
        have hmarks : ∀ c ∈ "+-._?=".toList, c ≠ '/' ∧ isControl c = false :=
          List.all_iff_forall_prop.mp rfl
        intro c hc
        rw [hentry] at hc
        simp only [List.mem_append, List.mem_singleton] at hc
        rcases hc with (hc | rfl) | hc
        · exact hbase c (hhash c hc)
        · decide
        · rcases Bool.or_eq_true _ _ ▸ hname c hc with halnum | hmark
          · have hrange : 48 ≤ c.toNat ∧ c.toNat ≤ 122 := by
              change (c.isUpper || c.isLower || c.isDigit) = true at halnum
              simp only [Bool.or_eq_true] at halnum
              rcases halnum with (hupper | hlower) | hdigit
              · have hbounds : 65 ≤ c.toNat ∧ c.toNat ≤ 90 :=
                  of_decide_eq_true hupper
                omega
              · have hbounds : 97 ≤ c.toNat ∧ c.toNat ≤ 122 :=
                  ((Bool.and_eq_true_iff).mp hlower).imp of_decide_eq_true of_decide_eq_true
                omega
              · have hbounds : 48 ≤ c.toNat ∧ c.toNat ≤ 57 :=
                  ((Bool.and_eq_true_iff).mp hdigit).imp of_decide_eq_true of_decide_eq_true
                omega
            constructor
            · rintro rfl
              exact absurd hrange (by decide)
            · simp only [isControl, Bool.or_eq_false_iff, Bool.and_eq_false_iff,
                decide_eq_false_iff_not]
              omega
          · exact hmarks c (by simpa using hmark)
      refine ⟨?_, fun hmem => (hplain '/' hmem).1 rfl, fun c hc => (hplain c hc).2⟩
      rintro rfl
      simp at hentry

theorem length_storePath (entry : String) :
    (utf8 ("/nix/store/" ++ entry)).length = (utf8 entry).length + 11 := by
  have hroot : (utf8 "/nix/store/").length = 11 := by decide
  rw [utf8_append, List.length_append, hroot, Nat.add_comm]

/-- The verifier takes the paths of store objects. -/
theorem optionalNixStorePath_eq_ok {entry field : String} :
    optionalNixStorePath (some ("/nix/store/" ++ entry)) field = .ok () ↔
      isObjectName entry = true ∧ (utf8 entry).length + 11 ≤ maxNixStorePathBytes := by
  have hconditions : optionalNixStorePath (some ("/nix/store/" ++ entry)) field = .ok () ↔
      ¬ ((utf8 ("/nix/store/" ++ entry)).length > maxNixStorePathBytes ∨ '/' ∈ entry.toList ∨
        (utf8 ((splitOnceAt '-' entry).getD ("", "")).1).length ≠ 32 ∨
        ¬ ((splitOnceAt '-' entry).getD ("", "")).1.toList.all (· ∈ nixBase32.toList) ∨
        ((splitOnceAt '-' entry).getD ("", "")).2 = "" ∨
        ¬ ((splitOnceAt '-' entry).getD ("", "")).2.toList.all fun c =>
          c.isAlphanum || c ∈ "+-._?=".toList) := by
    simp only [optionalNixStorePath, stripPrefix_append, bind_eq_ok_iff, orReject_eq_ok]
    constructor
    · rintro ⟨_, ⟨⟩, hrest⟩
      exact rejectIf_eq_ok.mp hrest
    · intro hrest
      exact ⟨entry, rfl, rejectIf_eq_ok.mpr hrest⟩
  rw [hconditions, length_storePath]
  constructor
  · intro h
    simp only [not_or, not_lt, ne_eq, Decidable.not_not] at h
    obtain ⟨hlength, -, hhash, hdigits, hname, hmarks⟩ := h
    refine ⟨?_, hlength⟩
    -- both predicates cut the name at its first dash
    unfold isObjectName
    cases hcut : splitOnceAt '-' entry with
    | none => simp [hcut] at hname
    | some cut =>
        simp only [hcut, Option.getD_some] at hhash hdigits hname hmarks
        simp only [Bool.and_eq_true, decide_eq_true_eq]
        exact ⟨⟨⟨hhash, hdigits⟩, hname⟩, hmarks⟩
  · rintro ⟨hobject, hlength⟩
    have hslash := (plain_of_isObjectName hobject).2.1
    unfold isObjectName at hobject
    cases hcut : splitOnceAt '-' entry with
    | none => simp [hcut] at hobject
    | some cut =>
        simp only [hcut, Bool.and_eq_true, decide_eq_true_eq] at hobject
        obtain ⟨⟨⟨hhash, hdigits⟩, hname⟩, hmarks⟩ := hobject
        simp only [not_or, not_lt, ne_eq, Decidable.not_not, Option.getD_some]
        exact ⟨hlength, hslash, hhash, hdigits, hname, hmarks⟩

/-- The path of a store object is recorded as it is. -/
theorem nixStoreObject_of_isStorePath {path : String} (h : IsStorePath path) :
    nixStoreObject path = some path := by
  obtain ⟨entry, rfl, hobject, hlength⟩ := h
  obtain ⟨hne, hslash, hcontrol⟩ := plain_of_isObjectName hobject
  have hfirst : (splitAt '/' entry).headD "" = entry := by
    rw [splitAt, List.splitOn_eq_singleton hslash]
    simp
  unfold nixStoreObject
  rw [stripPrefix_append, Option.bind_some]
  simp only [hfirst]
  rw [if_neg]
  rw [not_or, not_or, not_lt, Bool.not_eq_true, List.any_eq_false]
  exact ⟨hne, hlength, fun c hc => by simp [hcontrol c hc]⟩

/-- The store object that the executable lies in, if it lies in the store. -/
def Host.executableEntry (host : Host) : Option String :=
  ((host.executable.bind decodeUtf8).bind (stripPrefix "/nix/store/")).map fun rest =>
    (splitAt '/' rest).headD ""

theorem Host.executableEntry_of_store {host : Host} {rest : String}
    (h : host.executable = some (utf8 ("/nix/store/" ++ rest))) :
    host.executableEntry = some ((splitAt '/' rest).headD "") := by
  rw [Host.executableEntry, h, Option.bind_some, decodeUtf8_utf8, Option.bind_some,
    stripPrefix_append, Option.map_some]

/-- An executable in the store lies in an object with the name of one, unless the
name is not recorded at all. -/
def Host.HasGenuineExecutable (host : Host) : Prop :=
  ∀ entry, host.executableEntry = some entry → entry = "" ∨
    (utf8 entry).length + 11 > maxNixStorePathBytes ∨ entry.toList.any isControl = true ∨
    isObjectName entry = true

theorem executable_verified_iff {host : Host} {field : String} :
    optionalNixStorePath (currentExecutableNixStorePath host) field = .ok () ↔
      host.HasGenuineExecutable := by
  have hcurrent : currentExecutableNixStorePath host = host.executableEntry.bind fun entry =>
      if entry = "" ∨ (utf8 entry).length + 11 > maxNixStorePathBytes ∨
        entry.toList.any isControl then none else some ("/nix/store/" ++ entry) := by
    unfold currentExecutableNixStorePath Host.executableEntry nixStoreObject
    cases host.executable.bind decodeUtf8 with
    | none => rfl
    | some path =>
        rw [Option.bind_some, Option.bind_some]
        cases stripPrefix "/nix/store/" path <;> rfl
  rw [hcurrent]
  unfold Host.HasGenuineExecutable
  cases host.executableEntry with
  | none => simp [optionalNixStorePath]
  | some entry =>
      rw [Option.bind_some]
      -- an entry that `nix_store_object` drops is not recorded, and then nothing is verified
      split
      · rename_i hdropped
        have hok : optionalNixStorePath none field = .ok () := rfl
        simp only [hok, true_iff, Option.some.injEq, forall_eq']
        tauto
      · rename_i hkept
        rw [optionalNixStorePath_eq_ok]
        simp only [Option.some.injEq, forall_eq']
        rw [not_or, not_or, not_lt] at hkept
        obtain ⟨hne, hlength, hcontrol⟩ := hkept
        constructor
        · exact fun h => Or.inr (Or.inr (Or.inr h.1))
        · rintro (h | h | h | h)
          · exact absurd h hne
          · omega
          · exact absurd h hcontrol
          · exact ⟨h, hlength⟩

/-- The compiled store paths are all absent or all paths of store objects. -/
def Host.HasGenuineStorePaths (host : Host) : Prop :=
  (host.llamaCppNixStorePath = none ∧ host.llamaCppCudaNixStorePath = none ∧
    host.smollm2NixStorePath = none) ∨
  ∃ cpu cuda model, host.llamaCppNixStorePath = some cpu ∧
    host.llamaCppCudaNixStorePath = some cuda ∧ host.smollm2NixStorePath = some model ∧
    IsStorePath cpu ∧ IsStorePath cuda ∧ IsStorePath model

/-- An absent path or the path of a store object. -/
def IsLineagePath (path : Option String) : Prop := ∀ value ∈ path, IsStorePath value

theorem optionalNixStorePath_of_isLineagePath {path : Option String} {field : String}
    (h : IsLineagePath path) : optionalNixStorePath path field = .ok () := by
  cases path with
  | none => rfl
  | some value =>
      obtain ⟨entry, rfl, hobject, hlength⟩ := h value rfl
      exact optionalNixStorePath_eq_ok.mpr ⟨hobject, hlength⟩

/-- The recorded paths of a lineage, wholly present or absent. -/
theorem lineage_of_genuine {host : Host} (h : host.HasGenuineStorePaths)
    (target : LlamaCppTarget) :
    IsLineagePath (host.enginePath target) ∧
      IsLineagePath (compiledNixStorePath host.smollm2NixStorePath) ∧
      (host.enginePath target).isSome = (compiledNixStorePath host.smollm2NixStorePath).isSome := by
  -- a host is built with all store paths or with none
  rcases h with ⟨hcpu, hcuda, hmodel⟩ | ⟨cpu, cuda, model, hcpu, hcuda, hmodel, hcpuPath,
    hcudaPath, hmodelPath⟩
  · have hengine : host.enginePath target = none := by
      cases target
      · rw [Host.enginePath, hcpu]
        rfl
      · rw [Host.enginePath, hcuda]
        rfl
    rw [hengine, hmodel]
    exact ⟨by simp [IsLineagePath], by simp [IsLineagePath, compiledNixStorePath], rfl⟩
  · have hrecorded : ∀ {path : String}, IsStorePath path →
        compiledNixStorePath (some path) = some path := fun hpath =>
      nixStoreObject_of_isStorePath hpath
    obtain ⟨engine, hengine, henginePath⟩ : ∃ engine, host.enginePath target = some engine ∧
        IsStorePath engine := by
      cases target
      · exact ⟨cpu, by rw [Host.enginePath, hcpu, hrecorded hcpuPath], hcpuPath⟩
      · exact ⟨cuda, by rw [Host.enginePath, hcuda, hrecorded hcudaPath], hcudaPath⟩
    rw [hengine, hmodel, hrecorded hmodelPath]
    refine ⟨?_, ?_, rfl⟩
    · intro value hvalue
      obtain rfl := Option.some.inj hvalue
      exact henginePath
    · intro value hvalue
      obtain rfl := Option.some.inj hvalue
      exact hmodelPath

/-! ## The verifier -/

/-- The generator that a provenance names. -/
def RuntimeProvenance.generator : RuntimeProvenance → String
  | .localFake generator | .cpuProbe generator | .llamaCpp generator _ _ _ => generator

theorem validatePlatform_of_isBounded {platform : PlatformProvenance} (h : platform.IsBounded) :
    validatePlatform platform = .ok () := by
  have hrequire : ∀ {value : String}, LlamaCpp.isBoundedText value = true → ∀ field,
      requireProvenanceValue value field = .ok () := fun hvalue _ =>
    requireProvenanceValue_eq_ok.mpr hvalue
  have hoptional : ∀ {value : Option String}, (∀ v ∈ value, LlamaCpp.isBoundedText v = true) →
      ∀ field, optionalProvenanceValue value field = .ok () := by
    intro value hvalue field
    cases value with
    | none => rfl
    | some text => exact hrequire (hvalue text rfl) field
  simp only [validatePlatform, hrequire h.family, hoptional h.distribution, hoptional h.version,
    hrequire h.kernelName, hoptional h.kernelRelease, hrequire h.architecture,
    hoptional h.cpuModel, bind_eq_ok_iff, true_and, exists_const]
  exact rejectIf_eq_ok.mpr h.cpuCount

/-- The captured runtime of an executable plan passes, unless a CUDA run claims to
have succeeded without the facts about its device. -/
theorem validateRuntimeProvenance_captured {cudaPackageAvailable : Bool} {host : Host}
    {plan : ResolvedExperiment} {kind : ExecutionKind} {runtime : RuntimeProvenance}
    {status : RunState} {generator : Option String} (hvalid : plan.experiment.validate = .ok ())
    (hkind : executionKind cudaPackageAvailable plan = .ok kind)
    (hpaths : host.HasGenuineStorePaths)
    (hcapture : captureRuntime host plan.experiment.spec.runtime = some runtime)
    (hstatus : plan.Targets .nvidiaCuda → status ≠ .succeeded)
    (hgenerator : generator.all (· = runtime.generator) = true) :
    validateRuntimeProvenance runtime plan.experiment.spec.runtime status generator = .ok () := by
  have hmatching : requireMatchingGenerator runtime.generator generator = .ok () :=
    rejectIf_eq_ok.mpr (not_not.mpr hgenerator)
  cases isExecutable_of_executionKind hkind with
  | localFake provider hruntime =>
      rw [hruntime] at hcapture ⊢
      obtain rfl := Option.some.inj hcapture
      simp only [validateRuntimeProvenance, bind_eq_ok_iff, rejectIf_eq_ok]
      exact ⟨(), by simp, hmatching⟩
  | cpuProbe provider hruntime =>
      rw [hruntime] at hcapture ⊢
      obtain rfl := Option.some.inj hcapture
      simp only [validateRuntimeProvenance, bind_eq_ok_iff, rejectIf_eq_ok]
      exact ⟨(), by simp, hmatching⟩
  | @llamaCpp target model outputTokens provider hruntime =>
      obtain ⟨hmodel, -, -⟩ := Experiment.fixed_of_llamaCpp hvalid hruntime
      obtain ⟨hengine, hsmollm, hwhole⟩ := lineage_of_genuine hpaths target
      rw [hruntime] at hcapture ⊢
      obtain rfl := Option.some.inj hcapture
      simp only [validateRuntimeProvenance, bind_eq_ok_iff, rejectIf_eq_ok]
      refine ⟨(), ?_, (), ?_, (), hmatching, ?_⟩
      · subst hmodel
        cases target <;> simp [isSupportedLineage]
      -- what is captured names no device, so a success on CUDA would be refused
      · cases target with
        | cpu => rfl
        | nvidiaCuda => exact rejectIf_eq_ok.mpr (hstatus ⟨model, outputTokens, hruntime⟩)
      · simp only [validateStorePaths, optionalNixStorePath_of_isLineagePath hengine,
          optionalNixStorePath_of_isLineagePath hsmollm, bind_eq_ok_iff, rejectIf_eq_ok, true_and,
          exists_const, hwhole]
        cases (compiledNixStorePath host.smollm2NixStorePath).isSome <;> simp

/-! ## The size of the record -/

/-- A character that is no control takes at most two bytes per byte. -/
theorem escapeSize_le_of_not_isControl {c : Char} (h : isControl c = false) :
    Json.escapeSize c ≤ 2 * c.utf8Size := by
  have hpos := c.utf8Size_pos
  have hhigh : 0x20 ≤ c.toNat := by
    simp only [isControl, Bool.or_eq_false_iff, decide_eq_false_iff_not] at h
    omega
  have hbackslash : ('\x5c' : Char).utf8Size = 1 := by decide
  unfold Json.escapeSize Json.escapeChar
  -- only the quote and the backslash are escaped, by one byte more
  split_ifs with hquote hslash hbackspace htab hnewline hfeed hreturn hcontrol
  · subst hquote
    decide
  · subst hslash
    decide
  · subst hbackspace
    exact absurd hhigh (by decide)
  · subst htab
    exact absurd hhigh (by decide)
  · subst hnewline
    exact absurd hhigh (by decide)
  · subst hfeed
    exact absurd hhigh (by decide)
  · subst hreturn
    exact absurd hhigh (by decide)
  · omega
  · simp only [List.map_cons, List.map_nil, List.sum_cons, List.sum_nil]
    omega

/-- A text without controls takes at most two bytes per byte in JSON. -/
theorem quoteSize_le_of_noControl {text : String} (h : ∀ c ∈ text.toList, isControl c = false) :
    Json.quoteSize text ≤ 2 + 2 * (utf8 text).length := by
  have hsum : ∀ chars : List Char, (∀ c ∈ chars, isControl c = false) →
      (chars.map Json.escapeSize).sum ≤ 2 * (chars.map Char.utf8Size).sum := by
    intro chars hchars
    induction chars with
    | nil => exact Nat.le_refl 0
    | cons c rest ih =>
        have hhead := escapeSize_le_of_not_isControl (hchars c List.mem_cons_self)
        have hrest := ih fun d hd => hchars d (List.mem_cons_of_mem _ hd)
        simp only [List.map_cons, List.sum_cons]
        omega
  have htext := utf8ByteSize_ofList text.toList
  rw [String.ofList_toList] at htext
  have hchars := hsum text.toList h
  rw [Json.quoteSize, length_utf8]
  omega

theorem quoteSize_of_isBoundedText {text : String} (h : LlamaCpp.isBoundedText text = true) :
    Json.quoteSize text ≤ 514 := by
  simp only [LlamaCpp.isBoundedText, Bool.and_eq_true, decide_eq_true_eq, Bool.not_eq_true'] at h
  have hsize := quoteSize_le_of_noControl fun c hc => by
    simpa using List.any_eq_false.mp h.2 c hc
  omega

/-- A recorded path is bounded, whatever object it names. -/
theorem quoteSize_of_nixStoreObject {path object : String}
    (h : nixStoreObject path = some object) : Json.quoteSize object ≤ 1026 := by
  unfold nixStoreObject at h
  obtain ⟨rest, -, hrecorded⟩ := Option.bind_eq_some_iff.mp h
  simp only at hrecorded
  split at hrecorded
  · contradiction
  · rename_i hkept
    obtain rfl := Option.some.inj hrecorded
    generalize (splitAt '/' rest).headD "" = entry at hkept ⊢
    rw [not_or, not_or, not_lt, Bool.not_eq_true, List.any_eq_false] at hkept
    obtain ⟨-, hlength, hcontrol⟩ := hkept
    have hsize := @quoteSize_le_of_noControl ("/nix/store/" ++ entry) fun c hc => by
      rw [String.toList_append, List.mem_append] at hc
      have hroot : ∀ c ∈ "/nix/store/".toList, isControl c = false :=
        List.all_iff_forall_prop.mp rfl
      exact hc.elim (hroot c) fun hc => by simpa using hcontrol c hc
    rw [length_storePath] at hsize
    have hbound : maxNixStorePathBytes = 512 := rfl
    omega

/-- An optional text takes what `null` or the text takes. -/
theorem prettySize_option_le {value : Option String} {bound depth : Nat} (hnull : 4 ≤ bound)
    (h : ∀ text ∈ value, Json.quoteSize text ≤ bound) :
    (Json.option .string value).prettySize depth ≤ bound := by
  cases value with
  | none => exact hnull
  | some text => exact h text rfl

theorem prettySize_u32_le (count : UInt32) (depth : Nat) :
    (Json.u32 count).prettySize depth ≤ 10 := by
  have hlt := count.toNat_lt
  show count.toNat.repr.utf8ByteSize ≤ 10
  rw [utf8ByteSize_repr]
  exact (Nat.length_repr_le_iff (by decide)).mpr (by omega)

/-- The bounds of the platform's texts, added up. -/
theorem prettySize_platform_le {platform : PlatformProvenance} (h : platform.IsBounded) :
    platform.toJson.prettySize 1 ≤ 4000 := by
  have hkeys : Json.quoteSize "operatingSystem" = 17 ∧ Json.quoteSize "family" = 8 ∧
      Json.quoteSize "distribution" = 14 ∧ Json.quoteSize "version" = 9 ∧
      Json.quoteSize "kernel" = 8 ∧ Json.quoteSize "name" = 6 ∧
      Json.quoteSize "release" = 9 ∧ Json.quoteSize "architecture" = 14 ∧
      Json.quoteSize "cpu" = 5 ∧ Json.quoteSize "model" = 7 ∧
      Json.quoteSize "logicalCpuCount" = 17 := by
    and_intros <;> rfl
  have htext : ∀ {value : Option String},
      (∀ v ∈ value, LlamaCpp.isBoundedText v = true) → ∀ depth,
        (Json.option .string value).prettySize depth ≤ 514 := fun hvalue depth =>
    prettySize_option_le (by decide) fun text hmem => quoteSize_of_isBoundedText (hvalue text hmem)
  have hcount : ∀ depth, (Json.option .u32 platform.cpu.logicalCpuCount).prettySize depth ≤ 10 := by
    intro depth
    cases platform.cpu.logicalCpuCount with
    | none => exact (by decide : 4 ≤ 10)
    | some count => exact prettySize_u32_le count depth
  have hfamily := quoteSize_of_isBoundedText h.family
  have hdistribution := htext h.distribution 3
  have hversion := htext h.version 3
  have hname := quoteSize_of_isBoundedText h.kernelName
  have hrelease := htext h.kernelRelease 3
  have harchitecture := quoteSize_of_isBoundedText h.architecture
  have hmodel := htext h.cpuModel 3
  have hcount := hcount 3
  simp only [PlatformProvenance.toJson, OperatingSystemProvenance.toJson, KernelProvenance.toJson,
    CpuProvenance.toJson]
  generalize Json.option .string platform.operatingSystem.distribution = distribution at *
  generalize Json.option .string platform.operatingSystem.version = version at *
  generalize Json.option .string platform.kernel.release = release at *
  generalize Json.option .string platform.cpu.model = model at *
  generalize Json.option .u32 platform.cpu.logicalCpuCount = count at *
  simp only [Json.record, JsonFields.ofList, Json.prettySize, JsonFields.prettySize,
    JsonFields.isNil, hkeys, Bool.false_eq_true, if_false, if_true, Nat.reduceAdd]
  omega

/-- A captured runtime names constants and at most three store paths. -/
theorem prettySize_runtime_le {cudaPackageAvailable : Bool} {host : Host}
    {plan : ResolvedExperiment} {kind : ExecutionKind} {runtime : RuntimeProvenance}
    (hvalid : plan.experiment.validate = .ok ())
    (hkind : executionKind cudaPackageAvailable plan = .ok kind)
    (hcapture : captureRuntime host plan.experiment.spec.runtime = some runtime) :
    runtime.toJson.prettySize 2 ≤ 4096 := by
  cases isExecutable_of_executionKind hkind with
  | localFake provider hruntime =>
      rw [hruntime] at hcapture
      obtain rfl := Option.some.inj hcapture
      exact Nat.le_of_ble_eq_true rfl
  | cpuProbe provider hruntime =>
      rw [hruntime] at hcapture
      obtain rfl := Option.some.inj hcapture
      exact Nat.le_of_ble_eq_true rfl
  | @llamaCpp target model outputTokens provider hruntime =>
      obtain ⟨hmodel, -, -⟩ := Experiment.fixed_of_llamaCpp hvalid hruntime
      rw [hruntime] at hcapture
      obtain rfl := Option.some.inj hcapture
      subst hmodel
      have hkeys : Json.quoteSize "kind" = 6 ∧ Json.quoteSize "llamaCpp" = 10 ∧
          Json.quoteSize "generator" = 11 ∧ Json.quoteSize "engine" = 8 ∧
          Json.quoteSize "name" = 6 ∧ Json.quoteSize "version" = 9 ∧
          Json.quoteSize "nixStorePath" = 14 ∧ Json.quoteSize "model" = 7 ∧
          Json.quoteSize "identity" = 10 ∧ Json.quoteSize "sha256" = 8 ∧
          Json.quoteSize "backend" = 9 ∧ Json.quoteSize "deviceClass" = 13 ∧
          Json.quoteSize "cpu" = 5 ∧ Json.quoteSize "nvidiaCuda" = 12 := by
        and_intros <;> rfl
      have hconstants : Json.quoteSize Schema.llamaCppGeneratorVersion = 33 ∧
          Json.quoteSize Schema.llamaCppEngineName = 11 ∧
          Json.quoteSize Schema.llamaCppEngineVersion = 8 ∧
          Json.quoteSize Schema.llamaCppModelIdentity = 31 ∧
          Json.quoteSize Schema.llamaCppModelSha256 = 73 ∧
          Json.quoteSize Schema.llamaCppBackendIdentity = 39 ∧
          Json.quoteSize Schema.llamaCppCudaBackendIdentity = 42 := by
        and_intros <;> rfl
      have hcompiled : ∀ path depth,
          (Json.option .string (compiledNixStorePath path)).prettySize depth ≤ 1026 := by
        intro path depth
        refine prettySize_option_le (by decide) fun object hobject => ?_
        obtain ⟨value, -, hvalue⟩ := Option.bind_eq_some_iff.mp hobject
        exact quoteSize_of_nixStoreObject hvalue
      have hengine : (Json.option .string (host.enginePath target)).prettySize 4 ≤ 1026 := by
        cases target <;> exact hcompiled _ 4
      have hsmollm := hcompiled host.smollm2NixStorePath 4
      simp only [RuntimeProvenance.toJson, SoftwareComponentProvenance.toJson,
        ModelProvenance.toJson, BackendProvenance.toJson, List.append_nil]
      generalize Json.option .string (host.enginePath target) = engine at *
      generalize Json.option .string (compiledNixStorePath host.smollm2NixStorePath) = smollm at *
      cases target <;>
        simp only [DeviceClass.toJson, Json.record, JsonFields.ofList, Json.prettySize,
          JsonFields.prettySize, JsonFields.isNil, hkeys, hconstants, Bool.false_eq_true, if_false,
          if_true, Nat.reduceAdd] <;>
        linarith only [hengine, hsmollm]

/-- A run ID is `run-` and the 36 characters of a UUID. -/
theorem quoteSize_of_isRunId {text : String} (h : isRunId text = true) :
    Json.quoteSize text ≤ 242 := by
  obtain ⟨uuid, huuid, hform⟩ := (Option.any_eq_true _ _).mp h
  have hsize : ∀ chars : List Char, (chars.map Json.escapeSize).sum ≤ 6 * chars.length := by
    intro chars
    induction chars with
    | nil => exact Nat.le_refl 0
    | cons c rest ih =>
        have hescape := Json.escapeSize_le c
        simp only [List.map_cons, List.sum_cons, List.length_cons]
        omega
  have hlength : uuid.toList.length = 36 := by
    simp only [isUuidV7, Bool.and_eq_true, decide_eq_true_eq, splitAt, List.map_map] at hform
    have hpieces := congrArg (fun lengths => (lengths.map (· + 1)).sum) hform.1.1.1
    simp only [List.map_map] at hpieces
    have hsum := length_splitOn '-' uuid.toList
    have hsame : ((uuid.toList.splitOn '-').map fun piece => piece.length + 1).sum = 37 := by
      simpa [Function.comp_def] using hpieces
    omega
  have htext : text.toList.length = 40 := by
    unfold stripPrefix at huuid
    split at huuid
    · rename_i hhead
      obtain ⟨rest, hrest⟩ := hhead
      rw [← Option.some.inj huuid, ← hrest, List.drop_left, String.toList_ofList] at hlength
      rw [← hrest, List.length_append, hlength]
      rfl
    · contradiction
  have hchars := hsize text.toList
  rw [Json.quoteSize]
  omega

/-- Whatever is captured fits its file. -/
theorem length_captured_le {cudaPackageAvailable : Bool} {host : Host} {runId : String}
    {plan : ResolvedExperiment} {kind : ExecutionKind} {provenance : AttemptProvenance}
    (hvalid : plan.experiment.validate = .ok ())
    (hkind : executionKind cudaPackageAvailable plan = .ok kind) (hrun : isRunId runId = true)
    (hhost : host.IsBuilt) (hcapture : capture host runId plan = some provenance) :
    (jsonBytes provenance.toJson).length ≤ maxAttemptProvenanceBytes := by
  obtain ⟨runtime, hruntime, rfl⟩ := Option.map_eq_some_iff.mp hcapture
  -- the keys and constants are of fixed sizes, the values have their own bounds
  have hkeys : Json.quoteSize "format" = 8 ∧ Json.quoteSize "runId" = 7 ∧
      Json.quoteSize "attemptNumber" = 15 ∧ Json.quoteSize "platform" = 10 ∧
      Json.quoteSize "software" = 10 ∧ Json.quoteSize "benchplane" = 12 ∧
      Json.quoteSize "runtime" = 9 ∧ Json.quoteSize "name" = 6 ∧
      Json.quoteSize "version" = 9 ∧ Json.quoteSize "nixStorePath" = 14 ∧
      Json.quoteSize Schema.attemptProvenanceFormatV1 = 34 ∧
      Json.quoteSize Schema.benchplaneSoftwareName = 12 := by
    and_intros <;> rfl
  have hnewline : ("\n" : String).utf8ByteSize = 1 := by decide
  have hone := prettySize_u32_le 1 1
  have hid := quoteSize_of_isRunId hrun
  have hplatform := prettySize_platform_le (isBounded_capturePlatform hhost)
  have hversion := quoteSize_of_isBoundedText hhost.packageVersion
  have hpath : (Json.option .string (currentExecutableNixStorePath host)).prettySize 3 ≤ 1026 := by
    apply prettySize_option_le (by decide)
    intro object hobject
    obtain ⟨path, -, hstore⟩ := Option.bind_eq_some_iff.mp hobject
    exact quoteSize_of_nixStoreObject hstore
  have hruntime := prettySize_runtime_le hvalid hkind hruntime
  rw [jsonBytes, length_utf8, String.utf8ByteSize_append, Json.utf8ByteSize_pretty, hnewline]
  show _ ≤ 16384
  simp only [AttemptProvenance.toJson, SoftwareProvenance.toJson, SoftwareComponentProvenance.toJson]
  -- from here on only the sizes matter
  generalize (capturePlatform host).toJson = platform at *
  generalize runtime.toJson = runtimeJson at *
  generalize Json.option .string (currentExecutableNixStorePath host) = path at *
  generalize Json.u32 1 = one at *
  simp only [Json.record, JsonFields.ofList, Json.prettySize, JsonFields.prettySize,
    JsonFields.isNil, hkeys, Bool.false_eq_true, if_false, if_true, Nat.reduceAdd]
  linarith only [hone, hid, hplatform, hversion, hpath, hruntime]

/-! ## What is captured verifies -/

theorem validateAttemptProvenance_captured {cudaPackageAvailable : Bool} {host : Host}
    {runId : String} {plan : ResolvedExperiment} {kind : ExecutionKind}
    {provenance : AttemptProvenance} {manifest : TerminalManifest} {generator : Option String}
    (hvalid : plan.experiment.validate = .ok ())
    (hkind : executionKind cudaPackageAvailable plan = .ok kind) (hhost : host.IsBuilt)
    (hpaths : host.HasGenuineStorePaths) (hcapture : capture host runId plan = some provenance)
    (hmanifest : manifest.runId = runId)
    (hstatus : plan.Targets .nvidiaCuda → manifest.runStatus ≠ .succeeded)
    (hgenerator : generator.all (· = provenance.software.runtime.generator) = true) :
    validateAttemptProvenance provenance manifest plan generator = .ok () ↔
      host.HasGenuineExecutable := by
  obtain ⟨runtime, hruntime, rfl⟩ := Option.map_eq_some_iff.mp hcapture
  have hplatform := validatePlatform_of_isBounded (isBounded_capturePlatform hhost)
  have hversion : ∀ field, requireProvenanceValue host.packageVersion field = .ok () := fun _ =>
    requireProvenanceValue_eq_ok.mpr hhost.packageVersion
  have hruntime := validateRuntimeProvenance_captured hvalid hkind hpaths hruntime hstatus
    hgenerator
  -- every check passes but that of the executable, on which it depends
  simp only [validateAttemptProvenance, hplatform, hversion, hruntime, hmanifest, rejectIf_eq_ok,
    bind_eq_ok_iff, ne_eq, not_true_eq_false, or_self, not_false_eq_true, true_and, exists_const,
    and_true]
  constructor
  · rintro ⟨⟨⟩, hpath⟩
    exact executable_verified_iff.mp hpath
  · intro hgenuine
    exact ⟨(), executable_verified_iff.mpr hgenuine⟩

/-- The captured provenance of an executable plan verifies and fits its file exactly when
the executable, if it lies in the Nix store, lies in an object with the name of one. -/
theorem capture_verifies_iff (cudaPackageAvailable : Bool) (host : Host) (runId : String)
    (plan : ResolvedExperiment) (kind : ExecutionKind) (provenance : AttemptProvenance)
    (manifest : TerminalManifest) (generator : Option String)
    (hvalid : plan.experiment.validate = .ok ())
    (hkind : executionKind cudaPackageAvailable plan = .ok kind) (hrun : isRunId runId = true)
    (hhost : host.IsBuilt) (hpaths : host.HasGenuineStorePaths)
    (hcapture : capture host runId plan = some provenance) (hmanifest : manifest.runId = runId)
    (hstatus : plan.Targets .nvidiaCuda → manifest.runStatus ≠ .succeeded)
    (hgenerator : generator.all (· = provenance.software.runtime.generator) = true) :
    (validateAttemptProvenance provenance manifest plan generator = .ok () ∧
        (jsonBytes provenance.toJson).length ≤ maxAttemptProvenanceBytes) ↔
      host.HasGenuineExecutable := by
  have hfits := length_captured_le hvalid hkind hrun hhost hcapture
  have hchecked := validateAttemptProvenance_captured hvalid hkind hhost hpaths hcapture hmanifest
    hstatus hgenerator
  exact ⟨fun h => hchecked.mp h.1, fun h => ⟨hchecked.mpr h, hfits⟩⟩

namespace SampleCapture

def runId : String := "run-018f6f9a-7b3c-7abc-8def-0123456789ab"

def plan : ResolvedExperiment where
  apiVersion := Schema.apiVersion
  kind := "ResolvedExperiment"
  experiment := .sample .localFake (.localFake 42 .success) "smoke"
  experimentDigest := ""
  resolvedPlanDigest := ""

def manifest : TerminalManifest where
  toEvidenceManifest := ⟨Schema.evidenceFormatV1, runId, .failed, .invalid, "", "", 1⟩
  terminal := rfl

theorem valid : plan.experiment.validate = .ok () := rfl

theorem isBuilt_sample : Host.sample.IsBuilt :=
  ⟨rfl, rfl, rfl, by decide⟩

/-- A package in a directory of the store that is not named like an object. -/
def misplacedHost : Host :=
  { Host.sample with executable := some (utf8 "/nix/store/foo/bin/benchplane") }

theorem not_hasGenuineExecutable_misplacedHost : ¬ misplacedHost.HasGenuineExecutable := by
  have hentry : misplacedHost.executableEntry = some "foo" :=
    Host.executableEntry_of_store (show misplacedHost.executable =
      some (utf8 ("/nix/store/" ++ "foo/bin/benchplane")) from rfl)
  intro hgenuine
  have hname := hgenuine "foo" hentry
  revert hname
  exact of_decide_eq_true rfl

/-- The object of a package in the store. -/
def object (package : String) : String := "0123456789abcdfghijklmnpqrsvwxyz-" ++ package

theorem isStorePath_object {package : String} (hname : isObjectName (object package) = true)
    (hlength : (utf8 (object package)).length + 11 ≤ maxNixStorePathBytes) :
    IsStorePath ("/nix/store/" ++ object package) :=
  ⟨object package, rfl, hname, hlength⟩

/-- A host that shows everything, with a packaged program and packaged runtimes. -/
def packagedHost : Host where
  osRelease := some (utf8 "ID=nixos\nVERSION_ID=\"25.05\"\n")
  kernelType := some (utf8 "Linux\n")
  kernelRelease := some (utf8 "6.12.30\n")
  cpuinfo := some (utf8 "processor\t: 0\nmodel name\t: Sample CPU\n")
  availableParallelism := some 8
  executable := some (utf8 ("/nix/store/" ++ (object "benchplane-0.1.0" ++ "/bin/benchplane")))
  operatingSystem := "linux"
  architecture := "x86_64"
  packageVersion := "0.1.0"
  llamaCppNixStorePath := some ("/nix/store/" ++ object "llama-cpp")
  llamaCppCudaNixStorePath := some ("/nix/store/" ++ object "llama-cpp-cuda")
  smollm2NixStorePath := some ("/nix/store/" ++ object "smollm2")

theorem hasGenuineStorePaths_packagedHost : packagedHost.HasGenuineStorePaths :=
  Or.inr ⟨_, _, _, rfl, rfl, rfl, isStorePath_object (by decide) (by decide),
    isStorePath_object (by decide) (by decide), isStorePath_object (by decide) (by decide)⟩

theorem hasGenuineExecutable_packagedHost : packagedHost.HasGenuineExecutable := by
  have hentry : packagedHost.executableEntry = some (object "benchplane-0.1.0") :=
    Host.executableEntry_of_store (show packagedHost.executable =
      some (utf8 ("/nix/store/" ++ (object "benchplane-0.1.0" ++ "/bin/benchplane"))) from rfl)
  intro entry hsame
  obtain rfl := Option.some.inj (hentry.symm.trans hsame)
  exact Or.inr (Or.inr (Or.inr (by decide)))

/-- A plan whose runtime is packaged, too. -/
def packagedPlan : ResolvedExperiment :=
  .repeated (.llamaCpp .cpu Schema.llamaCppModelIdentity 16) Schema.llamaCppWorkloadProfile

end SampleCapture

/-- What is captured on a packaged host verifies. -/
theorem capture_verifies_iff_sample :
    ∃ provenance, capture SampleCapture.packagedHost SampleCapture.runId
        SampleCapture.packagedPlan = some provenance ∧
      validateAttemptProvenance provenance SampleCapture.manifest SampleCapture.packagedPlan
        (some Schema.llamaCppGeneratorVersion) = .ok () ∧
      (jsonBytes provenance.toJson).length ≤ maxAttemptProvenanceBytes := by
  refine ⟨_, rfl, ?_⟩
  have hbuilt : SampleCapture.packagedHost.IsBuilt := ⟨rfl, rfl, rfl, by decide⟩
  exact (capture_verifies_iff true SampleCapture.packagedHost SampleCapture.runId
    SampleCapture.packagedPlan _ _ SampleCapture.manifest _ rfl rfl rfl hbuilt
    SampleCapture.hasGenuineStorePaths_packagedHost rfl rfl (fun _ => by decide) rfl).mpr
    SampleCapture.hasGenuineExecutable_packagedHost

/-- The executable's own path is recorded although the verifier refuses it. -/
theorem captured_unverified : ¬ ∀ (cudaPackageAvailable : Bool) (host : Host) (runId : String)
    (plan : ResolvedExperiment) (kind : ExecutionKind) (provenance : AttemptProvenance)
    (manifest : TerminalManifest) (generator : Option String),
    plan.experiment.validate = .ok () → executionKind cudaPackageAvailable plan = .ok kind →
    isRunId runId = true → host.IsBuilt → host.HasGenuineStorePaths →
    capture host runId plan = some provenance → manifest.runId = runId →
    (plan.Targets .nvidiaCuda → manifest.runStatus ≠ .succeeded) →
    generator.all (· = provenance.software.runtime.generator) = true →
    validateAttemptProvenance provenance manifest plan generator = .ok () ∧
      (jsonBytes provenance.toJson).length ≤ maxAttemptProvenanceBytes := by
  intro hclaim
  have hfailed : SampleCapture.plan.Targets .nvidiaCuda →
      SampleCapture.manifest.runStatus ≠ .succeeded := fun _ => by decide
  have hbuilt : SampleCapture.misplacedHost.IsBuilt :=
    ⟨SampleCapture.isBuilt_sample.operatingSystem, SampleCapture.isBuilt_sample.architecture,
      SampleCapture.isBuilt_sample.packageVersion, SampleCapture.isBuilt_sample.parallelism⟩
  have hpaths : SampleCapture.misplacedHost.HasGenuineStorePaths := Or.inl ⟨rfl, rfl, rfl⟩
  have hkind : executionKind false SampleCapture.plan = .ok (.localFake 42 .success) := rfl
  obtain ⟨hchecked, -⟩ := hclaim false SampleCapture.misplacedHost SampleCapture.runId
    SampleCapture.plan _ _ SampleCapture.manifest none SampleCapture.valid hkind
    rfl hbuilt hpaths rfl rfl hfailed rfl
  exact SampleCapture.not_hasGenuineExecutable_misplacedHost
    ((validateAttemptProvenance_captured SampleCapture.valid hkind hbuilt hpaths rfl rfl hfailed
      rfl).mp hchecked)

end Benchplane
