import Benchplane.Evidence.VerifierSoundness

/-!
# Where a run puts its files

The run ID, the staging directory and the final directory of a run, and the
payloads in the staging directory.
-/

namespace Benchplane

open Library

/-! ## Run IDs -/

theorem ascii_mem_utf8 {a : Nat} (ha : a < 128) {text : String} :
    UInt8.ofNat a ∈ utf8 text ↔ ∃ c ∈ text.toList, c.toNat = a := by
  rw [utf8_eq_flatMap, List.mem_flatMap]
  simp only [ofNat_mem_utf8EncodeChar ha]

/-- The characters of a run ID. -/
theorem toList_of_isRunId {text : String} (h : isRunId text = true) :
    ∃ rest, text.toList = "run-".toList ++ rest ∧
      ∀ c ∈ rest, c = '-' ∨ c.isDigit = true ∨ ('a' ≤ c ∧ c ≤ 'f') := by
  obtain ⟨suffix, hsuffix, huuid⟩ := (Option.any_eq_true _ _).mp h
  unfold stripPrefix at hsuffix
  split at hsuffix
  · rename_i hprefix
    obtain ⟨rest, hrest⟩ := hprefix
    have hdrop : suffix.toList = rest := by
      rw [← Option.some.inj hsuffix, ← hrest]
      simp
    refine ⟨rest, hrest.symm, fun c hc => ?_⟩
    simp only [isUuidV7, Bool.and_eq_true, List.all_eq_true] at huuid
    simpa [or_assoc] using huuid.1.1.2 c (hdrop ▸ hc)
  · contradiction

/-- A run ID can name a directory. -/
theorem isFileName_of_isRunId {text : String} (h : isRunId text = true) :
    IsFileName (utf8 text) := by
  obtain ⟨rest, htext, hrest⟩ := toList_of_isRunId h
  have hchars : ∀ c ∈ text.toList, c.toNat ≠ 47 ∧ c.toNat ≠ 0 := by
    intro c hc
    rw [htext] at hc
    -- letters, digits and dashes: no character is a slash or a NUL
    rcases List.mem_append.mp hc with hhead | htail
    · rw [show "run-".toList = ['r', 'u', 'n', '-'] from rfl] at hhead
      simp only [List.mem_cons, List.not_mem_nil, or_false] at hhead
      rcases hhead with rfl | rfl | rfl | rfl <;> decide
    · rcases hrest c htail with rfl | hdigit | ⟨hlow, -⟩
      · decide
      · simp only [Char.isDigit, Bool.and_eq_true, decide_eq_true_eq, UInt32.le_iff_toNat_le,
          ge_iff_le] at hdigit
        change 48 ≤ c.toNat ∧ c.toNat ≤ 57 at hdigit
        omega
      · change 97 ≤ c.toNat at hlow
        omega
  have hne : ∀ other : String, text.toList ≠ other.toList → utf8 text ≠ utf8 other :=
    fun other hother hsame => hother (utf8_injective hsame ▸ rfl)
  refine ⟨?_, ?_, ?_, ?_, ?_⟩
  · exact fun hnil => hne "" (by simp [htext]) (hnil.trans (by decide))
  · intro hslash
    obtain ⟨c, hc, hcode⟩ := (ascii_mem_utf8 (by norm_num : 47 < 128)).mp hslash
    exact (hchars c hc).1 hcode
  · intro hzero
    obtain ⟨c, hc, hcode⟩ := (ascii_mem_utf8 (by norm_num : 0 < 128)).mp hzero
    exact (hchars c hc).2 hcode
  · exact hne "." (by simp [htext])
  · exact hne ".." (by simp [htext])

/-- A run ID: every generator makes canonical ones. -/
structure RunId where
  text : String
  canonical : isRunId text = true

/-- The directory name of a run. -/
def RunId.fileName (id : RunId) : FileName :=
  .ofString id.text (isFileName_of_isRunId id.canonical)

/-! ## Paths -/

/-- The output root and the ID of a run. -/
structure Layout where
  outputRoot : List FileName
  runId : RunId

namespace Layout

variable (layout : Layout)

def stagingParent : List FileName := layout.outputRoot ++ [.ofString "staging" (by decide)]

def runsParent : List FileName := layout.outputRoot ++ [.ofString "runs" (by decide)]

def staging : List FileName := layout.stagingParent ++ [layout.runId.fileName]

def finalPath : List FileName := layout.runsParent ++ [layout.runId.fileName]

def attemptDirectory : List FileName :=
  layout.staging ++ [attemptsName, firstAttemptName]

end Layout

namespace StagedFile

/-- The temporary name of `write_json_atomic`, for the payloads written by it. -/
def temporaryName : StagedFile → FileName
  | .experiment => .ofString "experiment.yaml.tmp" (by decide)
  | .plan => .ofString "resolved-plan.json.tmp" (by decide)
  | .run => .ofString "run.json.tmp" (by decide)
  | .events => .ofString "events.jsonl.tmp" (by decide)
  | .validity => .ofString "validity.json.tmp" (by decide)
  | .summary => .ofString "summary.json.tmp" (by decide)
  | .manifest => .ofString "manifest.json.tmp" (by decide)
  | .attempt => .ofString "attempt.json.tmp" (by decide)
  | .measurements => .ofString "measurements.jsonl.tmp" (by decide)
  | .provenance => .ofString "provenance.json.tmp" (by decide)
  | .resources => .ofString "resources.json.tmp" (by decide)

end StagedFile

namespace Layout

variable (layout : Layout)

/-- Where a payload is. -/
def path (file : StagedFile) : List FileName := layout.staging ++ file.below file.name

/-- Where its temporary file is. -/
def temporary (file : StagedFile) : List FileName :=
  layout.staging ++ file.below file.temporaryName

end Layout

/-! ## Paths that do not meet -/

/-- Neither path leads through the other. -/
def Apart (a b : List FileName) : Prop := ¬ a <+: b ∧ ¬ b <+: a

instance (a b : List FileName) : Decidable (Apart a b) := by
  unfold Apart
  infer_instance

theorem Apart.ne {a b : List FileName} (h : Apart a b) : a ≠ b :=
  fun hsame => h.1 (hsame ▸ List.prefix_rfl)

theorem apart_append {parent a b : List FileName} (h : Apart a b) :
    Apart (parent ++ a) (parent ++ b) := by
  simpa [Apart, List.prefix_append_right_inj] using h

namespace StagedFile

theorem below_apart {file other : StagedFile} (h : file ≠ other) :
    Apart (file.below file.name) (other.below other.name) := by
  cases file <;> cases other <;> first | contradiction | decide

theorem below_temporary_apart (file other : StagedFile) :
    Apart (file.below file.temporaryName) (other.below other.name) := by
  cases file <;> cases other <;> decide

theorem below_temporary_ne {file other : StagedFile} (h : file ≠ other) :
    file.below file.temporaryName ≠ other.below other.temporaryName := by
  cases file <;> cases other <;> first | contradiction | decide

theorem below_checksums_apart (file : StagedFile) :
    Apart [checksumFileName] (file.below file.name) ∧
      Apart [checksumTemporaryName] (file.below file.name) := by
  cases file <;> decide

theorem below_not_ancestor (file : StagedFile) :
    ¬ file.below file.name <+: [attemptsName, firstAttemptName] := by
  cases file <;> decide

end StagedFile

namespace Layout

variable (layout : Layout)

theorem path_apart {file other : StagedFile} (h : file ≠ other) :
    Apart (layout.path file) (layout.path other) :=
  apart_append (StagedFile.below_apart h)

theorem temporary_apart (file other : StagedFile) :
    Apart (layout.temporary file) (layout.path other) :=
  apart_append (StagedFile.below_temporary_apart file other)

theorem temporary_ne {file other : StagedFile} (h : file ≠ other) :
    layout.temporary file ≠ layout.temporary other :=
  fun hsame => StagedFile.below_temporary_ne h (List.append_cancel_left hsame)

theorem checksums_apart (file : StagedFile) :
    Apart (layout.staging ++ [checksumFileName]) (layout.path file) ∧
      Apart (layout.staging ++ [checksumTemporaryName]) (layout.path file) :=
  ⟨apart_append (StagedFile.below_checksums_apart file).1,
    apart_append (StagedFile.below_checksums_apart file).2⟩

/-- No payload is on the way to the attempt's directory. -/
theorem path_not_ancestor (file : StagedFile) : ¬ layout.path file <+: layout.attemptDirectory := by
  unfold path attemptDirectory
  rw [List.prefix_append_right_inj]
  exact file.below_not_ancestor

end Layout

end Benchplane
