import Benchplane.Library.Checks
import Benchplane.Library.Sha256
import Benchplane.Schema.Encoding

/-!
# Parsing and resolution

From the bytes of an experiment to its resolved plan.  The code outside the
repository (SHA-256, number printing, the YAML and JSON decoders) is one
parameter, a `Codec`.
-/

namespace Benchplane

open Library

/-- The third-party functions the program calls.  A decoder answers with the text
of its error. -/
structure Codec where
  hash : Bytes → Digest
  formatFloat : FormatFloat
  utf8Error : Bytes → String
  experiment : String → Except String Experiment
  plan : Bytes → Except String ResolvedExperiment
  manifest : Bytes → Except String EvidenceManifest
  run : Bytes → Except String RunRecord
  attempt : Bytes → Except String AttemptRecord
  provenance : Bytes → Except String AttemptProvenance
  resources : Bytes → Except String AttemptResources
  event : Bytes → Except String LifecycleEvent
  measurement : Bytes → Except String MeasurementRecord
  nvidiaMetadata : Bytes → Except String (String × NvidiaGpuProvenance)
  validity : Bytes → Except String ValidityResult
  summary : Bytes → Except String RunSummary

/-- A codec that no document or record satisfies. -/
def Codec.refusing : Codec where
  hash := sha256
  formatFloat _ := "0.0"
  utf8Error _ := "invalid utf-8 sequence"
  experiment _ := .error "unknown document"
  plan _ := .error "unknown record"
  manifest _ := .error "unknown record"
  run _ := .error "unknown record"
  attempt _ := .error "unknown record"
  provenance _ := .error "unknown record"
  resources _ := .error "unknown record"
  event _ := .error "unknown record"
  measurement _ := .error "unknown record"
  nvidiaMetadata _ := .error "unknown record"
  validity _ := .error "unknown record"
  summary _ := .error "unknown record"

inductive ParseError where
  | utf8 (source : String)
  | yaml (source : String)

def ParseError.text : ParseError → String
  | .utf8 source => "experiment YAML is not valid UTF-8: " ++ source
  | .yaml source => "could not parse experiment YAML: " ++ source

/-- `parse_experiment`. -/
def parseExperiment (codec : Codec) (bytes : Bytes) : Except ParseError Experiment := do
  let source ← orReject (.utf8 (codec.utf8Error bytes)) (decodeUtf8 bytes)
  mapFailure .yaml (codec.experiment source)

inductive ResolutionError where
  | validation (errors : List ValidationError)

def ResolutionError.text : ResolutionError → String
  | .validation _ => "experiment validation failed"

/-- `sha256_digest`. -/
def sha256Digest (hash : Bytes → Digest) (bytes : Bytes) : String :=
  "sha256:" ++ (hash bytes).hex

/-- `ResolvedPlanContent` as JSON. -/
def resolvedPlanContent (formatFloat : FormatFloat) (e : Experiment) (experimentDigest : String) :
    Json :=
  .record [("apiVersion", .string Schema.apiVersion), ("kind", .string "ResolvedExperiment"),
    ("experiment", e.toJson formatFloat), ("experimentDigest", .string experimentDigest)]

/-- `resolve_experiment`.  Serializing these types cannot fail. -/
def resolveExperiment (codec : Codec) (e : Experiment) :
    Except ResolutionError ResolvedExperiment := do
  mapFailure .validation e.validate
  let experimentDigest := sha256Digest codec.hash (toVec (e.toJson codec.formatFloat))
  let content := resolvedPlanContent codec.formatFloat e experimentDigest
  pure
    { apiVersion := Schema.apiVersion
      kind := "ResolvedExperiment"
      experiment := e
      experimentDigest := experimentDigest
      resolvedPlanDigest := sha256Digest codec.hash (toVec content) }

/-- A resolved plan keeps the experiment, which is valid. -/
theorem resolveExperiment_eq_ok {codec : Codec} {e : Experiment} {plan : ResolvedExperiment}
    (h : resolveExperiment codec e = .ok plan) :
    e.validate = .ok () ∧ plan.experiment = e ∧ plan.apiVersion = Schema.apiVersion ∧
      plan.kind = "ResolvedExperiment" := by
  simp only [resolveExperiment, bind_eq_ok_iff, mapFailure_eq_ok, pure_eq_ok_iff] at h
  obtain ⟨⟨⟩, hvalid, rfl⟩ := h
  exact ⟨hvalid, rfl, rfl, rfl⟩

/-- A valid experiment is resolved. -/
theorem exists_resolveExperiment (codec : Codec) {e : Experiment} (h : e.validate = .ok ()) :
    ∃ plan, resolveExperiment codec e = .ok plan := by
  unfold resolveExperiment
  rw [h]
  exact ⟨_, rfl⟩

/-- An invalid one is refused with what the validation has against it. -/
theorem resolveExperiment_of_invalid {codec : Codec} {e : Experiment}
    {errors : List ValidationError} (h : e.validate = .error errors) :
    resolveExperiment codec e = .error (.validation errors) := by
  unfold resolveExperiment
  rw [h]
  rfl

end Benchplane
