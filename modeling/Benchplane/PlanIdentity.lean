import Benchplane.Resolution
import Benchplane.Schema.Decoding

/-!
# Identities of plans

The two digests of a resolved plan are taken over its serialized content.  What is
serialized can be read back, so different experiments have different inputs to both
digests, and a plan for the CPU never has those of a plan for a GPU.
-/

namespace Benchplane

open Library Library.Json

/-- The bytes that `experimentDigest` is the digest of. -/
def experimentDigestInput (formatFloat : FormatFloat) (e : Experiment) : Bytes :=
  toVec (e.toJson formatFloat)

/-- The bytes that `resolvedPlanDigest` is the digest of. -/
def planDigestInput (codec : Codec) (e : Experiment) : Bytes :=
  toVec (resolvedPlanContent codec.formatFloat e
    (sha256Digest codec.hash (experimentDigestInput codec.formatFloat e)))

theorem digests_of_resolveExperiment {codec : Codec} {e : Experiment} {plan : ResolvedExperiment}
    (h : resolveExperiment codec e = .ok plan) :
    plan.experimentDigest = sha256Digest codec.hash (experimentDigestInput codec.formatFloat e) ∧
      plan.resolvedPlanDigest = sha256Digest codec.hash (planDigestInput codec e) := by
  simp only [resolveExperiment, bind_eq_ok_iff, mapFailure_eq_ok, pure_eq_ok_iff] at h
  obtain ⟨⟨⟩, -, rfl⟩ := h
  exact ⟨rfl, rfl⟩

theorem sha256Digest_injective {hash : Bytes → Digest} {a b : Bytes}
    (h : sha256Digest hash a = sha256Digest hash b) : hash a = hash b :=
  Digest.hex_injective (String.append_right_inj _ |>.mp h)

/-- A typed value read from the bytes of a document. -/
def readDocument {α : Type} (readJson : Bytes → Option Json) (ofJson : Json → Option α)
    (bytes : Bytes) : Option α :=
  (readJson bytes).bind ofJson

/-- Two experiments have different inputs to both digests, so equal digests are a
collision of the hash. -/
structure SeparateIdentities (codec : Codec) (e e' : Experiment) : Prop where
  experimentInputs :
    experimentDigestInput codec.formatFloat e ≠ experimentDigestInput codec.formatFloat e'
  planInputs : planDigestInput codec e ≠ planDigestInput codec e'
  experimentDigests : ∀ plan plan', resolveExperiment codec e = .ok plan →
    resolveExperiment codec e' = .ok plan' → plan.experimentDigest = plan'.experimentDigest →
      codec.hash (experimentDigestInput codec.formatFloat e) =
        codec.hash (experimentDigestInput codec.formatFloat e')
  planDigests : ∀ plan plan', resolveExperiment codec e = .ok plan →
    resolveExperiment codec e' = .ok plan' → plan.resolvedPlanDigest = plan'.resolvedPlanDigest →
      codec.hash (planDigestInput codec e) = codec.hash (planDigestInput codec e')

section

variable {codec : Codec} {parseFloat : ParseFloat} {readJson : Bytes → Option Json}

/-- The content of a plan fits the reader. -/
theorem fits_resolvedPlanContent {formatFloat : FormatFloat} {e : Experiment}
    (h : e.budget.isFinite = true) (digest : String) :
    (resolvedPlanContent formatFloat e digest).Fits (WrittenNumber formatFloat) 127 := by
  simp [resolvedPlanContent, fits_record, Experiment.fits_toJson h 122]

theorem toJson_of_resolvedPlanContent {formatFloat : FormatFloat} {e e' : Experiment}
    {digest digest' : String}
    (h : resolvedPlanContent formatFloat e digest = resolvedPlanContent formatFloat e' digest') :
    e.toJson formatFloat = e'.toJson formatFloat := by
  simp only [resolvedPlanContent, record, JsonFields.ofList, Json.object.injEq,
    JsonFields.cons.injEq] at h
  exact h.2.2.2.2.2.1

theorem Experiment.eq_of_toJson {formatFloat : FormatFloat}
    {e e' : Experiment} (he : e.budget.isFinite = true) (he' : e'.budget.isFinite = true)
    (hfloat : RoundTrips formatFloat parseFloat e.budget)
    (hfloat' : RoundTrips formatFloat parseFloat e'.budget)
    (h : e.toJson formatFloat = e'.toJson formatFloat) : e = e' := by
  have hread := ofJson_toJson he hfloat
  rw [h, ofJson_toJson he' hfloat'] at hread
  exact (Option.some.inj hread).symm

/-- Different experiments have separate identities: the content of both digests is
read back as the experiment. -/
theorem separateIdentities_of_ne (hnumbers : WritesNumbers codec.formatFloat)
    {e e' : Experiment} (he : e.budget.isFinite = true) (he' : e'.budget.isFinite = true)
    (hfloat : RoundTrips codec.formatFloat parseFloat e.budget)
    (hfloat' : RoundTrips codec.formatFloat parseFloat e'.budget)
    (hne : e ≠ e') : SeparateIdentities codec e e' where
  experimentInputs := by
    intro hsame
    have hwritten : ∀ {e : Experiment}, e.budget.isFinite = true →
        (e.toJson codec.formatFloat).HasNumbers := fun h =>
      hasNumbers_of_fits (fun _ => isNumberText_of_written hnumbers) _ (Experiment.fits_toJson h 0)
    have htext := utf8_injective hsame
    exact hne (Experiment.eq_of_toJson he he' hfloat hfloat'
      (compact_injective (hwritten he) (hwritten he') htext))
  planInputs := by
    intro hsame
    have hwritten : ∀ {e : Experiment} (digest : String), e.budget.isFinite = true →
        (resolvedPlanContent codec.formatFloat e digest).HasNumbers := fun digest h =>
      hasNumbers_of_fits (fun _ => isNumberText_of_written hnumbers) _
        (fits_resolvedPlanContent h digest)
    have htext := utf8_injective hsame
    have hcontent := compact_injective (hwritten _ he) (hwritten _ he') htext
    exact hne (Experiment.eq_of_toJson he he' hfloat hfloat'
      (toJson_of_resolvedPlanContent hcontent))
  experimentDigests plan plan' hplan hplan' hdigest := by
    rw [(digests_of_resolveExperiment hplan).1, (digests_of_resolveExperiment hplan').1] at hdigest
    exact sha256Digest_injective hdigest
  planDigests plan plan' hplan hplan' hdigest := by
    rw [(digests_of_resolveExperiment hplan).2, (digests_of_resolveExperiment hplan').2] at hdigest
    exact sha256Digest_injective hdigest

/-- Plans are serialized without loss, for a reader of JSON that reads back what has
been written and budgets that round-trip as numbers: accepted experiments and their plans
are read back, different ones have separate identities, and so have those for a CPU and
for a GPU, although the CPU target is not written. -/
theorem plan_serialization_lossless (hnumbers : WritesNumbers codec.formatFloat)
    (hread : ReadsBack codec.formatFloat readJson) :
    (∀ e : Experiment, e.validate = .ok () →
      RoundTrips codec.formatFloat parseFloat e.budget →
      readDocument readJson (Experiment.ofJson parseFloat)
        (experimentDigestInput codec.formatFloat e) = some e) ∧
    (∀ plan : ResolvedExperiment, plan.experiment.validate = .ok () →
      RoundTrips codec.formatFloat parseFloat plan.experiment.budget →
      readDocument readJson (ResolvedExperiment.ofJson parseFloat)
        (jsonBytes (plan.toJson codec.formatFloat)) = some plan) ∧
    (∀ e e' : Experiment, e.validate = .ok () → e'.validate = .ok () →
      RoundTrips codec.formatFloat parseFloat e.budget →
      RoundTrips codec.formatFloat parseFloat e'.budget → e ≠ e' →
      SeparateIdentities codec e e') ∧
    (∀ (e e' : Experiment) (model model' : String) (outputTokens outputTokens' : UInt32),
      e.validate = .ok () → e'.validate = .ok () →
      RoundTrips codec.formatFloat parseFloat e.budget →
      RoundTrips codec.formatFloat parseFloat e'.budget →
      e.spec.runtime = .llamaCpp .cpu model outputTokens →
      e'.spec.runtime = .llamaCpp .nvidiaCuda model' outputTokens' →
      SeparateIdentities codec e e') := by
  have hseparate : ∀ e e' : Experiment, e.validate = .ok () → e'.validate = .ok () →
      RoundTrips codec.formatFloat parseFloat e.budget →
      RoundTrips codec.formatFloat parseFloat e'.budget → e ≠ e' →
      SeparateIdentities codec e e' := by
    intro e e' he he' hfloat hfloat' hne
    exact separateIdentities_of_ne hnumbers (Experiment.isFinite_of_validate he)
      (Experiment.isFinite_of_validate he') hfloat hfloat' hne
  refine ⟨?_, ?_, hseparate, ?_⟩
  · intro e he hfloat
    have hfinite := Experiment.isFinite_of_validate he
    rw [readDocument, experimentDigestInput, hread.compact _ (Experiment.fits_toJson hfinite 123),
      Option.bind_some, Experiment.ofJson_toJson hfinite hfloat]
  · intro plan hplan hfloat
    have hfinite := Experiment.isFinite_of_validate hplan
    rw [readDocument, hread.pretty _ (ResolvedExperiment.fits_toJson hfinite 122),
      Option.bind_some, ResolvedExperiment.ofJson_toJson hfinite hfloat]
  · intro e e' model model' outputTokens outputTokens' he he' hfloat hfloat' hcpu hcuda
    apply hseparate e e' he he' hfloat hfloat'
    intro hsame
    rw [hsame, hcuda] at hcpu
    simp at hcpu

end

/-! ## A sample -/

namespace SampleIdentity

/-- Zero as it is printed: the samples write no other number. -/
def formatFloat : FormatFloat := fun _ => "0.0"

def parseFloat : ParseFloat := fun text => if text = "0.0" then some ⟨0⟩ else none

def codec : Codec := { Codec.refusing with formatFloat := formatFloat }

def readJson (bytes : Bytes) : Option Json :=
  (decodeUtf8 bytes).bind fun text => Json.parse text.toList

def experiment (target : LlamaCppTarget) : Experiment :=
  .sample .local (.llamaCpp target Schema.llamaCppModelIdentity 1) Schema.llamaCppWorkloadProfile

theorem writesNumbers : WritesNumbers formatFloat := by
  intro x _
  show isNumberText "0.0".toList = true
  decide

theorem roundTrips_zero : RoundTrips formatFloat parseFloat ⟨0⟩ := rfl

theorem readsBack : ReadsBack formatFloat readJson where
  compact value h := by
    rw [readJson, toVec, decodeUtf8_utf8, Option.bind_some]
    exact parse_compact (hasNumbers_of_fits (fun _ => isNumberText_of_written writesNumbers) _ h)
  pretty value h := by
    rw [readJson, jsonBytes, decodeUtf8_utf8, Option.bind_some]
    exact parse_pretty (hasNumbers_of_fits (fun _ => isNumberText_of_written writesNumbers) _ h)

theorem validate_experiment (target : LlamaCppTarget) :
    (experiment target).validate = .ok () := by
  cases target <;> rfl

end SampleIdentity

open SampleIdentity in
theorem plan_serialization_lossless_sample :
    readDocument readJson (Experiment.ofJson parseFloat)
        (experimentDigestInput formatFloat (experiment .cpu)) = some (experiment .cpu) ∧
      SeparateIdentities codec (experiment .cpu) (experiment .nvidiaCuda) := by
  have hlossless := @plan_serialization_lossless codec parseFloat readJson writesNumbers readsBack
  exact ⟨hlossless.1 _ (validate_experiment .cpu) roundTrips_zero,
    hlossless.2.2.2 _ _ _ _ _ _ (validate_experiment .cpu) (validate_experiment .nvidiaCuda)
      roundTrips_zero roundTrips_zero rfl rfl⟩

end Benchplane
