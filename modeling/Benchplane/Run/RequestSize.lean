import Benchplane.Run.Invariants
import Benchplane.Library.JsonSize

/-!
# The sizes of a request

A request is accepted on its parsed value.  Two encodings of it are staged: the
bytes themselves and the pretty text of the resolved plan.  How many bytes the
second takes follows from the experiment.
-/

namespace Benchplane

open Library

/-- The bytes of a label map inside the plan file. -/
def labelsSize (labels : List (String × String)) : Nat :=
  if labels = [] then 2
  else 8 + (labels.map fun label => 12 + Json.quoteSize label.1 + Json.quoteSize label.2).sum

/-- The bytes of the plan file of an experiment. -/
def planFileSize (formatFloat : FormatFloat) (e : Experiment) : Nat :=
  431 + Json.quoteSize e.metadata.name + labelsSize e.metadata.labels.entries +
    (e.spec.toJson formatFloat).prettySize 2

theorem prettySize_labels (labels : List (String × String)) :
    (Json.record (labels.map fun label => (label.1, Json.string label.2))).prettySize 3 =
      labelsSize labels := by
  have hfields : ∀ labels : List (String × String),
      (JsonFields.ofList (labels.map fun label => (label.1, Json.string label.2))).prettySize 4 +
          2 =
        if labels = [] then 2
        else (labels.map fun label =>
          12 + Json.quoteSize label.1 + Json.quoteSize label.2).sum := by
    intro labels
    -- on the labels: only the last one has no comma behind it
    induction labels with
    | nil => rfl
    | cons label rest ih =>
        cases rest with
        | nil =>
            simp only [List.map_cons, List.map_nil, JsonFields.ofList, JsonFields.prettySize,
              JsonFields.isNil, Json.prettySize, List.sum_cons, List.sum_nil, reduceCtorEq,
              if_true, if_false]
            omega
        | cons other rest =>
            simp only [List.map_cons, JsonFields.ofList, JsonFields.prettySize, JsonFields.isNil,
              Json.prettySize, List.sum_cons, reduceCtorEq, if_false, Bool.false_eq_true] at ih ⊢
            omega
  have hall := hfields labels
  cases labels with
  | nil => rfl
  | cons label rest =>
      have hrecord : (Json.record ((label :: rest).map fun label =>
          (label.1, Json.string label.2))).prettySize 3 =
          10 + (JsonFields.ofList ((label :: rest).map fun label =>
            (label.1, Json.string label.2))).prettySize 4 := rfl
      rw [if_neg (by simp)] at hall
      rw [hrecord, labelsSize, if_neg (by simp)]
      omega

/-- The plan file of a resolved experiment has the computed size. -/
theorem length_planFile {codec : Codec} {e : Experiment} {plan : ResolvedExperiment}
    (h : resolveExperiment codec e = .ok plan) :
    (jsonBytes (plan.toJson codec.formatFloat)).length = planFileSize codec.formatFloat e := by
  obtain ⟨hvalid, -, -, -⟩ := resolveExperiment_eq_ok h
  obtain ⟨hcommon, -⟩ := Experiment.validate_eq_ok.mp hvalid
  simp only [resolveExperiment, bind_eq_ok_iff, mapFailure_eq_ok, pure_eq_ok_iff] at h
  obtain ⟨⟨⟩, -, rfl⟩ := h
  have hidentity : e.apiVersion = Schema.apiVersion ∧ e.kind = Schema.experimentKind := by
    simp only [Experiment.commonErrors, List.append_eq_nil_iff, reportIf_eq_nil,
      decide_eq_false_iff_not, Decidable.not_not] at hcommon
    exact hcommon.1.1.1.1.1
  have hkeys : Json.quoteSize "apiVersion" = 12 ∧ Json.quoteSize "kind" = 6 ∧
      Json.quoteSize "experiment" = 12 ∧ Json.quoteSize "metadata" = 10 ∧
      Json.quoteSize "name" = 6 ∧ Json.quoteSize "labels" = 8 ∧ Json.quoteSize "spec" = 6 ∧
      Json.quoteSize "experimentDigest" = 18 ∧ Json.quoteSize "resolvedPlanDigest" = 20 ∧
      Json.quoteSize Schema.apiVersion = 21 ∧ Json.quoteSize "ResolvedExperiment" = 20 ∧
      Json.quoteSize Schema.experimentKind = 12 := by
    and_intros <;> rfl
  have hdigest : ∀ bytes, Json.quoteSize (sha256Digest codec.hash bytes) = 73 := fun bytes =>
    Json.quoteSize_digest _
  have hnewline : ("\n" : String).utf8ByteSize = 1 := by decide
  rw [jsonBytes, length_utf8, String.utf8ByteSize_append, Json.utf8ByteSize_pretty, hnewline,
    planFileSize, ← prettySize_labels]
  simp only [ResolvedExperiment.toJson, Experiment.toJson, Metadata.toJson]
  -- the labels and the specification count as a whole
  generalize hlabels : Json.record (e.metadata.labels.entries.map _) = labels
  generalize hspec : e.spec.toJson codec.formatFloat = spec
  simp only [Json.record, JsonFields.ofList, Json.prettySize, JsonFields.prettySize, JsonFields.isNil,
    hidentity, hkeys, hdigest, Bool.false_eq_true, if_false, if_true, Nat.reduceAdd]
  omega

/-- What a request stages is within the verifier's limits. -/
def StagesWithinLimits (codec : Codec) (bytes : Bytes) (plan : ResolvedExperiment) : Prop :=
  isAbove (retainedLimit "experiment.yaml") bytes.length = false ∧
    isAbove (retainedLimit "resolved-plan.json")
      (jsonBytes ((Record.plan plan).toJson codec.formatFloat)).length = false

/-- An accepted request stages payloads within the limits exactly when its document and
the data of its experiment are small enough. -/
theorem acceptRequest_within_limits (codec : Codec) (services : Services) (bytes : Bytes)
    (plan : ResolvedExperiment) (kind : ExecutionKind)
    (h : acceptRequest codec services bytes = .ok (plan, kind)) :
    StagesWithinLimits codec bytes plan ↔
      bytes.length ≤ 65536 ∧ planFileSize codec.formatFloat plan.experiment ≤ 65536 := by
  simp only [acceptRequest, bind_eq_ok_iff, mapFailure_eq_ok, pure_eq_ok_iff,
    Prod.mk.injEq] at h
  obtain ⟨e, -, resolved, hresolved, kind', -, rfl, rfl⟩ := h
  obtain ⟨-, rfl, -, -⟩ := resolveExperiment_eq_ok hresolved
  have hplan := length_planFile hresolved
  have hexperimentLimit : retainedLimit "experiment.yaml" = some 65536 := rfl
  have hplanLimit : retainedLimit "resolved-plan.json" = some 65536 := rfl
  simp only [StagesWithinLimits, Record.toJson, hplan, hexperimentLimit, hplanLimit, isAbove,
    decide_eq_false_iff_not, not_lt]

theorem acceptRequest_within_limits_sample :
    StagesWithinLimits SampleRun.codec (utf8 SampleRun.document) SampleRun.plan ↔
      (utf8 SampleRun.document).length ≤ 65536 ∧
        planFileSize SampleRun.codec.formatFloat SampleRun.plan.experiment ≤ 65536 :=
  acceptRequest_within_limits _ SampleRun.services _ _ _ (SampleRun.accepted SampleRun.document)

/-- The sample document with a long comment behind it. -/
def commentedDocument : String :=
  SampleRun.document ++ "\n# " ++ String.ofList (List.replicate 65536 'x')

/-- The comment is accepted and makes the run unpublishable. -/
theorem comment_above_limit : ¬ ∀ codec services bytes plan kind,
    acceptRequest codec services bytes = .ok (plan, kind) →
      StagesWithinLimits codec bytes plan := by
  intro hclaim
  obtain ⟨hexperiment, -⟩ := hclaim _ SampleRun.services _ _ _
    (SampleRun.accepted commentedDocument)
  have hcomment : (String.ofList (List.replicate 65536 'x')).utf8ByteSize = 65536 := by
    have hwidth : ('x' : Char).utf8Size = 1 := by decide
    rw [utf8ByteSize_ofList, List.map_replicate, List.sum_replicate_nat, hwidth]
  have hlimit : retainedLimit "experiment.yaml" = some 65536 := rfl
  have hmark : 0 < ("\n# " : String).utf8ByteSize := by decide
  simp only [hlimit, isAbove, decide_eq_false_iff_not, length_utf8, commentedDocument,
    String.utf8ByteSize_append, hcomment] at hexperiment
  omega

end Benchplane
